import LintRemedy.Aggregation.Grouping
import LintRemedy.Operator.Basic
import LintRemedy.View.Progress

/-!
This module contains the operator that works unattended. Files that could not be parsed end the run,
the analyzer may always repair, and the pairs of a file and a rule are tried one after the other,
file by file. A pair is dropped after too many skips in a row.
-/

namespace LintRemedy

abbrev FileRule := String × Option String

/-- The number of skips in a row by pair. A pair without an entry has none. -/
abbrev SkipCounts := List (FileRule × Int)

namespace SkipCounts

def get (counts : SkipCounts) (pair : FileRule) : Int :=
  ((counts.find? (·.1 = pair)).map (·.2)).getD 0

def clear (pair : FileRule) (counts : SkipCounts) : SkipCounts :=
  counts.filter (·.1 ≠ pair)

def increase (pair : FileRule) (counts : SkipCounts) : SkipCounts :=
  counts.clear pair ++ [(pair, counts.get pair + 1)]

/-- The counts after work on a pair: a fix clears it, and skips without a fix count once. -/
def settle (pair : FileRule) (fixed skipped : Int) (counts : SkipCounts) : SkipCounts :=
  if 0 < fixed then counts.clear pair
  else if 0 < skipped then counts.increase pair
  else counts

theorem get_clear_self (pair : FileRule) (counts : SkipCounts) :
    (counts.clear pair).get pair = 0 := by
  have hnone : (counts.clear pair).find? (·.1 = pair) = none := by simp [clear]
  rw [get, hnone]
  rfl

theorem get_clear_of_ne {pair other : FileRule} (h : other ≠ pair) (counts : SkipCounts) :
    (counts.clear pair).get other = counts.get other := by
  have hsame : ∀ e : FileRule × Int,
      (e.1 ≠ pair ∧ e.1 = other) ↔ e.1 = other := by
    intro e
    constructor
    · exact fun he => he.2
    · intro he
      exact ⟨he ▸ h, he⟩
  unfold get clear
  rw [List.find?_filter]
  simp only [decide_eq_true_eq, hsame]

theorem get_increase_self (pair : FileRule) (counts : SkipCounts) :
    (counts.increase pair).get pair = counts.get pair + 1 := by
  have hnone : (counts.clear pair).find? (·.1 = pair) = none := by
    simp [clear]
  rw [get, increase, List.find?_append, hnone]
  simp

theorem get_increase_of_ne {pair other : FileRule} (h : other ≠ pair) (counts : SkipCounts) :
    (counts.increase pair).get other = counts.get other := by
  rw [← get_clear_of_ne h counts]
  unfold get increase
  rw [List.find?_append]
  cases (counts.clear pair).find? (·.1 = other) with
  | none => simp [Ne.symm h]
  | some e => simp

end SkipCounts

namespace Operator

/-- The files of the groups with the groups that have a location in them, in the order of the first
location of each file. -/
def filePairs (groups : List RuleGroup) : List (String × RuleGroup) :=
  let files := distinct (groups.flatMap fun group => group.locations.map (·.fileFull))
  files.flatMap fun file =>
    let inFile := groups.filter fun group => group.locations.any (·.fileFull = file)
    (distinct inFile).map fun group => (file, group)

/-- The first pair below the budget, with the group narrowed to the file. -/
def nextPair? (budget : Int) (counts : SkipCounts) (groups : List RuleGroup) :
    Option (String × RuleGroup) :=
  let open? := fun (pair : String × RuleGroup) => counts.get (pair.1, pair.2.ruleId) < budget
  ((filePairs groups).find? open?).map fun (file, group) => (file, group.narrow file)

/-- The operator that works unattended with a budget of skips per file and rule. -/
def automatic (budget : Int) (quiet : Bool) : Operator SkipCounts where
  quiet := quiet
  passParseErrors errors := do
    Console.announce quiet (View.parseErrors errors)
    return false
  allowRepair _ := return true
  select groups := do
    match nextPair? budget (← get) groups with
    | none => return .exhausted
    | some (file, group) =>
      Console.announce quiet (View.target file group)
      return .chosen group (some file)
  act bundle :=
    return if bundle.fixes.isEmpty then { kind := .skip } else { kind := .fix, indices := [0] }
  settle selection fixed skipped counts :=
    match selection with
    | .chosen group (some file) => counts.settle (file, group.ruleId) fixed skipped
    | _ => counts
  patience _ := budget.toNat

end Operator
end LintRemedy
