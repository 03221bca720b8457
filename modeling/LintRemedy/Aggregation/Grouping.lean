import LintRemedy.Path
import LintRemedy.RuleGroup

/-!
This module contains the grouping of findings by rule, and the two views of the result that decide
what is done with it: the parse errors and the groups open to assisted repair.
-/

namespace LintRemedy

/-- The values without repetition, in the order of their first occurrence. -/
def distinct {α : Type} [DecidableEq α] (xs : List α) : List α :=
  xs.foldl (fun done x => if x ∈ done then done else done ++ [x]) []

theorem mem_distinct_iff {α : Type} [DecidableEq α] {x : α} {xs : List α} :
    x ∈ distinct xs ↔ x ∈ xs := by
  have hfold : ∀ done : List α,
      x ∈ xs.foldl (fun done x => if x ∈ done then done else done ++ [x]) done ↔
        x ∈ done ∨ x ∈ xs := by
    induction xs with
    | nil => simp
    | cons y ys ih =>
      intro done
      rw [List.foldl_cons, ih]
      by_cases h : y ∈ done
      · rw [if_pos h, List.mem_cons]
        constructor
        · exact Or.imp_right Or.inr
        · rintro (hx | rfl | hx)
          · exact .inl hx
          · exact .inl h
          · exact .inr hx
      · simp [h, or_assoc]
  simpa [distinct] using hfold []

theorem nodup_distinct {α : Type} [DecidableEq α] (xs : List α) : (distinct xs).Nodup := by
  have hfold : ∀ done : List α, done.Nodup →
      (xs.foldl (fun done x => if x ∈ done then done else done ++ [x]) done).Nodup := by
    induction xs with
    | nil => exact fun _ h => h
    | cons y ys ih =>
      intro done hdone
      rw [List.foldl_cons]
      apply ih
      split
      · exact hdone
      · rename_i h
        rw [List.nodup_append]
        refine ⟨hdone, by simp, ?_⟩
        intro a ha b hb
        rw [List.mem_singleton] at hb
        rintro rfl
        exact h (hb ▸ ha)
  exact hfold [] List.nodup_nil

/-- The number of findings from which samples are taken. -/
def sampleSize : Nat := 3

def Finding.location (d : Finding) : Location :=
  ⟨Path.shortName d.filePath, d.filePath, d.line, d.column, d.hasFix⟩

/-- The code of a finding unless it is empty. -/
def Finding.sample? (d : Finding) : Option String :=
  d.source.filter (· ≠ "")

def RuleGroup.ofFindings (ruleId : Option String) (ds : List Finding) : RuleGroup where
  ruleId := ruleId
  severity := (ds.head?.map (·.severity)).getD .warning
  count := ds.length
  autoFixable := ds.any (·.hasFix)
  fixableCount := ds.countP (·.hasFix)
  locations := ds.map Finding.location
  sampleMessages := distinct ((ds.take sampleSize).map (·.message))
  sampleSource := distinct ((ds.take sampleSize).filterMap Finding.sample?)

namespace Aggregation

/-- The rules of the findings, in the order of their first occurrence. -/
def ruleIds (ds : List Finding) : List (Option String) :=
  distinct (ds.map (·.ruleId))

/-- The aggregation of an analyzer run: one group per rule. -/
def ofFindings (ds : List Finding) : Aggregation where
  summary := {
    totalIssues := ds.length
    errors := ds.countP (·.severity = .error)
    warnings := ds.countP (·.severity = .warning)
    fixable := ds.countP (·.hasFix)
    uniqueRules := (ruleIds ds).length }
  rules := (ruleIds ds).map fun ruleId =>
    RuleGroup.ofFindings ruleId (ds.filter (·.ruleId = ruleId))

/-- Whether some file could not be parsed. -/
def hasUnparsed (a : Aggregation) : Bool :=
  a.rules.any (·.ruleId = none)

/-- The files that could not be parsed. Their messages are the samples of their group, as far as
these go. -/
def parseErrors (a : Aggregation) : List ParseError :=
  match a.rules.find? (·.ruleId = none) with
  | none => []
  | some group => group.locations.zipIdx.map fun (l, i) =>
      ⟨l.fileFull, l.line, group.sampleMessages[i]?.getD "Parsing error"⟩

/-- The groups open to assisted repair: those of a rule none of whose findings the analyzer can
repair itself. -/
def selectable (a : Aggregation) : List RuleGroup :=
  a.rules.filter fun group => group.ruleId ≠ none ∧ ¬ group.autoFixable

end Aggregation
end LintRemedy
