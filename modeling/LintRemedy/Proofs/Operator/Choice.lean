import LintRemedy.Operator.Interactive
import LintRemedy.Operator.Scripted
import LintRemedy.Proofs.Loop.Unattended

/-!
This module contains what operators choose: a group of the list that they are given, or the part of
one that lies in a single file. Every operator of the library keeps to that.
-/

namespace LintRemedy

/-- A group is one of a list, or one of the list narrowed to a file. -/
def RuleGroup.TakenFrom (groups : List RuleGroup) (group : RuleGroup) : Prop :=
  ∃ whole ∈ groups, group = whole ∨ ∃ file, group = whole.narrow file

/-- Whatever the operator chooses, it takes from the list that it is given. -/
def Operator.ChoosesGiven {μ : Type} (operator : Operator μ) : Prop :=
  ∀ groups memory group file memory',
    (operator.select groups).Yields memory (.chosen group file) memory' → group.TakenFrom groups

namespace RuleGroup.TakenFrom

variable {groups : List RuleGroup} {group : RuleGroup}

theorem of_mem (h : group ∈ groups) : group.TakenFrom groups :=
  ⟨group, h, .inl rfl⟩

theorem exists_whole (h : group.TakenFrom groups) :
    ∃ whole ∈ groups, group.ruleId = whole.ruleId ∧ ∀ l ∈ group.locations, l ∈ whole.locations := by
  obtain ⟨whole, hwhole, rfl | ⟨file, rfl⟩⟩ := h
  · exact ⟨group, hwhole, rfl, fun _ hl => hl⟩
  · exact ⟨whole, hwhole, rfl, fun _ hl => (List.mem_filter.1 hl).1⟩

end RuleGroup.TakenFrom

namespace Operator

open LintRemedy.Action

theorem automatic_choosesGiven (budget : Int) (quiet : Bool) :
    (automatic budget quiet).ChoosesGiven := by
  intro groups counts group file counts' h
  obtain ⟨name, whole, hpair, _, rfl⟩ := select_chosen h
  exact ⟨whole, (mem_filePairs_iff.1 hpair).1, .inr ⟨name, rfl⟩⟩

theorem mem_of_groupAt? {groups : List RuleGroup} {index : Int} {group : RuleGroup}
    (h : groupAt? groups index = some group) : group ∈ groups := by
  unfold groupAt? at h
  split at h
  · exact List.mem_of_getElem? h
  · split at h
    · exact List.mem_of_getElem? h
    · cases h

theorem scripted_choosesGiven (quiet : Bool) : (scripted quiet).ChoosesGiven := by
  intro groups script group file script' h
  obtain ⟨_, _, h⟩ := h
  obtain ⟨_, _, _, hget, h⟩ := Deciding.bind_eq_ok.1 h
  cases hget
  cases hselections : script.selections with
  | nil =>
    rw [hselections] at h
    cases h
  | cons given selections =>
    rw [hselections] at h
    obtain ⟨_, _, _, hset, h⟩ := Deciding.bind_eq_ok.1 h
    cases given with
    | group index given =>
      cases hgroup : groupAt? groups index with
      | none =>
        simp only [ScriptedChoice.apply, hgroup] at h
        cases h
      | some chosen =>
        simp only [ScriptedChoice.apply, hgroup] at h
        cases h
        exact .of_mem (mem_of_groupAt? hgroup)
    | quit | exhausted | nothing => cases h

theorem Interactive.mem_of_numberedGroup? {groups : List RuleGroup} {line : String}
    {group : RuleGroup} (h : numberedGroup? groups line = .ok (some group)) : group ∈ groups := by
  unfold numberedGroup? at h
  split at h
  · cases h
  · cases hnumber : Numeral.toInt line with
    | error fault =>
      rw [hnumber] at h
      cases h
    | ok number =>
      rw [hnumber] at h
      change Except.ok (if 1 ≤ number then groups[(number - 1).toNat]? else none) = _ at h
      split at h
      · exact List.mem_of_getElem? (Except.ok.inj h)
      · cases h

theorem Interactive.mem_of_selectAmong {quiet : Bool} {groups : List RuleGroup}
    {lines : List String} {group : RuleGroup} {file : Option String}
    {terminal terminal' : Terminal}
    (h : selectAmong quiet groups lines terminal = .ok (.chosen group file) terminal') :
    group ∈ groups := by
  induction lines generalizing terminal with
  | nil =>
    unfold selectAmong at h
    obtain ⟨_, _, _, h⟩ := bind_eq_ok.1 h
    exact (throw_eq_ok.1 h).elim
  | cons _ lines ih =>
    unfold selectAmong at h
    obtain ⟨line, _, _, h⟩ := bind_eq_ok.1 h
    split at h
    · cases (pure_eq_ok.1 h).1
    · obtain ⟨group?, _, htyped, h⟩ := bind_eq_ok.1 h
      cases hnumbered : numberedGroup? groups (Text.lowered (Text.trimmed line)) with
      | error fault =>
        rw [hnumbered] at htyped
        exact (throw_eq_ok.1 htyped).elim
      | ok numbered? =>
        rw [hnumbered] at htyped
        obtain ⟨rfl, _⟩ := pure_eq_ok.1 htyped
        cases numbered? with
        | some chosen =>
          cases (pure_eq_ok.1 h).1
          exact mem_of_numberedGroup? hnumbered
        | none =>
          obtain ⟨_, _, _, h⟩ := bind_eq_ok.1 h
          exact ih h

theorem interactive_choosesGiven (quiet : Bool) : (interactive quiet).ChoosesGiven := by
  intro groups memory group file memory' h
  obtain ⟨_, _, h⟩ := h
  obtain ⟨_, _, _, _, h⟩ := Deciding.bind_eq_ok.1 h
  obtain ⟨_, _, _, _, h⟩ := Deciding.bind_eq_ok.1 h
  -- The lines are read on the terminal, and the memory is passed on beside it.
  obtain ⟨choice, _, hselect, h⟩ := bind_eq_ok.1 h
  cases (pure_eq_ok.1 h).1
  exact .of_mem (Interactive.mem_of_selectAmong hselect)

end Operator
end LintRemedy
