import LintRemedy.Operator.Automatic
import LintRemedy.Proofs.Loop.Transition

/-!
This module contains what the operator that works unattended decides, and what comes of its
decisions: the pair of a file and a rule that it works on is open, and work on a pair either fixes
once or skips once.
-/

namespace LintRemedy

def RuleGroup.pairs (groups : List RuleGroup) : List FileRule :=
  groups.flatMap fun group => group.locations.map fun l => (l.fileFull, group.ruleId)

theorem RuleGroup.mem_pairs_iff {groups : List RuleGroup} {pair : FileRule} :
    pair ∈ pairs groups ↔
      ∃ group ∈ groups, ∃ l ∈ group.locations, (l.fileFull, group.ruleId) = pair := by
  unfold pairs
  rw [List.mem_flatMap]
  simp only [List.mem_map]

namespace Operator

variable {budget : Int} {quiet : Bool} {counts counts' : SkipCounts} {groups : List RuleGroup}

theorem mem_filePairs_iff {file : String} {group : RuleGroup} :
    (file, group) ∈ filePairs groups ↔
      group ∈ groups ∧ ∃ l ∈ group.locations, l.fileFull = file := by
  unfold filePairs
  simp only [List.mem_flatMap, List.mem_map, mem_distinct_iff, List.mem_filter, List.any_eq_true,
    decide_eq_true_eq, Prod.mk.injEq]
  constructor
  · rintro ⟨_, _, _, ⟨hgroup, hfile⟩, rfl, rfl⟩
    exact ⟨hgroup, hfile⟩
  · rintro ⟨hgroup, l, hl, rfl⟩
    exact ⟨_, ⟨group, hgroup, l, hl, rfl⟩, group, ⟨hgroup, l, hl, rfl⟩, rfl, rfl⟩

theorem mem_pairs_of_mem_filePairs {file : String} {group : RuleGroup}
    (h : (file, group) ∈ filePairs groups) : (file, group.ruleId) ∈ RuleGroup.pairs groups := by
  obtain ⟨hgroup, l, hl, rfl⟩ := mem_filePairs_iff.1 h
  exact RuleGroup.mem_pairs_iff.2 ⟨group, hgroup, l, hl, rfl⟩

theorem budget_le_of_nextPair?_eq_none (h : nextPair? budget counts groups = none)
    {pair : FileRule} (hpair : pair ∈ RuleGroup.pairs groups) : budget ≤ counts.get pair := by
  unfold nextPair? at h
  rw [Option.map_eq_none_iff, List.find?_eq_none] at h
  obtain ⟨group, hgroup, l, hl, rfl⟩ := RuleGroup.mem_pairs_iff.1 hpair
  have hclosed := h (l.fileFull, group) (mem_filePairs_iff.2 ⟨hgroup, l, hl, rfl⟩)
  rw [decide_eq_true_eq] at hclosed
  exact Int.not_lt.1 hclosed

theorem open_of_nextPair?_eq_some {file : String} {group : RuleGroup}
    (h : nextPair? budget counts groups = some (file, group)) :
    (file, group.ruleId) ∈ RuleGroup.pairs groups ∧
      counts.get (file, group.ruleId) < budget := by
  unfold nextPair? at h
  rw [Option.map_eq_some_iff] at h
  obtain ⟨⟨_, whole⟩, hfind, heq⟩ := h
  cases heq
  constructor
  · have hmem := List.mem_of_find?_eq_some hfind
    exact (mem_pairs_of_mem_filePairs hmem :)
  · have hopen := List.find?_some hfind
    exact of_decide_eq_true hopen

theorem passParseErrors_yields {errors : List ParseError} {answer : Bool}
    (h : ((automatic budget quiet).passParseErrors errors).Yields counts answer counts') :
    answer = false ∧ counts' = counts := by
  obtain ⟨_, _, h⟩ := h
  obtain ⟨_, _, _, hshow, h⟩ := Deciding.bind_eq_ok.1 h
  obtain ⟨rfl, _⟩ := Deciding.announce_eq_ok.1 hshow
  cases h
  exact ⟨rfl, rfl⟩

theorem allowRepair_yields {summary : Summary} {answer : Bool}
    (h : ((automatic budget quiet).allowRepair summary).Yields counts answer counts') :
    answer = true ∧ counts' = counts := by
  obtain ⟨_, _, h⟩ := h
  cases h
  exact ⟨rfl, rfl⟩

theorem select_yields {choice : Choice}
    (h : ((automatic budget quiet).select groups).Yields counts choice counts') :
    counts' = counts ∧
      (nextPair? budget counts groups = none ∧ choice = .exhausted ∨
        ∃ file group, nextPair? budget counts groups = some (file, group) ∧
          choice = .chosen group (some file)) := by
  obtain ⟨_, _, h⟩ := h
  obtain ⟨_, _, _, hget, h⟩ := Deciding.bind_eq_ok.1 h
  cases hget
  generalize nextPair? budget counts groups = next at h
  cases next with
  | none =>
    cases h
    exact ⟨rfl, .inl ⟨rfl, rfl⟩⟩
  | some pair =>
    obtain ⟨_, _, _, hshow, h⟩ := Deciding.bind_eq_ok.1 h
    obtain ⟨rfl, _⟩ := Deciding.announce_eq_ok.1 hshow
    cases h
    exact ⟨rfl, .inr ⟨pair.1, pair.2, rfl, rfl⟩⟩

/-- What is chosen unattended is a group, narrowed to a file in which it has a location. -/
theorem select_chosen {group : RuleGroup} {file : Option String}
    (h : ((automatic budget quiet).select groups).Yields counts (.chosen group file) counts') :
    ∃ name whole, (name, whole) ∈ filePairs groups ∧ file = some name ∧
      group = whole.narrow name := by
  obtain ⟨_, ⟨_, hchoice⟩ | ⟨name, chosen, hnext, hchoice⟩⟩ := select_yields h
  · cases hchoice
  · cases hchoice
    obtain ⟨⟨_, whole⟩, hfind, heq⟩ := Option.map_eq_some_iff.1 hnext
    cases heq
    exact ⟨name, whole, List.mem_of_find?_eq_some hfind, rfl, rfl⟩

theorem act_yields {bundle : Bundle} {action : Action}
    (h : ((automatic budget quiet).act bundle).Yields counts action counts') :
    counts' = counts ∧
      (bundle.fixes = [] ∧ action = { kind := .skip } ∨
        bundle.fixes ≠ [] ∧ action = { kind := .fix, indices := [0] }) := by
  obtain ⟨_, _, h⟩ := h
  cases h
  refine ⟨rfl, ?_⟩
  cases bundle.fixes with
  | nil => exact .inl ⟨rfl, rfl⟩
  | cons fix fixes => exact .inr ⟨List.cons_ne_nil _ _, rfl⟩

end Operator

theorem Patch.replaceAll_singleton {fix : Replacement} {done : PatchCounts} {world world' : World}
    (h : replaceAll [fix] world = .ok done world') :
    (done.success = 1 ∧ done.failed + done.skipped = 0 ∧ replace fix world = .ok true world') ∨
      (done.success = 0 ∧ done.failed + done.skipped = 1) := by
  unfold replaceAll at h
  rw [List.foldlM_cons] at h
  obtain ⟨_, _, hcount, h⟩ := Action.bind_eq_ok.1 h
  rw [List.foldlM_nil] at h
  obtain ⟨rfl, rfl⟩ := Action.pure_eq_ok.1 h
  unfold countFix at hcount
  split at hcount
  · obtain ⟨rfl, _⟩ := Action.pure_eq_ok.1 hcount
    exact .inr ⟨rfl, rfl⟩
  · obtain ⟨replaced, _, hreplace, hcount⟩ := Action.bind_eq_ok.1 hcount
    cases replaced with
    | true =>
      obtain ⟨rfl, rfl⟩ := Action.pure_eq_ok.1 hcount
      exact .inl ⟨rfl, rfl, hreplace⟩
    | false =>
      obtain ⟨rfl, _⟩ := Action.pure_eq_ok.1 hcount
      exact .inr ⟨rfl, rfl⟩

namespace Loop

def Phase.pair? : Phase → Option FileRule
  | gather group file | present group file _ => file.map fun name => (name, group.ruleId)
  | _ => none

/-- Work on a rule is work on a particular file. -/
def Phase.Targeted : Phase → Prop
  | gather _ file | present _ file _ => file.isSome
  | _ => True

/-- Whether an event ends the work on a selection. -/
def Event.endsWork (event : Event) : Bool :=
  event = .noBundle ∨ event = .actionDone

variable {budget : Int} {quiet : Bool}

theorem perform_unattended {config : String} {group : RuleGroup} {bundle : Bundle}
    {action : Action} {counts counts' : SkipCounts} {outcome : Outcome} {world world' : World}
    (decided : ((Operator.automatic budget quiet).act bundle).Yields counts action counts')
    (h : perform config group bundle action world = .ok outcome world') :
    (outcome.fixed = 1 ∧ outcome.skipped = 0 ∧
        ∃ fix, bundle.fixes.head? = some fix ∧ Patch.replace fix world = .ok true world') ∨
      (outcome.fixed = 0 ∧ outcome.skipped = 1) := by
  rcases (Operator.act_yields decided).2 with ⟨_, rfl⟩ | ⟨hfixes, rfl⟩
  · obtain ⟨rfl, _⟩ := Action.pure_eq_ok.1 h
    exact .inr ⟨rfl, rfl⟩
  · obtain ⟨done, _, hreplace, h⟩ := Action.bind_eq_ok.1 h
    obtain ⟨rfl, rfl⟩ := Action.pure_eq_ok.1 h
    obtain ⟨fix, fixes, hfixes⟩ := List.exists_cons_of_ne_nil hfixes
    have hchosen : chosenFixes bundle.fixes [0] = [fix] := by
      rw [hfixes]
      rfl
    rw [hchosen] at hreplace
    rcases Patch.replaceAll_singleton hreplace with ⟨hfixed, hskipped, hreplace⟩ | hfailed
    · refine .inl ⟨hfixed, hskipped, fix, ?_, hreplace⟩
      rw [hfixes]
      rfl
    · exact .inr hfailed

theorem MidStep.unattended {counts counts' : SkipCounts}
    (h : MidStep (.automatic budget quiet) counts counts') : counts' = counts := by
  cases h with
  | undecided => rfl
  | repairing decided => exact (Operator.allowRepair_yields decided).2
  | acting decided => exact (Operator.act_yields decided).1

/-- What a passage adds to the books of an unattended run. -/
inductive Entry (budget : Int) (run : Run SkipCounts) (event : Event) (after : Run SkipCounts) :
    Prop where
  | none (event : event ≠ .ruleSelected ∧ ¬ event.endsWork)
      (pair : after.phase.pair? = .none ∨ after.phase.pair? = run.phase.pair?)
      (memory : after.memory = run.memory)
      (fixed : after.report.totalFixed = run.report.totalFixed)
      (skipped : after.report.totalSkipped = run.report.totalSkipped)
  | taken {found pair} (event : event = .ruleSelected) (phase : run.phase = .selectRule found)
      (taken : after.phase.pair? = some pair) (occurs : pair ∈ RuleGroup.pairs found.selectable)
      (below : run.memory.get pair < budget)
      (memory : after.memory = run.memory)
      (fixed : after.report.totalFixed = run.report.totalFixed)
      (skipped : after.report.totalSkipped = run.report.totalSkipped)
  | failed {pair} (event : event.endsWork) (work : run.phase.pair? = some pair)
      (phase : after.phase = .scan)
      (memory : after.memory = run.memory.increase pair)
      (fixed : after.report.totalFixed = run.report.totalFixed)
      (skipped : after.report.totalSkipped = run.report.totalSkipped + 1)
  | fixed {pair} (event : event.endsWork) (work : run.phase.pair? = some pair)
      (phase : after.phase = .scan)
      (memory : after.memory = run.memory.clear pair)
      (fixed : after.report.totalFixed = run.report.totalFixed + 1)
      (skipped : after.report.totalSkipped = run.report.totalSkipped)

variable {setup : Setup SkipCounts} {run after : Run SkipCounts} {event : Event}

theorem Transition.entry (unattended : setup.operator = .automatic budget quiet)
    (targeted : run.phase.Targeted) (h : Transition setup run event after) :
    Entry budget run event after ∧ after.phase.Targeted := by
  cases h with
  | scanFailed | parseErrorsFound | noIssues | issuesFound | finished | fixablePresent |
      noneFixable | stalled | nothingSelectable =>
    exact ⟨.none (by decide) (.inl rfl) rfl rfl rfl, trivial⟩
  | goOn phase decided | halt phase decided =>
    rw [unattended] at decided
    exact ⟨.none (by decide) (.inl rfl) (Operator.passParseErrors_yields decided).2 rfl rfl, trivial⟩
  | repairDeclined phase decided | repairApplied phase decided | repairFailed phase decided =>
    rw [unattended] at decided
    exact ⟨.none (by decide) (.inl rfl) (Operator.allowRepair_yields decided).2 rfl rfl, trivial⟩
  | quitSelecting phase some decided | exhausted phase some decided =>
    rw [unattended] at decided
    exact ⟨.none (by decide) (.inl rfl) (Operator.select_yields decided).1 rfl rfl, trivial⟩
  | ruleSelected phase some decided =>
    rw [unattended] at decided
    obtain ⟨rfl, ⟨_, hchoice⟩ | ⟨file, group, hnext, hchoice⟩⟩ := Operator.select_yields decided
    · cases hchoice
    · cases hchoice
      obtain ⟨hoccurs, hbelow⟩ := Operator.open_of_nextPair?_eq_some hnext
      exact ⟨.taken rfl phase rfl hoccurs hbelow rfl rfl rfl, rfl⟩
  | bundleReady phase =>
    -- The work goes on with the pair that was selected.
    rw [phase] at targeted
    refine ⟨.none (by decide) (.inr ?_) rfl rfl rfl, targeted⟩
    rw [phase]
    rfl
  | @noBundle group file _ phase =>
    rw [phase] at targeted
    obtain ⟨name, rfl⟩ := Option.isSome_iff_exists.1 targeted
    refine ⟨.failed rfl (congrArg Phase.pair? phase) rfl ?_ rfl rfl, trivial⟩
    rw [unattended]
    rfl
  | quitPresenting phase decided kind =>
    -- An unattended operator fixes or skips, it neither quits nor asks.
    rw [unattended] at decided
    rcases (Operator.act_yields decided).2 with ⟨_, rfl⟩ | ⟨_, rfl⟩
    · cases kind
    · cases kind
  | followUp phase decided kind =>
    rw [unattended] at decided
    rcases (Operator.act_yields decided).2 with ⟨_, rfl⟩ | ⟨_, rfl⟩
    · cases kind
    · cases kind
  | @actionDone group file _ _ _ _ _ phase decided kind performed =>
    rw [phase] at targeted
    obtain ⟨name, rfl⟩ := Option.isSome_iff_exists.1 targeted
    rw [unattended] at decided
    obtain ⟨_, _, _, performed, _, _⟩ := performed
    -- The outcome decides whether the operator clears the skips of the pair or adds one.
    have hmemory := (Operator.act_yields decided).1
    have hwork := congrArg Phase.pair? phase
    rcases perform_unattended decided performed with ⟨hfixed, hskipped, _⟩ | ⟨hfixed, hskipped⟩
    · refine ⟨.fixed rfl hwork rfl ?_ ?_ ?_, trivial⟩
      · rw [unattended, hmemory, hfixed, hskipped]
        rfl
      · exact congrArg (run.report.totalFixed + ·) hfixed
      · rw [hskipped]
        exact Int.add_zero _
    · refine ⟨.failed rfl hwork rfl ?_ ?_ ?_, trivial⟩
      · rw [unattended, hmemory, hfixed, hskipped]
        rfl
      · rw [hfixed]
        exact Int.add_zero _
      · exact congrArg (run.report.totalSkipped + ·) hskipped

end Loop
end LintRemedy
