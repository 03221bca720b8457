import LintRemedy.Proofs.Aggregation.Selectable
import LintRemedy.Proofs.Loop.Potential
import LintRemedy.Proofs.Loop.SkipBudget
import LintRemedy.Proofs.Remedy.Expense

/-!
This module contains what work costs an unattended run. Work on a pair either fails, and the pair has
one skip less, or it applies a fix, for which an answer of the oracle was used up. So the skips of all
pairs that can be reported and the answers of the oracle bound the work.
-/

namespace LintRemedy

open LintRemedy.Action

def Finding.pair (d : Finding) : FileRule :=
  (d.filePath, d.ruleId)

theorem Aggregation.exists_pair {ds : List Finding} {pair : FileRule}
    (h : pair ∈ RuleGroup.pairs (ofFindings ds).selectable) : ∃ d ∈ ds, d.pair = pair := by
  obtain ⟨group, hgroup, location, hlocation, rfl⟩ := RuleGroup.mem_pairs_iff.1 h
  obtain ⟨_, _, rfl⟩ := mem_rules_iff.1 (List.mem_filter.1 hgroup).1
  obtain ⟨d, hd, rfl⟩ := List.mem_map.1 hlocation
  obtain ⟨hd, hrule⟩ := List.mem_filter.1 hd
  exact ⟨d, hd, congrArg (Prod.mk d.filePath) (of_decide_eq_true hrule)⟩

namespace Analyzer

def pairsIn (analyzer : Analyzer) (answer : AnalyzerAnswer) : List FileRule :=
  ((analyzer.read answer.outcome).toOption.getD []).map Finding.pair

/-- The pairs that are reported by the answers that are due to scans. -/
def duePairs (analyzer : Analyzer) (target : String) (world : World) : Finset FileRule :=
  ((analyzer.dueToScans target world).flatMap analyzer.pairsIn).toFinset

variable {analyzer : Analyzer} {target : String} {world world' : World}

theorem mem_duePairs_of_scan {found : Aggregation} {pair : FileRule}
    (h : analyzer.scan target world = .ok found world')
    (hpair : pair ∈ RuleGroup.pairs found.selectable) : pair ∈ analyzer.duePairs target world := by
  obtain ⟨_, answer, rest, ds, hdue, hread, rfl⟩ := read_of_scan h
  obtain ⟨d, hd, rfl⟩ := Aggregation.exists_pair hpair
  unfold duePairs
  rw [List.mem_toFinset, List.mem_flatMap]
  refine ⟨answer, ?_, ?_⟩
  · rw [hdue]
    exact List.mem_cons_self
  · unfold pairsIn
    rw [hread]
    exact List.mem_map_of_mem hd

theorem duePairs_subset
    (h : analyzer.dueToScans target world' <:+ analyzer.dueToScans target world) :
    analyzer.duePairs target world' ⊆ analyzer.duePairs target world := by
  intro pair hpair
  unfold duePairs at hpair ⊢
  rw [List.mem_toFinset, List.mem_flatMap] at hpair ⊢
  obtain ⟨answer, hanswer, hpair⟩ := hpair
  exact ⟨answer, h.subset hanswer, hpair⟩

theorem length_pairsIn_le (analyzer : Analyzer) (answer : AnalyzerAnswer) :
    (analyzer.pairsIn answer).length ≤ answer.amount := by
  unfold pairsIn
  rw [List.length_map]
  cases hread : analyzer.read answer.outcome with
  | ok ds => exact (length_lt_amount hread).le
  | error fault => exact Nat.zero_le _

theorem length_flatMap_pairsIn_le (analyzer : Analyzer) (answers : List AnalyzerAnswer) :
    (answers.flatMap analyzer.pairsIn).length ≤ AnalyzerAnswer.total answers := by
  induction answers with
  | nil => exact Nat.le_refl 0
  | cons answer answers ih =>
    rw [List.flatMap_cons, List.length_append]
    exact Nat.add_le_add (analyzer.length_pairsIn_le answer) ih

/-- There are at most as many pairs as characters in the reports. -/
theorem card_duePairs_le (analyzer : Analyzer) (target : String) (world : World) :
    (analyzer.duePairs target world).card ≤
      AnalyzerAnswer.total (analyzer.dueToScans target world) :=
  (List.toFinset_card_le _).trans (analyzer.length_flatMap_pairsIn_le _)

end Analyzer

/-! ### Answers of the oracle -/

namespace World

theorem repliesLeft_unshown : Unshown repliesLeft :=
  fun _ _ => rfl

theorem repliesLeft_unscanned : Unscanned repliesLeft where
  record _ _ _ := rfl
  scans _ _ := rfl
  repairs _ _ := rfl
  files _ _ := rfl

theorem repliesLeft_unedited : Unedited repliesLeft :=
  fun _ _ _ => rfl

end World

namespace Loop

section Replies

variable {μ : Type} {setup : Setup μ} {run after : Run μ} {event : Event}

/-- The number of fixes that are in the hands of the operator. -/
def Phase.fixCount : Phase → Nat
  | present _ _ bundle => bundle.fixes.length
  | _ => 0

/-- The answers of the oracle that are left, with those that have become fixes. -/
def repliesAndFixes (run : Run μ) : Nat :=
  run.world.repliesLeft + run.phase.fixCount

theorem Gathers.repliesLeft {group : RuleGroup} {file : Option String} {talk talk' : Talk}
    {bundle? : Option Bundle} (h : Gathers setup group file talk bundle? talk') :
    talk'.world.repliesLeft + Remedy.fixCount bundle? ≤ talk.world.repliesLeft := by
  obtain ⟨turned, config, asked, answered, alike, _, read, gathered, after⟩ := h
  rw [after.1.seen_eq World.repliesLeft_unshown]
  calc answered.world.repliesLeft + Remedy.fixCount bundle?
    _ ≤ asked.world.repliesLeft := Remedy.gather_spends group config asked bundle? answered gathered
    _ = turned.world.repliesLeft :=
      read.seen_eq World.repliesLeft_unshown (ConfigFile.read_keeps setup.config)
    _ = talk.world.repliesLeft := alike.seen_eq World.repliesLeft_unshown

/-- Only the oracle uses up its answers. -/
theorem Transition.repliesLeft_eq (h : Transition setup run event after)
    (gathering : ∀ group file, run.phase ≠ .gather group file) (asking : event ≠ .followUp) :
    after.world.repliesLeft = run.world.repliesLeft := by
  cases h with
  | scanFailed _ scanned =>
    exact scanned.seen_eq World.repliesLeft_unshown fun _ => Act.attempt_keeps
      (setup.analyzer.scan_keeps World.repliesLeft_unscanned _ _)
  | parseErrorsFound _ scanned | noIssues _ scanned | issuesFound _ scanned =>
    exact scanned.seen_eq World.repliesLeft_unshown
      (setup.analyzer.scan_keeps World.repliesLeft_unscanned _)
  | repairApplied _ _ repaired =>
    exact repaired.seen_eq World.repliesLeft_unshown
      (setup.analyzer.repair_keeps World.repliesLeft_unscanned _)
  | repairFailed _ _ repaired =>
    exact repaired.seen_eq World.repliesLeft_unshown fun _ => Act.attempt_keeps
      (setup.analyzer.repair_keeps World.repliesLeft_unscanned _ _)
  | goOn _ _ alike | halt _ _ alike | repairDeclined _ _ alike | quitSelecting _ _ _ alike
  | ruleSelected _ _ _ alike | exhausted _ _ _ _ alike | quitPresenting _ _ _ alike =>
    exact alike.1.seen_eq World.repliesLeft_unshown
  | finished | fixablePresent | noneFixable | stalled | nothingSelectable => rfl
  | bundleReady phase | noBundle phase => exact (gathering _ _ phase).elim
  | followUp => exact (asking rfl).elim
  | actionDone _ _ _ performed =>
    exact performed.seen_eq World.repliesLeft_unshown
      (perform_keeps World.repliesLeft_unedited _ _ _ _)

/-- No answer of the oracle becomes more than one fix. -/
theorem Transition.repliesAndFixes_le (h : Transition setup run event after)
    (asking : event ≠ .followUp) : repliesAndFixes after ≤ repliesAndFixes run := by
  unfold repliesAndFixes
  by_cases gathering : ∃ group file, run.phase = .gather group file
  · obtain ⟨group, file, phase⟩ := gathering
    rw [phase]
    cases h with
    | bundleReady _ gathered => exact gathered.repliesLeft
    | noBundle _ gathered => exact gathered.repliesLeft
    | _ =>
      rw [‹run.phase = _›] at phase
      cases phase
  · have heq := h.repliesLeft_eq (fun group file phase => gathering ⟨group, file, phase⟩) asking
    rw [heq]
    apply Nat.add_le_add_left
    cases h with
    | bundleReady phase => exact (gathering ⟨_, _, phase⟩).elim
    | followUp => exact (asking rfl).elim
    | _ => exact Nat.zero_le _

end Replies

/-! ### The stock of an unattended run -/

section Unattended

variable {budget : Int} {quiet : Bool} {setup : Setup SkipCounts} {run after : Run SkipCounts}
  {event : Event} {moves : List (Move SkipCounts)} {start : World}

theorem Event.cost_le (event : Event) : event.cost ≤ 1 := by
  cases event <;> decide

/-- What an unattended run works with was reported by an answer that was due to scans at its start. -/
structure Reported (setup : Setup SkipCounts) (start : World) (run : Run SkipCounts) : Prop where
  due : setup.analyzer.dueToScans setup.target run.world <:+
    setup.analyzer.dueToScans setup.target start
  found : ∀ found, run.phase.found? = some found → ∀ pair ∈ RuleGroup.pairs found.selectable,
    pair ∈ setup.analyzer.duePairs setup.target start
  pair : ∀ pair, run.phase.pair? = some pair → pair ∈ setup.analyzer.duePairs setup.target start

/-- The answers of the oracle with the fixes that they have become, each as much as all skips of one
pair, and the skips that are left of the pairs. -/
def patientStock (budget : Int) (pairs : Finset FileRule) (run : Run SkipCounts) : Nat :=
  repliesAndFixes run * (budget.toNat + 1) + (run.memory.remaining (max budget 0) pairs).toNat

theorem Reported.step (reported : Reported setup start run)
    (unattended : setup.operator = .automatic budget quiet) (targeted : run.phase.Targeted)
    (h : Transition setup run event after) : Reported setup start after where
  due := h.usesUp.suffix.trans reported.due
  found := by
    cases h with
    | @issuesFound found _ _ scanned =>
      rintro _ ⟨⟩ pair hpair
      obtain ⟨before, _, alike, hscan, _⟩ := scanned
      have hdue := Analyzer.mem_duePairs_of_scan hscan hpair
      rw [alike] at hdue
      exact Analyzer.duePairs_subset reported.due hdue
    | goOn _ decided =>
      rw [unattended] at decided
      cases (Operator.passParseErrors_yields decided).1
    | fixablePresent phase | noneFixable phase | repairDeclined phase | repairFailed phase =>
      rintro _ ⟨⟩
      apply reported.found
      rw [phase]
      rfl
    | _ => nofun
  pair := by
    intro pair hpair
    cases (h.entry unattended targeted).1 with
    | none _ same =>
      rcases same with same | same
      · rw [same] at hpair
        cases hpair
      · rw [same] at hpair
        exact reported.pair pair hpair
    | @taken found _ _ phase taken occurs =>
      rw [taken] at hpair
      cases hpair
      refine reported.found found ?_ _ occurs
      rw [phase]
      rfl
    | failed _ _ phase | fixed _ _ phase =>
      rw [phase] at hpair
      cases hpair

theorem Reported.of_reaches (unattended : setup.operator = .automatic budget quiet)
    (h : Reaches setup (.start [] start) moves run) : Reported setup start run := by
  induction h with
  | here => exact ⟨List.suffix_refl _, nofun, nofun⟩
  | move earlier last ih =>
    exact ih.step unattended (Books.of_reaches unattended earlier).targeted (step_transition last)

theorem Transition.ne_followUp (unattended : setup.operator = .automatic budget quiet)
    (h : Transition setup run event after) : event ≠ .followUp := by
  rintro rfl
  cases h with
  | followUp _ decided kind =>
    rw [unattended] at decided
    rcases (Operator.act_yields decided).2 with ⟨_, rfl⟩ | ⟨_, rfl⟩
    · cases kind
    · cases kind

/-- An unattended run counts a fix only when it had one at hand. -/
theorem Transition.fixCount_pos (unattended : setup.operator = .automatic budget quiet)
    (h : Transition setup run event after)
    (fixed : after.report.totalFixed = run.report.totalFixed + 1) : 0 < run.phase.fixCount := by
  cases h with
  | actionDone phase decided _ performed =>
    rw [unattended] at decided
    obtain ⟨_, _, _, performed, _, _⟩ := performed
    rw [phase]
    rcases perform_unattended decided performed with ⟨_, _, fix, hhead, _⟩ | ⟨hnone, _⟩
    · exact List.length_pos_of_mem (List.mem_of_mem_head? hhead)
    · dsimp only at fixed
      omega
  | _ =>
    dsimp only at fixed
    omega

/-- Once a fix is applied, it is no longer at hand. -/
theorem Transition.repliesAndFixes_lt (unattended : setup.operator = .automatic budget quiet)
    (h : Transition setup run event after) (phase : after.phase = .scan)
    (fixed : after.report.totalFixed = run.report.totalFixed + 1) :
    repliesAndFixes after < repliesAndFixes run := by
  have hfixes := h.fixCount_pos unattended fixed
  have gathering : ∀ group file, run.phase ≠ .gather group file := by
    intro group file gathering
    rw [gathering] at hfixes
    cases hfixes
  unfold repliesAndFixes
  rw [h.repliesLeft_eq gathering (h.ne_followUp unattended), phase]
  exact Nat.add_lt_add_left hfixes _

theorem unattended_lasts (unattended : setup.operator = .automatic budget quiet) (start : World) :
    Lasts setup (.start [] start)
      (patientStock budget (setup.analyzer.duePairs setup.target start)) := by
  intro moves run event after reached hstep
  have books := Books.of_reaches unattended reached
  have books' := Books.of_reaches unattended (.move reached hstep)
  have occurs := (Reported.of_reaches unattended reached).pair
  have transition := step_transition hstep
  have asking := transition.ne_followUp unattended
  generalize setup.analyzer.duePairs setup.target start = pairs at occurs ⊢
  have hleft : 0 ≤ run.memory.remaining (max budget 0) pairs :=
    SkipCounts.remaining_nonneg books.bounded
  have hleft' : 0 ≤ after.memory.remaining (max budget 0) pairs :=
    SkipCounts.remaining_nonneg books'.bounded
  have hworth := Nat.mul_le_mul_right (budget.toNat + 1) (transition.repliesAndFixes_le asking)
  unfold patientStock
  cases (transition.entry unattended books.targeted).1 with
  | none hevent _ memory =>
    have free : event.cost = 0 := by
      cases event <;> first | rfl | simp [Event.endsWork] at hevent asking
    rw [memory, free]
    omega
  | taken hevent _ _ _ _ memory =>
    rw [memory, hevent]
    exact Nat.add_le_add_right hworth _
  | @failed pair _ work _ memory =>
    -- The skip of the pair pays.
    have hless : (run.memory.increase pair).remaining (max budget 0) pairs =
        run.memory.remaining (max budget 0) pairs - 1 :=
      SkipCounts.remaining_increase (occurs _ work)
    have hcost := event.cost_le
    rw [memory] at hleft' ⊢
    omega
  | @fixed pair _ work phase memory hfixed =>
    -- The fix pays, and its worth covers the skips that the pair gets back.
    have hmore : (run.memory.clear pair).remaining (max budget 0) pairs =
        run.memory.remaining (max budget 0) pairs + run.memory.get pair :=
      SkipCounts.remaining_clear (occurs _ work)
    have hback := books.bounded pair
    have hpaid := Nat.mul_le_mul_right (budget.toNat + 1)
      (transition.repliesAndFixes_lt unattended phase hfixed)
    have hcost := event.cost_le
    rw [Nat.succ_mul] at hpaid
    rw [memory] at hleft' ⊢
    rw [hmore]
    omega

end Unattended

end Loop

end LintRemedy
