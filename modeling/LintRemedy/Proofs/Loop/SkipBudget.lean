import LintRemedy.Proofs.Loop.Allowance
import LintRemedy.Proofs.Loop.Iteration
import LintRemedy.Proofs.Loop.Unattended

/-!
This module contains the books of an unattended run: its totals and the skips that its operator
remembers agree with the work in its history, the budget of skips bounds both, and a run that gives
up has used the budgets of all pairs that the last scan has found.
-/

namespace LintRemedy
namespace Loop

variable {μ : Type}

/-- Work on a file and a rule that is over. -/
structure Attempt where
  pair : FileRule
  fixed : Bool
deriving DecidableEq, Repr

/-- The number of findings that are dealt with, one way or the other. -/
def handled (run : Run μ) : Int :=
  run.report.totalFixed + run.report.totalSkipped

namespace Move

def attempt? (move : Move μ) : Option Attempt :=
  if move.event.endsWork then
    move.before.phase.pair?.map fun pair =>
      ⟨pair, move.before.report.totalFixed < move.after.report.totalFixed⟩
  else none

/-- Work on a file and a rule counts once when it is over, and nothing else counts. -/
def Counted (move : Move μ) : Prop :=
  if move.event.endsWork then
    move.before.phase.pair?.isSome ∧ handled move.after = handled move.before + 1
  else handled move.after = handled move.before

def selected? (move : Move μ) : Option FileRule :=
  if move.event = .ruleSelected then move.after.phase.pair? else none

end Move

/-- The work in a history, the last first. -/
def attempts (moves : List (Move μ)) : List Attempt :=
  moves.filterMap Move.attempt?

def selectedPairs (moves : List (Move μ)) : Finset FileRule :=
  (moves.filterMap Move.selected?).toFinset

/-- How often work on a pair has failed since it has succeeded, the last attempt first. -/
def failuresSince (pair : FileRule) : List Attempt → Int
  | [] => 0
  | attempt :: earlier =>
    if attempt.pair ≠ pair then failuresSince pair earlier
    else if attempt.fixed then 0
    else failuresSince pair earlier + 1

theorem failuresSince_nonneg (pair : FileRule) (done : List Attempt) :
    0 ≤ failuresSince pair done := by
  induction done with
  | nil => exact Int.le_refl 0
  | cons attempt earlier ih =>
    unfold failuresSince
    split
    · exact ih
    · split
      · exact Int.le_refl 0
      · omega

theorem failuresSince_failed (pair other : FileRule) (done : List Attempt) (counts : SkipCounts)
    (agree : ∀ p, counts.get p = failuresSince p done) :
    (counts.increase pair).get other = failuresSince other (⟨pair, false⟩ :: done) := by
  unfold failuresSince
  by_cases h : other = pair
  · rw [h, SkipCounts.get_increase_self, agree pair]
    simp
  · rw [SkipCounts.get_increase_of_ne h, agree other, if_pos (Ne.symm h)]

theorem failuresSince_fixed (pair other : FileRule) (done : List Attempt) (counts : SkipCounts)
    (agree : ∀ p, counts.get p = failuresSince p done) :
    (counts.clear pair).get other = failuresSince other (⟨pair, true⟩ :: done) := by
  unfold failuresSince
  by_cases h : other = pair
  · rw [h, SkipCounts.get_clear_self]
    simp
  · rw [SkipCounts.get_clear_of_ne h, agree other, if_pos (Ne.symm h)]

section Moves

variable {run after : Run μ} {event : Event} {moves : List (Move μ)} {pair : FileRule}

theorem attempts_cons_of_not_endsWork (h : ¬ event.endsWork) :
    attempts (⟨run, event, after⟩ :: moves) = attempts moves := by
  unfold attempts
  apply List.filterMap_cons_none
  unfold Move.attempt?
  rw [if_neg h]

theorem attempts_cons_of_endsWork (h : event.endsWork) (work : run.phase.pair? = some pair) :
    attempts (⟨run, event, after⟩ :: moves) =
      ⟨pair, run.report.totalFixed < after.report.totalFixed⟩ :: attempts moves := by
  unfold attempts
  apply List.filterMap_cons_some
  unfold Move.attempt?
  rw [if_pos h, work]
  rfl

theorem selectedPairs_cons_of_ne (h : event ≠ .ruleSelected) :
    selectedPairs (⟨run, event, after⟩ :: moves) = selectedPairs moves := by
  unfold selectedPairs
  rw [List.filterMap_cons_none]
  unfold Move.selected?
  rw [if_neg h]

theorem selectedPairs_cons (taken : after.phase.pair? = some pair) :
    selectedPairs (⟨run, .ruleSelected, after⟩ :: moves) = insert pair (selectedPairs moves) := by
  unfold selectedPairs
  have hselected : Move.selected? ⟨run, .ruleSelected, after⟩ = some pair := by
    unfold Move.selected?
    rw [if_pos rfl, taken]
  rw [List.filterMap_cons_some hselected, List.toFinset_cons]

end Moves

/-- The books of an unattended run: what its counts have to do with its history. -/
structure Books (budget : Int) (moves : List (Move SkipCounts)) (run : Run SkipCounts) : Prop where
  targeted : run.phase.Targeted
  counted : ∀ move ∈ moves, move.Counted
  fixed : run.report.totalFixed = (attempts moves).countP (·.fixed)
  skipped : run.report.totalSkipped = (attempts moves).countP (! ·.fixed)
  agree : ∀ pair, run.memory.get pair = failuresSince pair (attempts moves)
  bounded : ∀ pair, run.memory.get pair ≤ max budget 0
  /-- A pair that is worked on has been selected, and its budget is not used up. -/
  working : ∀ pair, run.phase.pair? = some pair →
    pair ∈ selectedPairs moves ∧ run.memory.get pair < budget
  allowance : 0 ≤ budget →
    run.report.totalSkipped + run.memory.remaining budget (selectedPairs moves) ≤
      budget * ((selectedPairs moves).card + run.report.totalFixed)

namespace Books

variable {budget : Int} {quiet : Bool} {moves : List (Move SkipCounts)}
  {run after : Run SkipCounts} {event : Event}

theorem start (budget : Int) (world : World) : Books budget [] (.start [] world) where
  targeted := trivial
  counted _ h := by cases h
  fixed := rfl
  skipped := rfl
  agree _ := rfl
  bounded _ := Int.le_max_right budget 0
  working _ h := by cases h
  allowance _ := by
    change (0 : Int) + 0 ≤ budget * (0 + 0)
    omega

theorem counted_cons (books : Books budget moves run) (h : Move.Counted ⟨run, event, after⟩) :
    ∀ move ∈ (⟨run, event, after⟩ :: moves : List (Move SkipCounts)), move.Counted := by
  intro move hmove
  rcases List.mem_cons.1 hmove with rfl | hmove
  · exact h
  · exact books.counted move hmove

theorem nonneg (books : Books budget moves run) (pair : FileRule) : 0 ≤ run.memory.get pair := by
  rw [books.agree]
  exact failuresSince_nonneg _ _

theorem idle (books : Books budget moves run) (targeted : after.phase.Targeted)
    (hevent : event ≠ .ruleSelected ∧ ¬ event.endsWork)
    (hpair : after.phase.pair? = none ∨ after.phase.pair? = run.phase.pair?)
    (hmemory : after.memory = run.memory)
    (hfixed : after.report.totalFixed = run.report.totalFixed)
    (hskipped : after.report.totalSkipped = run.report.totalSkipped) :
    Books budget (⟨run, event, after⟩ :: moves) after where
  targeted := targeted
  counted := by
    apply books.counted_cons
    unfold Move.Counted handled
    rw [if_neg hevent.2, hfixed, hskipped]
  fixed := by rw [hfixed, books.fixed, attempts_cons_of_not_endsWork hevent.2]
  skipped := by rw [hskipped, books.skipped, attempts_cons_of_not_endsWork hevent.2]
  agree pair := by rw [hmemory, books.agree, attempts_cons_of_not_endsWork hevent.2]
  bounded pair := by
    rw [hmemory]
    exact books.bounded pair
  working pair h := by
    rw [hmemory, selectedPairs_cons_of_ne hevent.1]
    rcases hpair with hnone | hsame
    · rw [hnone] at h
      cases h
    · rw [hsame] at h
      exact books.working pair h
  allowance hbudget := by
    rw [hmemory, hskipped, hfixed, selectedPairs_cons_of_ne hevent.1]
    exact books.allowance hbudget

theorem take {pair : FileRule} (books : Books budget moves run) (targeted : after.phase.Targeted)
    (taken : after.phase.pair? = some pair) (below : run.memory.get pair < budget)
    (hmemory : after.memory = run.memory)
    (hfixed : after.report.totalFixed = run.report.totalFixed)
    (hskipped : after.report.totalSkipped = run.report.totalSkipped) :
    Books budget (⟨run, .ruleSelected, after⟩ :: moves) after where
  targeted := targeted
  counted := by
    apply books.counted_cons
    have hevent : ¬ Event.endsWork .ruleSelected := by decide
    unfold Move.Counted handled
    rw [if_neg hevent, hfixed, hskipped]
  fixed := by rw [hfixed, books.fixed, attempts_cons_of_not_endsWork (by decide)]
  skipped := by rw [hskipped, books.skipped, attempts_cons_of_not_endsWork (by decide)]
  agree other := by rw [hmemory, books.agree, attempts_cons_of_not_endsWork (by decide)]
  bounded other := by
    rw [hmemory]
    exact books.bounded other
  working other h := by
    rw [taken] at h
    cases h
    rw [hmemory, selectedPairs_cons taken]
    exact ⟨Finset.mem_insert_self _ _, below⟩
  allowance hbudget := by
    rw [hmemory, hskipped, hfixed, selectedPairs_cons taken]
    have hbefore := books.allowance hbudget
    by_cases hold : pair ∈ selectedPairs moves
    · rw [Finset.insert_eq_of_mem hold]
      exact hbefore
    · -- A pair that is new brings its whole budget along, and it may have used some of it.
      have hcount := books.nonneg pair
      rw [SkipCounts.remaining_insert hold, Finset.card_insert_of_notMem hold]
      rw [Int.mul_add] at hbefore ⊢
      rw [Int.natCast_add, Int.mul_add]
      omega

/-- The end of work on a pair, given what it does to the skips that are remembered. -/
theorem endWork {pair : FileRule} (fixed : Bool) (books : Books budget moves run)
    (hevent : event.endsWork) (work : run.phase.pair? = some pair) (phase : after.phase = .scan)
    (hfixed : after.report.totalFixed = run.report.totalFixed + if fixed then 1 else 0)
    (hskipped : after.report.totalSkipped = run.report.totalSkipped + if fixed then 0 else 1)
    (agree : ∀ other,
      after.memory.get other = failuresSince other (⟨pair, fixed⟩ :: attempts moves))
    (bounded : ∀ other, after.memory.get other ≤ max budget 0)
    (allowance : 0 ≤ budget →
      after.report.totalSkipped + after.memory.remaining budget (selectedPairs moves) ≤
        budget * ((selectedPairs moves).card + after.report.totalFixed)) :
    Books budget (⟨run, event, after⟩ :: moves) after := by
  have hne : event ≠ .ruleSelected := by
    rintro rfl
    cases hevent
  have hattempts : attempts (⟨run, event, after⟩ :: moves) = ⟨pair, fixed⟩ :: attempts moves := by
    rw [attempts_cons_of_endsWork hevent work, hfixed]
    cases fixed <;> simp
  exact {
    targeted := by
      rw [phase]
      trivial
    counted := by
      apply books.counted_cons
      unfold Move.Counted handled
      rw [if_pos hevent, hfixed, hskipped, work]
      refine ⟨rfl, ?_⟩
      cases fixed <;> simp <;> omega
    fixed := by
      rw [hfixed, books.fixed, hattempts, List.countP_cons]
      cases fixed <;> simp
    skipped := by
      rw [hskipped, books.skipped, hattempts, List.countP_cons]
      cases fixed <;> simp
    agree := by
      rw [hattempts]
      exact agree
    bounded := bounded
    working := by
      intro other h
      rw [phase] at h
      cases h
    allowance := by
      rw [selectedPairs_cons_of_ne hne]
      exact allowance }

theorem fail {pair : FileRule} (books : Books budget moves run) (hevent : event.endsWork)
    (work : run.phase.pair? = some pair) (phase : after.phase = .scan)
    (hmemory : after.memory = run.memory.increase pair)
    (hfixed : after.report.totalFixed = run.report.totalFixed)
    (hskipped : after.report.totalSkipped = run.report.totalSkipped + 1) :
    Books budget (⟨run, event, after⟩ :: moves) after := by
  obtain ⟨hselected, hbelow⟩ := books.working pair work
  apply books.endWork false hevent work phase (hfixed.trans (Int.add_zero _).symm) hskipped
  · intro other
    rw [hmemory]
    exact failuresSince_failed pair other _ _ books.agree
  · intro other
    rw [hmemory]
    by_cases hother : other = pair
    · rw [hother, SkipCounts.get_increase_self]
      omega
    · rw [SkipCounts.get_increase_of_ne hother]
      exact books.bounded other
  · -- The skip that is counted is one that the pair has no longer left.
    intro hbudget
    have hbefore := books.allowance hbudget
    rw [hmemory, hskipped, hfixed, SkipCounts.remaining_increase hselected]
    omega

theorem fix {pair : FileRule} (books : Books budget moves run) (hevent : event.endsWork)
    (work : run.phase.pair? = some pair) (phase : after.phase = .scan)
    (hmemory : after.memory = run.memory.clear pair)
    (hfixed : after.report.totalFixed = run.report.totalFixed + 1)
    (hskipped : after.report.totalSkipped = run.report.totalSkipped) :
    Books budget (⟨run, event, after⟩ :: moves) after := by
  obtain ⟨hselected, hbelow⟩ := books.working pair work
  apply books.endWork true hevent work phase hfixed (hskipped.trans (Int.add_zero _).symm)
  · intro other
    rw [hmemory]
    exact failuresSince_fixed pair other _ _ books.agree
  · intro other
    rw [hmemory]
    by_cases hother : other = pair
    · rw [hother, SkipCounts.get_clear_self]
      exact Int.le_max_right budget 0
    · rw [SkipCounts.get_clear_of_ne hother]
      exact books.bounded other
  · -- What the pair gets back is below its budget, and the fix adds a whole one.
    intro hbudget
    have hbefore := books.allowance hbudget
    rw [hmemory, hskipped, hfixed, SkipCounts.remaining_clear hselected]
    rw [← Int.add_assoc, ← Int.add_assoc, Int.mul_add _ _ 1, Int.mul_one]
    omega

theorem step (books : Books budget moves run) (targeted : after.phase.Targeted)
    (entry : Entry budget run event after) : Books budget (⟨run, event, after⟩ :: moves) after := by
  cases entry with
  | none hevent hpair hmemory hfixed hskipped =>
    exact books.idle targeted hevent hpair hmemory hfixed hskipped
  | taken hevent _ taken _ below hmemory hfixed hskipped =>
    rw [hevent]
    exact books.take targeted taken below hmemory hfixed hskipped
  | failed hevent work phase hmemory hfixed hskipped =>
    exact books.fail hevent work phase hmemory hfixed hskipped
  | fixed hevent work phase hmemory hfixed hskipped =>
    exact books.fix hevent work phase hmemory hfixed hskipped

theorem of_reaches {setup : Setup SkipCounts} {world : World}
    (unattended : setup.operator = .automatic budget quiet)
    (h : Reaches setup (.start [] world) moves run) : Books budget moves run := by
  induction h with
  | here => exact start budget world
  | move _ last ih =>
    obtain ⟨entry, targeted⟩ := (step_transition last).entry unattended ih.targeted
    exact ih.step targeted entry

end Books

def Phase.found? : Phase → Option Aggregation
  | hasFindings found | repairOffered found | selectRule found => some found
  | _ => none

/-- The last scan has found this, and every file could be parsed. -/
def Found (moves : List (Move μ)) (found : Aggregation) : Prop :=
  ∃ scan, lastScan? moves = some scan ∧ scan.after.phase = .hasFindings found

/-- The budgets of all pairs that the last scan has found are used up. -/
def Spent (budget : Int) (moves : List (Move SkipCounts)) (run : Run SkipCounts) : Prop :=
  ∃ found, Found moves found ∧
    ∀ pair ∈ RuleGroup.pairs found.selectable, budget ≤ run.memory.get pair

/-- A run works with what the last scan has found, and it gives up only when that is spent. -/
structure Informed (budget : Int) (moves : List (Move SkipCounts)) (run : Run SkipCounts) :
    Prop where
  found : ∀ found, run.phase.found? = some found → Found moves found
  spent : run.report.status = .exhausted → run.phase = .quit ∧ Spent budget moves run

namespace Informed

variable {budget : Int} {quiet : Bool} {moves : List (Move SkipCounts)}
  {setup : Setup SkipCounts} {run after : Run SkipCounts} {event : Event}

theorem start (budget : Int) (world : World) : Informed budget [] (.start [] world) where
  found _ h := by cases h
  spent h := by cases h

theorem not_exhausted (informed : Informed budget moves run) (h : run.phase ≠ .quit) :
    run.report.status ≠ .exhausted := by
  intro status
  exact h (informed.spent status).1

theorem found_cons_of_ne {found : Aggregation} (hfound : Found moves found)
    (h : run.phase.state ≠ .scan) : Found (⟨run, event, after⟩ :: moves) found := by
  unfold Found
  rw [lastScan?_cons_of_ne h]
  exact hfound

theorem step (informed : Informed budget moves run)
    (unattended : setup.operator = .automatic budget quiet)
    (h : Transition setup run event after) :
    Informed budget (⟨run, event, after⟩ :: moves) after := by
  cases h with
  | scanFailed phase | halt phase =>
    exact ⟨nofun, nofun⟩
  | parseErrorsFound phase | noIssues phase | repairApplied phase | nothingSelectable phase
  | stalled phase | finished phase | quitSelecting phase | ruleSelected phase | bundleReady phase
  | noBundle phase | quitPresenting phase | followUp phase | actionDone phase =>
    exact ⟨nofun, fun h => (informed.not_exhausted (by rw [phase]; nofun) h).elim⟩
  | issuesFound phase =>
    refine ⟨?_, fun h => (informed.not_exhausted (by rw [phase]; nofun) h).elim⟩
    rintro _ ⟨⟩
    exact ⟨_, lastScan?_cons phase, rfl⟩
  | goOn phase decided =>
    -- An unattended operator never goes on with files that cannot be parsed.
    rw [unattended] at decided
    cases (Operator.passParseErrors_yields decided).1
  | fixablePresent phase | noneFixable phase | repairDeclined phase | repairFailed phase =>
    refine ⟨?_, fun h => (informed.not_exhausted (by rw [phase]; nofun) h).elim⟩
    rintro _ ⟨⟩
    apply found_cons_of_ne
    · apply informed.found
      rw [phase]
      rfl
    · rw [phase]
      nofun
  -- Only here does a run give up, and its operator has looked at what the last scan has found.
  | @exhausted found _ _ _ _ phase some decided nothing =>
    refine ⟨nofun, fun _ => ⟨rfl, found, ?_, ?_⟩⟩
    · apply found_cons_of_ne
      · apply informed.found
        rw [phase]
        rfl
      · rw [phase]
        nofun
    · rw [unattended] at decided
      obtain ⟨rfl, ⟨hnext, _⟩ | ⟨_, _, _, rfl⟩⟩ := Operator.select_yields decided
      · intro pair hpair
        exact Operator.budget_le_of_nextPair?_eq_none hnext hpair
      · rcases nothing with h | h
        · cases h
        · cases h

theorem of_reaches {world : World} (unattended : setup.operator = .automatic budget quiet)
    (h : Reaches setup (.start [] world) moves run) : Informed budget moves run := by
  induction h with
  | here => exact start budget world
  | move _ last ih => exact ih.step unattended (step_transition last)

end Informed

theorem closingReport_exhausted_iff {run : Run μ} :
    (closingReport run).status = .exhausted ↔ run.report.status = .exhausted := by
  unfold closingReport
  split
  · next running =>
    rw [running]
    split
    · exact ⟨nofun, nofun⟩
    · exact ⟨nofun, nofun⟩
  · rfl

/-- A run keeps to the budget of skips. -/
structure KeepsBudget (budget : Int) (moves : List (Move SkipCounts)) (run : Run SkipCounts) :
    Prop where
  counted : ∀ move ∈ moves, move.Counted
  fixed : run.report.totalFixed = (attempts moves).countP (·.fixed)
  skipped : run.report.totalSkipped = (attempts moves).countP (! ·.fixed)
  agree : ∀ pair, run.memory.get pair = failuresSince pair (attempts moves)
  bounded : ∀ pair, run.memory.get pair ≤ max budget 0
  skipped_le : 0 ≤ budget → run.report.totalSkipped ≤
    budget * ((selectedPairs moves).card + run.report.totalFixed)
  spent : (closingReport run).status = .exhausted → Spent budget moves run

theorem KeepsBudget.of_books {budget : Int} {moves : List (Move SkipCounts)} {run : Run SkipCounts}
    (books : Books budget moves run) (informed : Informed budget moves run) :
    KeepsBudget budget moves run where
  counted := books.counted
  fixed := books.fixed
  skipped := books.skipped
  agree := books.agree
  bounded := books.bounded
  skipped_le hbudget := by
    have hallowance := books.allowance hbudget
    have hleft : 0 ≤ run.memory.remaining budget (selectedPairs moves) := by
      apply SkipCounts.remaining_nonneg
      intro pair
      have hcount := books.bounded pair
      rw [max_eq_left hbudget] at hcount
      exact hcount
    omega
  spent status := (informed.spent (closingReport_exhausted_iff.1 status)).2

theorem KeepsBudget.of_interrupted {budget : Int} {quiet : Bool} {setup : Setup SkipCounts}
    {moves : List (Move SkipCounts)} {run last : Run SkipCounts}
    (keeps : KeepsBudget budget moves run) (unattended : setup.operator = .automatic budget quiet)
    (h : Interrupted setup run last) : KeepsBudget budget moves last := by
  obtain ⟨_, memory, _, _, _, mid, rfl⟩ := h
  rw [unattended] at mid
  cases mid.unattended
  refine ⟨keeps.counted, keeps.fixed, keeps.skipped, keeps.agree, keeps.bounded, keeps.skipped_le,
    ?_⟩
  intro status
  apply keeps.spent
  rw [closingReport_exhausted_iff] at status ⊢
  exact status

theorem unattended_keepsBudget {budget : Int} {quiet : Bool} {setup : Setup SkipCounts}
    {world : World} {moves : List (Move SkipCounts)} {point : Run SkipCounts}
    (unattended : setup.operator = .automatic budget quiet)
    (h : Stands setup (.start [] world) moves point) : KeepsBudget budget moves point := by
  obtain ⟨run, reached, hpoint⟩ := h
  have keeps := KeepsBudget.of_books (.of_reaches unattended reached)
    (.of_reaches unattended reached)
  rcases hpoint with rfl | ⟨fault, hfault⟩
  · exact keeps
  · exact keeps.of_interrupted unattended (step_fault hfault)

/-- A project with one finding, in a file that is not there. -/
def lostFile : World :=
  let report := "[\x7b\"filePath\":\"/w/a.js\",\"messages\":[\x7b\"ruleId\":\"no-var\"\x7d]\x7d]"
  { World.empty with scans := [⟨.finished 1 report "", []⟩] }

/-- A setup with an oracle that has no time to answer, and one skip per pair. -/
def hastySetup : Setup SkipCounts where
  operator := .automatic 1 true
  analyzer := ⟨".", ["eslint"], .seconds (.finite false 300 0)⟩
  channel := ⟨⟨"claude-code", .schemaAgent, "haiku", [], "", "claude"⟩, "m", .wholeSeconds 0⟩
  config := "eslint.config.js"
  target := "."
  window := 10

theorem unattended_keepsBudget_lostFile :
    ∃ moves point, Stands hastySetup (.start [] lostFile) moves point ∧ moves.length = 7 ∧
      KeepsBudget 1 moves point := by
  obtain ⟨moves, point, reached, hpassages⟩ := course_reaches hastySetup [] lostFile
  have hlength : (course hastySetup [] lostFile).passages.length = 7 := by decide +kernel
  rw [hpassages, List.length_reverse, List.length_map] at hlength
  have stands : Stands hastySetup (.start [] lostFile) moves point := ⟨point, reached, .inl rfl⟩
  exact ⟨moves, point, stands, hlength, unattended_keepsBudget rfl stands⟩

end Loop
end LintRemedy
