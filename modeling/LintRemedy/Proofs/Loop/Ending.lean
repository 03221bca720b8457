import LintRemedy.Proofs.Loop.SkipBudget
import LintRemedy.Proofs.Patch.Replacement

/-!
This module contains the end of an unattended run in which nothing changes any more: the same
findings in every scan, and the same content in every file. The number of scans is bounded by the
two guards against repetition and by the skips that are left, unless a fix is applied that puts
back the code it takes: such a fix clears the skips of its pair.
-/

namespace LintRemedy
namespace Loop

variable {μ : Type}

def scans (moves : List (Move μ)) : Nat :=
  moves.countP (·.before.phase.state = .scan)

namespace Move

/-- Whether a move applies a fix that puts back the code it takes. -/
def isIdleFix (move : Move μ) : Bool :=
  match move.event, move.before.phase with
  | .actionDone, .present _ _ bundle =>
    move.before.report.totalFixed < move.after.report.totalFixed ∧
      bundle.fixes.head?.any (fun fix => fix.old = fix.new)
  | _, _ => false

/-- A move changes nothing that a scan or the oracle could see: a scan that does not fail has these
findings, and every content stays as it is. -/
def Steady (found : Aggregation) (move : Move μ) : Prop :=
  (move.before.phase = .scan →
    move.event = .scanFailed ∨ move.after.report.lastResult = some found) ∧
  ∀ key, move.after.talk.world.files.content? key = move.before.talk.world.files.content? key

end Move

/-- The number of fixes in a history that put back the code they take. -/
def idleFixes (moves : List (Move μ)) : Nat :=
  moves.countP Move.isIdleFix

theorem scans_cons (move : Move μ) (moves : List (Move μ)) :
    scans (move :: moves) = scans moves + if move.before.phase.state = .scan then 1 else 0 := by
  unfold scans
  rw [List.countP_cons]
  simp only [decide_eq_true_eq]

theorem idleFixes_cons (move : Move μ) (moves : List (Move μ)) :
    idleFixes (move :: moves) = idleFixes moves + if move.isIdleFix then 1 else 0 := by
  unfold idleFixes
  rw [List.countP_cons]

/-- The pairs of a file and a rule that findings offer. -/
def openPairs (found : Aggregation) : Finset FileRule :=
  (RuleGroup.pairs found.selectable).toFinset

/-- The number of scans that come of findings that the analyzer may repair. -/
def repairScans (found : Aggregation) (run : Run μ) : Int :=
  if 0 < found.summary.fixable ∧ run.repairSummary ≠ some found.summary then 1 else 0

/-- The number of scans that come of selecting. -/
def selectionScans (budget : Int) (found : Aggregation) (run : Run SkipCounts) : Int :=
  if found.selectable = [] then if run.idleSummary = some found.summary then 0 else 1
  else run.memory.remaining budget (openPairs found)

/-- The number of scans from a phase on, with those that come of repairs and of selecting. -/
def Phase.scansLeft (repair selection : Int) : Phase → Int
  | scan => 1 + repair + selection
  | repairOffered _ => 1 + selection
  | hasFindings _ | selectRule _ | gather .. | present .. => repair + selection
  | parseError _ | clean | done | quit => 0

/-- The number of scans that are still to come at most, as long as nothing changes. -/
def scansLeft (budget : Int) (found : Aggregation) (run : Run SkipCounts) : Int :=
  run.phase.scansLeft (repairScans found run) (selectionScans budget found run)

/-- The number of moves until the next scan, or until the end. -/
def Phase.movesToScan : Phase → Nat
  | hasFindings _ => 5
  | repairOffered _ => 4
  | selectRule _ => 3
  | gather .. => 2
  | present .. | parseError _ | clean => 1
  | scan | done | quit => 0

/-- A run is about these findings and no others. -/
structure About (found : Aggregation) (run : Run μ) : Prop where
  same : ∀ other, run.phase.found? = some other → other = found
  pair : ∀ pair, run.phase.pair? = some pair → pair ∈ openPairs found

section Bounds

variable {budget : Int} {found : Aggregation} {moves : List (Move SkipCounts)}
  {run : Run SkipCounts}

theorem repairScans_nonneg (found : Aggregation) (run : Run μ) : 0 ≤ repairScans found run := by
  unfold repairScans
  split <;> omega

theorem repairScans_le (found : Aggregation) (run : Run μ) : repairScans found run ≤ 1 := by
  unfold repairScans
  split <;> omega

theorem Books.remaining_nonneg (books : Books budget moves run) (hbudget : 0 ≤ budget)
    (pairs : Finset FileRule) : 0 ≤ run.memory.remaining budget pairs := by
  apply SkipCounts.remaining_nonneg
  intro pair
  have hcount := books.bounded pair
  rw [max_eq_left hbudget] at hcount
  exact hcount

theorem selectionScans_nonneg (books : Books budget moves run) (hbudget : 0 ≤ budget)
    (found : Aggregation) : 0 ≤ selectionScans budget found run := by
  unfold selectionScans
  split
  · split <;> omega
  · exact books.remaining_nonneg hbudget _

theorem selectionScans_le (books : Books budget moves run) :
    selectionScans budget found run ≤ max 1 (budget * (openPairs found).card) := by
  unfold selectionScans
  split
  · split <;> omega
  · have hleft : run.memory.remaining budget (openPairs found) ≤
        budget * (openPairs found).card := SkipCounts.remaining_le books.nonneg
    omega

theorem scansLeft_nonneg (books : Books budget moves run) (hbudget : 0 ≤ budget)
    (found : Aggregation) : 0 ≤ scansLeft budget found run := by
  have hrepair := repairScans_nonneg found run
  have hselection := selectionScans_nonneg books hbudget found
  unfold scansLeft Phase.scansLeft
  split <;> omega

theorem scansLeft_of_phase {phase : Phase} (h : run.phase = phase) :
    scansLeft budget found run =
      phase.scansLeft (repairScans found run) (selectionScans budget found run) := by
  unfold scansLeft
  rw [h]

theorem ne_nil_of_mem_openPairs {pair : FileRule} (h : pair ∈ openPairs found) :
    found.selectable ≠ [] := by
  intro hnil
  unfold openPairs at h
  rw [hnil] at h
  cases h

theorem selectionScans_of_ne_nil (h : found.selectable ≠ []) :
    selectionScans budget found run = run.memory.remaining budget (openPairs found) := by
  unfold selectionScans
  rw [if_neg h]

theorem repairScans_of_eq (h : run.repairSummary = some found.summary) :
    repairScans found run = 0 := by
  unfold repairScans
  rw [if_neg (fun changed => changed.2 h)]

theorem scansLeft_le (books : Books budget moves run) (phase : run.phase = .scan) :
    scansLeft budget found run ≤ 2 + max 1 (budget * (openPairs found).card) := by
  have hrepair := repairScans_le found run
  have hselection : selectionScans budget found run ≤ max 1 (budget * (openPairs found).card) :=
    selectionScans_le books
  rw [scansLeft_of_phase phase]
  change 1 + repairScans found run + selectionScans budget found run ≤ _
  omega

end Bounds

variable {budget : Int} {quiet : Bool} {setup : Setup SkipCounts} {found : Aggregation}
  {moves : List (Move SkipCounts)} {run after : Run SkipCounts} {event : Event}

theorem About.step (about : About found run) (books : Books budget moves run)
    (unattended : setup.operator = .automatic budget quiet)
    (steady : Move.Steady found ⟨run, event, after⟩) (h : Transition setup run event after) :
    About found after := by
  constructor
  · intro other hother
    cases h with
    | issuesFound phase =>
      cases hother
      rcases steady.1 phase with hfailed | hfound
      · cases hfailed
      · cases hfound
        rfl
    | goOn phase decided =>
      rw [unattended] at decided
      cases (Operator.passParseErrors_yields decided).1
    | fixablePresent phase | noneFixable phase | repairDeclined phase | repairFailed phase =>
      apply about.same
      rw [phase]
      exact hother
    | _ => cases hother
  · intro pair hpair
    cases (h.entry unattended books.targeted).1 with
    | none _ hidle =>
      rcases hidle with hnone | hsame
      · rw [hnone] at hpair
        cases hpair
      · rw [hsame] at hpair
        exact about.pair pair hpair
    | taken _ phase taken occurs =>
      rw [taken] at hpair
      cases hpair
      rw [about.same _ (congrArg Phase.found? phase)] at occurs
      exact List.mem_toFinset.2 occurs
    | failed _ _ phase | fixed _ _ phase =>
      rw [phase] at hpair
      cases hpair

theorem isIdleFix_of_steady (unattended : setup.operator = .automatic budget quiet)
    (h : Transition setup run event after) (hevent : event.endsWork)
    (steady : Move.Steady found ⟨run, event, after⟩)
    (grown : after.report.totalFixed = run.report.totalFixed + 1) :
    Move.isIdleFix ⟨run, event, after⟩ := by
  cases h with
  | noBundle =>
    change run.report.totalFixed = _ at grown
    omega
  | actionDone phase decided kind performed =>
    rw [unattended] at decided
    obtain ⟨before, behind, hbefore, performed, hbehind, _⟩ := performed
    change run.report.totalFixed + _ = _ at grown
    rcases perform_unattended decided performed with ⟨hfixed, _, fix, hhead, hreplace⟩ | ⟨hfixed, _⟩
    · -- The files are the same after the fix, so it has put back what it has taken.
      have hidle : fix.old = fix.new := by
        apply Patch.old_eq_new_of_unchanged hreplace
        intro key
        rw [hbefore.files_eq, ← hbehind.files_eq]
        exact steady.2 key
      unfold Move.isIdleFix
      dsimp only
      rw [phase]
      dsimp only
      rw [hhead, hfixed]
      simp [hidle]
    · omega
  | _ => cases hevent

/-- The end of work on a pair leads to a scan, which a skip pays for. A fix does not pay, and it
gives the skips of its pair back. -/
theorem scansLeft_of_endsWork (about : About found run) (books : Books budget moves run)
    (unattended : setup.operator = .automatic budget quiet)
    (h : Transition setup run event after) (hevent : event.endsWork)
    (steady : Move.Steady found ⟨run, event, after⟩) :
    scansLeft budget found after ≤ scansLeft budget found run +
      budget * (if Move.isIdleFix ⟨run, event, after⟩ then 1 else 0 : Nat) := by
  have hbefore : scansLeft budget found run =
      repairScans found run + selectionScans budget found run := by
    cases h with
    | noBundle phase | actionDone phase => exact scansLeft_of_phase phase
    | _ => cases hevent
  have hrepair : repairScans found after = repairScans found run := by
    cases h with
    | noBundle | actionDone => rfl
    | _ => cases hevent
  cases (h.entry unattended books.targeted).1 with
  | none hnot => exact (hnot.2 hevent).elim
  | taken hselected =>
    rw [hselected] at hevent
    cases hevent
  | failed _ work phase memory fixed =>
    have hopen := about.pair _ work
    have hsome := ne_nil_of_mem_openPairs hopen
    have hidle : ¬ Move.isIdleFix ⟨run, event, after⟩ := by
      unfold Move.isIdleFix
      split
      · rw [fixed]
        simp
      · exact Bool.false_ne_true
    rw [if_neg hidle, hbefore]
    rw [scansLeft_of_phase phase, hrepair, selectionScans_of_ne_nil hsome,
      selectionScans_of_ne_nil hsome, memory, SkipCounts.remaining_increase hopen]
    change 1 + _ + _ ≤ _
    omega
  | fixed _ work phase memory fixed =>
    have hopen := about.pair _ work
    have hsome := ne_nil_of_mem_openPairs hopen
    have hbelow := (books.working _ work).2
    -- The pair had less than its budget to give back, which leaves one for the scan.
    rw [if_pos (isIdleFix_of_steady unattended h hevent steady fixed), hbefore]
    rw [scansLeft_of_phase phase, hrepair, selectionScans_of_ne_nil hsome,
      selectionScans_of_ne_nil hsome, memory, SkipCounts.remaining_clear hopen]
    change 1 + _ + _ ≤ _
    omega

theorem scansLeft_scan (books : Books budget moves run) (hbudget : 0 ≤ budget)
    (phase : run.phase = .scan) (h : Transition setup run event after) :
    scansLeft budget found after + 1 ≤ scansLeft budget found run := by
  have hrepair := repairScans_nonneg found run
  have hselection := selectionScans_nonneg books hbudget found
  have hbefore : scansLeft budget found run =
      1 + repairScans found run + selectionScans budget found run :=
    scansLeft_of_phase phase
  cases h with
  | scanFailed | parseErrorsFound | noIssues =>
    change 0 + 1 ≤ _
    omega
  | issuesFound =>
    change repairScans found run + selectionScans budget found run + 1 ≤ _
    omega
  | _ =>
    rw [phase] at *
    contradiction

theorem scansLeft_move (about : About found run) (books : Books budget moves run)
    (hbudget : 0 ≤ budget) (unattended : setup.operator = .automatic budget quiet)
    (phase : run.phase ≠ .scan) (h : Transition setup run event after)
    (hevent : ¬ event.endsWork) : scansLeft budget found after ≤ scansLeft budget found run := by
  have hrepair := repairScans_nonneg found run
  have hselection := selectionScans_nonneg books hbudget found
  have hleft := scansLeft_nonneg books hbudget found
  cases h with
  | halt | finished | stalled | quitSelecting | exhausted | quitPresenting => exact hleft
  | scanFailed at_ | parseErrorsFound at_ | noIssues at_ | issuesFound at_ =>
    exact (phase at_).elim
  | noBundle | actionDone => exact (hevent rfl).elim
  | goOn at_ decided =>
    rw [unattended] at decided
    cases (Operator.passParseErrors_yields decided).1
  | followUp at_ decided kind =>
    rw [unattended] at decided
    rcases (Operator.act_yields decided).2 with ⟨_, rfl⟩ | ⟨_, rfl⟩
    · cases kind
    · cases kind
  | fixablePresent at_ fixable changed =>
    -- The summary is new to the guard, so a repair was still to come.
    cases about.same _ (congrArg Phase.found? at_)
    rw [scansLeft_of_phase at_]
    change 1 + selectionScans budget found run ≤ repairScans found run + selectionScans budget found run
    unfold repairScans
    rw [if_pos ⟨fixable, changed⟩]
  | noneFixable at_ | bundleReady at_ =>
    rw [scansLeft_of_phase at_]
    exact Int.le_refl _
  | repairDeclined at_ decided =>
    rw [unattended] at decided
    cases (Operator.allowRepair_yields decided).1
  | repairApplied at_ decided =>
    rw [unattended] at decided
    cases (Operator.allowRepair_yields decided).2
    cases about.same _ (congrArg Phase.found? at_)
    rw [scansLeft_of_phase at_, scansLeft_of_phase rfl, repairScans_of_eq rfl]
    exact Int.le_refl _
  | repairFailed at_ decided =>
    rw [unattended] at decided
    cases (Operator.allowRepair_yields decided).2
    cases about.same _ (congrArg Phase.found? at_)
    rw [scansLeft_of_phase at_, scansLeft_of_phase rfl, repairScans_of_eq rfl]
    change 0 + selectionScans budget found run ≤ 1 + selectionScans budget found run
    omega
  | nothingSelectable at_ none idle =>
    -- The scan that follows was allowed for, and with this summary there is no further one.
    cases about.same _ (congrArg Phase.found? at_)
    rw [scansLeft_of_phase at_, scansLeft_of_phase rfl]
    change 1 + repairScans found run + selectionScans budget found _ ≤ repairScans found run + _
    unfold selectionScans
    rw [if_pos none, if_pos none, if_pos rfl, if_neg idle]
    omega
  | ruleSelected at_ some decided =>
    rw [unattended] at decided
    cases (Operator.select_yields decided).1
    cases about.same _ (congrArg Phase.found? at_)
    rw [scansLeft_of_phase at_, scansLeft_of_phase rfl, selectionScans_of_ne_nil some,
      selectionScans_of_ne_nil some]
    exact Int.le_refl _

theorem scansLeft_step (about : About found run) (books : Books budget moves run)
    (hbudget : 0 ≤ budget) (unattended : setup.operator = .automatic budget quiet)
    (h : Transition setup run event after) (steady : Move.Steady found ⟨run, event, after⟩) :
    scansLeft budget found after + (if run.phase.state = .scan then 1 else 0 : Nat) ≤
      scansLeft budget found run +
        budget * (if Move.isIdleFix ⟨run, event, after⟩ then 1 else 0 : Nat) := by
  have hidle : 0 ≤ budget * (if Move.isIdleFix ⟨run, event, after⟩ then 1 else 0 : Nat) :=
    Int.mul_nonneg hbudget (Int.natCast_nonneg _)
  by_cases phase : run.phase = .scan
  · have hscan : scansLeft budget found after + 1 ≤ scansLeft budget found run :=
      scansLeft_scan books hbudget phase h
    rw [phase]
    change _ + 1 ≤ _
    omega
  · have hstate : run.phase.state ≠ .scan := by
      intro hstate
      generalize run.phase = current at phase hstate
      cases current with
      | scan => exact phase rfl
      | _ => cases hstate
    rw [if_neg hstate]
    by_cases hevent : event.endsWork
    · have hends := scansLeft_of_endsWork about books unattended h hevent steady
      omega
    · have hmove := scansLeft_move about books hbudget unattended phase h hevent
      omega

variable {world : World} {earlier : List (Move SkipCounts)} {start : Run SkipCounts}

/-- Every scan uses up one of those that were left, and an idle fix adds a budget of them. -/
theorem scansLeft_add_scans_le (unattended : setup.operator = .automatic budget quiet)
    (hbudget : 0 ≤ budget) (origin : Reaches setup (.start [] world) earlier start)
    (phase : start.phase = .scan) (h : Reaches setup start moves run)
    (steady : ∀ move ∈ moves, Move.Steady found move) :
    About found run ∧ scansLeft budget found run + scans moves ≤
      scansLeft budget found start + budget * idleFixes moves := by
  induction h with
  | here =>
    constructor
    · constructor
      · intro _ hother
        rw [phase] at hother
        cases hother
      · intro _ hpair
        rw [phase] at hpair
        cases hpair
    · change scansLeft budget found start + 0 ≤ scansLeft budget found start + budget * 0
      omega
  | @move moves run event after reached last ih =>
    obtain ⟨about, hscans⟩ := ih (fun move hmove => steady move (List.mem_cons_of_mem _ hmove))
    have books := Books.of_reaches unattended (origin.trans reached)
    have hsteady := steady _ List.mem_cons_self
    have htransition := step_transition last
    refine ⟨about.step books unattended hsteady htransition, ?_⟩
    have hstep := scansLeft_step about books hbudget unattended htransition hsteady
    rw [scans_cons, idleFixes_cons, Int.natCast_add, Int.natCast_add, Int.mul_add]
    dsimp only
    omega

/-- The number of scans from a scan on is bounded while nothing changes, up to idle fixes. -/
theorem scans_le (unattended : setup.operator = .automatic budget quiet) (hbudget : 0 ≤ budget)
    (origin : Reaches setup (.start [] world) earlier start) (phase : start.phase = .scan)
    (h : Reaches setup start moves run) (steady : ∀ move ∈ moves, Move.Steady found move) :
    scans moves ≤
      2 + max 1 (budget * (openPairs found).card) + budget * idleFixes moves := by
  have hleft := scansLeft_add_scans_le unattended hbudget origin phase h steady
  have hstart : scansLeft budget found start ≤ 2 + max 1 (budget * (openPairs found).card) :=
    scansLeft_le (Books.of_reaches unattended origin) phase
  have hrest := scansLeft_nonneg (Books.of_reaches unattended (origin.trans h)) hbudget found
  omega

theorem Move.scans_of_isIdleFix {move : Move μ} (h : move.isIdleFix) (moves : List (Move μ)) :
    scans (move :: moves) = scans moves := by
  rw [scans_cons, if_neg]
  · rfl
  · intro hstate
    unfold Move.isIdleFix at h
    split at h
    · next phase =>
      rw [phase] at hstate
      cases hstate
    · cases h

theorem idleFixes_eq_zero {moves : List (Move μ)} (h : ∀ move ∈ moves, ¬ move.isIdleFix) :
    idleFixes moves = 0 := by
  unfold idleFixes
  rw [List.countP_eq_zero]
  exact h

theorem scans_le_of_first (unattended : setup.operator = .automatic budget quiet)
    (hbudget : 0 ≤ budget) (origin : Reaches setup (.start [] world) earlier start)
    (phase : start.phase = .scan) (h : Reaches setup start moves run)
    (steady : ∀ move ∈ moves, Move.Steady found move)
    (first : ∀ move ∈ moves.tail, ¬ move.isIdleFix) :
    scans moves ≤ 2 + max 1 (budget * (openPairs found).card) := by
  by_cases hidle : ∃ move ∈ moves.head?, move.isIdleFix
  · -- The scans were all made before the idle fix.
    cases h with
    | here => cases hidle.choose_spec.1
    | @move moves run event after reached last =>
      obtain ⟨move, hmove, hidle⟩ := hidle
      cases hmove
      have hscans := scans_le unattended hbudget origin phase reached
        (fun move hmove => steady move (List.mem_cons_of_mem _ hmove))
      have hnone : idleFixes moves = 0 := idleFixes_eq_zero first
      rw [hnone] at hscans
      rw [Move.scans_of_isIdleFix hidle]
      omega
  · have hscans := scans_le unattended hbudget origin phase h steady
    rw [idleFixes_eq_zero] at hscans
    · omega
    · intro move hmove hbad
      cases moves with
      | nil => cases hmove
      | cons last rest =>
        rcases List.mem_cons.1 hmove with rfl | hrest
        · exact hidle ⟨move, rfl, hbad⟩
        · exact first move hrest hbad

theorem movesToScan_lt (unattended : setup.operator = .automatic budget quiet)
    (phase : run.phase ≠ .scan) (h : Transition setup run event after) :
    after.phase.movesToScan < run.phase.movesToScan := by
  cases h with
  | scanFailed at_ | parseErrorsFound at_ | noIssues at_ | issuesFound at_ =>
    exact (phase at_).elim
  | goOn at_ decided =>
    rw [unattended] at decided
    cases (Operator.passParseErrors_yields decided).1
  | followUp at_ decided kind =>
    rw [unattended] at decided
    rcases (Operator.act_yields decided).2 with ⟨_, rfl⟩ | ⟨_, rfl⟩
    · cases kind
    · cases kind
  | _ =>
    rw [‹run.phase = _›]
    exact Nat.le_of_ble_eq_true rfl

theorem length_add_movesToScan_le (unattended : setup.operator = .automatic budget quiet)
    (phase : start.phase = .scan) (h : Reaches setup start moves run) :
    moves.length + run.phase.movesToScan ≤ 6 * scans moves := by
  induction h with
  | here =>
    rw [phase]
    exact Nat.le_refl 0
  | @move moves run event after reached last ih =>
    have htransition := step_transition last
    rw [scans_cons, List.length_cons]
    by_cases at_ : run.phase = .scan
    · have hfive : after.phase.movesToScan ≤ 5 := by
        unfold Phase.movesToScan
        split <;> omega
      rw [at_] at ih ⊢
      change _ + 0 ≤ _ at ih
      change _ ≤ 6 * (scans moves + 1)
      omega
    · have hlt := movesToScan_lt unattended at_ htransition
      omega

/-- After a passage the files are those of a world, and the last scan has these findings. -/
def Passage.isUnchanged (world : World) (found : Aggregation) (passage : Passage μ) : Bool :=
  passage.after.talk.world.files = world.files ∧ passage.after.report.lastResult = some found

theorem steady_of_course {setup : Setup μ} {memory : μ} {world : World}
    (ends : (course setup memory world).passages.getLast?.any (·.after.phase.state.isFinal))
    (unchanged : (course setup memory world).passages.all (Passage.isUnchanged world found)) :
    ∀ moves run, Reaches setup (.start memory world) moves run →
      ∀ move ∈ moves, Move.Steady found move := by
  obtain ⟨all, last, reached, final, hpassages⟩ := course_history ends
  rw [hpassages, List.all_reverse, List.all_map, List.all_eq_true] at unchanged
  have hafter : ∀ move ∈ all, move.after.talk.world.files = world.files ∧
      move.after.report.lastResult = some found := by
    intro move hmove
    exact of_decide_eq_true (unchanged move hmove)
  have hbefore : ∀ move ∈ all, move.before.talk.world.files = world.files :=
    reached.before_of_after (fun run => run.talk.world.files = world.files) rfl
      (fun move hmove => (hafter move hmove).1)
  intro moves run hmoves move hmove
  have hall := (reached.suffix_of_isFinal final hmoves).subset hmove
  constructor
  · intro _
    exact .inr (hafter move hall).2
  · intro key
    rw [(hafter move hall).1, hbefore move hall]

/-- A run in which nothing changes any more is over after a bounded number of scans, unless a fault
ends it or a fix is applied that puts back the code it takes. -/
theorem unattended_ends (unattended : setup.operator = .automatic budget quiet)
    (hbudget : 0 ≤ budget) (origin : Reaches setup (.start [] world) earlier start)
    (phase : start.phase = .scan)
    (steady : ∀ moves run, Reaches setup start moves run →
      ∀ move ∈ moves, Move.Steady found move) :
    ∃ moves last, Reaches setup start moves last ∧
      scans moves ≤ 2 + max 1 (budget * (openPairs found).card) ∧
      (last.phase.state.isFinal ∨ (∃ fault left, step setup last = .error fault left) ∨
        ∃ move ∈ moves, move.isIdleFix) := by
  have hcard := Int.mul_nonneg hbudget (Int.natCast_nonneg (openPairs found).card)
  -- There are at most six moves from scan to scan, so a run of more moves would have too many scans.
  obtain ⟨moves, last, reached, hearlier, hstop⟩ := Reaches.goes_on setup start
    (fun move => move.isIdleFix) (6 * (2 + max 1 (budget * (openPairs found).card)).toNat + 1)
  have hscans := scans_le_of_first unattended hbudget origin phase reached (steady _ _ reached)
    hearlier
  refine ⟨moves, last, reached, hscans, ?_⟩
  rcases hstop with hidle | hfinal | hfault | hlength
  · exact .inr (.inr hidle)
  · exact .inl hfinal
  · exact .inr (.inl hfault)
  · have hmoves := length_add_movesToScan_le unattended phase reached
    omega

/-- What every scan of a project with one finding finds. -/
def oneFinding : Aggregation :=
  .ofFindings [⟨some "no-var", .warning, "/w/a.js", 1, 1, "", false, none⟩]

theorem unattended_ends_lostFile :
    ∃ moves last, Reaches hastySetup (.start [] lostFile) moves last ∧
      (scans moves : Int) ≤ 2 + max 1 (1 * (openPairs oneFinding).card) ∧
      (last.phase.state.isFinal ∨ (∃ fault left, step hastySetup last = .error fault left) ∨
        ∃ move ∈ moves, move.isIdleFix) := by
  have ends : (course hastySetup [] lostFile).passages.getLast?.any
      (·.after.phase.state.isFinal) := by decide +kernel
  have unchanged : (course hastySetup [] lostFile).passages.all
      (Passage.isUnchanged lostFile oneFinding) := by decide +kernel
  have unattended : hastySetup.operator = .automatic 1 true := rfl
  exact unattended_ends unattended (by decide) .here rfl (steady_of_course ends unchanged)

/-- A project with one finding, and an oracle that gives the code back as it is. -/
def echoWorld : World :=
  let said := fun (answer : String) => OracleAnswer.mk (.finished 0 (.text answer) (.text "")) []
  let replies :=
    [said "\x7b\"problem_description\":\"p\"\x7d", said "\x7b\"modified_config\":\"c\"\x7d",
      said "\x7b\"start_line\":1,\"end_line\":1,\"fixed_code\":\"var a;\"\x7d"]
  { lostFile with
    files := (Files.empty ["w"]).set ["w", "a.js"] (.text "var a;\n")
    programs := ["claude"]
    replies := replies ++ replies ++ replies }

/-- A setup with one skip per pair and an oracle that has the time to answer. -/
def patientSetup : Setup SkipCounts :=
  { hastySetup with channel.timeLimit := .wholeSeconds 60 }

theorem echoWorld_goes_on :
    (∀ moves run, Reaches patientSetup (.start [] echoWorld) moves run →
      ∀ move ∈ moves, Move.Steady oneFinding move) ∧
      ¬ ∃ moves run, Reaches patientSetup (.start [] echoWorld) moves run ∧
        run.phase.state.isFinal ∧
        (scans moves : Int) ≤ 2 + max 1 (1 * (openPairs oneFinding).card) := by
  have ends : (course patientSetup [] echoWorld).passages.getLast?.any
      (·.after.phase.state.isFinal) := by decide +kernel
  refine ⟨steady_of_course ends (by decide +kernel), ?_⟩
  rintro ⟨moves, run, hmoves, final, hscans⟩
  obtain ⟨all, last, reached, final', hpassages⟩ := course_history ends
  have hcount : (course patientSetup [] echoWorld).passages.countP (·.state = .scan) = 5 := by
    decide +kernel
  rw [hpassages, List.countP_reverse, List.countP_map] at hcount
  have hfive : scans all = 5 := hcount
  rw [reached.eq_of_isFinal final' hmoves final, hfive] at hscans
  exact absurd hscans (by decide +kernel)

end Loop
end LintRemedy
