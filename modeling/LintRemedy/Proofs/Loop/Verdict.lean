import LintRemedy.Proofs.Aggregation.Partition
import LintRemedy.Proofs.Loop.Ledger
import LintRemedy.Proofs.Loop.RepairOffer

/-!
This module contains how runs end. The last move of a run that is over decides about its status: a
scan that has failed, parse errors that the operator declines, an operator that quits or gives up,
or findings of which nothing is left to do. No other move of the run is of one of these kinds.
-/

namespace LintRemedy
namespace Loop

variable {μ : Type}

namespace Run

/-- The scan that comes next in a run fails. -/
def Fails (setup : Setup μ) (run : Run μ) : Prop :=
  run.phase = .scan ∧ ∃ failure, run.scanned setup = .error (.scanFailed failure)

/-- The operator declines to go on in spite of files that could not be parsed. -/
def Declines (setup : Setup μ) (run : Run μ) : Prop :=
  ∃ found world, run.phase = .parseError found ∧
    run.decided? (setup.operator.passParseErrors found.parseErrors) = some (false, world)

/-- The operator answers the question what comes next. -/
def Selects (setup : Setup μ) (run : Run μ) (choice : Choice) : Prop :=
  ∃ found world, run.phase = .selectRule found ∧ found.selectable ≠ [] ∧
    run.decided? (setup.operator.select found.selectable) = some (choice, world)

/-- The operator answers this question with neither a group nor the wish to quit. -/
def GivesUp (setup : Setup μ) (run : Run μ) : Prop :=
  run.Selects setup .exhausted ∨ run.Selects setup .nothing

/-- The operator quits, be it at a selection or at a bundle. -/
def Quits (setup : Setup μ) (run : Run μ) : Prop :=
  run.Selects setup .quit ∨ ∃ group file bundle action world,
    run.phase = .present group file bundle ∧
    run.decided? (setup.operator.act bundle) = some (action, world) ∧ action.kind = .quit

end Run

/-- The status of a run that ends with an event, if a run can end with it. -/
def Event.closing? : Event → Option RunStatus
  | scanFailed => some .scanFailed
  | halt => some .parseError
  | exhausted => some .exhausted
  | finished | stalled => some .done
  | quitRequested => some .quit
  | _ => none

theorem Event.closing?_iff (event : Event) :
    (event.closing? = some .scanFailed ↔ event = .scanFailed) ∧
      (event.closing? = some .parseError ↔ event = .halt) ∧
      (event.closing? = some .exhausted ↔ event = .exhausted) ∧
      (event.closing? = some .quit ↔ event = .quitRequested) ∧
      event.closing? ≠ some .running := by
  cases event <;> decide

variable {setup : Setup μ} {first run after : Run μ} {event : Event} {memory : μ} {world : World}
  {moves earlier : List (Move μ)} {move : Move μ}

theorem Transition.isFinal_iff (h : Transition setup run event after) :
    after.phase.state.isFinal ↔ event.closing?.isSome := by
  cases h <;> exact Iff.rfl

theorem Transition.closing (h : Transition setup run event after)
    (final : after.phase.state.isFinal) (status : run.report.status = .running) :
    event.closing? = some (closingReport after).status := by
  unfold closingReport
  cases h with
  | scanFailed | halt | exhausted => rfl
  | finished | stalled | quitSelecting | quitPresenting =>
    dsimp only
    rw [if_pos status]
    rfl
  | _ => cases final

theorem Transition.done_iff (h : Transition setup run event after) :
    event.closing? = some .done ↔ after.phase = .done := by
  cases h with
  | finished | stalled => exact ⟨fun _ => rfl, fun _ => rfl⟩
  | _ => exact ⟨nofun, nofun⟩

theorem Transition.status_eq (h : Transition setup run event after)
    (unended : ¬ after.phase.state.isFinal) : after.report.status = run.report.status := by
  cases h with
  | scanFailed | halt | exhausted => exact (unended rfl).elim
  | _ => rfl

theorem Reaches.status_running (h : Reaches setup (.start memory world) moves run)
    (unended : ¬ run.phase.state.isFinal) : run.report.status = .running := by
  induction h with
  | here => rfl
  | move _ last ih =>
    have transition := step_transition last
    rw [transition.status_eq unended]
    exact ih transition.not_isFinal

/-- Nothing comes after a move that ends a run. -/
theorem Reaches.eq_cons_of_isFinal (h : Reaches setup first moves run) (hmove : move ∈ moves)
    (final : move.after.phase.state.isFinal) : ∃ earlier, moves = move :: earlier := by
  induction h with
  | here => cases hmove
  | @move moves run event after reached last ih =>
    rcases List.mem_cons.1 hmove with rfl | hmove
    · exact ⟨moves, rfl⟩
    · obtain ⟨earlier, rfl⟩ := ih hmove
      have same := reached.head_after move rfl
      rw [same] at final
      exact ((step_transition last).not_isFinal final).elim

/-! ### What the events say -/

theorem fails_iff (h : step setup run = .ok (some event) after) :
    event = .scanFailed ↔ run.Fails setup := by
  constructor
  · rintro rfl
    cases step_transition h with
    | scanFailed phase =>
      rcases step_scanned h phase with ⟨failure, scanned, _⟩ | ⟨_, _, success, _⟩
      · exact ⟨phase, failure, scanned⟩
      · exact (success rfl).elim
  · rintro ⟨phase, failure, failed⟩
    rcases step_scanned h phase with ⟨_, _, hevent, _⟩ | ⟨_, found, _⟩
    · exact hevent
    · rw [found] at failed
      cases failed

theorem declines_iff (h : step setup run = .ok (some event) after) :
    event = .halt ↔ run.Declines setup := by
  constructor
  · rintro rfl
    cases step_transition h with
    | halt phase =>
      obtain ⟨world, decided⟩ := (step_declined_iff h phase).1 rfl
      exact ⟨_, world, phase, decided⟩
  · rintro ⟨_, world, phase, decided⟩
    exact (step_declined_iff h phase).2 ⟨world, decided⟩

/-- The answer to the question what comes next decides about the event. -/
theorem event_of_selects {choice : Choice} (h : step setup run = .ok (some event) after)
    (selects : run.Selects setup choice) : event = choice.event := by
  obtain ⟨_, _, phase, some, decided⟩ := selects
  obtain ⟨_, _, decided', hevent⟩ := step_selected h phase some
  rw [decided'] at decided
  cases decided
  exact hevent

theorem givesUp_iff (h : step setup run = .ok (some event) after) :
    event = .exhausted ↔ run.GivesUp setup := by
  constructor
  · rintro rfl
    cases step_transition h with
    | exhausted phase some =>
      obtain ⟨choice, world, decided, hevent⟩ := step_selected h phase some
      have selects : run.Selects setup choice :=
        ⟨_, world, phase, some, decided⟩
      cases choice with
      | exhausted => exact .inl selects
      | nothing => exact .inr selects
      | quit | chosen => cases hevent
  · rintro (selects | selects)
    · exact event_of_selects h selects
    · exact event_of_selects h selects

theorem quits_iff (h : step setup run = .ok (some event) after) :
    event = .quitRequested ↔ run.Quits setup := by
  constructor
  · rintro rfl
    cases step_transition h with
    | quitSelecting phase some =>
      obtain ⟨choice, world, decided, hevent⟩ := step_selected h phase some
      cases choice with
      | quit => exact .inl ⟨_, world, phase, some, decided⟩
      | exhausted | nothing | chosen => cases hevent
    | quitPresenting phase =>
      obtain ⟨action, world, decided, presented⟩ := step_presented h phase
      cases presented with
      | quit kind => exact .inr ⟨_, _, _, action, world, phase, decided, kind⟩
  · rintro (selects | ⟨_, _, _, _, _, phase, decided, kind⟩)
    · exact event_of_selects h selects
    · obtain ⟨_, _, decided', presented⟩ := step_presented h phase
      rw [decided'] at decided
      cases decided
      cases presented with
      | quit => rfl
      | asked kind' =>
        rw [kind] at kind'
        cases kind'
      | performed kind' => exact (kind'.1 kind).elim

/-! ### Nothing left to do -/

/-- What the last scan in a history has come to. -/
def lastScanned? (setup : Setup μ) (moves : List (Move μ)) : Option (Except Fault Aggregation) :=
  (lastScan? moves).map (·.before.scanned setup)

/-- The last scan in a history has found nothing. -/
def LastEmpty (setup : Setup μ) (moves : List (Move μ)) : Prop :=
  lastScanned? setup moves = some (.ok (.ofFindings []))

/-- The counts of a selection for which there is nothing to select from. -/
def Phase.idle? : Phase → Option Summary
  | selectRule found => if found.selectable.isEmpty then some found.summary else none
  | _ => none

/-- The selections in a history, the last one first: the counts of those for which there was nothing
to select from. -/
def selections (moves : List (Move μ)) : List (Option Summary) :=
  (moves.filter (·.before.phase.state = .selectRule)).map (·.before.phase.idle?)

/-- There was nothing to select from at the last two selections, and the counts were the same. -/
def IdleTwice (moves : List (Move μ)) : Prop :=
  ∃ summary earlier, selections moves = some summary :: some summary :: earlier

/-- A run is done when nothing is left to do, and not before. -/
structure Settled (setup : Setup μ) (moves : List (Move μ)) (run : Run μ) : Prop where
  idle : run.idleSummary = (selections moves).head?.join
  clean : run.phase = .clean → LastEmpty setup moves
  done : run.phase = .done → LastEmpty setup moves ∨ IdleTwice moves
  empty : LastEmpty setup moves → run.phase = .clean ∨ run.phase = .done
  idled : IdleTwice moves → run.phase = .done

section Moves

variable {found : Aggregation}

theorem lastScanned?_cons (h : run.phase = .scan) :
    lastScanned? setup (⟨run, event, after⟩ :: moves) = some (run.scanned setup) := by
  unfold lastScanned?
  rw [lastScan?_cons h]
  rfl

theorem lastEmpty_cons_of_ne (h : run.phase ≠ .scan) :
    LastEmpty setup (⟨run, event, after⟩ :: moves) ↔ LastEmpty setup moves := by
  unfold LastEmpty lastScanned?
  rw [lastScan?_cons_of_ne fun state => h (Phase.eq_scan state)]

theorem selections_cons (h : run.phase = .selectRule found) :
    selections (⟨run, event, after⟩ :: moves) =
      (if found.selectable.isEmpty then some found.summary else none) :: selections moves := by
  have selecting : run.phase.state = .selectRule := congrArg Phase.state h
  unfold selections
  rw [List.filter_cons_of_pos (by simpa using selecting), List.map_cons]
  dsimp only
  rw [h]
  rfl

theorem selections_cons_of_ne (h : run.phase.state ≠ .selectRule) :
    selections (⟨run, event, after⟩ :: moves) = selections moves := by
  unfold selections
  rw [List.filter_cons_of_neg (by simpa using h)]

theorem exists_findings (h : run.scanned setup = .ok found) : ∃ ds, found = .ofFindings ds := by
  unfold Run.scanned at h
  cases hscan : setup.analyzer.scan setup.target run.world with
  | ok found' world =>
    rw [hscan] at h
    cases h
    exact Analyzer.scan_eq_ok hscan
  | error fault world =>
    rw [hscan] at h
    cases h

end Moves

namespace Settled

theorem start (setup : Setup μ) (memory : μ) (world : World) :
    Settled setup [] (.start memory world) where
  idle := rfl
  clean := nofun
  done := nofun
  empty := nofun
  idled := nofun

/-- A scan: there is nothing to select from yet, and it is empty just if the run is clean then. -/
theorem scan (settled : Settled setup moves run) (phase : run.phase = .scan)
    (idle : after.idleSummary = run.idleSummary) (unended : after.phase ≠ .done)
    (clean : after.phase = .clean ↔ run.scanned setup = .ok (.ofFindings [])) :
    Settled setup (⟨run, event, after⟩ :: moves) after := by
  have selecting : run.phase.state ≠ .selectRule := by
    rw [phase]
    nofun
  have empty : LastEmpty setup (⟨run, event, after⟩ :: moves) ↔ after.phase = .clean := by
    unfold LastEmpty
    rw [lastScanned?_cons phase, Option.some.injEq, clean]
  constructor
  · rw [selections_cons_of_ne selecting, idle, settled.idle]
  · exact empty.2
  · exact fun done => (unended done).elim
  · exact fun h => .inl (empty.1 h)
  · intro idled
    unfold IdleTwice at idled
    rw [selections_cons_of_ne selecting] at idled
    have done := settled.idled idled
    rw [phase] at done
    cases done

/-- A selection with nothing to select from ends the run if it was the same before, and only
then. -/
theorem select {found : Aggregation} (settled : Settled setup moves run)
    (phase : run.phase = .selectRule found)
    (idle : after.idleSummary = if found.selectable.isEmpty then some found.summary else none)
    (clean : after.phase ≠ .clean)
    (done : after.phase = .done ↔
      found.selectable.isEmpty ∧ run.idleSummary = some found.summary) :
    Settled setup (⟨run, event, after⟩ :: moves) after := by
  have scanning : run.phase ≠ .scan := by
    rw [phase]
    nofun
  have twice : IdleTwice (⟨run, event, after⟩ :: moves) ↔
      found.selectable.isEmpty ∧ run.idleSummary = some found.summary := by
    unfold IdleTwice
    rw [selections_cons phase, settled.idle]
    constructor
    · rintro ⟨summary, earlier, h⟩
      obtain ⟨hfound, hearlier⟩ := List.cons.inj h
      split at hfound
      · next empty =>
        rw [hearlier, hfound]
        exact ⟨empty, rfl⟩
      · cases hfound
    · rintro ⟨empty, hhead⟩
      rw [if_pos empty]
      cases hearlier : selections moves with
      | nil =>
        rw [hearlier] at hhead
        cases hhead
      | cons newest earlier =>
        rw [hearlier] at hhead
        have same : newest = some found.summary := hhead
        rw [same]
        exact ⟨found.summary, earlier, rfl⟩
  constructor
  · rw [selections_cons phase, idle]
    rfl
  · exact fun h => (clean h).elim
  · exact fun h => .inr (twice.2 (done.1 h))
  · intro empty
    rw [lastEmpty_cons_of_ne scanning] at empty
    rcases settled.empty empty with h | h
    all_goals
      rw [phase] at h
      cases h
  · exact fun h => done.2 (twice.1 h)

/-- Any other move: a clean run is done by it, and no other one is. -/
theorem other (settled : Settled setup moves run) (scanning : run.phase ≠ .scan)
    (selecting : run.phase.state ≠ .selectRule) (unended : run.phase ≠ .done)
    (idle : after.idleSummary = run.idleSummary) (clean : after.phase ≠ .clean)
    (done : after.phase = .done ↔ run.phase = .clean) :
    Settled setup (⟨run, event, after⟩ :: moves) after := by
  constructor
  · rw [selections_cons_of_ne selecting, idle, settled.idle]
  · exact fun h => (clean h).elim
  · intro h
    rw [lastEmpty_cons_of_ne scanning]
    exact .inl (settled.clean (done.1 h))
  · intro empty
    rw [lastEmpty_cons_of_ne scanning] at empty
    exact .inr (done.2 ((settled.empty empty).resolve_right unended))
  · intro idled
    unfold IdleTwice at idled
    rw [selections_cons_of_ne selecting] at idled
    exact (unended (settled.idled idled)).elim

theorem step (settled : Settled setup moves run)
    (h : step setup run = .ok (some event) after) :
    Settled setup (⟨run, event, after⟩ :: moves) after := by
  cases step_transition h with
  | scanFailed phase scanned =>
    have failed : run.scanned setup = _ := Talk.Leads.came_scan_of_attempt scanned
    refine settled.scan phase rfl nofun ?_
    rw [failed]
    exact ⟨nofun, nofun⟩
  | parseErrorsFound phase scanned unparsed =>
    have found : run.scanned setup = _ := Talk.Leads.came_scan scanned
    refine settled.scan phase rfl nofun ?_
    rw [found]
    refine ⟨nofun, ?_⟩
    rintro ⟨⟩
    cases unparsed
  | noIssues phase scanned _ clean =>
    have found : run.scanned setup = _ := Talk.Leads.came_scan scanned
    refine settled.scan phase rfl nofun ?_
    obtain ⟨ds, rfl⟩ := exists_findings found
    have empty : ds = [] := List.eq_nil_of_length_eq_zero (Int.ofNat.inj clean)
    rw [found, empty]
    exact ⟨fun _ => rfl, fun _ => rfl⟩
  | issuesFound phase scanned _ unclean =>
    have found : run.scanned setup = _ := Talk.Leads.came_scan scanned
    refine settled.scan phase rfl nofun ?_
    rw [found]
    refine ⟨nofun, ?_⟩
    rintro ⟨⟩
    exact (unclean rfl).elim
  | stalled phase none idle =>
    rw [← List.isEmpty_iff] at none
    refine settled.select phase ?_ nofun ?_
    · rw [if_pos none]
      exact idle
    · exact ⟨fun _ => ⟨none, idle⟩, fun _ => rfl⟩
  | nothingSelectable phase none idle =>
    rw [← List.isEmpty_iff] at none
    refine settled.select phase (if_pos none).symm nofun ?_
    exact ⟨nofun, fun h => (idle h.2).elim⟩
  | quitSelecting phase some | ruleSelected phase some | exhausted phase some =>
    rw [Ne, ← List.isEmpty_iff] at some
    refine settled.select phase (if_neg some).symm nofun ?_
    exact ⟨nofun, fun h => (some h.1).elim⟩
  | finished phase =>
    refine settled.other ?_ ?_ ?_ rfl nofun ⟨fun _ => phase, fun _ => rfl⟩
    all_goals
      rw [phase]
      nofun
  | _ =>
    have phase := ‹run.phase = _›
    refine settled.other ?_ ?_ ?_ rfl nofun ⟨nofun, ?_⟩
    all_goals
      rw [phase]
      nofun

theorem of_reaches (h : Reaches setup (.start memory world) moves run) :
    Settled setup moves run := by
  induction h with
  | here => exact start setup memory world
  | move _ last ih => exact ih.step last

end Settled

end Loop
end LintRemedy
