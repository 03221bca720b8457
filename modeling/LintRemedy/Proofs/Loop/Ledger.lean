import LintRemedy.Proofs.Loop.Answer
import LintRemedy.Proofs.Loop.Ending
import Mathlib.Algebra.GroupWithZero.Nat

/-!
This module contains the ledger of a run: what its report says is what was done. Every scan that is
started, every operation on a file and everything that is passed over is counted once, and the
record of the program agrees with that, entry by entry.
-/

namespace LintRemedy
namespace Loop

variable {μ : Type}

open LintRemedy.Action

/-- The performances in a history, the last one first. -/
def performances (setup : Setup μ) (moves : List (Move μ)) : List Performance :=
  moves.filterMap (·.before.performance? setup)

/-- The operations on files in a history, with whether they have changed their files. -/
def operationResults (setup : Setup μ) (moves : List (Move μ)) : Patch.Results :=
  (performances setup moves).flatMap (·.results setup.config)

/-- The number of chosen fixes in a history that are passed over as incomplete. -/
def passedOver (setup : Setup μ) (moves : List (Move μ)) : Nat :=
  ((performances setup moves).map fun p => incomplete p.bundle p.action).sum

/-- The number of times in a history that the operator skips a bundle. -/
def skipActions (setup : Setup μ) (moves : List (Move μ)) : Nat :=
  (performances setup moves).countP (·.action.kind = .skip)

/-- The number of selections in a history for which there was no bundle. -/
def emptyHanded (moves : List (Move μ)) : Nat :=
  moves.countP (·.event = .noBundle)

/-- What a scan has found that has not failed. -/
def Move.scanned? (setup : Setup μ) (move : Move μ) : Option Aggregation :=
  if move.before.phase.state = .scan then (move.before.scanned setup).toOption else none

/-- What a move puts on the record of the program, apart from what the oracle is asked. -/
def Move.deeds (setup : Setup μ) (move : Move μ) : List Deed :=
  match move.before.phase with
  | .scan => [setup.analyzer.deed (Analyzer.scanArguments setup.target)]
  | .repairOffered _ =>
    if move.event = .repairDeclined then []
    else [setup.analyzer.deed (Analyzer.repairArguments setup.target)]
  | _ =>
    match move.before.performance? setup with
    | some performance => (performance.results setup.config).deeds
    | none => []

/-- The report of a run agrees with its history, and so does the record of the program. -/
structure Ledger (setup : Setup μ) (world : World) (moves : List (Move μ)) (run : Run μ) :
    Prop where
  iterations : run.report.iterations = scans moves
  fixed : run.report.totalFixed = (operationResults setup moves).fixed
  skipped : run.report.totalSkipped = (operationResults setup moves).failed
    + passedOver setup moves + emptyHanded moves + skipActions setup moves
  lastResult : run.report.lastResult = moves.findSome? (·.scanned? setup)
  own : run.world.own = world.own ++ moves.reverse.flatMap (·.deeds setup)

variable {setup : Setup μ} {run after : Run μ} {event : Event} {memory : μ} {world : World}
  {moves : List (Move μ)} {performance : Performance}

/-! ### What is performed -/

theorem performance?_eq_none (h : ∀ group file bundle, run.phase ≠ .present group file bundle) :
    run.performance? setup = none := by
  unfold Run.performance?
  split
  · next group file bundle phase => exact (h group file bundle phase).elim
  · rfl

theorem performance?_of_presented {group : RuleGroup} {file : Option String} {bundle : Bundle}
    {action : Action} {decided : World} (phase : run.phase = .present group file bundle)
    (h : run.decided? (setup.operator.act bundle) = some (action, decided)) :
    run.performance? setup = if action.kind = .quit ∨ action.kind = .ask then none
      else some ⟨group, bundle, action, decided⟩ := by
  unfold Run.performance?
  rw [phase]
  dsimp only
  rw [h]

section Moves

theorem performances_cons_none (h : run.performance? setup = none) :
    performances setup (⟨run, event, after⟩ :: moves) = performances setup moves :=
  List.filterMap_cons_none h

theorem operationResults_cons_none (h : run.performance? setup = none) :
    operationResults setup (⟨run, event, after⟩ :: moves) = operationResults setup moves := by
  unfold operationResults
  rw [performances_cons_none h]

theorem passedOver_cons_none (h : run.performance? setup = none) :
    passedOver setup (⟨run, event, after⟩ :: moves) = passedOver setup moves := by
  unfold passedOver
  rw [performances_cons_none h]

theorem skipActions_cons_none (h : run.performance? setup = none) :
    skipActions setup (⟨run, event, after⟩ :: moves) = skipActions setup moves := by
  unfold skipActions
  rw [performances_cons_none h]

theorem performances_cons_some (h : run.performance? setup = some performance) :
    performances setup (⟨run, event, after⟩ :: moves) = performance :: performances setup moves :=
  List.filterMap_cons_some h

theorem operationResults_cons_some (h : run.performance? setup = some performance) :
    operationResults setup (⟨run, event, after⟩ :: moves) =
      performance.results setup.config ++ operationResults setup moves := by
  unfold operationResults
  rw [performances_cons_some h, List.flatMap_cons]

theorem emptyHanded_cons_of_ne (h : event ≠ .noBundle) :
    emptyHanded (⟨run, event, after⟩ :: moves) = emptyHanded moves := by
  unfold emptyHanded
  exact List.countP_cons_of_neg (by simpa using h)

theorem scans_cons_of_ne (h : run.phase ≠ .scan) :
    scans (⟨run, event, after⟩ :: moves) = scans moves := by
  rw [scans_cons, if_neg fun state => h (Phase.eq_scan state), Nat.add_zero]

theorem findSome?_scanned_cons_of_ne (h : run.phase ≠ .scan) :
    (⟨run, event, after⟩ :: moves).findSome? (·.scanned? setup) =
      moves.findSome? (·.scanned? setup) := by
  rw [List.findSome?_cons]
  unfold Move.scanned?
  rw [if_neg fun state => h (Phase.eq_scan state)]

theorem findSome?_scanned_cons (h : run.phase = .scan) :
    (⟨run, event, after⟩ :: moves).findSome? (·.scanned? setup) =
      (run.scanned setup).toOption.or (moves.findSome? (·.scanned? setup)) := by
  have scanned : Move.scanned? setup ⟨run, event, after⟩ = (run.scanned setup).toOption :=
    if_pos (congrArg Phase.state h)
  rw [List.findSome?_cons, scanned]
  cases (run.scanned setup).toOption <;> rfl

theorem scans_cons_of_eq (h : run.phase = .scan) :
    scans (⟨run, event, after⟩ :: moves) = scans moves + 1 := by
  have scanning : run.phase.state = .scan := congrArg Phase.state h
  rw [scans_cons, if_pos scanning]

end Moves

/-! ### The record of the program -/

theorem own_of_leads {α : Type} {talk talk' : Talk} {act : Act α} {a : α} {deeds : List Deed}
    (h : talk.Leads act a talk')
    (hact : ∀ world, (left (act world)).own = world.own ++ deeds) :
    talk'.own = talk.own ++ deeds := by
  obtain ⟨before, middle, hbefore, heq, hafter, _⟩ := h
  have hdeeds := hact before
  rw [heq] at hdeeds
  rw [Talk.own, hafter.own_eq, Talk.own, ← hbefore.own_eq]
  exact hdeeds

theorem own_of_attempt {α : Type} {talk talk' : Talk} {act : Act α} {outcome : Except Fault α}
    {deeds : List Deed} (h : talk.Leads (Act.attempt act) outcome talk')
    (hact : ∀ world, (left (act world)).own = world.own ++ deeds) :
    talk'.own = talk.own ++ deeds := by
  apply own_of_leads h
  intro world
  rw [Act.attempt_eq]
  exact hact world

theorem own_of_results {world world' : World} {results : Patch.Results}
    (h : world'.deeds = world.deeds ++ results.deeds) :
    world'.own = world.own ++ results.deeds := by
  apply World.own_of_deeds h
  intro deed hdeed
  obtain ⟨_, _, rfl⟩ := List.mem_map.1 hdeed
  rfl

theorem decided_alike {α : Type} {decision : Deciding μ α} {a : α} {decided : World}
    (h : run.decided? decision = some (a, decided)) : run.world.Alike decided := by
  unfold Run.decided? at h
  split at h
  · cases h
    exact .of_terminal _ _
  · cases h

theorem deeds_of_present {group : RuleGroup} {file : Option String} {bundle : Bundle}
    (phase : run.phase = .present group file bundle) :
    Move.deeds setup ⟨run, event, after⟩ =
      match run.performance? setup with
      | some performance => (performance.results setup.config).deeds
      | none => [] := by
  unfold Move.deeds
  rw [phase]

/-- A move puts on record what it does, and nothing else. -/
theorem step_own (h : step setup run = .ok (some event) after) :
    after.world.own = run.world.own ++ Move.deeds setup ⟨run, event, after⟩ := by
  by_cases presents : ∃ group file bundle, run.phase = .present group file bundle
  · obtain ⟨group, file, bundle, phase⟩ := presents
    obtain ⟨action, decided, hdecided, presented⟩ := step_presented h phase
    rw [deeds_of_present phase, performance?_of_presented phase hdecided]
    cases presented with
    | quit kind =>
      rw [if_pos (.inl kind), List.append_nil]
      cases step_transition h with
      | quitPresenting _ _ _ alike => exact alike.1.own_eq
      | quitSelecting selecting =>
        rw [phase] at selecting
        cases selecting
    | asked kind =>
      rw [if_pos (.inr kind), List.append_nil]
      cases step_transition h with
      | followUp _ _ _ before answers after =>
        have kept := (Remedy.answerQuestion_keeps World.own_unasked _ _ _).eq_of_ok answers
        exact after.1.own_eq.trans (kept.trans before.1.own_eq)
    | performed kind performed alike =>
      rw [if_neg (not_or.2 kind), alike.own_eq]
      obtain ⟨settles, _, _⟩ := perform_settles performed kind
      rw [own_of_results settles.deeds, (decided_alike hdecided).own_eq]
      rfl
  · have idle : run.performance? setup = none :=
      performance?_eq_none fun group file bundle phase => presents ⟨group, file, bundle, phase⟩
    unfold Move.deeds
    cases step_transition h with
    | scanFailed phase scanned =>
      rw [phase]
      exact own_of_attempt scanned fun world => setup.analyzer.scan_own setup.target world
    | parseErrorsFound phase scanned | noIssues phase scanned | issuesFound phase scanned =>
      rw [phase]
      exact own_of_leads scanned fun world => setup.analyzer.scan_own setup.target world
    | repairApplied phase _ repaired =>
      rw [phase]
      exact own_of_leads repaired fun world => setup.analyzer.repair_own setup.target world
    | repairFailed phase _ repaired =>
      rw [phase]
      exact own_of_attempt repaired fun world => setup.analyzer.repair_own setup.target world
    | repairDeclined phase _ alike =>
      rw [phase]
      exact alike.1.own_eq.trans (List.append_nil _).symm
    | bundleReady phase gathered | noBundle phase gathered =>
      dsimp only
      rw [idle, phase]
      exact (gathered.seen_eq World.own_unshown World.own_unasked).trans (List.append_nil _).symm
    | goOn phase _ alike | halt phase _ alike =>
      dsimp only
      rw [idle, phase]
      exact alike.1.own_eq.trans (List.append_nil _).symm
    | quitSelecting phase _ _ alike | ruleSelected phase _ _ alike | exhausted phase _ _ _ alike =>
      dsimp only
      rw [idle, phase]
      exact alike.1.own_eq.trans (List.append_nil _).symm
    | finished phase | fixablePresent phase | noneFixable phase | stalled phase
    | nothingSelectable phase =>
      dsimp only
      rw [idle, phase]
      exact (List.append_nil _).symm
    | quitPresenting phase | followUp phase | actionDone phase =>
      exact (presents ⟨_, _, _, phase⟩).elim

/-! ### The counts -/

namespace Ledger

theorem start (setup : Setup μ) (memory : μ) (world : World) :
    Ledger setup world [] (.start memory world) where
  iterations := rfl
  fixed := rfl
  skipped := rfl
  lastResult := rfl
  own := (List.append_nil _).symm

theorem own_cons (ledger : Ledger setup world moves run)
    (h : step setup run = .ok (some event) after) :
    after.world.own =
      world.own ++ (⟨run, event, after⟩ :: moves).reverse.flatMap (·.deeds setup) := by
  rw [step_own h, ledger.own, List.reverse_cons, List.flatMap_append, List.flatMap_singleton,
    List.append_assoc]

/-- A move by which nothing is counted. -/
theorem idle (ledger : Ledger setup world moves run) (h : step setup run = .ok (some event) after)
    (phase : run.phase ≠ .scan) (performance : run.performance? setup = none)
    (bundle : event ≠ .noBundle)
    (report : after.report.iterations = run.report.iterations ∧
      after.report.totalFixed = run.report.totalFixed ∧
      after.report.totalSkipped = run.report.totalSkipped ∧
      after.report.lastResult = run.report.lastResult) :
    Ledger setup world (⟨run, event, after⟩ :: moves) after := by
  obtain ⟨iterations, fixed, skipped, lastResult⟩ := report
  exact {
    iterations := by rw [iterations, ledger.iterations, scans_cons_of_ne phase]
    fixed := by rw [fixed, ledger.fixed, operationResults_cons_none performance]
    skipped := by
      rw [skipped, ledger.skipped, operationResults_cons_none performance,
        passedOver_cons_none performance, skipActions_cons_none performance,
        emptyHanded_cons_of_ne bundle]
    lastResult := by rw [lastResult, ledger.lastResult, findSome?_scanned_cons_of_ne phase]
    own := ledger.own_cons h }

/-- A scan is counted when it is started, and what it finds is reported unless it fails. -/
theorem scan (ledger : Ledger setup world moves run) (h : step setup run = .ok (some event) after)
    (phase : run.phase = .scan) (iterations : after.report.iterations = run.report.iterations + 1)
    (report : after.report.totalFixed = run.report.totalFixed ∧
      after.report.totalSkipped = run.report.totalSkipped) (bundle : event ≠ .noBundle) :
    Ledger setup world (⟨run, event, after⟩ :: moves) after := by
  obtain ⟨fixed, skipped⟩ := report
  have performance : run.performance? setup = none := by
    refine performance?_eq_none fun _ _ _ presents => ?_
    rw [phase] at presents
    cases presents
  exact {
    iterations := by
      rw [iterations, ledger.iterations, scans_cons_of_eq phase]
      rfl
    fixed := by rw [fixed, ledger.fixed, operationResults_cons_none performance]
    skipped := by
      rw [skipped, ledger.skipped, operationResults_cons_none performance,
        passedOver_cons_none performance, skipActions_cons_none performance,
        emptyHanded_cons_of_ne bundle]
    lastResult := by
      rw [findSome?_scanned_cons phase]
      rcases step_scanned h phase with ⟨_, scanned, _, last⟩ | ⟨_, scanned, _, last⟩
      · rw [scanned, last]
        exact ledger.lastResult
      · rw [scanned, last]
        rfl
    own := ledger.own_cons h }

/-- Without a bundle, the selection is counted as skipped. -/
theorem noBundle (ledger : Ledger setup world moves run)
    (h : step setup run = .ok (some .noBundle) after) {group : RuleGroup} {file : Option String}
    (phase : run.phase = .gather group file)
    (skipped : after.report.totalSkipped = run.report.totalSkipped + 1)
    (report : after.report.iterations = run.report.iterations ∧
      after.report.totalFixed = run.report.totalFixed ∧
      after.report.lastResult = run.report.lastResult) :
    Ledger setup world (⟨run, .noBundle, after⟩ :: moves) after := by
  obtain ⟨iterations, fixed, lastResult⟩ := report
  have scanning : run.phase ≠ .scan := by
    rw [phase]
    nofun
  have performance : run.performance? setup = none := by
    refine performance?_eq_none fun _ _ _ presents => ?_
    rw [phase] at presents
    cases presents
  exact {
    iterations := by rw [iterations, ledger.iterations, scans_cons_of_ne scanning]
    fixed := by rw [fixed, ledger.fixed, operationResults_cons_none performance]
    skipped := by
      have empty : emptyHanded (⟨run, .noBundle, after⟩ :: moves) = emptyHanded moves + 1 :=
        List.countP_cons_of_pos rfl
      rw [skipped, ledger.skipped, operationResults_cons_none performance,
        passedOver_cons_none performance, skipActions_cons_none performance, empty]
      omega
    lastResult := by rw [lastResult, ledger.lastResult, findSome?_scanned_cons_of_ne scanning]
    own := ledger.own_cons h }

/-- A performance is counted by its operations and by what it passes over. -/
theorem perform (ledger : Ledger setup world moves run)
    (h : step setup run = .ok (some .actionDone) after) (phase : run.phase ≠ .scan)
    (performance? : run.performance? setup = some performance)
    (fixed : after.report.totalFixed =
      run.report.totalFixed + (performance.results setup.config).fixed)
    (skipped : after.report.totalSkipped = run.report.totalSkipped +
      ((performance.results setup.config).failed +
        incomplete performance.bundle performance.action +
        if performance.action.kind = .skip then 1 else 0))
    (report : after.report.iterations = run.report.iterations ∧
      after.report.lastResult = run.report.lastResult) :
    Ledger setup world (⟨run, .actionDone, after⟩ :: moves) after := by
  obtain ⟨iterations, lastResult⟩ := report
  have performed : performances setup (⟨run, .actionDone, after⟩ :: moves) =
      performance :: performances setup moves := performances_cons_some performance?
  have results : operationResults setup (⟨run, .actionDone, after⟩ :: moves) =
      performance.results setup.config ++ operationResults setup moves :=
    operationResults_cons_some performance?
  exact {
    iterations := by rw [iterations, ledger.iterations, scans_cons_of_ne phase]
    fixed := by
      rw [fixed, ledger.fixed, results]
      unfold Patch.Results.fixed
      rw [List.countP_append]
      omega
    skipped := by
      rw [skipped, ledger.skipped, results, emptyHanded_cons_of_ne (by decide)]
      unfold Patch.Results.failed passedOver skipActions
      rw [performed, List.countP_append, List.map_cons, List.sum_cons, List.countP_cons]
      simp only [decide_eq_true_eq]
      split <;> omega
    lastResult := by rw [lastResult, ledger.lastResult, findSome?_scanned_cons_of_ne phase]
    own := ledger.own_cons h }

theorem present (ledger : Ledger setup world moves run)
    (h : step setup run = .ok (some event) after) {group : RuleGroup} {file : Option String}
    {bundle : Bundle} (phase : run.phase = .present group file bundle) :
    Ledger setup world (⟨run, event, after⟩ :: moves) after := by
  have scanning : run.phase ≠ .scan := by
    rw [phase]
    nofun
  obtain ⟨action, decided, hdecided, presented⟩ := step_presented h phase
  have performance := performance?_of_presented phase hdecided
  cases presented with
  | quit kind =>
    rw [if_pos (.inl kind)] at performance
    apply ledger.idle h scanning performance nofun
    cases step_transition h <;> exact ⟨rfl, rfl, rfl, rfl⟩
  | asked kind =>
    rw [if_pos (.inr kind)] at performance
    apply ledger.idle h scanning performance nofun
    cases step_transition h
    exact ⟨rfl, rfl, rfl, rfl⟩
  | performed kind performed alike fixed skipped =>
    rw [if_neg (not_or.2 kind)] at performance
    obtain ⟨_, hfixed, hskipped⟩ := perform_settles performed kind
    rw [hfixed] at fixed
    rw [hskipped] at skipped
    apply ledger.perform h scanning performance fixed skipped
    cases step_transition h
    exact ⟨rfl, rfl⟩

theorem step (ledger : Ledger setup world moves run)
    (h : step setup run = .ok (some event) after) :
    Ledger setup world (⟨run, event, after⟩ :: moves) after := by
  by_cases presents : ∃ group file bundle, run.phase = .present group file bundle
  · obtain ⟨group, file, bundle, phase⟩ := presents
    exact ledger.present h phase
  · have idle : run.performance? setup = none :=
      performance?_eq_none fun group file bundle phase => presents ⟨group, file, bundle, phase⟩
    cases step_transition h with
    | scanFailed phase | parseErrorsFound phase | noIssues phase | issuesFound phase =>
      exact ledger.scan h phase rfl ⟨rfl, rfl⟩ nofun
    | noBundle phase => exact ledger.noBundle h phase rfl ⟨rfl, rfl, rfl⟩
    | actionDone phase => exact (presents ⟨_, _, _, phase⟩).elim
    | _ =>
      refine ledger.idle h ?_ idle nofun ⟨rfl, rfl, rfl, rfl⟩
      rw [‹run.phase = _›]
      nofun

theorem of_reaches (h : Reaches setup (.start memory world) moves run) :
    Ledger setup world moves run := by
  induction h with
  | here => exact start setup memory world
  | move _ last ih => exact ih.step last

end Ledger

end Loop
end LintRemedy
