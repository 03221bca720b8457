import LintRemedy.Proofs.Loop.Confinement
import LintRemedy.Proofs.Loop.Verdict

/-!
This module contains what the report of a run that returns says about it: how many scans were
started, how many operations have changed their files and how many have not, what was found last,
and how the run has ended. All of this is told apart from the report, by the history of the run and
by the record of the program.
-/

namespace LintRemedy

open LintRemedy.Action

/-- Only deeds in which the oracle has no part write files. -/
theorem written_own (world : World) : written world.own = written world.deeds := by
  unfold written World.own
  rw [List.filterMap_filter]
  apply List.filterMap_congr
  intro deed _
  cases deed <;> rfl

theorem Patch.Results.length_written (results : Results) :
    (written results.deeds).length = results.fixed := by
  unfold written deeds fixed
  rw [List.filterMap_map, List.countP_eq_length_filter, List.length_filterMap_eq_countP]
  exact List.countP_eq_length.2 fun _ _ => rfl

namespace Loop

variable {μ : Type} {setup : Setup μ} {run after : Run μ} {memory : μ} {world : World}
  {moves : List (Move μ)} {report : RunRecord} {last : Run μ}

/-- A run has come to its end by moves, and it has returned a report then. -/
def Returns (setup : Setup μ) (start : Run μ) (moves : List (Move μ)) (report : RunRecord)
    (last : Run μ) : Prop :=
  ∃ stopped, Reaches setup start moves stopped ∧ ∃ ended, step setup stopped = .ok none ended ∧
    finish setup ended = .ok report last

theorem announceAll_eq (setup : Setup μ) (texts : List String) (run : Run μ) :
    ∃ terminal, texts.forM (announce setup) run =
      .ok () { run with talk.world.terminal := terminal } := by
  induction texts generalizing run with
  | nil => exact ⟨run.world.terminal, rfl⟩
  | cons text texts ih =>
    have shown : announce setup text run = .ok () _ := Step.announce_eq_ok.2 rfl
    obtain ⟨terminal, hrest⟩ := ih _
    exact ⟨terminal, (bind_of_ok shown).trans hrest⟩

/-- A run that is over can always be closed. -/
theorem finish_eq (setup : Setup μ) (run : Run μ) :
    ∃ terminal, finish setup run = .ok (closingReport run)
      { run with report := closingReport run, talk.world.terminal := terminal } := by
  obtain ⟨terminal, hshow⟩ := announceAll_eq setup (View.finished (closingReport run))
    { run with report := closingReport run }
  refine ⟨terminal, ?_⟩
  unfold finish
  refine (bind_of_ok rfl).trans ((bind_of_ok rfl).trans ((bind_of_ok hshow).trans rfl))

theorem eq_of_step_none (h : step setup run = .ok none after) : after = run := by
  unfold step at h
  simp only [bind_eq_ok, get_eq_ok] at h
  obtain ⟨_, _, ⟨rfl, rfl⟩, occurrence?, _, hhandle, h⟩ := h
  cases occurrence? with
  | some occurrence =>
    simp only [bind_eq_ok, modify_eq_ok, pure_eq_ok, reduceCtorEq, false_and, and_false,
      exists_false] at h
  | none =>
    obtain ⟨_, rfl⟩ := pure_eq_ok.1 h
    generalize run.phase = current at hhandle
    cases current
    case done => exact (pure_eq_ok.1 hhandle).2.symm
    case quit => exact (pure_eq_ok.1 hhandle).2.symm
    all_goals
      obtain ⟨_, _, hnone⟩ := map_eq_ok.1 hhandle
      cases hnone

/-! ### The record of the program -/

abbrev scanDeed (setup : Setup μ) : Deed :=
  setup.analyzer.deed (Analyzer.scanArguments setup.target)

/-- The three kinds of moves: those that start a scan, those that perform an action, and the others,
which start a repair at most. -/
theorem deeds_cases (setup : Setup μ) (move : Move μ) :
    (move.before.phase = .scan ∧ move.before.performance? setup = none ∧
        move.deeds setup = [scanDeed setup]) ∨
      (move.before.phase ≠ .scan ∧ ∃ performance,
        move.before.performance? setup = some performance ∧
          move.deeds setup = (performance.results setup.config).deeds) ∨
      (move.before.phase ≠ .scan ∧ move.before.performance? setup = none ∧
        ∀ deed ∈ move.deeds setup,
          deed = setup.analyzer.deed (Analyzer.repairArguments setup.target)) := by
  obtain ⟨run, event, after⟩ := move
  by_cases presents : ∃ group file bundle, run.phase = .present group file bundle
  · obtain ⟨group, file, bundle, phase⟩ := presents
    have scanning : run.phase ≠ .scan := by
      rw [phase]
      nofun
    rw [deeds_of_present phase]
    cases run.performance? setup with
    | some performance => exact .inr (.inl ⟨scanning, performance, rfl, rfl⟩)
    | none => exact .inr (.inr ⟨scanning, rfl, List.forall_mem_nil _⟩)
  · have idle : run.performance? setup = none :=
      performance?_eq_none fun group file bundle phase => presents ⟨group, file, bundle, phase⟩
    dsimp only [Move.deeds]
    rw [idle]
    cases phase : run.phase with
    | scan => exact .inl ⟨rfl, rfl, rfl⟩
    | present group file bundle => exact (presents ⟨group, file, bundle, phase⟩).elim
    | repairOffered found =>
      refine .inr (.inr ⟨nofun, rfl, ?_⟩)
      dsimp only
      split
      · exact List.forall_mem_nil _
      · exact List.forall_mem_singleton.2 rfl
    | _ => exact .inr (.inr ⟨nofun, rfl, List.forall_mem_nil _⟩)

/-- There are as many processes of scans on record as scans were started. -/
theorem count_scanDeed (setup : Setup μ) (moves : List (Move μ)) :
    (moves.reverse.flatMap (·.deeds setup)).count (scanDeed setup) = scans moves := by
  induction moves with
  | nil => rfl
  | cons move moves ih =>
    rw [List.reverse_cons, List.flatMap_append, List.count_append, ih, List.flatMap_singleton]
    rcases deeds_cases setup move with ⟨phase, _, deeds⟩ | ⟨phase, _, _, deeds⟩ | ⟨phase, _, deeds⟩
    · rw [deeds, List.count_singleton_self, scans_cons_of_eq phase]
    · rw [scans_cons_of_ne phase, Nat.add_eq_left, List.count_eq_zero, deeds]
      intro hmem
      obtain ⟨_, _, heq⟩ := List.mem_map.1 hmem
      cases heq
    · rw [scans_cons_of_ne phase, Nat.add_eq_left, List.count_eq_zero]
      intro hmem
      exact setup.analyzer.deed_repair_ne_scan setup.target (deeds _ hmem).symm

/-- There are as many edited files on record as operations have changed their files. -/
theorem length_written (setup : Setup μ) (moves : List (Move μ)) :
    (written (moves.reverse.flatMap (·.deeds setup))).length =
      (operationResults setup moves).fixed := by
  induction moves with
  | nil => rfl
  | cons move moves ih =>
    obtain ⟨run, event, after⟩ := move
    unfold written at ih ⊢
    rw [List.reverse_cons, List.flatMap_append, List.filterMap_append, List.length_append, ih,
      List.flatMap_singleton]
    rcases deeds_cases setup ⟨run, event, after⟩ with ⟨_, idle, deeds⟩ |
      ⟨_, performance, performed, deeds⟩ | ⟨_, idle, deeds⟩
    · rw [operationResults_cons_none idle, deeds]
      rfl
    · have hlength := Patch.Results.length_written (performance.results setup.config)
      unfold written at hlength
      rw [operationResults_cons_some performed, deeds, hlength]
      unfold Patch.Results.fixed
      rw [List.countP_append, Nat.add_comm]
    · have unwritten : (Move.deeds setup ⟨run, event, after⟩).filterMap Deed.written? = [] := by
        rw [List.filterMap_eq_nil_iff]
        intro deed hdeed
        rw [deeds deed hdeed]
        rfl
      rw [operationResults_cons_none idle, unwritten]
      rfl

theorem count_own {deed : Deed} (h : deed.isAsked = false) (world : World) :
    world.own.count deed = world.deeds.count deed := by
  unfold World.own
  exact List.count_filter (by rw [h]; rfl)

/-! ### The report -/

/-- What a report says is true of the run with this history, from its first world to its last. -/
structure Truthful (setup : Setup μ) (world : World) (moves : List (Move μ)) (report : RunRecord)
    (last : Run μ) : Prop where
  /-- The scans are those that were started. -/
  iterations : report.iterations = scans moves
  processes : (last.world.deeds.count (scanDeed setup) : Int) =
    world.deeds.count (scanDeed setup) + report.iterations
  /-- Every operation of a performance was carried out, and said whether it has changed its file. -/
  carriedOut : ∀ p ∈ performances setup moves, (p.results setup.config).map (·.1) =
    operations setup.config p.group p.bundle p.action
  fixed : report.totalFixed = (operationResults setup moves).fixed
  edits : ((written last.world.deeds).length : Int) =
    (written world.deeds).length + report.totalFixed
  skipped : report.totalSkipped = (operationResults setup moves).failed
    + passedOver setup moves + emptyHanded moves + skipActions setup moves
  lastResult : report.lastResult = moves.findSome? (·.scanned? setup)
  /-- Nothing else is on record, apart from what the oracle was asked. -/
  record : last.world.own = world.own ++ moves.reverse.flatMap (·.deeds setup)
  finished : report.status ≠ .running
  scanFailed : report.status = .scanFailed ↔
    ∃ failure, lastScanned? setup moves = some (.error (.scanFailed failure))
  parseError : report.status = .parseError ↔ ∃ move ∈ moves, move.before.Declines setup
  exhausted : report.status = .exhausted ↔ ∃ move ∈ moves, move.before.GivesUp setup
  quit : report.status = .quit ↔ ∃ move ∈ moves, move.before.Quits setup
  done : report.status = .done ↔ last.phase = .done
  doneWhen : last.phase = .done ↔ LastEmpty setup moves ∨ IdleTwice moves

section Returns

variable (h : Returns setup (.start memory world) moves report last)
include h

/-- What a run is like that has returned. -/
theorem Returns.stopped : ∃ stopped terminal, Reaches setup (.start memory world) moves stopped ∧
    report = closingReport stopped ∧ stopped.phase.state.isFinal ∧
    last = { stopped with report, talk.world.terminal := terminal } := by
  obtain ⟨stopped, reached, ended, hstep, hfinish⟩ := h
  obtain rfl := eq_of_step_none hstep
  obtain ⟨terminal, hclosed⟩ := finish_eq setup ended
  rw [hclosed] at hfinish
  cases hfinish
  refine ⟨ended, terminal, reached, rfl, ?_, rfl⟩
  rcases step_eq_none hstep with phase | phase
  all_goals
    rw [phase]
    rfl

theorem Returns.workDir_eq : last.world.workDir = world.workDir := by
  obtain ⟨stopped, _, reached, _, _, rfl⟩ := h.stopped
  exact reached.workDir_eq

/-- The last move of a run decides about its status. -/
theorem Returns.head : ∃ move earlier, moves = move :: earlier ∧
    step setup move.before = .ok (some move.event) move.after ∧
    move.event.closing? = some report.status ∧ move.after.phase = last.phase := by
  obtain ⟨stopped, terminal, reached, rfl, final, rfl⟩ := h.stopped
  cases reached with
  | here => cases final
  | @move moves run event _ reached hstep =>
    have transition := step_transition hstep
    have running := reached.status_running transition.not_isFinal
    exact ⟨_, moves, rfl, hstep, transition.closing final running, rfl⟩

/-- What the last move says about the status holds of no other move. -/
theorem Returns.status_iff {status : RunStatus} {P : Run μ → Prop}
    (hP : ∀ {run event after}, step setup run = .ok (some event) after →
      (event.closing? = some status ↔ P run)) :
    report.status = status ↔ ∃ move ∈ moves, P move.before := by
  obtain ⟨head, earlier, rfl, hstep, closing, _⟩ := h.head
  constructor
  · rintro rfl
    exact ⟨head, List.mem_cons_self, (hP hstep).1 closing⟩
  · rintro ⟨move, hmove, hmoveP⟩
    obtain ⟨stopped, _, reached, _⟩ := h.stopped
    obtain ⟨_, _, hmoved⟩ := reached.before hmove
    have closes := (hP hmoved).2 hmoveP
    have final := (step_transition hmoved).isFinal_iff.2 (by rw [closes]; rfl)
    obtain ⟨_, hcons⟩ := reached.eq_cons_of_isFinal hmove final
    cases hcons
    rw [closing] at closes
    exact Option.some.inj closes

theorem Returns.scanFailed_iff : report.status = .scanFailed ↔
    ∃ failure, lastScanned? setup moves = some (.error (.scanFailed failure)) := by
  rw [h.status_iff fun {_ event _} hstep => event.closing?_iff.1.trans (fails_iff hstep)]
  unfold lastScanned?
  constructor
  · rintro ⟨move, hmove, fails⟩
    obtain ⟨_, _, reached, _⟩ := h.stopped
    obtain ⟨_, _, hstep⟩ := reached.before hmove
    have final : move.after.phase.state.isFinal := by
      rw [(step_transition hstep).isFinal_iff, (fails_iff hstep).2 fails]
      rfl
    obtain ⟨earlier, rfl⟩ := reached.eq_cons_of_isFinal hmove final
    obtain ⟨phase, failure, failed⟩ := fails
    refine ⟨failure, ?_⟩
    rw [lastScan?_cons phase, Option.map_some, failed]
  · rintro ⟨failure, hlast⟩
    obtain ⟨move, hscan, failed⟩ := Option.map_eq_some_iff.1 hlast
    unfold lastScan? at hscan
    have scanning := List.find?_some hscan
    exact ⟨move, List.mem_of_find?_eq_some hscan, Phase.eq_scan (of_decide_eq_true scanning),
      failure, failed⟩

theorem Returns.carriedOut : ∀ p ∈ performances setup moves, (p.results setup.config).map (·.1) =
    operations setup.config p.group p.bundle p.action := by
  intro p hp
  obtain ⟨⟨run, event, after⟩, hmove, hperforms⟩ := List.mem_filterMap.1 hp
  obtain ⟨_, _, reached, _⟩ := h.stopped
  obtain ⟨_, _, hstep⟩ := reached.before hmove
  by_cases presents : ∃ group file bundle, run.phase = .present group file bundle
  · obtain ⟨group, file, bundle, phase⟩ := presents
    obtain ⟨action, world, decided, presented⟩ := step_presented hstep phase
    rw [performance?_of_presented phase decided] at hperforms
    split at hperforms
    · cases hperforms
    · next kind =>
      cases hperforms
      cases presented with
      | quit quits => exact (kind (.inl quits)).elim
      | asked asks => exact (kind (.inr asks)).elim
      | performed acts performed => exact (perform_settles performed acts).1.all
  · rw [performance?_eq_none fun group file bundle phase => presents ⟨group, file, bundle, phase⟩]
      at hperforms
    cases hperforms

end Returns

theorem Reaches.returns {start stopped : Run μ} (h : Reaches setup start moves stopped)
    (final : stopped.phase.state.isFinal) :
    ∃ last, Returns setup start moves (closingReport stopped) last := by
  have stays : step setup stopped = .ok none stopped := by
    unfold step
    have handled : handle setup stopped.phase stopped = .ok none stopped := by
      cases phase : stopped.phase with
      | done | quit => rfl
      | _ =>
        rw [phase] at final
        cases final
    exact (bind_of_ok rfl).trans ((bind_of_ok handled).trans rfl)
  obtain ⟨_, closed⟩ := finish_eq setup stopped
  exact ⟨_, stopped, h, stopped, stays, closed⟩

/-- What a course reports, a run returns, unless the course was cut off before the end. -/
theorem follow_returns {start : Run μ} (limit : Nat) :
    ∀ {run : Run μ} {moves : List (Move μ)}, Reaches setup start moves run →
      let course := follow setup limit run (moves.map Move.passage)
      course.outcome = .ok report →
        (∃ all, Returns setup start all report course.last ∧
          course.passages = (all.map Move.passage).reverse) ∨
        course.passages.length = moves.length + limit := by
  induction limit with
  | zero =>
    intro run moves _ course _
    have passages : course.passages = (moves.map Move.passage).reverse := rfl
    rw [passages, List.length_reverse, List.length_map]
    exact .inr rfl
  | succ limit ih =>
    intro run moves reached
    unfold follow
    cases hstep : step setup run with
    | error fault last =>
      intro course outcome
      cases outcome
    | ok event? after =>
      cases event? with
      | some event =>
        intro course outcome
        rcases ih (.move reached hstep) outcome with returned | cut
        · exact .inl returned
        · refine .inr (cut.trans ?_)
          rw [List.length_cons]
          omega
      | none =>
        obtain ⟨_, closed⟩ := finish_eq setup after
        simp only [closed]
        intro outcome
        cases outcome
        exact .inl ⟨moves, ⟨run, reached, after, hstep, closed⟩, rfl⟩

/-- The report of every run that returns tells the truth about it: the scans that were started, the
operations that have changed their files and those that have not, what else was skipped, what was
found last, and how the run has ended. -/
theorem returns_truthful {μ : Type} {setup : Setup μ} {memory : μ} {world : World}
    {moves : List (Move μ)} {report : RunRecord} {last : Run μ}
    (h : Returns setup (.start memory world) moves report last) :
    Truthful setup world moves report last := by
  obtain ⟨stopped, terminal, reached, hreport, final, hlast⟩ := h.stopped
  obtain ⟨head, earlier, hmoves, hstep, closing, hphase⟩ := h.head
  have ledger := Ledger.of_reaches reached
  have settled := Settled.of_reaches reached
  -- The closing of a run leaves its counts alone, and what it shows is on no record.
  have counts : report.iterations = stopped.report.iterations ∧
      report.totalFixed = stopped.report.totalFixed ∧
      report.totalSkipped = stopped.report.totalSkipped ∧
      report.lastResult = stopped.report.lastResult := by
    rw [hreport]
    unfold closingReport
    split <;> exact ⟨rfl, rfl, rfl, rfl⟩
  obtain ⟨iterations, fixed, skipped, lastResult⟩ := counts
  rw [ledger.iterations] at iterations
  rw [ledger.fixed] at fixed
  have record : last.world.own = world.own ++ moves.reverse.flatMap (·.deeds setup) := by
    rw [hlast]
    exact ledger.own
  have phase : last.phase = stopped.phase := by rw [hlast]
  exact {
    iterations := iterations
    processes := by
      have counted := congrArg (List.count (scanDeed setup)) record
      rw [List.count_append, count_scanDeed, count_own rfl, count_own rfl] at counted
      rw [counted, iterations, Int.natCast_add]
    carriedOut := h.carriedOut
    fixed := fixed
    edits := by
      have counted := congrArg (fun deeds => (written deeds).length) record
      have appended : written (world.own ++ moves.reverse.flatMap (·.deeds setup)) =
          written world.own ++ written (moves.reverse.flatMap (·.deeds setup)) :=
        List.filterMap_append
      rw [appended, List.length_append, length_written, written_own, written_own] at counted
      rw [counted, fixed, Int.natCast_add]
    skipped := skipped.trans ledger.skipped
    lastResult := lastResult.trans ledger.lastResult
    record := record
    finished := by
      intro running
      rw [running] at closing
      exact head.event.closing?_iff.2.2.2.2 closing
    scanFailed := h.scanFailed_iff
    parseError := h.status_iff fun {_ event _} hstep =>
      event.closing?_iff.2.1.trans (declines_iff hstep)
    exhausted := h.status_iff fun {_ event _} hstep =>
      event.closing?_iff.2.2.1.trans (givesUp_iff hstep)
    quit := h.status_iff fun {_ event _} hstep =>
      event.closing?_iff.2.2.2.1.trans (quits_iff hstep)
    done := by
      rw [← hphase, ← (step_transition hstep).done_iff, closing, Option.some.injEq]
    doneWhen := by
      rw [phase]
      constructor
      · exact settled.done
      · rintro (empty | idled)
        · rcases settled.empty empty with clean | done
          · rw [clean] at final
            cases final
          · exact done
        · exact settled.idled idled }

theorem returns_truthful_selfLint :
    ∃ moves report last, Returns selfLintSetup (.start [] selfLintWorld) moves report last ∧
      report.status = .done ∧ report.iterations = 2 ∧ report.totalFixed = 1 ∧
      Truthful selfLintSetup selfLintWorld moves report last := by
  let check := fun run : Run SkipCounts => decide (run.phase.state.isFinal ∧
    (closingReport run).status = .done ∧ (closingReport run).iterations = 2 ∧
    (closingReport run).totalFixed = 1)
  have ends : (course selfLintSetup [] selfLintWorld).passages.getLast?.any fun passage =>
      check passage.after := by decide +kernel
  obtain ⟨moves, stopped, reached, hcheck, _⟩ := course_last check ends
  obtain ⟨final, status, iterations, fixed⟩ := of_decide_eq_true hcheck
  obtain ⟨last, returned⟩ := reached.returns final
  exact ⟨moves, _, last, returned, status, iterations, fixed, returns_truthful returned⟩

end Loop
end LintRemedy
