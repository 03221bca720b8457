import LintRemedy.Proofs.Aggregation.Selectable
import LintRemedy.Proofs.Loop.Keeping
import LintRemedy.Proofs.Loop.RepairOffer
import LintRemedy.Proofs.Operator.Choice

/-!
This module contains what holds at every point of a run: the events are those of the table, the group
that is worked on is one that the last scan has left to choose from, and the bundle that is presented
was made for it. An unattended run does nothing more when files could not be parsed.
-/

namespace LintRemedy

namespace World.Alike

theorem trans {a b c : World} (h : a.Alike b) (h' : b.Alike c) : a.Alike c := by
  unfold World.Alike at h h' ⊢
  rw [h', h]

end World.Alike

def World.still (world : World) : World :=
  { world with terminal := .fresh [] }

theorem World.still_unshown : World.Unshown World.still :=
  fun _ _ => rfl

theorem World.alike_of_still_eq {a b : World} (h : b.still = a.still) : a.Alike b := by
  change { b.still with terminal := b.terminal } = { a.still with terminal := b.terminal }
  rw [h]

theorem Remedy.gather_ruleId {channel : Oracle.Channel} {window : Int} {group : RuleGroup}
    {config : String} {talk talk' : Talk} {bundle : Bundle}
    (h : gather channel window group config talk = .ok (some bundle) talk') :
    group.ruleId = some bundle.ruleId := by
  unfold gather at h
  cases hrule : group.ruleId with
  | none =>
    rw [hrule] at h
    cases (Action.pure_eq_ok.1 h).1
  | some rule =>
    rw [hrule] at h
    obtain ⟨_, _, _, h⟩ := Action.bind_eq_ok.1 h
    obtain ⟨_, _, _, h⟩ := Action.bind_eq_ok.1 h
    obtain ⟨_, _, _, h⟩ := Action.bind_eq_ok.1 h
    dsimp only at h
    split at h
    · cases (Action.pure_eq_ok.1 h).1
    · cases (Action.pure_eq_ok.1 h).1
      rfl

namespace Loop

variable {μ : Type}

open LintRemedy.Action

/-- The bundle was made for the group in this history, and nothing but questions came after that. -/
def MadeFor (setup : Setup μ) (moves : List (Move μ)) (group : RuleGroup) (file : Option String)
    (bundle : Bundle) : Prop :=
  ∃ later gathering earlier, moves = later ++ gathering :: earlier ∧
    gathering.before.phase = .gather group file ∧
    Gathers setup group file gathering.before.talk (some bundle) gathering.after.talk ∧
    ∀ move ∈ later, move.event = .followUp

/-- What holds at every point of a run whose operator chooses from what it is given. -/
structure WellFormed (setup : Setup μ) (moves : List (Move μ)) (run : Run μ) : Prop where
  /-- The table knows every event that can happen. -/
  event : ∀ event after, step setup run = .ok (some event) after →
    run.phase.state.next event = .ok after.phase.state
  /-- The run works on something that the last scan has left to choose from. -/
  work : ∀ group file, run.phase.work? = some (group, file) →
    ∃ ds, lastFound? moves = some (.ofFindings ds) ∧
      group.TakenFrom (Aggregation.ofFindings ds).selectable ∧ group.ruleId ≠ none ∧
      ∀ l ∈ group.locations, l.hasFix = false
  /-- What is presented was made for the group. -/
  bundle : ∀ group file bundle, run.phase = .present group file bundle →
    MadeFor setup moves group file bundle ∧ group.ruleId = some bundle.ruleId

variable {setup : Setup μ} {run after : Run μ} {event : Event} {memory : μ} {world : World}
  {moves : List (Move μ)}

theorem Transition.next_eq (h : Transition setup run event after) :
    run.phase.state.next event = .ok after.phase.state := by
  cases h
  all_goals
    rw [‹run.phase = _›]
    rfl

/-- What a scan finds makes a report, and where there are files that could not be parsed, it leads to
these. -/
theorem Transition.scanned (h : Transition setup run event after) (phase : run.phase.state = .scan)
    (success : event ≠ .scanFailed) :
    ∃ ds, after.report.lastResult = some (.ofFindings ds) ∧
      ((Aggregation.ofFindings ds).hasUnparsed → after.phase = .parseError (.ofFindings ds)) := by
  cases h with
  | scanFailed => exact (success rfl).elim
  | parseErrorsFound _ scanned =>
    obtain ⟨_, _, _, hscan, _⟩ := scanned
    obtain ⟨ds, rfl⟩ := Analyzer.scan_eq_ok hscan
    exact ⟨ds, rfl, fun _ => rfl⟩
  | noIssues _ scanned parsed | issuesFound _ scanned parsed =>
    obtain ⟨_, _, _, hscan, _⟩ := scanned
    obtain ⟨ds, rfl⟩ := Analyzer.scan_eq_ok hscan
    exact ⟨ds, rfl, fun unparsed => (parsed unparsed).elim⟩
  | _ =>
    rw [‹run.phase = _›] at phase
    cases phase

theorem Move.found?_eq_some {move : Move μ} {found : Aggregation}
    (h : move.passage.found? = some found) : move.before.phase.state = .scan ∧
      move.event ≠ .scanFailed ∧ move.after.report.lastResult = some found := by
  unfold Passage.found? at h
  split at h
  · next scanned => exact ⟨scanned.1, scanned.2, h⟩
  · cases h

theorem Reaches.lastFound (h : Reaches setup (.start memory world) moves run)
    {found : Aggregation} (hfound : lastFound? moves = some found) :
    ∃ ds, found = .ofFindings ds := by
  obtain ⟨move, hmove, hfound⟩ := Option.bind_eq_some_iff.1 hfound
  obtain ⟨phase, success, hresult⟩ := Move.found?_eq_some hfound
  have transition := h.transition (List.mem_of_find?_eq_some hmove)
  obtain ⟨ds, hfindings, _⟩ := transition.scanned phase success
  rw [hresult] at hfindings
  exact ⟨ds, Option.some.inj hfindings⟩

theorem MadeFor.here {group : RuleGroup} {file : Option String} {bundle : Bundle}
    (phase : run.phase = .gather group file)
    (gathered : Gathers setup group file run.talk (some bundle) after.talk) :
    MadeFor setup (⟨run, event, after⟩ :: moves) group file bundle :=
  ⟨[], ⟨run, event, after⟩, moves, rfl, phase, gathered, List.forall_mem_nil _⟩

theorem MadeFor.cons {group : RuleGroup} {file : Option String} {bundle : Bundle}
    (h : MadeFor setup moves group file bundle) :
    MadeFor setup (⟨run, .followUp, after⟩ :: moves) group file bundle := by
  obtain ⟨later, gathering, earlier, rfl, phase, gathered, asked⟩ := h
  refine ⟨⟨run, .followUp, after⟩ :: later, gathering, earlier, rfl, phase, gathered, ?_⟩
  rw [List.forall_mem_cons]
  exact ⟨rfl, asked⟩

theorem Reaches.madeFor (h : Reaches setup (.start memory world) moves run) :
    ∀ group file bundle, run.phase = .present group file bundle →
      MadeFor setup moves group file bundle := by
  induction h with
  | here =>
    intro _ _ _ present
    cases present
  | move _ last ih =>
    intro group file bundle present
    cases step_transition last with
    | bundleReady phase gathered =>
      cases present
      exact .here phase gathered
    | followUp phase =>
      cases present
      exact (ih _ _ _ phase).cons
    | _ => cases present

theorem MadeFor.ruleId_eq {group : RuleGroup} {file : Option String} {bundle : Bundle}
    (h : MadeFor setup moves group file bundle) : group.ruleId = some bundle.ruleId := by
  obtain ⟨_, _, _, _, _, gathered, _⟩ := h
  obtain ⟨_, _, _, _, _, _, _, hgather, _⟩ := gathered
  exact Remedy.gather_ruleId hgather

theorem Reaches.wellFormed (chooses : setup.operator.ChoosesGiven)
    (h : Reaches setup (.start memory world) moves run) : WellFormed setup moves run where
  event _ _ hstep := (step_transition hstep).next_eq
  work group file hwork := by
    obtain ⟨_, found, _, _, hfound, selected⟩ := (Current.of_reaches h).work group file hwork
    obtain ⟨ds, rfl⟩ := h.lastFound hfound
    have taken := chooses _ _ _ _ _ selected
    obtain ⟨whole, hwhole, hrule, hlocations⟩ := taken.exists_whole
    refine ⟨ds, hfound, taken, ?_, ?_⟩
    · rw [hrule]
      exact Aggregation.ruleId_ne_none_of_selectable hwhole
    · intro l hl
      exact Aggregation.hasFix_of_selectable hwhole l (hlocations l hl)
  bundle group file bundle phase := by
    have made := h.madeFor group file bundle phase
    exact ⟨made, made.ruleId_eq⟩

section Unattended

variable {budget : Int} {quiet : Bool} {setup : Setup SkipCounts} {scanned run after : Run SkipCounts}
  {event : Event} {found : Aggregation}

/-- A run that has ended at files that could not be parsed, or is about to. -/
structure Halts (scanned run : Run μ) (found : Aggregation) : Prop where
  phase : run.phase = .parseError found ∨ run.phase = .quit
  alike : scanned.world.Alike run.world

theorem Halts.step (unattended : setup.operator = .automatic budget quiet)
    (halts : Halts scanned run found) (h : Transition setup run event after) :
    Halts scanned after found := by
  rcases halts.phase with phase | phase
  · cases h with
    | goOn _ decided =>
      rw [unattended] at decided
      cases (Operator.passParseErrors_yields decided).1
    | halt _ _ alike => exact ⟨.inr rfl, halts.alike.trans alike.1⟩
    | _ =>
      rw [‹run.phase = _›] at phase
      cases phase
  · refine (h.not_isFinal ?_).elim
    rw [phase]
    rfl

theorem Halts.next (halts : Halts scanned run found) :
    scanned.world.Alike (run.next setup).world := by
  have handled : Keeps (Run.seen World.still) (handle setup run.phase) run := by
    rcases halts.phase with phase | phase
    all_goals
      rw [phase]
    · exact (meetParseErrors_keeps World.still_unshown found run).map
    · exact Keeps.of_pure
  have kept := advance_keeps World.still_unshown (step_keeps handled)
  exact halts.alike.trans (World.alike_of_still_eq (congrArg Prod.snd kept))

theorem Reaches.halts (unattended : setup.operator = .automatic budget quiet)
    (phase : scanned.phase = .parseError found) {moves : List (Move SkipCounts)}
    (h : Reaches setup scanned moves run) : Halts scanned run found := by
  induction h with
  | here => exact ⟨.inl phase, .refl _⟩
  | move _ last ih => exact ih.step unattended (step_transition last)

/-- Nothing but the terminal changes after a scan with a file that could not be parsed. -/
theorem Reaches.still_of_unparsed (unattended : setup.operator = .automatic budget quiet)
    {memory : SkipCounts} {world : World} {later earlier : List (Move SkipCounts)}
    {scan : Move SkipCounts} {ds : List Finding} {d : Finding}
    (h : Reaches setup (.start memory world) (later ++ scan :: earlier) run)
    (hscan : scan.passage.found? = some (.ofFindings ds)) (hd : d ∈ ds)
    (unparsed : d.ruleId = none) : scan.after.world.Alike (run.next setup).world := by
  obtain ⟨middle, reached, hlater⟩ := h.split
  cases reached with
  | move reached last =>
    obtain ⟨phase, success, hresult⟩ := Move.found?_eq_some hscan
    obtain ⟨ds', hfound, hphase⟩ := (step_transition last).scanned phase success
    rw [hresult] at hfound
    rw [← Option.some.inj hfound] at hphase
    have halting := hphase (Aggregation.hasUnparsed_ofFindings_iff.2 ⟨d, hd, unparsed⟩)
    exact (hlater.halts unattended halting).next

end Unattended

/-- A run whose operator chooses from what it is given is well-formed at every point. When it is
unattended, nothing but the terminal changes after a scan with a file that could not be parsed. -/
theorem runs_wellFormed :
    (∀ {μ : Type} (setup : Setup μ) (memory : μ) (world : World) (moves : List (Move μ))
      (run : Run μ), setup.operator.ChoosesGiven → Reaches setup (.start memory world) moves run →
      WellFormed setup moves run) ∧
    ∀ (budget : Int) (quiet : Bool) (setup : Setup SkipCounts) (memory : SkipCounts)
      (world : World) (later earlier : List (Move SkipCounts)) (scan : Move SkipCounts)
      (run : Run SkipCounts) (ds : List Finding) (d : Finding),
      setup.operator = .automatic budget quiet →
      Reaches setup (.start memory world) (later ++ scan :: earlier) run →
      scan.passage.found? = some (.ofFindings ds) → d ∈ ds → d.ruleId = none →
      scan.after.world.Alike (run.next setup).world := by
  constructor
  · intro μ setup memory world moves run chooses h
    exact h.wellFormed chooses
  · intro budget quiet setup memory world later earlier scan run ds d unattended h hscan hd unparsed
    exact h.still_of_unparsed unattended hscan hd unparsed

/-- A project with a file that cannot be parsed. -/
def brokenFile : World :=
  let report := "[\x7b\"filePath\":\"/w/a.js\",\"messages\":[\x7b\"ruleId\":null\x7d]\x7d]"
  { World.empty with scans := [⟨.finished 1 report "", []⟩] }

theorem runs_wellFormed_brokenFile :
    (∃ moves run, Reaches selfLintSetup (.start [] selfLintWorld) moves run ∧
      run.phase.state = .present ∧ WellFormed selfLintSetup moves run) ∧
    ∃ scan moves run, Reaches hastySetup (.start [] brokenFile) (scan :: moves) run ∧
      scan.event = .parseErrorsFound ∧ scan.after.world.Alike (run.next hastySetup).world := by
  constructor
  · have presents : (course selfLintSetup [] selfLintWorld).passages.any (·.state = .present) := by
      decide +kernel
    obtain ⟨moves, run, _, _, reached, _, hpresent⟩ := course_before (·.state = .present) presents
    refine ⟨moves, run, reached, of_decide_eq_true hpresent, ?_⟩
    apply runs_wellFormed.1 selfLintSetup [] selfLintWorld moves run _ reached
    exact Operator.automatic_choosesGiven 1 true
  · let check := fun passage : Passage SkipCounts => decide (passage.state = .scan ∧
      passage.event = .parseErrorsFound ∧ passage.after.report.lastResult.any (·.hasUnparsed))
    have scans : (course hastySetup [] brokenFile).passages.any check := by decide +kernel
    obtain ⟨moves, run, event, after, reached, hstep, hcheck⟩ := course_before check scans
    obtain ⟨phase, rfl, unparsed⟩ := of_decide_eq_true hcheck
    obtain ⟨ds, hresult, _⟩ := (step_transition hstep).scanned phase (by decide)
    have hresult : after.report.lastResult = some (.ofFindings ds) := hresult
    rw [hresult] at unparsed
    obtain ⟨d, hd, hrule⟩ := Aggregation.hasUnparsed_ofFindings_iff.1 unparsed
    refine ⟨_, moves, after, .move reached hstep, rfl, ?_⟩
    apply runs_wellFormed.2 1 true hastySetup [] brokenFile [] moves _ after ds d rfl
      (.move reached hstep) _ hd hrule
    unfold Passage.found?
    rw [if_pos ⟨phase, nofun⟩]
    exact hresult

end Loop
end LintRemedy
