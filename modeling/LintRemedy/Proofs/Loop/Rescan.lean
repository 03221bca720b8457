import LintRemedy.Proofs.Loop.Footprint
import LintRemedy.Proofs.Loop.SkipBudget

/-!
This module contains how fresh the findings are that a run works with: nothing has changed the files
since they were found, unless a repair has failed in between. What such a repair has changed before it
has failed is not looked at again.
-/

namespace LintRemedy

theorem World.Alike.writes {a b : World} (h : a.Alike b) : a.Writes [] b := by
  rw [h]
  exact .refl a

theorem Remedy.answerQuestion_writes {channel : Oracle.Channel} {bundle : Bundle}
    {question : String} {answer : Option Answer} {talk talk' : Talk}
    (h : answerQuestion channel bundle question talk = .ok answer talk') :
    talk.world.Writes [] talk'.world := by
  have asked : Action.Confined Talk.world (fun _ _ => False) 0
      (answerQuestion channel bundle question) talk := answerQuestion_confined bundle question talk
  have hwrites := asked.writes_nil
  rw [h] at hwrites
  exact hwrites

namespace Loop

variable {μ : Type}

/-- The moves since the last scan, the last move first. -/
def sinceScan (moves : List (Move μ)) : List (Move μ) :=
  moves.takeWhile (·.before.phase.state ≠ .scan)

/-- The program has changed files by a move, itself or by a repair of the analyzer. -/
inductive Move.Mutates (move : Move μ) : Prop where
  | wrote {names} (writes : move.before.world.Writes names move.after.world) (some : names ≠ [])
  | repaired {key} (offered : move.before.phase.state = .repairOffered)
      (changed : move.after.world.files.content? key ≠ move.before.world.files.content? key)

section Moves

variable {setup : Setup μ} {run after : Run μ} {event : Event} {memory : μ} {world : World}
  {moves : List (Move μ)}

theorem sinceScan_cons (h : run.phase = .scan) :
    sinceScan (⟨run, event, after⟩ :: moves) = [] := by
  unfold sinceScan
  apply List.takeWhile_cons_of_neg
  simp [h, Phase.state]

theorem sinceScan_cons_of_ne (h : run.phase ≠ .scan) :
    sinceScan (⟨run, event, after⟩ :: moves) = ⟨run, event, after⟩ :: sinceScan moves := by
  unfold sinceScan
  apply List.takeWhile_cons_of_pos
  rw [decide_eq_true_eq]
  exact fun hscan => h (Phase.eq_scan hscan)

theorem step_writes_nil (last : step setup run = .ok (some event) after)
    (h : event ≠ .actionDone) : run.world.Writes [] after.world := by
  by_cases presenting : ∃ group file bundle, run.phase = .present group file bundle
  · obtain ⟨group, file, bundle, presenting⟩ := presenting
    cases step_transition last with
    | actionDone => exact (h rfl).elim
    | quitPresenting _ _ _ alike => exact alike.1.writes
    | followUp _ _ _ before answers after =>
      exact (before.1.writes.append (Remedy.answerQuestion_writes answers)).append after.1.writes
    | _ =>
      rw [‹run.phase = _›] at presenting
      cases presenting
  · have silent : Action.Confined Run.world (fun _ _ => False) 0 (step setup) run := by
      apply step_confined_of_handle
      apply handle_confined
      intro group file bundle hphase
      exact presenting ⟨group, file, bundle, hphase⟩
    have hwrites := silent.writes_nil
    rw [last] at hwrites
    exact hwrites

theorem Move.Mutates.cause (mutates : Move.Mutates ⟨run, event, after⟩)
    (last : step setup run = .ok (some event) after) :
    event = .actionDone ∨ event = .repairApplied ∨ event = .repairFailed := by
  cases mutates with
  | wrote writes some =>
    refine .inl (Classical.byContradiction fun h => ?_)
    exact some (writes.unique (step_writes_nil last h))
  | repaired offered changed =>
    cases step_transition last with
    | repairApplied => exact .inr (.inl rfl)
    | repairFailed => exact .inr (.inr rfl)
    | repairDeclined _ _ alike =>
      refine (changed ?_).elim
      rw [alike.1.files_eq]
    | _ =>
      rw [‹run.phase = _›] at offered
      cases offered

theorem Transition.scans_next (h : Transition setup run event after)
    (hevent : event = .actionDone ∨ event = .repairApplied) : after.phase = .scan := by
  cases h with
  | actionDone | repairApplied => rfl
  | _ => rcases hevent with hevent | hevent <;> cases hevent

theorem mutates_since_scan (h : Reaches setup (.start memory world) moves run)
    (phase : run.phase ≠ .scan) :
    ∀ move ∈ sinceScan moves, move.Mutates → move.event = .repairFailed := by
  induction h with
  | here => exact (phase rfl).elim
  | @move moves run event after _ last ih =>
    by_cases scanning : run.phase = .scan
    · intro move hmove
      rw [sinceScan_cons scanning] at hmove
      cases hmove
    · rw [sinceScan_cons_of_ne scanning, List.forall_mem_cons]
      refine ⟨?_, ih scanning⟩
      intro mutates
      rcases mutates.cause last with hevent | hevent | hevent
      · exact (phase ((step_transition last).scans_next (.inl hevent))).elim
      · exact (phase ((step_transition last).scans_next (.inr hevent))).elim
      · exact hevent

end Moves

/-- Whatever a run offers or works on was found by a scan, and since then nothing has changed the
files unless a repair has failed. -/
theorem rescans_after_mutation {setup : Setup μ} {memory : μ} {world : World}
    {moves : List (Move μ)} {run : Run μ} (h : Reaches setup (.start memory world) moves run)
    (phase : run.phase ≠ .scan) :
    (∀ move ∈ sinceScan moves, move.Mutates → move.event = .repairFailed) ∧
      (∀ found, run.phase.holds? = some found → lastFound? moves = some found) ∧
      ∀ group file, run.phase.work? = some (group, file) →
        lastWork? moves = some (group, file) ∧ Chosen setup moves group file := by
  have current := Current.of_reaches h
  exact ⟨mutates_since_scan h phase, current.found, current.work⟩

/-- A project with a finding that the analyzer can repair and one that it cannot, and an analyzer that
changes a file and then fails. -/
def brokenRepair : World :=
  let report := "[\x7b\"filePath\":\"/w/a.js\",\"messages\":[\x7b\"ruleId\":\"semi\",\"fix\":\x7b\"text\":\";\"\x7d\x7d,"
    ++ "\x7b\"ruleId\":\"no-var\"\x7d]\x7d]"
  { World.empty with
    files := (Files.empty ["w"]).set ["w", "a.js"] (.text "var a\n")
    scans := [⟨.finished 1 report "", []⟩]
    repairs := [⟨.finished 2 "" "boom", [("a.js", some (.text "var a;\n"))]⟩] }

theorem rescans_after_mutation_brokenRepair :
    ∃ moves run, Reaches hastySetup (.start [] brokenRepair) moves run ∧
      run.phase.state = .gather ∧ run.phase ≠ .scan ∧
      (∀ move ∈ sinceScan moves, move.Mutates → move.event = .repairFailed) ∧
      (∀ found, run.phase.holds? = some found → lastFound? moves = some found) ∧
      ∀ group file, run.phase.work? = some (group, file) →
        lastWork? moves = some (group, file) ∧ Chosen hastySetup moves group file := by
  have gathers : (course hastySetup [] brokenRepair).passages.any (·.state = .gather) := by
    decide +kernel
  obtain ⟨moves, run, _, _, reached, _, hgather⟩ := course_before (·.state = .gather) gathers
  have state : run.phase.state = .gather := of_decide_eq_true hgather
  have phase : run.phase ≠ .scan := by
    intro scanning
    rw [scanning] at state
    cases state
  exact ⟨moves, run, reached, state, phase, rescans_after_mutation reached phase⟩

/-- What was found before a repair is offered after it, although the repair has changed the files. -/
theorem brokenRepair_offers_stale :
    ∃ moves run, Reaches hastySetup (.start [] brokenRepair) moves run ∧
      run.phase.state = .selectRule ∧ ∃ move ∈ sinceScan moves, move.Mutates := by
  let check : Option Event × Option Event × Run SkipCounts × Option Event → Run SkipCounts → Bool :=
    fun (first, second, before, third) after => decide (first = some .issuesFound ∧
      second = some .fixablePresent ∧ third = some .repairFailed ∧
      before.phase.state = .repairOffered ∧ after.phase.state = .selectRule ∧
      after.world.files.content? ["w", "a.js"] ≠ before.world.files.content? ["w", "a.js"])
  have passes : Action.passes check (do
      let first ← step hastySetup
      let second ← step hastySetup
      let before ← get
      let third ← step hastySetup
      return (first, second, before, third)) (.start [] brokenRepair) := by decide +kernel
  obtain ⟨_, _, hsteps, hcheck⟩ := Action.exists_of_passes passes
  simp only [Action.bind_eq_ok, Action.get_eq_ok, Action.pure_eq_ok] at hsteps
  obtain ⟨first, _, hfirst, second, _, hsecond, before, _, ⟨rfl, rfl⟩, third, _, hthird, rfl, rfl⟩ :=
    hsteps
  obtain ⟨rfl, rfl, rfl, offered, selects, changed⟩ := of_decide_eq_true hcheck
  have scanned : Reaches hastySetup (.start [] brokenRepair) _ _ := .move (.move .here hfirst) hsecond
  refine ⟨_, _, .move scanned hthird, selects, ⟨_, .repairFailed, _⟩, ?_, .repaired offered changed⟩
  rw [sinceScan_cons_of_ne]
  · exact List.mem_cons_self
  · intro scanning
    rw [scanning] at offered
    cases offered

end Loop
end LintRemedy
