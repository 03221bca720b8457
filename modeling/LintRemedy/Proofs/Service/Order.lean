import LintRemedy.Proofs.Loop.SkipBudget
import LintRemedy.Proofs.Service.Interleaving

/-!
This module contains what the service keeps to while its runs take turns: which runs it removes and
which it keeps, and what it answers to those who ask about a run.
-/

namespace LintRemedy
namespace Service

variable {μ : Type} {limit : Int} {world : World} {history : List (Turned μ)} {scene : Scene μ}

/-! ### Answers -/

section Answers

variable {id : String} {registry : Registry} {report : RunRecord}
  {next : RunRecord → ServiceResponse}

theorem withRun_of_mem (distinct : registry.ids.Nodup) (h : (id, report) ∈ registry)
    (next : RunRecord → ServiceResponse) : withRun id registry next = next report := by
  unfold withRun
  rw [(Registry.find?_eq_some_iff distinct).2 h]

theorem withRun_of_notMem (h : id ∉ registry.ids) (next : RunRecord → ServiceResponse) :
    withRun id registry next = detailed 404 ("Unknown run: " ++ id) := by
  unfold withRun
  rw [Registry.find?_eq_none_iff.2 h]

/-- Where what is told about known runs is no such response, it tells that a run is unknown. -/
theorem withRun_unknown_iff (distinct : registry.ids.Nodup)
    (known : ∀ report, (next report).status ≠ 404) :
    (withRun id registry next).status = 404 ↔ id ∉ registry.ids := by
  constructor
  · intro status present
    obtain ⟨report, hmem⟩ := Registry.mem_ids_iff.1 present
    rw [withRun_of_mem distinct hmem] at status
    exact known report status
  · intro absent
    rw [withRun_of_notMem absent]
    rfl

theorem runStatus_unknown_iff (distinct : registry.ids.Nodup) :
    (runStatus id registry).status = 404 ↔ id ∉ registry.ids := by
  apply withRun_unknown_iff distinct
  intro report
  nofun

theorem runResults_unknown_iff (distinct : registry.ids.Nodup) :
    (runResults id registry).status = 404 ↔ id ∉ registry.ids := by
  apply withRun_unknown_iff distinct
  intro report
  split <;> nofun

theorem runResults_of_mem (distinct : registry.ids.Nodup) (h : (id, report) ∈ registry) :
    (runResults id registry).status = if report.status = .running then 409 else 200 := by
  unfold runResults
  rw [withRun_of_mem distinct h]
  split <;> rfl

theorem runResults_running_iff (distinct : registry.ids.Nodup) :
    (runResults id registry).status = 409 ↔
      ∃ report, (id, report) ∈ registry ∧ report.status = .running := by
  constructor
  · intro status
    by_cases present : id ∈ registry.ids
    · obtain ⟨report, hmem⟩ := Registry.mem_ids_iff.1 present
      rw [runResults_of_mem distinct hmem] at status
      split at status
      · next running => exact ⟨report, hmem, running⟩
      · cases status
    · rw [(runResults_unknown_iff distinct).2 present] at status
      cases status
  · rintro ⟨report, hmem, running⟩
    rw [runResults_of_mem distinct hmem, if_pos running]

end Answers

/-! ### The service on its own -/

/-- A run that is followed to its end takes turns until it is no longer in progress. -/
theorem Scene.Unfolds.follow {id : String} {setup : Loop.Setup μ} {others : List (Going μ)}
    {started : List String} (passageLimit : Nat) :
    ∀ (history : List (Turned μ)) (registry : Registry) (run : Loop.Run μ)
      (passages : List (Loop.Passage μ)),
      Scene.Unfolds limit world history
        { world := run.world, registry, going := others ++ [⟨id, setup, run⟩], started } →
      let course := Loop.follow setup passageLimit run passages
      course.passages.length < passages.length + passageLimit →
        ∃ all, history <:+ all ∧ Scene.Unfolds limit world all
          { world := course.last.world, registry := registry.complete id (finalReport course),
            going := others, started } := by
  induction passageLimit with
  | zero =>
    intro history registry run passages _ course whole
    have length : course.passages.length = passages.length := List.length_reverse
    omega
  | succ passageLimit ih =>
    intro history registry run passages unfolds
    have place : others ++ [⟨id, setup, run⟩] = others ++ ⟨id, setup, run⟩ :: [] := rfl
    unfold Loop.follow
    cases hstep : Loop.step setup run with
    | error fault last =>
      intro course _
      have ends : Ends setup run ⟨passages.reverse, .error fault, last⟩ := .crashed hstep
      have ended := unfolds.turn (.finish place ends)
      rw [List.append_nil] at ended
      exact ⟨_, List.suffix_cons _ _, ended⟩
    | ok event? after =>
      cases event? with
      | some event =>
        intro course whole
        have moved := unfolds.turn (.move place hstep)
        have length : course.passages.length < passages.length + 1 + passageLimit := by omega
        obtain ⟨all, suffix, ended⟩ :=
          ih _ _ after (⟨run.phase.state, event, after⟩ :: passages) moved length
        rw [Registry.complete_complete] at ended
        exact ⟨all, (List.suffix_cons _ _).trans suffix, ended⟩
      | none =>
        obtain ⟨terminal, closed⟩ := Loop.finish_eq setup after
        simp only [closed]
        intro _
        have ends : Ends setup run ⟨passages.reverse, .ok _, _⟩ := .returned hstep closed
        have ended := unfolds.turn (.finish place ends)
        rw [List.append_nil] at ended
        exact ⟨_, List.suffix_cons _ _, ended⟩

/-- What the service does with a run when nobody disturbs it is a number of turns. -/
theorem Scene.Unfolds.carryOut {setup : Loop.Setup μ} {memory : μ} {service : Service}
    (h : Scene.Unfolds limit world history scene) (sameWorld : service.world = scene.world)
    (sameRegistry : service.registry = scene.registry)
    (fresh : runId (service.started + 1) ∉ scene.started)
    (whole : (Loop.course setup memory service.world).passages.length <
      Loop.passageLimit setup (.start memory service.world)) :
    ∃ all after, (register limit >>= fun id => Service.carryOut id setup memory) service =
        .ok () after ∧
      history <:+ all ∧ Scene.Unfolds limit world all
        { world := after.world, registry := after.registry, going := scene.going,
          started := scene.started ++ [runId (service.started + 1)] } := by
  have started := h.turn (@Scene.Takes.start _ _ _ _ setup memory fresh)
  rw [← sameWorld, ← sameRegistry] at started
  obtain ⟨all, suffix, ended⟩ := Scene.Unfolds.follow
    (Loop.passageLimit setup (.start memory service.world)) _ _ (.start memory service.world) []
    started ((Nat.zero_add _).symm ▸ whole)
  exact ⟨all, _, rfl, (List.suffix_cons _ _).trans suffix, ended⟩

/-! ### Order in the registry -/

/-- How the registry is kept in order. -/
structure Orderly (limit : Int) (history : List (Turned μ)) (scene : Scene μ) : Prop where
  distinct : scene.started.Nodup
  /-- No run that is running is removed by any turn. -/
  kept : ∀ turned ∈ history, ∀ run ∈ turned.before.registry, run.2.status = .running →
    run.1 ∈ turned.after.registry.ids
  /-- Each start leaves as much room as the limit says. -/
  room : ∀ turned ∈ history, ∀ id, turned.turn = .started id →
    (turned.after.registry.countP Registry.isFinished : Int) ≤ limit
  /-- Runs are only removed by starts, when they are finished, and each of them was started before
  all the finished ones that are kept. -/
  oldest : ∀ turned ∈ history, ∀ run ∈ turned.before.registry,
    run.1 ∉ turned.after.registry.ids →
      (∃ id, turned.turn = .started id) ∧ Registry.isFinished run ∧
        ∀ other ∈ turned.after.registry, Registry.isFinished other →
          [run.1, other.1].Sublist scene.started
  /-- A run in progress is registered as running until it comes to its last state. -/
  progress : ∀ going ∈ scene.going, ¬ going.run.phase.state.isFinal →
    ∃ report, (going.id, report) ∈ scene.registry ∧ report.status = .running
  /-- A run that has returned or crashed is not running. -/
  stopped : ∀ run ∈ scene.registry, run.1 ∉ Going.ids scene.going → run.2.status ≠ .running
  unknown : ∀ setup body id (service : Service), service.registry = scene.registry →
    ∀ endpoint ∈ [Endpoint.runStatus id, Endpoint.runResults id],
      ((respondInFull setup "GET" body (some endpoint) service).1.status = 404 ↔
        id ∉ scene.started ∨ Evicted history id)
  unfinished : ∀ setup body id (service : Service), service.registry = scene.registry →
    ((respondInFull setup "GET" body (some (.runResults id)) service).1.status = 409 ↔
      ∃ report, (id, report) ∈ scene.registry ∧ report.status = .running)
  /-- Whoever asks about a run changes nothing. -/
  unchanged : ∀ setup body id (service : Service),
    ∀ endpoint ∈ [Endpoint.runStatus id, Endpoint.runResults id],
      (respondInFull setup "GET" body (some endpoint) service).2 = service

/-- However the runs of the service take turns, none that is running is removed, and the finished
ones are removed in the order in which they were started. -/
theorem unfolds_orderly {μ : Type} {limit : Int} {world : World} {history : List (Turned μ)}
    {scene : Scene μ} (hlimit : 0 ≤ limit) (h : Scene.Unfolds limit world history scene) :
    Orderly limit history scene := by
  have consistent := Consistent.of_unfolds h
  have distinct : scene.registry.ids.Nodup := consistent.distinct.sublist consistent.ordered
  have absent : ∀ id, id ∉ scene.registry.ids ↔ id ∉ scene.started ∨ Evicted history id := by
    intro id
    rw [consistent.registered]
    tauto
  exact {
    distinct := consistent.distinct
    kept := by
      intro turned hturned run hrun running
      obtain ⟨⟨_, before⟩, takes, _⟩ := h.before hturned
      exact takes.kept before hrun running
    room := by
      intro turned hturned id hstart
      obtain ⟨⟨_, before⟩, takes, _⟩ := h.before hturned
      rw [hstart] at takes
      exact takes.countP_le before hlimit
    oldest := by
      intro turned hturned run hrun removed
      obtain ⟨⟨_, before⟩, takes, grows⟩ := h.before hturned
      obtain ⟨finished, first⟩ := takes.removed_before before hrun removed
      refine ⟨?_, finished, fun other hother hfinished =>
        (first other hother hfinished).trans grows⟩
      by_contra others
      rw [takes.ids_eq (not_exists.1 others)] at removed
      exact removed (Registry.mem_ids hrun)
    progress := by
      intro going hgoing unended
      exact (consistent.running going hgoing unended).2
    stopped := consistent.ended
    unknown := by
      intro setup body id service same endpoint hendpoint
      rw [← absent, ← same]
      rw [← same] at distinct
      rcases List.mem_pair.1 hendpoint with rfl | rfl
      · exact runStatus_unknown_iff distinct
      · exact runResults_unknown_iff distinct
    unfinished := by
      intro setup body id service same
      rw [← same]
      rw [← same] at distinct
      exact runResults_running_iff distinct
    unchanged := by
      intro setup body id service endpoint hendpoint
      rcases List.mem_pair.1 hendpoint with rfl | rfl <;> rfl }

theorem unfolds_orderly_noRoom :
    ∃ (history : List (Turned SkipCounts)) (scene : Scene SkipCounts),
      Scene.Unfolds 0 World.empty history scene ∧ scene.started = ["slow", runId 1, "last"] ∧
      scene.registry.ids = ["slow", "last"] ∧ Evicted history (runId 1) ∧
      Orderly 0 history scene := by
  -- The second run is over at once, so the third one takes its place, not that of the first.
  let service : Service := ⟨World.empty, [("slow", {})], 0⟩
  have first := Scene.Unfolds.here.turn (@Scene.Takes.start SkipCounts 0
    { world := World.empty } "slow" Loop.hastySetup [] nofun)
  have whole : (Loop.course Loop.hastySetup [] service.world).passages.length <
      Loop.passageLimit Loop.hastySetup (.start [] service.world) := by decide +kernel
  obtain ⟨all, after, carried, _, second⟩ := first.carryOut rfl rfl (by decide) whole
  obtain ⟨_, rfl⟩ := EStateM.Result.ok.inj carried
  have third := second.turn (@Scene.Takes.start _ _ _ "last" Loop.hastySetup [] (by decide))
  refine ⟨_, _, third, rfl, by decide +kernel, ?_, unfolds_orderly (by decide) third⟩
  exact ⟨_, List.mem_cons_self, by decide +kernel, by decide +kernel⟩

end Service
end LintRemedy
