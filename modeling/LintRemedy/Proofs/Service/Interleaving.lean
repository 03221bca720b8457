import LintRemedy.Proofs.Loop.Report
import LintRemedy.Proofs.Service.Eviction
import LintRemedy.Service.Basic

/-!
This module contains the runs of the service as they take turns: new ones are started, those in
progress move on in a world that the others change as well, some return, some crash, and all the
while others ask about them. Whatever the order of the turns, the registry keeps every run in
progress, and of the finished ones it lets go of the oldest first.
-/

namespace LintRemedy
namespace Service

open LintRemedy.Action

variable {μ : Type}

/-- A run in progress, with the id under which it is registered. -/
structure Going (μ : Type) where
  id : String
  setup : Loop.Setup μ
  run : Loop.Run μ

def Going.ids (going : List (Going μ)) : List String :=
  going.map (·.id)

/-- A run in progress as it finds the world when it takes its turn. -/
def Going.within (going : Going μ) (world : World) : Loop.Run μ :=
  { going.run with talk.world := world }

/-- A run ends with a course: it returns its report, or a fault ends it. -/
inductive Ends (setup : Loop.Setup μ) (run : Loop.Run μ) : Loop.Course μ → Prop where
  | returned {passages ended report last} (stopped : Loop.step setup run = .ok none ended)
      (closed : Loop.finish setup ended = .ok report last) :
      Ends setup run ⟨passages, .ok report, last⟩
  | crashed {passages fault last} (failed : Loop.step setup run = .error fault last) :
      Ends setup run ⟨passages, .error fault, last⟩

structure Scene (μ : Type) where
  world : World
  registry : Registry := []
  going : List (Going μ) := []
  /-- The ids of all runs that were started, in their order. -/
  started : List String := []

inductive Turn where
  | started (id : String)
  | counted
  | moved
  | ended
  | asked
  | disturbed
deriving DecidableEq, Repr

/-- The turns that can be taken. A move is one turn: what others do to the files while it waits for
an answer comes with that answer. -/
inductive Scene.Takes (limit : Int) (scene : Scene μ) : Turn → Scene μ → Prop where
  /-- A run is started under a fresh id, and room is made for it. -/
  | start {id setup memory} (fresh : id ∉ scene.started) :
      Takes limit scene (.started id) { scene with
        registry := scene.registry.start limit id
        going := scene.going ++ [⟨id, setup, .start memory scene.world⟩]
        started := scene.started ++ [id] }
  /-- A run counts something in the middle of a move. -/
  | count {going report} (mem : going ∈ scene.going)
      (status : report.status = going.run.report.status) :
      Takes limit scene .counted { scene with
        registry := scene.registry.complete going.id report }
  | move {earlier going later event after} (place : scene.going = earlier ++ going :: later)
      (step : Loop.step going.setup (going.within scene.world) = .ok (some event) after) :
      Takes limit scene .moved { scene with
        world := after.world
        registry := scene.registry.complete going.id after.report
        going := earlier ++ { going with run := after } :: later }
  /-- A run returns or crashes. -/
  | finish {earlier going later course} (place : scene.going = earlier ++ going :: later)
      (ends : Ends going.setup (going.within scene.world) course) :
      Takes limit scene .ended { scene with
        world := course.last.world
        registry := scene.registry.complete going.id (finalReport course)
        going := earlier ++ later }
  /-- Somebody asks about a run. -/
  | ask : Takes limit scene .asked scene
  /-- Somebody else changes the world, and with it the answers that are due. -/
  | disturb {world} : Takes limit scene .disturbed { scene with world }

/-- A turn with the scenes before and after it. -/
structure Turned (μ : Type) where
  before : Scene μ
  turn : Turn
  after : Scene μ

/-- The scenes that are reached by turns, the last one first. -/
inductive Scene.Unfolds (limit : Int) (world : World) : List (Turned μ) → Scene μ → Prop where
  | here : Unfolds limit world [] { world }
  | turn {history scene turn after} (earlier : Unfolds limit world history scene)
      (last : scene.Takes limit turn after) :
      Unfolds limit world (⟨scene, turn, after⟩ :: history) after

/-- The run of an id was removed from the registry. -/
def Evicted (history : List (Turned μ)) (id : String) : Prop :=
  ∃ turned ∈ history, id ∈ turned.before.registry.ids ∧ id ∉ turned.after.registry.ids

/-- The registry is in keeping with what has happened. -/
structure Consistent (history : List (Turned μ)) (scene : Scene μ) : Prop where
  distinct : scene.started.Nodup
  ordered : scene.registry.ids.Sublist scene.started
  known : ∀ going ∈ scene.going, going.id ∈ scene.started
  apart : (Going.ids scene.going).Nodup
  /-- A run that has not come to its end is registered as running. -/
  running : ∀ going ∈ scene.going, ¬ going.run.phase.state.isFinal →
    going.run.report.status = .running ∧
      ∃ report, (going.id, report) ∈ scene.registry ∧ report.status = .running
  /-- A run that is no longer in progress is not. -/
  ended : ∀ run ∈ scene.registry, run.1 ∉ Going.ids scene.going → run.2.status ≠ .running
  registered : ∀ id, id ∈ scene.registry.ids ↔ id ∈ scene.started ∧ ¬ Evicted history id
  evicted : ∀ id, Evicted history id → id ∈ scene.started

variable {limit : Int} {world : World} {history : List (Turned μ)} {scene after : Scene μ}
  {turn : Turn}

theorem Going.mem_ids {going : Going μ} {all : List (Going μ)} (h : going ∈ all) :
    going.id ∈ Going.ids all :=
  List.mem_map.2 ⟨going, h, rfl⟩

/-- Where no id occurs twice, the others have other ids. -/
theorem Going.ne_of_nodup {going : Going μ} {earlier later : List (Going μ)}
    (apart : (Going.ids (earlier ++ going :: later)).Nodup) :
    ∀ other ∈ earlier ++ later, other.id ≠ going.id := by
  unfold Going.ids at apart
  rw [List.map_append, List.map_cons, List.nodup_middle, ← List.map_append, List.nodup_cons]
    at apart
  intro other hother heq
  rw [← heq] at apart
  exact apart.1 (Going.mem_ids hother)

theorem closingReport_ne_running (run : Loop.Run μ) :
    (Loop.closingReport run).status ≠ .running := by
  unfold Loop.closingReport
  split
  · dsimp only
    split <;> nofun
  · next ended => exact ended

/-- However a run has ended, its final report says that it is over. -/
theorem finalReport_ne_running {setup : Loop.Setup μ} {run : Loop.Run μ} {course : Loop.Course μ}
    (h : Ends setup run course) : (finalReport course).status ≠ .running := by
  cases h with
  | @returned passages ended report last stopped closed =>
    obtain ⟨_, hfinish⟩ := Loop.finish_eq setup ended
    rw [hfinish] at closed
    cases closed
    exact closingReport_ne_running ended
  | crashed => nofun

theorem evicted_cons {id : String} :
    Evicted (⟨scene, turn, after⟩ :: history) id ↔
      (id ∈ scene.registry.ids ∧ id ∉ after.registry.ids) ∨ Evicted history id := by
  unfold Evicted
  rw [List.exists_mem_cons_iff]

theorem evicted_cons_of_eq (ids : after.registry.ids = scene.registry.ids) (id : String) :
    Evicted (⟨scene, turn, after⟩ :: history) id ↔ Evicted history id := by
  rw [evicted_cons, ids]
  simp

namespace Consistent

theorem start (world : World) : Consistent [] ({ world } : Scene μ) where
  distinct := List.nodup_nil
  ordered := List.Sublist.refl []
  known := List.forall_mem_nil _
  apart := List.nodup_nil
  running := List.forall_mem_nil _
  ended := List.forall_mem_nil _
  registered _ := by simp [Registry.ids]
  evicted _ h := by
    obtain ⟨_, hmem, _⟩ := h
    cases hmem

/-- The ids in the registry are ids of runs that were started. -/
theorem mem_started (consistent : Consistent history scene) {id : String}
    (h : id ∈ scene.registry.ids) : id ∈ scene.started :=
  ((consistent.registered id).1 h).1

/-- The report of one run is put in the place of the one before. -/
theorem complete {id : String} {report : RunRecord} {going : List (Going μ)} {world : World}
    (consistent : Consistent history scene)
    (ids : (Going.ids going).Sublist (Going.ids scene.going))
    (others : ∀ other, other ≠ id → other ∈ Going.ids scene.going → other ∈ Going.ids going)
    (running : ∀ g ∈ going, ¬ g.run.phase.state.isFinal → (g ∈ scene.going ∧ g.id ≠ id) ∨
      (g.id = id ∧ id ∈ scene.registry.ids ∧ g.run.report.status = .running ∧
        report.status = .running))
    (ended : id ∉ Going.ids going → report.status ≠ .running) :
    let after := { scene with world, registry := scene.registry.complete id report, going }
    Consistent (⟨scene, turn, after⟩ :: history) after := by
  intro after
  have same : after.registry.ids = scene.registry.ids := Registry.ids_complete id report _
  exact {
    distinct := consistent.distinct
    ordered := by
      rw [same]
      exact consistent.ordered
    known := by
      intro g hg
      obtain ⟨g', hg', hid⟩ := List.mem_map.1 (ids.subset (List.mem_map.2 ⟨g, hg, rfl⟩))
      rw [← hid]
      exact consistent.known g' hg'
    apart := consistent.apart.sublist ids
    running := by
      intro g hg unended
      rcases running g hg unended with ⟨hold, hne⟩ | ⟨rfl, hmem, status, hreport⟩
      · obtain ⟨status, kept, hkept, hrunning⟩ := consistent.running g hold unended
        exact ⟨status, kept, Registry.mem_complete_iff.2 (.inl ⟨hkept, hne⟩), hrunning⟩
      · exact ⟨status, report, Registry.mem_complete_iff.2 (.inr ⟨rfl, hmem⟩), hreport⟩
    ended := by
      intro run hrun absent
      rcases Registry.mem_complete_iff.1 hrun with ⟨hold, hne⟩ | ⟨rfl, _⟩
      · exact consistent.ended run hold fun hgoing => absent (others run.1 hne hgoing)
      · exact ended absent
    registered := by
      intro other
      rw [same, evicted_cons_of_eq same]
      exact consistent.registered other
    evicted := by
      intro other
      rw [evicted_cons_of_eq same]
      exact consistent.evicted other }

theorem registry_start {id : String} (consistent : Consistent history scene)
    (fresh : id ∉ scene.started) :
    scene.registry.start limit id = scene.registry.evict limit ++ [(id, ({} : RunRecord))] := by
  apply Registry.put_of_notMem
  intro h
  have kept := (Registry.evict_sublist limit scene.registry).map (·.1)
  exact fresh (consistent.mem_started (kept.subset h))

/-- A run is started, and older ones may have to make room for it. -/
theorem enter {id : String} {setup : Loop.Setup μ} {memory : μ}
    (consistent : Consistent history scene) (fresh : id ∉ scene.started) :
    let after := { scene with
      registry := scene.registry.start limit id
      going := scene.going ++ [⟨id, setup, .start memory scene.world⟩]
      started := scene.started ++ [id] }
    Consistent (⟨scene, turn, after⟩ :: history) after := by
  intro after
  have kept := Registry.evict_sublist limit scene.registry
  have keptIds : (scene.registry.evict limit).ids.Sublist scene.registry.ids := kept.map _
  have registry : after.registry = scene.registry.evict limit ++ [(id, ({} : RunRecord))] :=
    consistent.registry_start fresh
  have ids : after.registry.ids = (scene.registry.evict limit).ids ++ [id] := by
    rw [registry]
    exact List.map_append
  exact {
    distinct := by
      refine List.nodup_append.2 ⟨consistent.distinct, List.nodup_singleton id, ?_⟩
      rintro other hother _ hid rfl
      rw [List.mem_singleton.1 hid] at hother
      exact fresh hother
    ordered := by
      rw [ids]
      exact (keptIds.trans consistent.ordered).append (List.Sublist.refl [id])
    known := by
      intro g hg
      rcases List.mem_append.1 hg with hg | hg
      · exact List.mem_append_left _ (consistent.known g hg)
      · rw [List.mem_singleton.1 hg]
        exact List.mem_append_right _ (List.mem_singleton.2 rfl)
    apart := by
      unfold Going.ids
      rw [List.map_append]
      refine List.nodup_append.2 ⟨consistent.apart, List.nodup_singleton id, ?_⟩
      rintro other hother _ hid rfl
      obtain ⟨g, hg, hgid⟩ := List.mem_map.1 hother
      rw [← hgid] at hid
      have same : g.id = id := List.mem_singleton.1 hid
      exact fresh (same ▸ consistent.known g hg)
    running := by
      rw [registry]
      intro g hg unended
      rcases List.mem_append.1 hg with hg | hg
      · obtain ⟨status, report, hmem, running⟩ := consistent.running g hg unended
        refine ⟨status, report, List.mem_append_left _ ?_, running⟩
        exact Registry.mem_evict_of_running hmem running
      · rw [List.mem_singleton.1 hg]
        exact ⟨rfl, {}, List.mem_append_right _ (List.mem_singleton.2 rfl), rfl⟩
    ended := by
      rw [registry]
      intro run hrun absent
      unfold Going.ids at absent
      rw [List.map_append, List.mem_append, not_or] at absent
      rcases List.mem_append.1 hrun with hrun | hrun
      · exact consistent.ended run (kept.subset hrun) absent.1
      · rw [List.mem_singleton.1 hrun] at absent
        exact (absent.2 (List.mem_singleton.2 rfl)).elim
    registered := by
      intro other
      rw [evicted_cons, ids, List.mem_append, List.mem_append, List.mem_singleton]
      by_cases h : other = id
      · -- The id is fresh, so no run of this id was ever removed.
        rw [h]
        have unregistered : id ∉ scene.registry.ids := fun h => fresh (consistent.mem_started h)
        have unevicted : ¬ Evicted history id := fun h => fresh (consistent.evicted id h)
        simp [unregistered, unevicted]
      · have subset : other ∈ (scene.registry.evict limit).ids → other ∈ scene.registry.ids :=
          fun h => keptIds.subset h
        have before := consistent.registered other
        simp only [h, or_false]
        tauto
    evicted := by
      intro other
      rw [evicted_cons]
      rintro (⟨hmem, _⟩ | hevicted)
      · exact List.mem_append_left _ (consistent.mem_started hmem)
      · exact List.mem_append_left _ (consistent.evicted other hevicted) }

/-- The world is not what the registry is about. -/
theorem aside (consistent : Consistent history scene) (world : World) :
    let after := { scene with world }
    Consistent (⟨scene, turn, after⟩ :: history) after := by
  intro after
  have same : after.registry.ids = scene.registry.ids := rfl
  exact {
    distinct := consistent.distinct
    ordered := consistent.ordered
    known := consistent.known
    apart := consistent.apart
    running := consistent.running
    ended := consistent.ended
    registered := by
      intro other
      rw [evicted_cons_of_eq same]
      exact consistent.registered other
    evicted := by
      intro other
      rw [evicted_cons_of_eq same]
      exact consistent.evicted other }

/-- Every turn keeps the registry in keeping with what has happened. -/
theorem takes (consistent : Consistent history scene) (h : scene.Takes limit turn after) :
    Consistent (⟨scene, turn, after⟩ :: history) after := by
  cases h with
  | start fresh => exact consistent.enter fresh
  | @count going report mem status =>
    refine consistent.complete (List.Sublist.refl _) (fun _ _ h => h) ?_
      (fun h => (h (Going.mem_ids mem)).elim)
    intro g hg unended
    by_cases hid : g.id = going.id
    · obtain rfl := List.inj_on_of_nodup_map consistent.apart hg mem hid
      obtain ⟨running, _, hmem, _⟩ := consistent.running g hg unended
      exact .inr ⟨rfl, Registry.mem_ids hmem, running, status.trans running⟩
    · exact .inl ⟨hg, hid⟩
  | @move earlier going later event after place step =>
    have others := Going.ne_of_nodup (place ▸ consistent.apart)
    have mem : going ∈ scene.going := by
      rw [place]
      exact List.mem_append_right _ List.mem_cons_self
    have ids : Going.ids (earlier ++ { going with run := after } :: later) =
        Going.ids scene.going := by
      rw [place]
      unfold Going.ids
      rw [List.map_append, List.map_append]
      rfl
    refine consistent.complete ?_ ?_ ?_ ?_
    · rw [ids]
    · intro _ _ h
      rw [ids]
      exact h
    · intro g hg unended
      rcases List.mem_append.1 hg with hg | hg
      · refine .inl ⟨?_, others g (List.mem_append_left _ hg)⟩
        rw [place]
        exact List.mem_append_left _ hg
      · rcases List.mem_cons.1 hg with rfl | hg
        · -- The run that has moved was in progress before, and its status is the same.
          have transition := Loop.step_transition step
          obtain ⟨running, _, hmem, _⟩ := consistent.running going mem transition.not_isFinal
          have status := (transition.status_eq unended).trans running
          exact .inr ⟨rfl, Registry.mem_ids hmem, status, status⟩
        · refine .inl ⟨?_, others g (List.mem_append_right _ hg)⟩
          rw [place]
          exact List.mem_append_right _ (List.mem_cons_of_mem _ hg)
    · intro absent
      rw [ids] at absent
      exact (absent (Going.mem_ids mem)).elim
  | @finish earlier going later course place ends =>
    have others := Going.ne_of_nodup (place ▸ consistent.apart)
    have sublist : (earlier ++ later).Sublist scene.going := by
      rw [place]
      exact (List.Sublist.refl earlier).append (List.sublist_cons_self going later)
    refine consistent.complete (sublist.map _) ?_ ?_ ?_
    · intro other hne hother
      rw [place] at hother
      unfold Going.ids at hother ⊢
      rw [List.map_append, List.map_cons, List.mem_append, List.mem_cons] at hother
      rw [List.map_append, List.mem_append]
      tauto
    · intro g hg _
      exact .inl ⟨sublist.subset hg, others g hg⟩
    · exact fun _ => finalReport_ne_running ends
  | ask => exact consistent.aside scene.world
  | disturb => exact consistent.aside _

theorem of_unfolds (h : Scene.Unfolds limit world history scene) : Consistent history scene := by
  induction h with
  | here => exact start world
  | turn _ last ih => exact ih.takes last

end Consistent

/-! ### What a turn does to the registry -/

namespace Scene.Takes

theorem started_grows (h : scene.Takes limit turn after) : scene.started <+: after.started := by
  cases h with
  | start => exact List.prefix_append _ _
  | count | move | finish | ask | disturb => exact List.prefix_refl _

/-- Only the start of a run removes others. -/
theorem ids_eq (h : scene.Takes limit turn after) (other : ∀ id, turn ≠ .started id) :
    after.registry.ids = scene.registry.ids := by
  cases h with
  | start => exact (other _ rfl).elim
  | count | move | finish => exact Registry.ids_complete _ _ _
  | ask | disturb => rfl

theorem kept (h : scene.Takes limit turn after) (consistent : Consistent history scene)
    {run : String × RunRecord} (hrun : run ∈ scene.registry) (running : run.2.status = .running) :
    run.1 ∈ after.registry.ids := by
  cases h with
  | @start id setup memory fresh =>
    dsimp only
    rw [consistent.registry_start fresh]
    exact Registry.mem_ids (List.mem_append_left _ (Registry.mem_evict_of_running hrun running))
  | count | move | finish =>
    dsimp only
    rw [Registry.ids_complete]
    exact Registry.mem_ids hrun
  | ask | disturb => exact Registry.mem_ids hrun

/-- After the start of a run, no more finished ones are left than the limit says. -/
theorem countP_le {id : String} (h : scene.Takes limit (.started id) after)
    (consistent : Consistent history scene) (hlimit : 0 ≤ limit) :
    (after.registry.countP Registry.isFinished : Int) ≤ limit := by
  cases h with
  | start fresh =>
    have room := Registry.countP_evict_le hlimit scene.registry
    have newest : List.countP Registry.isFinished [(id, ({} : RunRecord))] = 0 := rfl
    dsimp only
    rw [consistent.registry_start fresh, List.countP_append, newest]
    exact room

/-- A run that is removed is finished, and every finished one that is kept was started after it. -/
theorem removed_before (h : scene.Takes limit turn after) (consistent : Consistent history scene)
    {run : String × RunRecord} (hrun : run ∈ scene.registry)
    (removed : run.1 ∉ after.registry.ids) :
    Registry.isFinished run ∧ ∀ other ∈ after.registry, Registry.isFinished other →
      [run.1, other.1].Sublist scene.started := by
  cases h with
  | @start id setup memory fresh =>
    dsimp only at removed ⊢
    rw [consistent.registry_start fresh] at removed ⊢
    have evicted : run ∉ scene.registry.evict limit :=
      fun h => removed (Registry.mem_ids (List.mem_append_left _ h))
    obtain ⟨finished, before⟩ := Registry.evicted_before hrun evicted
    refine ⟨finished, ?_⟩
    intro other hother hfinished
    rcases List.mem_append.1 hother with hother | hother
    · have ids : [run.1, other.1].Sublist scene.registry.ids :=
        (before other hother hfinished).map Prod.fst
      exact ids.trans consistent.ordered
    · rw [List.mem_singleton.1 hother] at hfinished
      cases hfinished
  | count | move | finish =>
    dsimp only at removed
    rw [Registry.ids_complete] at removed
    exact (removed (Registry.mem_ids hrun)).elim
  | ask | disturb => exact (removed (Registry.mem_ids hrun)).elim

end Scene.Takes

theorem Scene.Unfolds.before (h : Scene.Unfolds limit world history scene) {turned : Turned μ}
    (hmem : turned ∈ history) : (∃ earlier, Consistent earlier turned.before) ∧
      turned.before.Takes limit turned.turn turned.after ∧
      turned.before.started.Sublist scene.started := by
  induction h with
  | here => cases hmem
  | turn earlier last ih =>
    have grows := last.started_grows.sublist
    rcases List.mem_cons.1 hmem with rfl | hmem
    · exact ⟨⟨_, .of_unfolds earlier⟩, last, grows⟩
    · obtain ⟨consistent, takes, sublist⟩ := ih hmem
      exact ⟨consistent, takes, sublist.trans grows⟩

end Service
end LintRemedy
