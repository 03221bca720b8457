import LintRemedy.Service.Registry
import Mathlib.Data.List.Nodup

/-!
This module contains what becomes of the entries of the registry when runs are started, go on and
are evicted. Eviction cuts the registry in an older part, of which only the running ones stay, and
a newer part, which stays as it is.
-/

namespace LintRemedy
namespace Registry

variable {id : String} {report : RunRecord} {run : String × RunRecord} {runs : Registry}

theorem mem_ids_iff : id ∈ runs.ids ↔ ∃ report, (id, report) ∈ runs := by
  unfold ids
  rw [List.mem_map]
  constructor
  · rintro ⟨⟨_, report⟩, hmem, rfl⟩
    exact ⟨report, hmem⟩
  · rintro ⟨report, hmem⟩
    exact ⟨(id, report), hmem, rfl⟩

theorem mem_ids (h : run ∈ runs) : run.1 ∈ runs.ids :=
  List.mem_map.2 ⟨run, h, rfl⟩

theorem find?_eq_none_iff : runs.find? id = none ↔ id ∉ runs.ids := by
  unfold find? ids
  rw [Option.map_eq_none_iff, List.find?_eq_none, List.mem_map]
  simp only [decide_eq_true_eq, not_exists, not_and]

/-- Where no id occurs twice, a report is found just where it is. -/
theorem find?_eq_some_iff (distinct : runs.ids.Nodup) :
    runs.find? id = some report ↔ (id, report) ∈ runs := by
  induction runs with
  | nil => exact ⟨nofun, nofun⟩
  | cons other runs ih =>
    obtain ⟨absent, distinct⟩ := List.nodup_cons.1 distinct
    rw [List.mem_cons]
    unfold find?
    by_cases h : other.1 = id
    · rw [List.find?_cons_of_pos (by simpa using h), Option.map_some, Option.some.injEq]
      constructor
      · rintro rfl
        exact .inl (Prod.ext h.symm rfl)
      · rintro (rfl | hmem)
        · rfl
        · have present := mem_ids hmem
          rw [← h] at present
          exact (absent present).elim
    · rw [List.find?_cons_of_neg (by simpa using h)]
      refine (ih distinct).trans ⟨.inr, ?_⟩
      rintro (rfl | hmem)
      · exact (h rfl).elim
      · exact hmem

/-! ### The report of a run -/

theorem put_of_notMem (h : id ∉ runs.ids) : runs.put id report = runs ++ [(id, report)] := by
  induction runs with
  | nil => rfl
  | cons other runs ih =>
    obtain ⟨hother, habsent⟩ := List.ne_and_not_mem_of_not_mem_cons h
    unfold put
    rw [if_neg fun heq => hother heq.symm, ih habsent]
    rfl

theorem ids_complete (id : String) (report : RunRecord) (runs : Registry) :
    (runs.complete id report).ids = runs.ids := by
  unfold ids complete
  rw [List.map_map]
  apply List.map_congr_left
  intro other _
  dsimp only [Function.comp]
  split
  · next heq => exact heq.symm
  · rfl

theorem complete_complete (id : String) (first last : RunRecord) (runs : Registry) :
    (runs.complete id first).complete id last = runs.complete id last := by
  unfold complete
  rw [List.map_map]
  apply List.map_congr_left
  intro other _
  dsimp only [Function.comp]
  split
  · exact if_pos rfl
  · rfl

theorem mem_complete_iff : run ∈ runs.complete id report ↔
    (run ∈ runs ∧ run.1 ≠ id) ∨ (run = (id, report) ∧ id ∈ runs.ids) := by
  unfold complete
  rw [List.mem_map]
  constructor
  · rintro ⟨other, hmem, rfl⟩
    split
    · next heq => exact .inr ⟨rfl, heq ▸ mem_ids hmem⟩
    · next hne => exact .inl ⟨hmem, hne⟩
  · rintro (⟨hmem, hne⟩ | ⟨rfl, hid⟩)
    · exact ⟨run, hmem, if_neg hne⟩
    · obtain ⟨report', hmem⟩ := mem_ids_iff.1 hid
      exact ⟨(id, report'), hmem, if_pos rfl⟩

/-! ### Eviction -/

/-- The finished runs that are dropped are the oldest ones, and all of them are before the ones that
are kept. -/
theorem dropFinished_eq (n : Nat) (runs : Registry) :
    ∃ older newer, runs = older ++ newer ∧
      runs.dropFinished n = older.filter (!isFinished ·) ++ newer := by
  induction runs generalizing n with
  | nil => exact ⟨[], [], rfl, by cases n <;> rfl⟩
  | cons run runs ih =>
    cases n with
    | zero => exact ⟨[], run :: runs, rfl, rfl⟩
    | succ n =>
      unfold dropFinished
      split
      · next finished =>
        obtain ⟨older, newer, rfl, hdrop⟩ := ih n
        refine ⟨run :: older, newer, rfl, ?_⟩
        rw [hdrop, List.filter_cons_of_neg (by simpa using finished)]
      · next running =>
        obtain ⟨older, newer, rfl, hdrop⟩ := ih (n + 1)
        refine ⟨run :: older, newer, rfl, ?_⟩
        rw [hdrop, List.filter_cons_of_pos (by simpa using running)]
        rfl

theorem countP_dropFinished (n : Nat) (runs : Registry) :
    (runs.dropFinished n).countP isFinished = runs.countP isFinished - n := by
  induction runs generalizing n with
  | nil => cases n <;> simp [dropFinished]
  | cons run runs ih =>
    cases n with
    | zero => rfl
    | succ n =>
      unfold dropFinished
      split
      · next finished =>
        rw [ih, List.countP_cons_of_pos finished]
        omega
      · next running =>
        rw [List.countP_cons_of_neg running, List.countP_cons_of_neg running, ih]

variable {limit : Int}

theorem evict_sublist (limit : Int) (runs : Registry) : (runs.evict limit).Sublist runs := by
  unfold evict
  obtain ⟨older, newer, hruns, hdrop⟩ := dropFinished_eq _ runs
  rw [hdrop, hruns]
  exact List.filter_sublist.append (List.Sublist.refl newer)

theorem mem_evict_of_running (h : run ∈ runs) (running : run.2.status = .running) :
    run ∈ runs.evict limit :=
  mem_dropFinished_of_running _ h (by simpa [isFinished] using running)

/-- At most as many finished runs are left as the limit says. -/
theorem countP_evict_le (hlimit : 0 ≤ limit) (runs : Registry) :
    ((runs.evict limit).countP isFinished : Int) ≤ limit := by
  unfold evict
  rw [countP_dropFinished]
  omega

/-- A run that is evicted is finished, and it stands before every finished one that is kept. -/
theorem evicted_before (h : run ∈ runs) (evicted : run ∉ runs.evict limit) :
    isFinished run ∧ ∀ other ∈ runs.evict limit, isFinished other →
      [run, other].Sublist runs := by
  obtain ⟨older, newer, rfl, hdrop⟩ :=
    dropFinished_eq ((runs.countP isFinished : Int) - limit).toNat runs
  have kept : ∀ other, other ∈ (older ++ newer).evict limit ↔
      (other ∈ older ∧ isFinished other = false) ∨ other ∈ newer := by
    intro other
    unfold evict
    rw [hdrop, List.mem_append, List.mem_filter, Bool.not_eq_true']
  rw [kept, not_or, not_and] at evicted
  have first := (List.mem_append.1 h).resolve_right evicted.2
  refine ⟨by simpa using evicted.1 first, ?_⟩
  intro other hother finished
  rcases (kept other).1 hother with ⟨_, running⟩ | second
  · rw [finished] at running
    cases running
  · exact (List.singleton_sublist.2 first).append (List.singleton_sublist.2 second)

end Registry
end LintRemedy
