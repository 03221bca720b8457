import LintRemedy.Json.Display

/-!
This module contains which values have a display form: all texts, and every value without anything in
it that keeps it from being written out. What says something is also shown as something.
-/

namespace LintRemedy

namespace Binary64

theorem layOut_ne_nil (digits : List Char) (point : Int) : layOut digits point ≠ [] := by
  unfold layOut
  dsimp only
  split
  · split <;> simp
  · simp

theorem text_ne_empty (number : Binary64) : number.text ≠ "" := by
  unfold text
  cases number with
  | nan => decide
  | infinite negative => cases negative <;> decide
  | finite negative mantissa exponent =>
    dsimp only
    split
    · simp
    · simp [layOut_ne_nil]

end Binary64

namespace Json

variable {value : Json} {shown : String} {fault : RenderFault}

theorem filled?_eq_some {filled : Json} (h : value.filled? = some filled) : filled.isFilled := by
  unfold filled? at h
  split at h
  · cases h
    assumption
  · cases h

theorem inspect_eq_ok_iff :
    value.inspect = .ok shown ↔ value.obstacle? .display = none ∧ value.form = shown := by
  unfold inspect
  cases value.obstacle? .display <;> simp

theorem inspect_eq_error_iff :
    value.inspect = .error fault ↔ value.obstacle? .display = some fault := by
  unfold inspect
  cases value.obstacle? .display <;> simp

theorem display_eq_inspect (h : ∀ s, value ≠ .str s) : value.display = value.inspect := by
  unfold display
  split
  · next s => exact (h s rfl).elim
  · rfl

/-- Only a text is shown whatever stands in it. -/
theorem display_eq_error_iff : value.display = .error fault ↔
    (∀ s, value ≠ .str s) ∧ value.obstacle? .display = some fault := by
  by_cases h : ∃ s, value = .str s
  · obtain ⟨s, rfl⟩ := h
    constructor
    · nofun
    · rintro ⟨noText, _⟩
      exact (noText s rfl).elim
  · rw [not_exists] at h
    rw [display_eq_inspect h, inspect_eq_error_iff]
    exact (and_iff_right h).symm

theorem exists_display_iff : (∃ shown, value.display = .ok shown) ↔
    (∃ s, value = .str s) ∨ value.obstacle? .display = none := by
  by_cases h : ∃ s, value = .str s
  · obtain ⟨s, rfl⟩ := h
    exact iff_of_true ⟨s, rfl⟩ (.inl ⟨s, rfl⟩)
  · rw [or_iff_right h]
    rw [not_exists] at h
    rw [display_eq_inspect h]
    unfold inspect
    cases value.obstacle? .display <;> simp

/-- A value that says nothing can be written out. -/
theorem obstacle?_of_not_isFilled (rendering : Rendering) (h : ¬ value.isFilled) :
    value.obstacle? rendering = none := by
  unfold isFilled at h
  cases value with
  | int value =>
    obtain rfl : value = 0 := by simpa using h
    cases rendering <;> decide
  | arr items =>
    obtain rfl : items = [] := by simpa using h
    cases rendering <;> rfl
  | obj members =>
    obtain rfl : members = [] := by simpa using h
    cases rendering <;> rfl
  | null | bool | float | str => cases rendering <;> rfl

theorem form_ne_empty (noText : ∀ s, value ≠ .str s) : value.form ≠ "" := by
  cases value with
  | null => decide
  | bool value => cases value <;> decide
  | int value =>
    change toString value ≠ ""
    rw [Int.toString_eq_repr]
    cases value with
    | ofNat n => exact Nat.repr_ne_empty
    | negSucc n => simp [Int.repr]
  | float value => exact Binary64.text_ne_empty value
  | str s => exact (noText s rfl).elim
  | arr items => simp [form]
  | obj members => simp [form]

theorem display_ne_empty (filled : value.isFilled) (h : value.display = .ok shown) :
    shown ≠ "" := by
  by_cases text : ∃ s, value = .str s
  · obtain ⟨s, rfl⟩ := text
    cases h
    exact of_decide_eq_true filled
  · rw [not_exists] at text
    rw [display_eq_inspect text, inspect_eq_ok_iff] at h
    rw [← h.2]
    exact form_ne_empty text

end Json
end LintRemedy
