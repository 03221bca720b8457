import Mathlib.Data.List.Forall2

/-!
This module contains the inversion of outcomes: from what a computation without a state comes to, what
its parts have come to.
-/

namespace LintRemedy
namespace Outcome

variable {ε α β : Type} {x : Except ε α} {f : α → Except ε β}

theorem bind_eq_ok {b : β} : x >>= f = .ok b ↔ ∃ a, x = .ok a ∧ f a = .ok b := by
  cases x with
  | ok a =>
    constructor
    · intro h
      exact ⟨a, rfl, h⟩
    · rintro ⟨_, ⟨⟩, h⟩
      exact h
  | error e =>
    constructor
    · nofun
    · rintro ⟨_, ⟨⟩, _⟩

theorem bind_eq_error {e : ε} :
    x >>= f = .error e ↔ x = .error e ∨ ∃ a, x = .ok a ∧ f a = .error e := by
  cases x with
  | ok a =>
    constructor
    · intro h
      exact .inr ⟨a, rfl, h⟩
    · rintro (⟨⟨⟩⟩ | ⟨_, ⟨⟩, h⟩)
      exact h
  | error e' =>
    constructor
    · rintro ⟨⟩
      exact .inl rfl
    · rintro (⟨⟨⟩⟩ | ⟨_, ⟨⟩, _⟩)
      rfl

theorem map_eq_ok {g : α → β} {b : β} : g <$> x = .ok b ↔ ∃ a, x = .ok a ∧ g a = b := by
  cases x with
  | ok a =>
    constructor
    · rintro ⟨⟩
      exact ⟨a, rfl, rfl⟩
    · rintro ⟨_, ⟨⟩, rfl⟩
      rfl
  | error e =>
    constructor
    · nofun
    · rintro ⟨_, ⟨⟩, _⟩

theorem map_eq_error {g : α → β} {e : ε} : g <$> x = .error e ↔ x = .error e := by
  cases x with
  | ok a => exact ⟨nofun, nofun⟩
  | error e' =>
    constructor
    · rintro ⟨⟩
      rfl
    · rintro ⟨⟩
      rfl

@[simp]
theorem mapError_ok {ε' : Type} (g : ε → ε') (a : α) :
    (.ok a : Except ε α).mapError g = .ok a := rfl

@[simp]
theorem mapError_error {ε' : Type} (g : ε → ε') (e : ε) :
    (.error e : Except ε α).mapError g = .error (g e) := rfl

theorem mapM_eq_ok {f : α → Except ε β} {xs : List α} {ys : List β} :
    xs.mapM f = .ok ys ↔ List.Forall₂ (fun x y => f x = .ok y) xs ys := by
  induction xs generalizing ys with
  | nil =>
    rw [List.mapM_nil, List.forall₂_nil_left_iff]
    constructor
    · rintro ⟨⟩
      rfl
    · rintro rfl
      rfl
  | cons x xs ih =>
    rw [List.mapM_cons, List.forall₂_cons_left_iff, bind_eq_ok]
    constructor
    · rintro ⟨y, hy, h⟩
      obtain ⟨ys, hys, ⟨⟩⟩ := bind_eq_ok.1 h
      exact ⟨y, ys, hy, ih.1 hys, rfl⟩
    · rintro ⟨y, ys, hy, hys, rfl⟩
      exact ⟨y, hy, bind_eq_ok.2 ⟨ys, ih.2 hys, rfl⟩⟩

/-- The error is that of the first value that has one. -/
theorem mapM_eq_error {f : α → Except ε β} {xs : List α} {e : ε} :
    xs.mapM f = .error e ↔ ∃ before x after, xs = before ++ x :: after ∧
      (∀ a ∈ before, ∃ b, f a = .ok b) ∧ f x = .error e := by
  induction xs with
  | nil =>
    constructor
    · nofun
    · rintro ⟨before, _, _, h, _⟩
      cases before <;> cases h
  | cons x xs ih =>
    rw [List.mapM_cons, bind_eq_error]
    constructor
    · rintro (h | ⟨y, hy, h⟩)
      · exact ⟨[], x, xs, rfl, List.forall_mem_nil _, h⟩
      · rcases bind_eq_error.1 h with h | ⟨_, _, ⟨⟩⟩
        obtain ⟨before, x', after, rfl, hbefore, hx'⟩ := ih.1 h
        refine ⟨x :: before, x', after, rfl, ?_, hx'⟩
        rw [List.forall_mem_cons]
        exact ⟨⟨y, hy⟩, hbefore⟩
    · rintro ⟨before, x', after, h, hbefore, hx'⟩
      cases before with
      | nil =>
        cases h
        exact .inl hx'
      | cons _ before =>
        cases h
        rw [List.forall_mem_cons] at hbefore
        obtain ⟨⟨y, hy⟩, hbefore⟩ := hbefore
        refine .inr ⟨y, hy, bind_eq_error.2 (.inl ?_)⟩
        exact ih.2 ⟨before, x', after, rfl, hbefore, hx'⟩

/-- A computation ends with an error of a kind. -/
def Fails (kind : ε → Prop) (x : Except ε α) : Prop :=
  ∃ e, x = .error e ∧ kind e

@[simp]
theorem fails_ok {kind : ε → Prop} {a : α} : Fails kind (.ok a : Except ε α) ↔ False := by
  constructor
  · rintro ⟨_, ⟨⟩, _⟩
  · exact False.elim

@[simp]
theorem fails_error {kind : ε → Prop} {e : ε} :
    Fails kind (.error e : Except ε α) ↔ kind e := by
  constructor
  · rintro ⟨_, ⟨⟩, h⟩
    exact h
  · intro h
    exact ⟨e, rfl, h⟩

theorem fails_bind {kind : ε → Prop} :
    Fails kind (x >>= f) ↔ Fails kind x ∨ ∃ a, x = .ok a ∧ Fails kind (f a) := by
  unfold Fails
  simp only [bind_eq_error]
  constructor
  · rintro ⟨e, h | ⟨a, ha, h⟩, he⟩
    · exact .inl ⟨e, h, he⟩
    · exact .inr ⟨a, ha, e, h, he⟩
  · rintro (⟨e, h, he⟩ | ⟨a, ha, e, h, he⟩)
    · exact ⟨e, .inl h, he⟩
    · exact ⟨e, .inr ⟨a, ha, h⟩, he⟩

theorem exists_ok_iff : (∃ a, x = .ok a) ↔ ¬ Fails (fun _ => True) x := by
  cases x with
  | ok a => simp
  | error e => simp

end Outcome
end LintRemedy
