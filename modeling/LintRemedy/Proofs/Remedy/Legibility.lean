import LintRemedy.Proofs.Json.Rendering
import LintRemedy.Proofs.Oracle.Session

/-!
This module contains what an inquiry of the oracle comes to: the reply is read if all that is to be
shown of it has a display form, and otherwise the inquiry fails.
-/

namespace LintRemedy

open LintRemedy.Action

namespace Remedy

variable {payload : Json} {name : String} {reply : Reply}

/-- A field is to be shown and has no display form. A text is shown whatever stands in it. -/
def Unshown (payload : Json) (name : String) : Prop :=
  (∀ s, payload.field name ≠ .str s) ∧ (payload.field name).obstacle? .display ≠ none

/-- A payload explains a rule in a way that cannot be shown. -/
def ExplainsUnshown (payload : Json) : Prop :=
  (∃ problem, payload.field "problem_description" = .str problem ∧ problem ≠ "") ∧
    (Unshown payload "why_problem" ∨ Unshown payload "how_to_fix")

/-- A payload changes the config in a way that cannot be shown. -/
def ChangesUnshown (payload : Json) : Prop :=
  (∃ modified, payload.field "modified_config" = .str modified) ∧ Unshown payload "diff_description"

theorem nonEmptyStr?_eq_some_iff {value : Json} {s : String} :
    value.nonEmptyStr? = some s ↔ value = .str s ∧ s ≠ "" := by
  unfold Json.nonEmptyStr?
  cases value with
  | str t =>
    simp only [Json.str.injEq]
    split
    · next empty =>
      simp only [reduceCtorEq, false_iff, not_and, not_not]
      rintro rfl
      exact empty
    · next filled =>
      simp only [Option.some.injEq]
      constructor
      · rintro rfl
        exact ⟨rfl, filled⟩
      · exact And.left
  | null | bool | int | float | arr | obj => simp

theorem str?_eq_some_iff {value : Json} {s : String} : value.str? = some s ↔ value = .str s := by
  unfold Json.str?
  cases value <;> simp

theorem exists_shownField_iff :
    (∃ shown, shownField payload name = .ok shown) ↔ ¬ Unshown payload name := by
  unfold shownField Unshown Json.filled?
  by_cases filled : (payload.field name).isFilled
  · rw [if_pos filled]
    dsimp only
    rw [Json.exists_display_iff, not_and_or, Classical.not_not, Classical.not_forall_not]
  · rw [if_neg filled]
    exact iff_of_true ⟨"", rfl⟩ fun unshown => unshown.2 (Json.obstacle?_of_not_isFilled _ filled)

theorem exists_explanation?_iff :
    (∃ result, explanation? payload = .ok result) ↔ ¬ ExplainsUnshown payload := by
  unfold explanation? ExplainsUnshown
  simp only [← nonEmptyStr?_eq_some_iff]
  cases (payload.field "problem_description").nonEmptyStr? with
  | none => exact iff_of_true ⟨none, rfl⟩ fun h => nomatch h.1
  | some problem =>
    rw [not_and_or, not_or, ← exists_shownField_iff, ← exists_shownField_iff]
    cases shownField payload "why_problem" <;> cases shownField payload "how_to_fix" <;>
      simp [bind, Except.bind, pure, Except.pure]

theorem exists_configChange?_iff :
    (∃ result, configChange? payload = .ok result) ↔ ¬ ChangesUnshown payload := by
  unfold configChange? ChangesUnshown
  simp only [← str?_eq_some_iff]
  cases (payload.field "modified_config").str? with
  | none => exact iff_of_true ⟨none, rfl⟩ fun h => nomatch h.1
  | some modified =>
    rw [not_and_or, ← exists_shownField_iff]
    cases shownField payload "diff_description" <;>
      simp [bind, Except.bind, pure, Except.pure]

section Inquiring

variable {α : Type} {read : Json → Except Json.RenderFault (Option α)}
  {ask : Option String → Act Reply} {talk talk' : Talk} {result : Option α}

theorem exists_readIn_iff : (∃ result, readIn read reply = .ok result) ↔
    ∀ payload, payloadIn? reply = some payload → ∃ result, read payload = .ok result := by
  unfold readIn
  cases payloadIn? reply with
  | none => exact iff_of_true ⟨none, rfl⟩ nofun
  | some payload => simp

/-- An inquiry comes to something exactly if there is a reply that can be read. -/
theorem inquire_eq_ok_iff : inquire read ask talk = .ok result talk' ↔
    ∃ reply, converse ask talk = .ok reply talk' ∧ readIn read reply = .ok result := by
  unfold inquire
  rw [bind_eq_ok]
  constructor
  · rintro ⟨reply, middle, hreply, hread⟩
    obtain ⟨world, hread, rfl⟩ := Dialogue.ofAct_eq_ok.1 hread
    cases hresult : readIn read reply with
    | ok found =>
      rw [hresult] at hread
      cases hread
      exact ⟨reply, hreply, hresult⟩
    | error fault =>
      rw [hresult] at hread
      cases hread
  · rintro ⟨reply, hreply, hread⟩
    refine ⟨reply, talk', hreply, Dialogue.ofAct_eq_ok.2 ⟨talk'.world, ?_, rfl⟩⟩
    rw [hread]
    rfl

end Inquiring

end Remedy

end LintRemedy
