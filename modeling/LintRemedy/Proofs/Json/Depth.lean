import LintRemedy.Proofs.Json.Grammar

/-!
This module contains when a text goes too deep for the decoder: only where more lists and objects
open in it than may be open at once, and always where that many lists open right at its start.
-/

namespace LintRemedy
namespace Json

/-- The number of lists and objects that open in a text, strings included. -/
def opened (cs : List Char) : Nat :=
  cs.countP fun c => c == '[' || c == '{'

theorem opened_append (a b : List Char) : opened (a ++ b) = opened a + opened b :=
  List.countP_append

theorem opened_cons_le (c : Char) (cs : List Char) : opened cs ≤ opened (c :: cs) :=
  (List.sublist_cons_self c cs).countP_le

theorem opened_skipSpace_le (cs : List Char) : opened (skipSpace cs) ≤ opened cs :=
  (List.dropWhile_sublist isSpace).countP_le

theorem opened_le_of_append {cs piece rest : List Char} (h : cs = piece ++ rest) :
    opened rest ≤ opened cs := by
  rw [h, opened_append]
  exact Nat.le_add_left ..

section Leaves

variable {place : TooDeep}

theorem consChar_eq_tooDeep {c : Char} {reading : Reading (List Char)}
    (h : consChar c reading = .error (.tooDeep place)) : reading = .error (.tooDeep place) := by
  unfold consChar at h
  split at h <;> cases h
  rfl

theorem stringBody_ne_tooDeep (opening : Nat) (cs : List Char) :
    stringBody opening cs ≠ .error (.tooDeep place) := by
  intro h
  fun_induction stringBody opening cs
  all_goals
    first
    | cases h
    | exact absurd (consChar_eq_tooDeep h) (by assumption)

theorem string_ne_tooDeep (cs : List Char) : string cs ≠ .error (.tooDeep place) := by
  intro h
  unfold string at h
  split at h
  · cases h
  · next stop hstop =>
    cases h
    exact stringBody_ne_tooDeep _ _ hstop

theorem numberOf_ne_tooDeep (negative : Bool) (whole places : List Char)
    (exponent : Option (Bool × List Char)) :
    numberOf negative whole places exponent ≠ .error (.tooDeep place) := by
  intro h
  unfold numberOf at h
  split at h
  · cases h
  · split at h
    · split at h <;> cases h
    · cases h

theorem number_ne_tooDeep (cs : List Char) : number cs ≠ .error (.tooDeep place) := by
  intro h
  rw [number_eq] at h
  unfold unsignedNumber? at h
  cases hwhole : wholeDigits? (splitSign cs).2 with
  | none =>
    rw [hwhole] at h
    cases h
  | some whole =>
    rw [hwhole] at h
    dsimp only [Option.map_some, Option.getD_some] at h
    cases hnumber : numberOf (splitSign cs).1 whole.1 (placeDigits whole.2).1
        (exponentDigits (placeDigits whole.2).2).1 with
    | ok v =>
      rw [hnumber] at h
      cases h
    | error stop =>
      rw [hnumber] at h
      cases h
      exact numberOf_ne_tooDeep _ _ _ _ hnumber

end Leaves

/-- A reading with a budget goes too deep only where more opens than may be open. -/
structure OpensTooMuch (budget : Nat) : Prop where
  value : ∀ {depth cs place}, value budget depth cs = .error (.tooDeep place) → depth < opened cs
  members : ∀ {depth cs place}, members budget depth cs = .error (.tooDeep place) →
    depth < opened cs
  elements : ∀ {depth cs place}, elements budget depth cs = .error (.tooDeep place) →
    depth < opened cs

theorem OpensTooMuch.zero : OpensTooMuch 0 where
  value h := by cases h
  members h := by cases h
  elements h := by cases h

theorem OpensTooMuch.value_succ {budget depth : Nat} {cs : List Char} {place : TooDeep}
    (opens : OpensTooMuch budget) (h : Json.value (budget + 1) depth cs = .error (.tooDeep place)) :
    depth < opened cs := by
  unfold Json.value at h
  split at h
  · split at h
    · cases h
    · next hstring =>
      cases h
      exact absurd hstring (string_ne_tooDeep _)
  · next after =>
    have hopened : opened ('{' :: after) = opened after + 1 := List.countP_cons_of_pos rfl
    rw [hopened]
    split at h
    · exact Nat.succ_pos _
    · split at h
      · cases h
      · split at h
        · cases h
        · next hmembers =>
          cases h
          -- One object is open already, so that the members may open one less.
          have hinside := opens.members hmembers
          have hskip := opened_skipSpace_le after
          omega
  · next after =>
    have hopened : opened ('[' :: after) = opened after + 1 := List.countP_cons_of_pos rfl
    rw [hopened]
    split at h
    · exact Nat.succ_pos _
    · split at h
      · cases h
      · split at h
        · cases h
        · next helements =>
          cases h
          have hinside := opens.elements helements
          have hskip := opened_skipSpace_le after
          omega
  all_goals
    first
    | cases h
    | exact absurd h (number_ne_tooDeep _)

theorem OpensTooMuch.members_succ {budget depth : Nat} {cs : List Char} {place : TooDeep}
    (opens : OpensTooMuch budget)
    (h : Json.members (budget + 1) depth cs = .error (.tooDeep place)) : depth < opened cs := by
  unfold Json.members at h
  split at h
  · next after =>
    split at h
    · next hstring =>
      cases h
      exact absurd hstring (string_ne_tooDeep _)
    · next name named hstring =>
      obtain ⟨body, _, hbody, _, _⟩ := string_sound hstring
      have hnamed := opened_le_of_append hbody
      have hafter := opened_cons_le '"' after
      have hskip := opened_skipSpace_le named
      split at h
      · next valued hcolon =>
        rw [hcolon] at hskip
        have hvalued := opened_cons_le ':' valued
        have hvalueSkip := opened_skipSpace_le valued
        split at h
        · next hvalue =>
          cases h
          have hinside := opens.value hvalue
          omega
        · next v closed hvalue =>
          -- The members that follow stand in the text that the value has left.
          obtain ⟨piece, hpiece, _⟩ := (readsText budget).value hvalue
          have hclosed := opened_le_of_append hpiece
          have hclosedSkip := opened_skipSpace_le closed
          split at h
          · cases h
          · next more hmore =>
            rw [hmore] at hclosedSkip
            have hmores := opened_cons_le ',' more
            have hmoreSkip := opened_skipSpace_le more
            split at h
            · cases h
            · next hmembers =>
              cases h
              have hinside := opens.members hmembers
              omega
          · cases h
      · cases h
  · cases h

theorem OpensTooMuch.elements_succ {budget depth : Nat} {cs : List Char} {place : TooDeep}
    (opens : OpensTooMuch budget)
    (h : Json.elements (budget + 1) depth cs = .error (.tooDeep place)) : depth < opened cs := by
  unfold Json.elements at h
  split at h
  · next hvalue =>
    cases h
    exact opens.value hvalue
  · next v closed hvalue =>
    obtain ⟨piece, hpiece, _⟩ := (readsText budget).value hvalue
    have hclosed := opened_le_of_append hpiece
    have hskip := opened_skipSpace_le closed
    split at h
    · cases h
    · next more hmore =>
      rw [hmore] at hskip
      have hmores := opened_cons_le ',' more
      have hmoreSkip := opened_skipSpace_le more
      split at h
      · cases h
      · next helements =>
        cases h
        have hinside := opens.elements helements
        omega
    · cases h

theorem opensTooMuch (budget : Nat) : OpensTooMuch budget := by
  induction budget with
  | zero => exact .zero
  | succ budget ih => exact ⟨ih.value_succ, ih.members_succ, ih.elements_succ⟩

/-- A text that goes too deep opens more lists and objects than may be open at once. -/
theorem maxDepth_lt_opened {cs : List Char} {place : TooDeep}
    (h : decode cs = .error (.tooDeep place)) : maxDepth < opened cs := by
  unfold decode at h
  split at h
  · cases h
  · unfold decodeMarkless decodeStart at h
    split at h
    · next stop hstop =>
      cases stop with
      | tooDeep place =>
        cases h
        exact Nat.lt_of_lt_of_le ((opensTooMuch _).value hstop) (opened_skipSpace_le cs)
      | _ => cases h
    · split at h <;> cases h

theorem value_brackets {budget depth : Nat} (rest : List Char) (h : 2 * depth + 1 ≤ budget) :
    value budget depth (List.replicate (depth + 1) '[' ++ rest) = .error (.tooDeep .list) := by
  -- A list takes two of the budget: one for the value, and one for its items.
  induction depth generalizing budget with
  | zero =>
    obtain ⟨budget, rfl⟩ := Nat.exists_eq_add_of_le' h
    rfl
  | succ depth ih =>
    obtain ⟨budget, rfl⟩ := Nat.exists_eq_add_of_le' h
    have hinside : value (budget + (2 * depth + 1)) depth
        (List.replicate (depth + 1) '[' ++ rest) = .error (.tooDeep .list) := by
      apply ih
      omega
    have helements : elements (budget + 2 * (depth + 1)) depth
        (List.replicate (depth + 1) '[' ++ rest) = .error (.tooDeep .list) := by
      change elements (budget + (2 * depth + 1) + 1) depth _ = _
      unfold elements
      rw [hinside]
    have hskip : skipSpace (List.replicate (depth + 1) '[' ++ rest) =
        List.replicate (depth + 1) '[' ++ rest := rfl
    change value (budget + 2 * (depth + 1) + 1) (depth + 1)
        ('[' :: (List.replicate (depth + 1) '[' ++ rest)) = _
    rw [value, hskip]
    split
    · next heq => cases heq
    · rw [helements]

theorem decode_cons_bracket {cs : List Char} {stop : Stop}
    (h : decodeStart ('[' :: cs) = .error stop) :
    decode ('[' :: cs) = .error (.ofStop ('[' :: cs) stop) := by
  have hskip : skipSpace ('[' :: cs) = '[' :: cs := rfl
  unfold decode
  split
  · next heq => cases heq
  · unfold decodeMarkless
    rw [hskip, h]

/-- A text that starts with more opening brackets than lists may be open goes too deep. -/
theorem decode_brackets (rest : List Char) :
    decode (List.replicate (maxDepth + 1) '[' ++ rest) = .error (.tooDeep .list) := by
  have hstart : decodeStart (List.replicate (maxDepth + 1) '[' ++ rest) =
      .error (.tooDeep .list) := by
    apply value_brackets
    rw [List.length_append, List.length_replicate]
    omega
  rw [List.replicate_succ, List.cons_append] at hstart ⊢
  exact decode_cons_bracket hstart

end Json
end LintRemedy
