import LintRemedy.Oracle.Payload
import LintRemedy.Proofs.Json.Grammar

/-!
This module contains the extent of objects in a text: the search for the closing brace of an object
passes over every value inside it, whatever braces and quotes its strings hold, and so it ends right
where the object ends.
-/

namespace LintRemedy
namespace Oracle

open Json

section Steps

variable {depth : Nat} {c : Char} {cs : List Char}

theorem closeBrace?_quote :
    closeBrace? .outside depth ('"' :: cs) = (closeBrace? .inString depth cs).map ('"' :: ·) := rfl

theorem closeBrace?_open :
    closeBrace? .outside depth ('{' :: cs) =
      (closeBrace? .outside (depth + 1) cs).map ('{' :: ·) := rfl

theorem closeBrace?_close_zero : closeBrace? .outside 0 ('}' :: cs) = some ['}'] := rfl

theorem closeBrace?_close_succ :
    closeBrace? .outside (depth + 1) ('}' :: cs) =
      (closeBrace? .outside depth cs).map ('}' :: ·) := rfl

theorem closeBrace?_plain (quote : c ≠ '"') (opening : c ≠ '{') (closing : c ≠ '}') :
    closeBrace? .outside depth (c :: cs) = (closeBrace? .outside depth cs).map (c :: ·) := by
  change (if c = '"' then _ else if c = '{' then _ else if c = '}' then _ else _) = _
  rw [if_neg quote, if_neg opening, if_neg closing]

theorem closeBrace?_inString_plain (quote : c ≠ '"') (backslash : c ≠ '\\') :
    closeBrace? .inString depth (c :: cs) = (closeBrace? .inString depth cs).map (c :: ·) := by
  change (if c = '\\' then _ else if c = '"' then _ else _) = _
  rw [if_neg backslash, if_neg quote]

theorem closeBrace?_escape :
    closeBrace? .inString depth ('\\' :: c :: cs) =
      (closeBrace? .inString depth cs).map ('\\' :: c :: ·) := by
  change ((closeBrace? .inString depth cs).map (c :: ·)).map ('\\' :: ·) = _
  rw [Option.map_map]
  rfl

end Steps

/-- The search for a closing brace passes over a piece of text as if it were not there. -/
def Passes (piece : List Char) : Prop :=
  ∀ depth rest, closeBrace? .outside depth (piece ++ rest) =
    (closeBrace? .outside depth rest).map (piece ++ ·)

namespace Passes

theorem nil : Passes [] := by
  intro depth rest
  exact Option.map_id'.symm

theorem append {a b : List Char} (ha : Passes a) (hb : Passes b) : Passes (a ++ b) := by
  intro depth rest
  rw [List.append_assoc, ha, hb, Option.map_map]
  congr 1
  funext body
  exact (List.append_assoc a b body).symm

theorem cons {c : Char} {piece : List Char} (quote : c ≠ '"') (opening : c ≠ '{') (closing : c ≠ '}')
    (h : Passes piece) : Passes (c :: piece) := by
  intro depth rest
  rw [List.cons_append, closeBrace?_plain quote opening closing, h, Option.map_map]
  rfl

theorem of_chars {piece : List Char} (h : ∀ c ∈ piece, c ≠ '"' ∧ c ≠ '{' ∧ c ≠ '}') :
    Passes piece := by
  induction piece with
  | nil => exact nil
  | cons c piece ih =>
    rw [List.forall_mem_cons] at h
    exact cons h.1.1 h.1.2.1 h.1.2.2 (ih h.2)

theorem of_blanks {blanks : List Char} (h : Blanks blanks) : Passes blanks := by
  apply of_chars
  intro c hc
  have hspace := h c hc
  refine ⟨?_, ?_, ?_⟩
  all_goals
    rintro rfl
    cases hspace

theorem object {inner : List Char} (h : Passes inner) : Passes ('{' :: (inner ++ ['}'])) := by
  intro depth rest
  rw [List.cons_append, List.append_assoc, closeBrace?_open, h, List.singleton_append,
    closeBrace?_close_succ, Option.map_map, Option.map_map]
  congr 1
  funext body
  simp

theorem of_number {piece : List Char} {v : Json} (h : NumberText piece v) : Passes piece := by
  apply of_chars
  intro c hc
  rcases h.chars c hc with hdigit | hmark
  · refine ⟨?_, ?_, ?_⟩
    all_goals
      rintro rfl
      cases hdigit
  · refine ⟨?_, ?_, ?_⟩
    all_goals
      rintro rfl
      exact absurd hmark (by decide)

theorem of_word {piece : List Char} {v : Json} (h : (piece, v) ∈ words) : Passes piece := by
  have hplain : words.all fun word => word.1.all fun c => c ≠ '"' ∧ c ≠ '{' ∧ c ≠ '}' := by
    decide
  apply of_chars
  intro c hc
  have hword := List.all_eq_true.1 hplain (piece, v) h
  exact of_decide_eq_true (List.all_eq_true.1 hword c hc)

end Passes

/-- None of the four digits of an escape ends the string or starts another escape. -/
theorem closeBrace?_hexDigit {a b c d : Char} {n depth : Nat} {cs : List Char}
    (h : hexValue4? a b c d = some n) :
    closeBrace? .inString depth ('\\' :: 'u' :: a :: b :: c :: d :: cs) =
      (closeBrace? .inString depth cs).map ('\\' :: 'u' :: a :: b :: c :: d :: ·) := by
  have hdigit : ∀ e ∈ [a, b, c, d], ∀ rest, closeBrace? .inString depth (e :: rest) =
      (closeBrace? .inString depth rest).map (e :: ·) := by
    intro e he rest
    obtain ⟨quote, backslash⟩ := hexValue4?_ne h e he
    exact closeBrace?_inString_plain quote backslash
  rw [closeBrace?_escape, hdigit a (by simp), hdigit b (by simp), hdigit c (by simp),
    hdigit d (by simp), Option.map_map, Option.map_map, Option.map_map, Option.map_map]
  rfl

/-- The search leaves a string at its closing quote. -/
theorem closeBrace?_stringText {body cs : List Char} (h : StringText body cs) (depth : Nat)
    (rest : List Char) :
    closeBrace? .inString depth (body ++ rest) =
      (closeBrace? .outside depth rest).map (body ++ ·) := by
  induction h with
  | close => rfl
  | plain quote backslash _ _ ih =>
    rw [List.cons_append, closeBrace?_inString_plain quote backslash, ih, Option.map_map]
    rfl
  | escape _ _ ih =>
    rw [List.cons_append, List.cons_append, closeBrace?_escape, ih, Option.map_map]
    rfl
  | unit escaped _ _ ih =>
    obtain ⟨a, b, c, d, rfl, hunit⟩ := escaped
    simp only [List.cons_append]
    rw [closeBrace?_hexDigit hunit, ih, Option.map_map]
    rfl
  | pair first second _ _ _ ih =>
    obtain ⟨a, b, c, d, rfl, hhigh⟩ := first
    obtain ⟨e, f, g, k, rfl, hlow⟩ := second
    simp only [List.cons_append]
    rw [closeBrace?_hexDigit hhigh, closeBrace?_hexDigit hlow, ih, Option.map_map, Option.map_map]
    rfl

theorem passes_string {body cs : List Char} (h : StringText body cs) : Passes ('"' :: body) := by
  intro depth rest
  rw [List.cons_append, closeBrace?_quote, closeBrace?_stringText h, Option.map_map]
  rfl

theorem passes_mark {c : Char} (h : c = ',' ∨ c = ':' ∨ c = '[' ∨ c = ']') : Passes [c] := by
  apply Passes.of_chars
  intro d hd
  rw [List.mem_singleton.1 hd]
  rcases h with rfl | rfl | rfl | rfl <;> decide

mutual

theorem passes_value {depth : Nat} {piece : List Char} {v : Json} (h : ValueText depth piece v) :
    Passes piece := by
  cases h with
  | string text => exact passes_string text
  | number text => exact .of_number text
  | word text => exact .of_word text
  | emptyObject hblanks => exact .object (.of_blanks hblanks)
  | object hblanks text =>
    obtain ⟨inner, rfl, hinner⟩ := passes_members text
    rw [← List.append_assoc]
    exact .object (.append (.of_blanks hblanks) hinner)
  | emptyArray hblanks =>
    exact .append (passes_mark (by simp)) (.append (.of_blanks hblanks) (passes_mark (by simp)))
  | array hblanks text =>
    exact .append (passes_mark (by simp)) (.append (.of_blanks hblanks) (passes_elements text))
termination_by piece.length

theorem passes_members {depth : Nat} {piece : List Char} {fields : List (String × Json)}
    (h : MembersText depth piece fields) : ∃ inner, piece = inner ++ ['}'] ∧ Passes inner := by
  cases h with
  | @last _ body _ a b piece _ c text ha hb value hc =>
    refine ⟨('"' :: body) ++ (a ++ ([':'] ++ (b ++ (piece ++ c)))), by simp, ?_⟩
    apply Passes.append (passes_string text)
    apply Passes.append (.of_blanks ha)
    apply Passes.append (passes_mark (by simp))
    apply Passes.append (.of_blanks hb)
    exact .append (passes_value value) (.of_blanks hc)
  | @more _ body _ a b piece _ c d _ _ text ha hb value hc hd others =>
    obtain ⟨inner, rfl, hinner⟩ := passes_members others
    refine ⟨('"' :: body) ++ (a ++ ([':'] ++ (b ++ (piece ++ (c ++ ([','] ++ (d ++ inner))))))),
      by simp, ?_⟩
    apply Passes.append (passes_string text)
    apply Passes.append (.of_blanks ha)
    apply Passes.append (passes_mark (by simp))
    apply Passes.append (.of_blanks hb)
    apply Passes.append (passes_value value)
    apply Passes.append (.of_blanks hc)
    apply Passes.append (passes_mark (by simp))
    exact .append (.of_blanks hd) hinner
termination_by piece.length

theorem passes_elements {depth : Nat} {piece : List Char} {items : List Json}
    (h : ElementsText depth piece items) : Passes piece := by
  cases h with
  | last value ha =>
    exact .append (passes_value value) (.append (.of_blanks ha) (passes_mark (by simp)))
  | more value ha hb others =>
    apply Passes.append (passes_value value)
    apply Passes.append (.of_blanks ha)
    apply Passes.append (passes_mark (c := ',') (by simp))
    exact .append (.of_blanks hb) (passes_elements others)
termination_by piece.length

end

theorem exists_inner {depth : Nat} {tail : List Char} {v : Json}
    (h : ValueText depth ('{' :: tail) v) : ∃ inner, tail = inner ++ ['}'] ∧ Passes inner := by
  cases h with
  | number text =>
    rcases text.chars '{' (List.mem_cons_self ..) with hdigit | hmark
    · cases hdigit
    · exact absurd hmark (by decide)
  | word text =>
    simp [words] at text
  | emptyObject hblanks => exact ⟨_, rfl, .of_blanks hblanks⟩
  | object hblanks text =>
    obtain ⟨inner, rfl, hinner⟩ := passes_members text
    exact ⟨_, (List.append_assoc ..).symm, .append (.of_blanks hblanks) hinner⟩

theorem exists_tail {depth : Nat} {piece : List Char} {fields : List (String × Json)}
    (h : ValueText depth piece (.obj fields)) : ∃ tail, piece = '{' :: tail := by
  cases h with
  | number text => rcases text.value with ⟨_, hv⟩ | ⟨_, hv⟩ <;> cases hv
  | word text => simp [words] at text
  | emptyObject hblanks => exact ⟨_, rfl⟩
  | object hblanks text => exact ⟨_, rfl⟩

end Oracle
end LintRemedy
