import LintRemedy.Proofs.Json.Grammar

/-!
This module contains how long the strings of a value are: all of them are shorter than the text that
the value is read from.
-/

namespace LintRemedy
namespace Json

/-- The length of the longest string in a value. The names of fields do not count. -/
def longest : Json → Nat
  | str s => s.length
  | arr items => longestItem items
  | obj fields => longestField fields
  | _ => 0
where
  /-- The length of the longest string in the items. -/
  longestItem : List Json → Nat
    | [] => 0
    | item :: items => max (longest item) (longestItem items)
  /-- The length of the longest string in the values of the fields. -/
  longestField : List (String × Json) → Nat
    | [] => 0
    | (_, value) :: fields => max (longest value) (longestField fields)

open longest

theorem longestField_setField_le (name : String) (value : Json) (fields : List (String × Json)) :
    longestField (setField name value fields) ≤ max value.longest (longestField fields) := by
  induction fields with
  | nil => simp [setField, longestField]
  | cons field fields ih =>
    obtain ⟨key, old⟩ := field
    unfold setField
    split
    · simp only [longestField]
      omega
    · simp only [longestField]
      omega

theorem longestField_foldl_setField_le (fields done : List (String × Json)) :
    longestField (fields.foldl (fun done field => setField field.1 field.2 done) done) ≤
      max (longestField done) (longestField fields) := by
  induction fields generalizing done with
  | nil => exact Nat.le_max_left ..
  | cons field fields ih =>
    obtain ⟨name, value⟩ := field
    have hset := longestField_setField_le name value done
    refine Nat.le_trans (ih (setField name value done)) ?_
    simp only [longestField]
    omega

theorem longestField_distinctFields_le (fields : List (String × Json)) :
    longestField (distinctFields fields) ≤ longestField fields := by
  have hfold := longestField_foldl_setField_le fields []
  rw [longestField, Nat.zero_max] at hfold
  exact hfold

theorem StringText.length_lt {body cs : List Char} (h : StringText body cs) :
    cs.length < body.length := by
  induction h with
  | close => decide
  | plain _ _ _ _ ih => simpa using ih
  | escape _ _ ih =>
    simp only [List.length_cons]
    omega
  | unit escaped _ _ ih =>
    obtain ⟨a, b, c, d, rfl, _⟩ := escaped
    simp only [List.length_cons]
    omega
  | pair first second _ _ _ ih =>
    obtain ⟨a, b, c, d, rfl, _⟩ := first
    obtain ⟨e, f, g, h, rfl, _⟩ := second
    simp only [List.length_cons]
    omega

theorem NumberText.longest_eq {piece : List Char} {v : Json} (h : NumberText piece v) :
    v.longest = 0 := by
  rcases h.value with ⟨_, rfl⟩ | ⟨_, rfl⟩ <;> rfl

theorem longest_of_mem_words {piece : List Char} {v : Json} (h : (piece, v) ∈ words) :
    v.longest = 0 := by
  simp only [words, List.mem_cons, Prod.mk.injEq, List.not_mem_nil, or_false] at h
  rcases h with ⟨_, rfl⟩ | ⟨_, rfl⟩ | ⟨_, rfl⟩ | ⟨_, rfl⟩ | ⟨_, rfl⟩ | ⟨_, rfl⟩
  all_goals rfl

theorem ValueText.length_pos {depth : Nat} {piece : List Char} {v : Json}
    (h : ValueText depth piece v) : 0 < piece.length := by
  obtain ⟨c, tail, rfl, _⟩ := h.starts
  exact Nat.succ_pos _

mutual

/-- Every string of a value is shorter than the text of the value. -/
theorem ValueText.longest_lt {depth : Nat} {piece : List Char} {v : Json}
    (h : ValueText depth piece v) : v.longest < piece.length := by
  cases h with
  | string text =>
    have hlength := text.length_lt
    simp only [longest, String.length_ofList, List.length_cons]
    omega
  | number text =>
    have htext : ValueText depth piece v := .number text
    rw [text.longest_eq]
    exact htext.length_pos
  | word text =>
    have htext : ValueText depth piece v := .word text
    rw [longest_of_mem_words text]
    exact htext.length_pos
  | emptyObject => simp [longest, longestField]
  | @object _ _ _ fields _ text =>
    have hmembers := text.longest_lt
    have hdistinct := longestField_distinctFields_le fields
    simp only [longest, List.length_cons, List.length_append]
    omega
  | emptyArray => simp [longest, longestItem]
  | array _ text =>
    have helements := text.longest_lt
    simp only [longest, List.length_cons, List.length_append]
    omega
termination_by piece.length

theorem MembersText.longest_lt {depth : Nat} {piece : List Char} {fields : List (String × Json)}
    (h : MembersText depth piece fields) : longestField fields < piece.length := by
  cases h with
  | last _ _ _ value _ =>
    have hvalue := value.longest_lt
    simp only [longestField, List.length_cons, List.length_append]
    omega
  | more _ _ _ value _ _ others =>
    have hvalue := value.longest_lt
    have hothers := others.longest_lt
    simp only [longestField, List.length_cons, List.length_append]
    omega
termination_by piece.length

theorem ElementsText.longest_lt {depth : Nat} {piece : List Char} {items : List Json}
    (h : ElementsText depth piece items) : longestItem items < piece.length := by
  cases h with
  | last value _ =>
    have hvalue := value.longest_lt
    simp only [longestItem, List.length_cons, List.length_append]
    omega
  | more value _ _ others =>
    have hvalue := value.longest_lt
    have hothers := others.longest_lt
    simp only [longestItem, List.length_cons, List.length_append]
    omega
termination_by piece.length

end

theorem longest_lt_of_decode {cs : List Char} {v : Json} (h : decode cs = .ok v) :
    v.longest < cs.length := by
  obtain ⟨a, piece, b, rfl, _, _, htext⟩ := decode_eq_ok_iff.1 h
  have hpiece := htext.longest_lt
  simp only [List.length_append]
  omega

theorem longest_field_le (name : String) (v : Json) : (v.field name).longest ≤ v.longest := by
  cases v with
  | obj fields =>
    change ((lookup? name fields).getD null).longest ≤ longestField fields
    induction fields with
    | nil => exact Nat.le_refl 0
    | cons field fields ih =>
      obtain ⟨key, value⟩ := field
      unfold lookup?
      split
      · exact Nat.le_max_left ..
      · exact Nat.le_trans ih (Nat.le_max_right ..)
  | _ => exact Nat.zero_le _

end Json
end LintRemedy
