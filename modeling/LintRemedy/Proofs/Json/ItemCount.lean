import LintRemedy.Proofs.Json.Longest

/-!
This module contains how many items the lists of a value have: all in all they are fewer than the
characters of the text that the value is read from.
-/

namespace LintRemedy
namespace Json

/-- The number of items in a value: those of all lists in it, at any depth. -/
def itemCount : Json → Nat
  | arr items => ofItems items
  | obj fields => ofFields fields
  | _ => 0
where
  /-- The items themselves and the items in them. -/
  ofItems : List Json → Nat
    | [] => 0
    | item :: items => 1 + itemCount item + ofItems items
  ofFields : List (String × Json) → Nat
    | [] => 0
    | (_, value) :: fields => itemCount value + ofFields fields

open itemCount

theorem ofFields_setField_le (name : String) (value : Json) (fields : List (String × Json)) :
    ofFields (setField name value fields) ≤ itemCount value + ofFields fields := by
  induction fields with
  | nil => exact Nat.le_refl _
  | cons field fields ih =>
    obtain ⟨key, old⟩ := field
    unfold setField
    split
    · simp only [ofFields]
      omega
    · simp only [ofFields]
      omega

theorem ofFields_foldl_setField_le (fields done : List (String × Json)) :
    ofFields (fields.foldl (fun done field => setField field.1 field.2 done) done) ≤
      ofFields done + ofFields fields := by
  induction fields generalizing done with
  | nil => exact Nat.le_refl _
  | cons field fields ih =>
    obtain ⟨name, value⟩ := field
    have hset := ofFields_setField_le name value done
    refine Nat.le_trans (ih (setField name value done)) ?_
    simp only [ofFields]
    omega

theorem ofFields_distinctFields_le (fields : List (String × Json)) :
    ofFields (distinctFields fields) ≤ ofFields fields := by
  have hfold := ofFields_foldl_setField_le fields []
  rw [ofFields, Nat.zero_add] at hfold
  exact hfold

theorem NumberText.itemCount_eq {piece : List Char} {v : Json} (h : NumberText piece v) :
    v.itemCount = 0 := by
  rcases h.value with ⟨_, rfl⟩ | ⟨_, rfl⟩ <;> rfl

theorem itemCount_of_mem_words {piece : List Char} {v : Json} (h : (piece, v) ∈ words) :
    v.itemCount = 0 := by
  simp only [words, List.mem_cons, Prod.mk.injEq, List.not_mem_nil, or_false] at h
  rcases h with ⟨_, rfl⟩ | ⟨_, rfl⟩ | ⟨_, rfl⟩ | ⟨_, rfl⟩ | ⟨_, rfl⟩ | ⟨_, rfl⟩
  all_goals rfl

mutual

/-- Every item takes at least one character, and so does the value itself. -/
theorem ValueText.itemCount_lt {depth : Nat} {piece : List Char} {v : Json}
    (h : ValueText depth piece v) : v.itemCount < piece.length := by
  have hpos := h.length_pos
  cases h with
  | string text => exact hpos
  | number text =>
    rw [text.itemCount_eq]
    exact hpos
  | word text =>
    rw [itemCount_of_mem_words text]
    exact hpos
  | emptyObject => exact hpos
  | @object _ _ _ fields _ text =>
    have hmembers := text.itemCount_lt
    have hdistinct := ofFields_distinctFields_le fields
    simp only [itemCount, List.length_cons, List.length_append]
    omega
  | emptyArray => exact hpos
  | array _ text =>
    have helements := text.itemCount_lt
    simp only [itemCount, List.length_cons, List.length_append]
    omega
termination_by piece.length

theorem MembersText.itemCount_lt {depth : Nat} {piece : List Char} {fields : List (String × Json)}
    (h : MembersText depth piece fields) : ofFields fields < piece.length := by
  cases h with
  | last _ _ _ value _ =>
    have hvalue := value.itemCount_lt
    simp only [ofFields, List.length_cons, List.length_append]
    omega
  | more _ _ _ value _ _ others =>
    have hvalue := value.itemCount_lt
    have hothers := others.itemCount_lt
    simp only [ofFields, List.length_cons, List.length_append]
    omega
termination_by piece.length

theorem ElementsText.itemCount_lt {depth : Nat} {piece : List Char} {items : List Json}
    (h : ElementsText depth piece items) : ofItems items < piece.length := by
  cases h with
  | last value _ =>
    have hvalue := value.itemCount_lt
    simp only [ofItems, List.length_cons, List.length_append, List.length_nil]
    omega
  | more value _ _ others =>
    have hvalue := value.itemCount_lt
    have hothers := others.itemCount_lt
    simp only [ofItems, List.length_cons, List.length_append]
    omega
termination_by piece.length

end

theorem itemCount_lt_of_decode {cs : List Char} {v : Json} (h : decode cs = .ok v) :
    v.itemCount < cs.length := by
  obtain ⟨a, piece, b, rfl, _, _, htext⟩ := decode_eq_ok_iff.1 h
  have hpiece := htext.itemCount_lt
  simp only [List.length_append]
  omega

theorem itemCount_field_le (name : String) (v : Json) : (v.field name).itemCount ≤ v.itemCount := by
  cases v with
  | obj fields =>
    change ((lookup? name fields).getD null).itemCount ≤ ofFields fields
    induction fields with
    | nil => exact Nat.le_refl 0
    | cons field fields ih =>
      obtain ⟨key, value⟩ := field
      unfold lookup?
      split
      · exact Nat.le_add_right _ _
      · exact Nat.le_trans ih (Nat.le_add_left _ _)
  | _ => exact Nat.zero_le _

theorem length_le_itemCount (items : List Json) : items.length ≤ (arr items).itemCount := by
  change items.length ≤ ofItems items
  induction items with
  | nil => exact Nat.le_refl 0
  | cons item items ih =>
    rw [List.length_cons, ofItems]
    omega

end Json
end LintRemedy
