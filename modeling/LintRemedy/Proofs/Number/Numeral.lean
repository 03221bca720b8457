import Mathlib.Data.Nat.Digits.Defs
import LintRemedy.Number.Numeral
import LintRemedy.Proofs.Text.LowerCase

/-!
This module contains what the reading of a whole number makes of a text of digit characters. Decimal
digits spell a number by their places, whatever script they are of, but not too many of them are read.
The other digit characters spell none.
-/

namespace LintRemedy
namespace Numeral

variable {cs : List Char} {c : Char}

def IsDigits (cs : List Char) : Prop :=
  cs ≠ [] ∧ cs.all Text.isDigit

instance : Decidable (IsDigits cs) :=
  inferInstanceAs (Decidable (_ ∧ _))

def IsDecimal (cs : List Char) : Prop :=
  cs ≠ [] ∧ ∀ c ∈ cs, (Text.decimalValue? c).isSome

instance : Decidable (IsDecimal cs) :=
  inferInstanceAs (Decidable (_ ∧ _))

/-- The number that decimal digits spell, the last one for the units. -/
def amount (cs : List Char) : Nat :=
  Nat.ofDigits 10 (cs.reverse.map fun c => (Text.decimalValue? c).getD 0)

/-- A text of digit characters that is not read as a number. -/
def IsBroken (cs : List Char) : Prop :=
  IsDigits cs ∧ ¬ (IsDecimal cs ∧ cs.length ≤ maxDigits)

instance : Decidable (IsBroken cs) :=
  inferInstanceAs (Decidable (_ ∧ _))

section Plain

theorem isDigit_iff : c.isDigit ↔ 48 ≤ c.toNat ∧ c.toNat ≤ 57 := by
  simp only [Char.isDigit, Bool.and_eq_true, decide_eq_true_eq, UInt32.le_iff_toNat_le]
  exact Iff.rfl

theorem isSome_decimalValue?_of_isDigit (h : c.isDigit) : (Text.decimalValue? c).isSome := by
  have hrange := isDigit_iff.1 h
  unfold Text.decimalValue?
  rw [if_pos (by omega), if_pos h]
  rfl

/-- The character in the plain form of a numeral. -/
def plain (c : Char) : Char :=
  match Text.decimalValue? c with
  | some v => Char.ofNat (48 + v)
  | none => c

theorem toNat_plain {v : Nat} (h : Text.decimalValue? c = some v) : (plain c).toNat = 48 + v := by
  have hv := Text.decimalValue?_lt_ten h
  unfold plain
  rw [h]
  exact Text.toNat_ofNat_of_valid (by omega)

theorem isDigit_plain (c : Char) : (plain c).isDigit = (Text.decimalValue? c).isSome := by
  rw [Bool.eq_iff_iff]
  cases h : Text.decimalValue? c with
  | some v =>
    have hv := Text.decimalValue?_lt_ten h
    have hplain := toNat_plain h
    rw [isDigit_iff, hplain]
    exact iff_of_true (by omega) rfl
  | none =>
    unfold plain
    rw [h]
    refine iff_of_false (fun hdigit => ?_) (by decide)
    rw [← Option.not_isSome_iff_eq_none] at h
    exact h (isSome_decimalValue?_of_isDigit hdigit)

/-- A digit character does not become one of the marks of a numeral. -/
theorem plain_ne (hc : Text.isDigit c) {mark : Char} (hmark : ¬ Text.isDigit mark) :
    plain c ≠ mark := by
  rintro rfl
  apply hmark
  cases h : Text.decimalValue? c with
  | some v =>
    have hdigit : (plain c).isDigit := by
      rw [isDigit_plain, h]
      rfl
    unfold Text.isDigit
    rw [isSome_decimalValue?_of_isDigit hdigit, Bool.true_or]
  | none =>
    unfold plain
    rwa [h]

end Plain

section Reading

theorem trimWhile_eq_self {p : Char → Bool} (h : ∀ c ∈ cs, ¬ p c) : Text.trimWhile p cs = cs := by
  unfold Text.trimWhile
  rw [List.dropWhile_eq_self_iff.2 fun hcs => h _ (List.get_mem ..), Text.dropEndWhile_eq,
    List.rdropWhile_eq_self_iff.2 fun hcs => h _ (List.getLast_mem hcs)]

theorem isBlank_of_isEdge (h : isEdge c) : Text.isBlank c := by
  unfold isEdge at h
  split at h
  · simp only [Bool.or_eq_true, beq_iff_eq, Bool.and_eq_true, decide_eq_true_eq] at h
    rcases h with rfl | h
    · decide
    · simp [Text.isBlank, h]
  · exact h

theorem normalize_of_digits (h : cs.all Text.isDigit) :
    normalize (String.ofList cs) = cs.map plain := by
  have hedge : ∀ c ∈ cs, ¬ isEdge c := by
    intro c hc edge
    have hblank := Text.inRanges_of_isBlank (isBlank_of_isEdge edge)
    have hdigit := Text.inRanges_of_isDigit (List.all_eq_true.1 h c hc)
    exact Text.not_inRanges_of_areApart (by decide) hdigit hblank
  unfold normalize
  rw [String.toList_ofList, trimWhile_eq_self hedge]
  rfl

theorem takeSign_of_ne (hminus : cs.head? ≠ some '-') (hplus : cs.head? ≠ some '+') :
    takeSign cs = (false, cs) := by
  unfold takeSign
  split
  · exact absurd rfl hminus
  · exact absurd rfl hplus
  · rfl

theorem takeDigits_eq (h : '_' ∉ cs) :
    takeDigits cs = (cs.takeWhile Char.isDigit, cs.dropWhile Char.isDigit) := by
  fun_induction takeDigits cs with
  | case1 => rfl
  | case2 | case3 | case4 => simp at h
  | case5 c cs _ hc digits rest hcs ih =>
    have htail := ih (List.not_mem_of_not_mem_cons h)
    rw [hcs, Prod.mk.injEq] at htail
    rw [List.takeWhile_cons_of_pos hc, List.dropWhile_cons_of_pos hc, htail.1, htail.2]
  | case6 c cs _ hc => rw [List.takeWhile_cons_of_neg hc, List.dropWhile_cons_of_neg hc]

theorem toInt_of_digits (h : cs.all Text.isDigit) :
    toInt (String.ofList cs) =
      let digits := (cs.map plain).takeWhile Char.isDigit
      if maxDigits < digits.length then .error (.tooManyDigits digits.length)
      else if digits.isEmpty ∨ ¬ ((cs.map plain).dropWhile Char.isDigit).isEmpty then
        .error (.notWhole (String.ofList cs))
      else .ok (value digits) := by
  have hmark : ∀ mark, ¬ Text.isDigit mark → mark ∉ cs.map plain := by
    intro mark hmark hmem
    obtain ⟨c, hc, hplain⟩ := List.mem_map.1 hmem
    exact plain_ne (List.all_eq_true.1 h c hc) hmark hplain
  have hhead : ∀ mark, ¬ Text.isDigit mark → (cs.map plain).head? ≠ some mark :=
    fun mark hmark' hhead => hmark mark hmark' (List.mem_of_mem_head? hhead)
  have hrest : ((cs.map plain).dropWhile Char.isDigit).head? ≠ some '_' := fun hhead =>
    hmark '_' (by decide) ((List.dropWhile_sublist _).subset (List.mem_of_mem_head? hhead))
  unfold toInt
  rw [normalize_of_digits h, takeSign_of_ne (hhead '-' (by decide)) (hhead '+' (by decide))]
  simp only [takeDigits_eq (hmark '_' (by decide)), ne_eq, hrest, not_false_eq_true, and_true,
    Bool.false_eq_true, if_false]

end Reading

section Amount

theorem value_append_singleton (digits : List Char) (c : Char) :
    value (digits ++ [c]) = value digits * 10 + (c.toNat - 48) := by
  unfold value
  rw [List.foldl_append, List.foldl_cons, List.foldl_nil]

theorem value_map_plain (h : ∀ c ∈ cs, (Text.decimalValue? c).isSome) :
    value (cs.map plain) = amount cs := by
  unfold amount
  induction cs using List.reverseRecOn with
  | nil => rfl
  | append_singleton cs c ih =>
    obtain ⟨v, hv⟩ := Option.isSome_iff_exists.1 (h c (by simp))
    have hbefore := ih fun d hd => h d (List.mem_append_left _ hd)
    rw [List.map_append, List.map_singleton, value_append_singleton, hbefore, toNat_plain hv,
      List.reverse_append, List.reverse_singleton, List.singleton_append, List.map_cons,
      Nat.ofDigits_cons, hv, Option.getD_some]
    omega

theorem IsDecimal.isDigits (h : IsDecimal cs) : IsDigits cs := by
  refine ⟨h.1, List.all_eq_true.2 fun c hc => ?_⟩
  unfold Text.isDigit
  rw [h.2 c hc, Bool.true_or]

/-- Decimal digits are read as the number that they spell. -/
theorem toInt_of_isDecimal (h : IsDecimal cs) (hlength : cs.length ≤ maxDigits) :
    toInt (String.ofList cs) = .ok (amount cs) := by
  have hdigits : ∀ c ∈ cs.map plain, c.isDigit := by
    rw [List.forall_mem_map]
    intro c hc
    rw [isDigit_plain, h.2 c hc]
  have hne : ¬ (cs.map plain).isEmpty := by
    rw [List.isEmpty_iff, List.map_eq_nil_iff]
    exact h.1
  rw [toInt_of_digits h.isDigits.2, List.takeWhile_eq_self_iff.2 hdigits,
    List.dropWhile_eq_nil_iff.2 hdigits]
  dsimp only
  rw [List.length_map, if_neg (by omega), if_neg (by simpa using hne), value_map_plain h.2]

/-- All other digit characters are refused. -/
theorem toInt_of_isBroken (h : IsBroken cs) :
    ∃ fault, toInt (String.ofList cs) = .error fault := by
  obtain ⟨⟨hne, hdigits⟩, hbroken⟩ := h
  rw [toInt_of_digits hdigits]
  dsimp only
  split
  · exact ⟨_, rfl⟩
  · next hlength =>
    rw [if_pos]
    · exact ⟨_, rfl⟩
    · by_contra hwhole
      rw [not_or, not_not] at hwhole
      have hplain := List.dropWhile_eq_nil_iff.1 (List.isEmpty_iff.1 hwhole.2)
      have hall : ∀ c ∈ cs, (Text.decimalValue? c).isSome := by
        intro c hc
        rw [← isDigit_plain]
        exact hplain _ (List.mem_map_of_mem hc)
      rw [List.takeWhile_eq_self_iff.2 hplain, List.length_map] at hlength
      exact hbroken ⟨⟨hne, hall⟩, by omega⟩

/-- A text is not one of digit characters, or it is refused, or it is read. -/
theorem cases_of_digits (cs : List Char) :
    ¬ IsDigits cs ∨ IsBroken cs ∨ IsDecimal cs ∧ cs.length ≤ maxDigits := by
  by_cases hdigits : IsDigits cs
  · by_cases hread : IsDecimal cs ∧ cs.length ≤ maxDigits
    · exact .inr (.inr hread)
    · exact .inr (.inl ⟨hdigits, hread⟩)
  · exact .inl hdigits

end Amount

end Numeral
end LintRemedy
