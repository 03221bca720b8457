import Mathlib.Data.List.DropRight
import Mathlib.Data.List.Induction
import LintRemedy.Proofs.Text.Occurrence
import LintRemedy.Text.Blank
import LintRemedy.Text.Case
import LintRemedy.Text.Digit

/-!
This module contains what the change to lower case leaves alone: digits, blanks and commas stay, and no
other character becomes one. So a text can be cut and trimmed before or after it. The characters are told
apart by ranges of their numbers.
-/

namespace LintRemedy
namespace Text

section Ranges

def InRanges (ranges : List (Nat × Nat)) (n : Nat) : Prop :=
  ∃ range ∈ ranges, range.1 ≤ n ∧ n ≤ range.2

instance {ranges : List (Nat × Nat)} {n : Nat} : Decidable (InRanges ranges n) :=
  inferInstanceAs (Decidable (∃ range ∈ ranges, range.1 ≤ n ∧ n ≤ range.2))

/-- No number lies in ranges of both lists. -/
def areApart (ranges others : List (Nat × Nat)) : Bool :=
  ranges.all fun range => others.all fun other => range.2 < other.1 || other.2 < range.1

variable {ranges others : List (Nat × Nat)} {n : Nat}

theorem not_inRanges_of_areApart (apart : areApart ranges others) (h : InRanges ranges n) :
    ¬ InRanges others n := by
  rintro ⟨other, hother, hlow, hhigh⟩
  obtain ⟨range, hrange, hlow', hhigh'⟩ := h
  have hpair := List.all_eq_true.1 (List.all_eq_true.1 apart range hrange) other hother
  simp only [Bool.or_eq_true, decide_eq_true_eq] at hpair
  omega

def digitRanges : List (Nat × Nat) :=
  (0x30, 0x39) :: decimalZeros.map (fun base => (base, base + 9)) ++ otherDigitRanges

def blankRanges : List (Nat × Nat) :=
  [(9, 13), (28, 32), (0x85, 0x85), (0xA0, 0xA0), (0x1680, 0x1680), (0x2000, 0x200A),
    (0x2028, 0x2029), (0x202F, 0x202F), (0x205F, 0x205F), (0x3000, 0x3000)]

/-- The ranges of the small letters outside ASCII that become of capital ones. -/
def smallRanges : List (Nat × Nat) :=
  (0x307, 0x307) :: capitalRanges.map fun range =>
    ((range.first + range.shift).toNat, (range.last + range.shift).toNat)

/-- The ranges of the capital letters, and of the small ones that become of them. -/
def letterRanges : List (Nat × Nat) :=
  (0x41, 0x5A) :: (0x61, 0x7A) :: (0x130, 0x130) ::
    capitalRanges.map (fun range => (range.first, range.last)) ++ smallRanges

theorem inRanges_of_isDigit {c : Char} (h : isDigit c) : InRanges digitRanges c.toNat := by
  unfold isDigit at h
  rw [Bool.or_eq_true] at h
  cases h with
  | inl decimal =>
    unfold decimalValue? at decimal
    split at decimal
    · split at decimal
      · next ascii =>
        simp only [Char.isDigit, Bool.and_eq_true, decide_eq_true_eq] at ascii
        exact ⟨(0x30, 0x39), List.mem_cons_self, ascii.1, ascii.2⟩
      · cases decimal
    · rw [Option.isSome_map] at decimal
      obtain ⟨base, hbase, hrange⟩ := List.find?_isSome.1 decimal
      simp only [Bool.and_eq_true, decide_eq_true_eq] at hrange
      refine ⟨(base, base + 9), ?_, hrange.1, by omega⟩
      apply List.mem_append_left
      exact List.mem_cons_of_mem _ (List.mem_map_of_mem hbase)
  | inr other =>
    obtain ⟨range, hrange, hin⟩ := List.any_eq_true.1 other
    simp only [Bool.and_eq_true, decide_eq_true_eq] at hin
    exact ⟨range, List.mem_append_right _ hrange, hin⟩

theorem inRanges_of_isBlank {c : Char} (h : isBlank c) : InRanges blankRanges c.toNat := by
  simp only [isBlank, Bool.or_eq_true, Bool.and_eq_true, decide_eq_true_eq, beq_iff_eq] at h
  simp only [InRanges, blankRanges, List.mem_cons, List.not_mem_nil, or_false, exists_eq_or_imp,
    exists_eq_left]
  omega

end Ranges

section Letters

theorem toNat_ofNat_of_valid {n : Nat} (h : n < 0xD800 ∨ 0xDFFF < n ∧ n < 0x110000) :
    (Char.ofNat n).toNat = n := by
  unfold Char.ofNat
  rw [dif_pos h]
  rfl

/-- The small letter of a capital one outside ASCII. -/
theorem inRanges_shift {range : CapitalRange} (hrange : range ∈ capitalRanges) {n : Nat}
    (hlow : range.first ≤ n) (hhigh : n ≤ range.last) :
    InRanges smallRanges (Char.ofNat (n + range.shift).toNat).toNat := by
  have hvalid : ∀ range ∈ capitalRanges, 0 < range.first + range.shift ∧
      (range.last + range.shift < 0xD800 ∨
        0xDFFF < range.first + range.shift ∧ range.last + range.shift < 0x110000) := by
    decide +kernel
  have hshift := hvalid range hrange
  rw [toNat_ofNat_of_valid (by omega)]
  refine ⟨_, List.mem_cons_of_mem _ (List.mem_map_of_mem hrange), ?_, ?_⟩
  · dsimp only
    omega
  · dsimp only
    omega

theorem lowerChar_of_ascii {c : Char} (h : c.toNat < 128) : lowerChar c = [c.toLower] := by
  unfold lowerChar
  rw [if_pos h]

/-- An ASCII character stays as it is, or it is a capital letter. -/
theorem toLower_cases {c : Char} (h : c.toNat < 128) : c.toLower = c ∨
    InRanges letterRanges c.toNat ∧ InRanges letterRanges c.toLower.toNat := by
  have hall : ∀ n < 128, (Char.ofNat n).toLower = Char.ofNat n ∨
      (0x41 ≤ (Char.ofNat n).toNat ∧ (Char.ofNat n).toNat ≤ 0x5A) ∧
      (0x61 ≤ (Char.ofNat n).toLower.toNat ∧ (Char.ofNat n).toLower.toNat ≤ 0x7A) := by
    decide +kernel
  have hc := hall c.toNat h
  rw [Char.ofNat_toNat] at hc
  refine hc.imp id fun ⟨hcapital, hsmall⟩ => ⟨⟨(0x41, 0x5A), ?_, hcapital⟩, (0x61, 0x7A), ?_, hsmall⟩
  · exact List.mem_cons_self
  · exact List.mem_cons_of_mem _ List.mem_cons_self

/-- A character beyond ASCII stays as it is, or it is a letter and becomes a small one. -/
theorem lowerChar_of_not_ascii {c : Char} (h : ¬ c.toNat < 128) :
    lowerChar c = [c] ∨ InRanges letterRanges c.toNat ∧ (lowerChar c = ['i', '\u0307'] ∨
      ∃ x, lowerChar c = [x] ∧ InRanges smallRanges x.toNat) := by
  unfold lowerChar
  rw [if_neg h]
  split
  · next dotted =>
    rw [dotted]
    exact .inr ⟨⟨(0x130, 0x130), by simp [letterRanges], by decide, by decide⟩, .inl rfl⟩
  · dsimp only
    split
    · next range hfind =>
      have hrange := List.mem_of_find?_eq_some hfind
      have hin := List.find?_some hfind
      simp only [Bool.and_eq_true, decide_eq_true_eq] at hin
      refine .inr ⟨⟨(range.first, range.last), ?_, hin.1⟩, .inr ⟨_, rfl, ?_⟩⟩
      · apply List.mem_append_left
        simp only [List.mem_cons, List.mem_map]
        exact .inr (.inr (.inr ⟨range, hrange, rfl⟩))
      · exact inRanges_shift hrange hin.1.1 hin.1.2
    · exact .inl rfl

/-- A character stays as it is, or it is a letter and becomes other letters. -/
theorem lowerChar_cases (c : Char) : lowerChar c = [c] ∨
    InRanges letterRanges c.toNat ∧ lowerChar c ≠ [] ∧
      ∀ x ∈ lowerChar c, InRanges letterRanges x.toNat := by
  by_cases ascii : c.toNat < 128
  · rw [lowerChar_of_ascii ascii, List.forall_mem_singleton]
    refine (toLower_cases ascii).imp (fun same => ?_) fun letters => ?_
    · rw [same]
    · exact ⟨letters.1, List.cons_ne_nil _ _, letters.2⟩
  · refine (lowerChar_of_not_ascii ascii).imp id ?_
    rintro ⟨hletter, hdotted | ⟨x, hx, range, hrange, hin⟩⟩
    · rw [hdotted]
      refine ⟨hletter, List.cons_ne_nil _ _, List.forall_mem_cons.2 ⟨?_, ?_⟩⟩
      · exact ⟨(0x61, 0x7A), by simp [letterRanges], by decide, by decide⟩
      · rw [List.forall_mem_singleton]
        exact ⟨(0x307, 0x307), by simp [letterRanges, smallRanges], by decide, by decide⟩
    · rw [hx, List.forall_mem_singleton]
      exact ⟨hletter, List.cons_ne_nil _ _, range, List.mem_append_right _ hrange, hin⟩

end Letters

/-- The change to lower case leaves a class of characters alone: its members stay as they are, and no
other character becomes one. -/
structure Caseless (p : Char → Bool) : Prop where
  kept : ∀ c, p c → lowerChar c = [c]
  fresh : ∀ c, ¬ p c → lowerChar c ≠ [] ∧ ∀ x ∈ lowerChar c, ¬ p x

/-- Characters outside the ranges of letters are left alone. -/
theorem Caseless.of_areApart {p : Char → Bool} {ranges : List (Nat × Nat)}
    (hranges : ∀ c, p c → InRanges ranges c.toNat) (apart : areApart ranges letterRanges) :
    Caseless p where
  kept c hc := by
    rcases lowerChar_cases c with same | ⟨letter, _⟩
    · exact same
    · exact (not_inRanges_of_areApart apart (hranges c hc) letter).elim
  fresh c hc := by
    rcases lowerChar_cases c with same | ⟨_, hne, letters⟩
    · rw [same, List.forall_mem_singleton]
      exact ⟨List.cons_ne_nil _ _, hc⟩
    · refine ⟨hne, fun x hx hp => ?_⟩
      exact not_inRanges_of_areApart apart (hranges x hp) (letters x hx)

theorem caseless_isDigit : Caseless isDigit :=
  .of_areApart (fun _ => inRanges_of_isDigit) (by decide +kernel)

theorem caseless_isBlank : Caseless isBlank :=
  .of_areApart (fun _ => inRanges_of_isBlank) (by decide +kernel)

theorem caseless_comma : Caseless (· = ',') := by
  have hcomma : ∀ c, decide (c = ',') → InRanges [(0x2C, 0x2C)] c.toNat := by
    intro c hc
    rw [of_decide_eq_true hc]
    exact ⟨_, List.mem_singleton_self _, by decide, by decide⟩
  exact .of_areApart hcomma (by decide +kernel)

theorem dropEndWhile_eq (p : Char → Bool) (cs : List Char) :
    dropEndWhile p cs = cs.rdropWhile p := rfl

namespace Caseless

variable {p : Char → Bool} {cs : List Char}

theorem dropWhile_flatMap (caseless : Caseless p) (cs : List Char) :
    (cs.flatMap lowerChar).dropWhile p = (cs.dropWhile p).flatMap lowerChar := by
  induction cs with
  | nil => rfl
  | cons c cs ih =>
    rw [List.flatMap_cons, List.dropWhile_cons]
    by_cases hc : p c
    · rw [if_pos hc, caseless.kept c hc, List.singleton_append, List.dropWhile_cons_of_pos hc, ih]
    · rw [if_neg hc, List.flatMap_cons]
      obtain ⟨hne, hfresh⟩ := caseless.fresh c hc
      obtain ⟨x, xs, hx⟩ := List.exists_cons_of_ne_nil hne
      rw [hx] at hfresh ⊢
      exact List.dropWhile_cons_of_neg (hfresh x List.mem_cons_self)

theorem dropEndWhile_flatMap (caseless : Caseless p) (cs : List Char) :
    dropEndWhile p (cs.flatMap lowerChar) = (dropEndWhile p cs).flatMap lowerChar := by
  simp only [dropEndWhile_eq]
  induction cs using List.reverseRecOn with
  | nil => rfl
  | append_singleton cs c ih =>
    rw [List.flatMap_append, List.flatMap_singleton]
    by_cases hc : p c
    · rw [caseless.kept c hc, List.rdropWhile_concat_pos _ _ _ hc,
        List.rdropWhile_concat_pos _ _ _ hc, ih]
    · rw [List.rdropWhile_concat_neg _ _ _ hc, List.flatMap_append, List.flatMap_singleton]
      obtain ⟨hne, hfresh⟩ := caseless.fresh c hc
      have hlast := hfresh _ (List.getLast_mem hne)
      rw [← List.dropLast_append_getLast hne, ← List.append_assoc]
      exact List.rdropWhile_concat_neg _ _ _ hlast

theorem trimWhile_flatMap (caseless : Caseless p) (cs : List Char) :
    trimWhile p (cs.flatMap lowerChar) = (trimWhile p cs).flatMap lowerChar := by
  unfold trimWhile
  rw [caseless.dropWhile_flatMap, caseless.dropEndWhile_flatMap]

theorem all_lowerChar (caseless : Caseless p) (c : Char) : (lowerChar c).all p = p c := by
  by_cases hc : p c
  · rw [caseless.kept c hc, List.all_cons, List.all_nil, Bool.and_true]
  · obtain ⟨hne, hfresh⟩ := caseless.fresh c hc
    obtain ⟨x, xs, hx⟩ := List.exists_cons_of_ne_nil hne
    rw [hx] at hfresh ⊢
    rw [List.all_cons, Bool.eq_false_iff.2 hc, Bool.eq_false_iff.2 (hfresh x List.mem_cons_self),
      Bool.false_and]

theorem all_flatMap (caseless : Caseless p) (cs : List Char) :
    (cs.flatMap lowerChar).all p = cs.all p := by
  rw [List.all_flatMap]
  exact congrArg (cs.all ·) (funext caseless.all_lowerChar)

theorem flatMap_eq_self (caseless : Caseless p) (h : cs.all p) : cs.flatMap lowerChar = cs := by
  induction cs with
  | nil => rfl
  | cons c cs ih =>
    rw [List.all_cons, Bool.and_eq_true] at h
    rw [List.flatMap_cons, caseless.kept c h.1, ih h.2, List.singleton_append]

end Caseless

section Words

variable {cs word : List Char}

/-- An ASCII letter that no letter outside ASCII becomes. -/
def IsPlain (x : Char) : Prop :=
  x.toNat < 128 ∧ x ≠ 'i' ∧ ¬ InRanges smallRanges x.toNat

instance {x : Char} : Decidable (IsPlain x) :=
  inferInstanceAs (Decidable (_ ∧ _ ∧ _))

theorem flatMap_of_ascii (h : ∀ c ∈ cs, c.toNat < 128) :
    cs.flatMap lowerChar = cs.map Char.toLower := by
  rw [← List.flatMap_pure_eq_map]
  exact List.flatMap_congr fun c hc => lowerChar_of_ascii (h c hc)

theorem toLower_of_not_ascii {c : Char} (h : ¬ c.toNat < 128) : c.toLower = c := by
  unfold Char.toLower
  apply dif_neg
  rintro ⟨-, hz⟩
  exact h (Nat.lt_of_le_of_lt hz (by decide))

/-- A text becomes a word of plain letters only from the same letters, capital or small. -/
theorem flatMap_eq_iff (hword : ∀ x ∈ word, IsPlain x) :
    cs.flatMap lowerChar = word ↔ cs.map Char.toLower = word := by
  constructor
  · intro h
    have hascii : ∀ c ∈ cs, c.toNat < 128 := by
      intro c hc
      by_contra outside
      have hplain : ∀ x ∈ lowerChar c, IsPlain x := fun x hx =>
        hword x (h ▸ List.mem_flatMap_of_mem hc hx)
      rcases lowerChar_of_not_ascii outside with same | ⟨_, hdotted | ⟨x, hx, small⟩⟩
      · rw [same, List.forall_mem_singleton] at hplain
        exact outside hplain.1
      · rw [hdotted, List.forall_mem_cons] at hplain
        exact hplain.1.2.1 rfl
      · rw [hx, List.forall_mem_singleton] at hplain
        exact hplain.2.2 small
    rw [← h, flatMap_of_ascii hascii]
  · intro h
    rw [← h]
    apply flatMap_of_ascii
    intro c hc
    by_contra outside
    have hplain := hword c.toLower (h ▸ List.mem_map_of_mem hc)
    rw [toLower_of_not_ascii outside] at hplain
    exact outside hplain.1

end Words

end Text
end LintRemedy
