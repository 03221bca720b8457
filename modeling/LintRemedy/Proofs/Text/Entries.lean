import LintRemedy.Proofs.Text.LowerCase

/-!
This module contains the entries of a text, which stand between commas and have blanks around them. They
are the same whether the whole text is trimmed first or not, and a change to lower case is the same as
one of each entry.
-/

namespace LintRemedy
namespace Text

section Splitting

variable {sep : Char} {cs ds : List Char}

theorem splitAt_append_left (h : sep ∉ cs) :
    splitAt sep (cs ++ ds) = (splitAt sep ds).modifyHead (cs ++ ·) := by
  obtain ⟨part, parts, hparts⟩ := List.exists_cons_of_ne_nil (splitAt_ne_nil sep ds)
  rw [hparts, List.modifyHead_cons]
  induction cs with
  | nil => exact hparts
  | cons c cs ih =>
    rw [List.mem_cons, not_or] at h
    rw [List.cons_append, splitAt, if_neg (Ne.symm h.1), ih h.2]
    rfl

theorem splitAt_append_right (h : sep ∉ ds) (cs : List Char) :
    ∃ above last, splitAt sep cs = above ++ [last] ∧
      splitAt sep (cs ++ ds) = above ++ [last ++ ds] := by
  induction cs with
  | nil => exact ⟨[], [], rfl, splitAt_of_not_mem h⟩
  | cons c cs ih =>
    obtain ⟨above, last, hcs, happend⟩ := ih
    rw [List.cons_append, splitAt, splitAt, hcs, happend]
    split
    · exact ⟨[] :: above, last, rfl, rfl⟩
    · cases above with
      | nil => exact ⟨[], c :: last, rfl, rfl⟩
      | cons part parts => exact ⟨(c :: part) :: parts, last, rfl, rfl⟩

theorem Caseless.splitAt_flatMap (caseless : Caseless (· = sep)) (cs : List Char) :
    splitAt sep (cs.flatMap lowerChar) = (splitAt sep cs).map (·.flatMap lowerChar) := by
  induction cs with
  | nil => rfl
  | cons c cs ih =>
    rw [List.flatMap_cons]
    by_cases hc : c = sep
    · rw [caseless.kept c (decide_eq_true hc), hc, List.singleton_append, splitAt, if_pos rfl,
        splitAt, if_pos rfl, ih]
      rfl
    · have hfresh : sep ∉ lowerChar c := fun hsep =>
        (caseless.fresh c (by simpa using hc)).2 sep hsep (decide_eq_true rfl)
      rw [splitAt_append_left hfresh, ih, splitAt, if_neg hc]
      cases hparts : splitAt sep cs with
      | nil => exact absurd hparts (splitAt_ne_nil sep cs)
      | cons part parts => rfl

end Splitting

section Trimming

variable {before after : List Char}

theorem trim_append_left (h : ∀ c ∈ before, isBlank c) (cs : List Char) :
    trim (before ++ cs) = trim cs := by
  unfold trim trimWhile
  rw [List.dropWhile_append_of_pos h]

theorem trim_append_right (h : ∀ c ∈ after, isBlank c) (cs : List Char) :
    trim (cs ++ after) = trim cs := by
  unfold trim trimWhile
  have hend : ∀ ds, dropEndWhile isBlank (ds ++ after) = dropEndWhile isBlank ds := by
    intro ds
    unfold dropEndWhile
    rw [List.reverse_append, List.dropWhile_append_of_pos]
    exact fun c hc => h c (List.mem_reverse.1 hc)
  rw [List.dropWhile_append]
  split
  · next hnil =>
    rw [List.isEmpty_iff.1 hnil, List.dropWhile_eq_nil_iff.2 h]
  · exact hend _

/-- A text is its trimmed part with blanks on both sides. -/
theorem exists_trim_eq (cs : List Char) : ∃ before after,
    (∀ c ∈ before, isBlank c) ∧ (∀ c ∈ after, isBlank c) ∧ cs = before ++ (trim cs ++ after) := by
  refine ⟨cs.takeWhile isBlank, (cs.dropWhile isBlank).rtakeWhile isBlank, ?_, ?_, ?_⟩
  · exact fun c hc => List.mem_takeWhile_imp hc
  · exact fun c hc => List.mem_rtakeWhile_imp hc
  · unfold trim trimWhile
    rw [dropEndWhile_eq, List.rdropWhile_append_rtakeWhile, List.takeWhile_append_dropWhile]

theorem trim_trim (cs : List Char) : trim (trim cs) = trim cs := by
  unfold trim trimWhile
  simp only [dropEndWhile_eq]
  have hstart : ((cs.dropWhile isBlank).rdropWhile isBlank).dropWhile isBlank =
      (cs.dropWhile isBlank).rdropWhile isBlank := by
    rw [List.dropWhile_eq_self_iff]
    intro hlength
    have hprefix := List.rdropWhile_prefix isBlank (l := cs.dropWhile isBlank)
    rw [List.IsPrefix.getElem hprefix]
    exact List.dropWhile_get_zero_not _ _ (Nat.lt_of_lt_of_le hlength hprefix.length_le)
  rw [hstart, List.rdropWhile_idempotent]

end Trimming

/-- The entries of a text: what stands between its commas, without blanks around it. -/
def entries (cs : List Char) : List (List Char) :=
  (splitAt ',' cs).map trim

theorem comma_notMem {cs : List Char} (h : ∀ c ∈ cs, isBlank c) : ',' ∉ cs :=
  fun hcomma => absurd (h ',' hcomma) (by decide)

theorem entries_append_left {before : List Char} (h : ∀ c ∈ before, isBlank c) (cs : List Char) :
    entries (before ++ cs) = entries cs := by
  unfold entries
  rw [splitAt_append_left (comma_notMem h)]
  obtain ⟨part, parts, hparts⟩ := List.exists_cons_of_ne_nil (splitAt_ne_nil ',' cs)
  rw [hparts, List.modifyHead_cons, List.map_cons, List.map_cons, trim_append_left h]

theorem entries_append_right {after : List Char} (h : ∀ c ∈ after, isBlank c) (cs : List Char) :
    entries (cs ++ after) = entries cs := by
  obtain ⟨above, last, hcs, happend⟩ := splitAt_append_right (comma_notMem h) cs
  unfold entries
  rw [hcs, happend, List.map_append, List.map_append, List.map_singleton, List.map_singleton,
    trim_append_right h]

/-- Blanks around the whole text make no difference. -/
theorem entries_trim (cs : List Char) : entries (trim cs) = entries cs := by
  obtain ⟨before, after, hbefore, hafter, hcs⟩ := exists_trim_eq cs
  conv_rhs => rw [hcs, entries_append_left hbefore, entries_append_right hafter]

theorem entries_flatMap (cs : List Char) :
    entries (cs.flatMap lowerChar) = (entries cs).map (·.flatMap lowerChar) := by
  unfold entries
  rw [caseless_comma.splitAt_flatMap, List.map_map, List.map_map]
  exact List.map_congr_left fun part _ => caseless_isBlank.trimWhile_flatMap part

end Text
end LintRemedy
