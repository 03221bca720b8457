import LintRemedy.Text.Lines

/-!
This module contains where things stand in a text: the first occurrence of a piece, which is where a
text is cut, and a span of lines, which can be exchanged without touching the lines around it.
-/

namespace LintRemedy
namespace Text

/-- A piece stands in a text between `before` and `rest`, and nowhere earlier. -/
structure FirstAt (piece cs before rest : List Char) : Prop where
  split : cs = before ++ piece ++ rest
  first : ∀ before' rest', cs = before' ++ piece ++ rest' → before.length ≤ before'.length

namespace FirstAt

variable {piece cs before before' rest rest' : List Char}

theorem unique (h : FirstAt piece cs before rest) (h' : FirstAt piece cs before' rest') :
    before = before' ∧ rest = rest' := by
  have hlength : before.length = before'.length :=
    Nat.le_antisymm (h.first _ _ h'.split) (h'.first _ _ h.split)
  have heq : before ++ (piece ++ rest) = before' ++ (piece ++ rest') := by
    rw [← List.append_assoc, ← List.append_assoc, ← h.split, h'.split]
  obtain ⟨hbefore, htail⟩ := List.append_inj heq hlength
  exact ⟨hbefore, List.append_cancel_left htail⟩

end FirstAt

section Cut

variable {piece cs before rest : List Char}

theorem firstAt_of_cut? (h : cut? piece cs = some (before, rest)) :
    FirstAt piece cs before rest := by
  refine ⟨eq_of_cut? h, ?_⟩
  induction cs generalizing before with
  | nil =>
    intro _ _ _
    simp only [cut?, Option.map_eq_some_iff, Prod.mk.injEq] at h
    obtain ⟨_, _, rfl, _⟩ := h
    exact Nat.zero_le _
  | cons c cs ih =>
    unfold cut? at h
    split at h
    · cases h
      intro _ _ _
      exact Nat.zero_le _
    · next hnone =>
      obtain ⟨⟨earlier, _⟩, hcut, hbefore⟩ := Option.map_eq_some_iff.1 h
      cases hbefore
      intro before' rest' hsplit
      cases before' with
      | nil =>
        rw [List.nil_append] at hsplit
        rw [after?_eq_some_iff.2 hsplit] at hnone
        cases hnone
      | cons _ before' =>
        rw [List.cons_append, List.cons_append, List.cons.injEq] at hsplit
        exact Nat.succ_le_succ (ih hcut before' rest' hsplit.2)

theorem exists_cut? (piece before rest : List Char) :
    ∃ before' rest', cut? piece (before ++ piece ++ rest) = some (before', rest') := by
  induction before with
  | nil =>
    have hafter : after? piece (piece ++ rest) = some rest := after?_eq_some_iff.2 rfl
    rw [List.nil_append]
    generalize piece ++ rest = cs at hafter
    cases cs with
    | nil => exact ⟨[], rest, by rw [cut?, hafter]; rfl⟩
    | cons c cs => exact ⟨[], rest, by rw [cut?, hafter]⟩
  | cons c before ih =>
    obtain ⟨before', rest', hcut⟩ := ih
    rw [List.cons_append, List.cons_append]
    unfold cut?
    split
    · exact ⟨_, _, rfl⟩
    · exact ⟨_, _, by rw [hcut]; rfl⟩

theorem occurs_iff : occurs piece cs ↔ piece <:+: cs := by
  unfold occurs
  constructor
  · intro h
    obtain ⟨⟨before, rest⟩, hcut⟩ := Option.isSome_iff_exists.1 h
    exact ⟨before, rest, (eq_of_cut? hcut).symm⟩
  · rintro ⟨before, rest, rfl⟩
    obtain ⟨_, _, hcut⟩ := exists_cut? piece before rest
    rw [hcut]
    rfl

end Cut

section Lines

variable {sep : Char} {cs part : List Char} {above span below : List (List Char)}

theorem splitAt_append_cons (sep : Char) (cs ds : List Char) :
    splitAt sep (cs ++ sep :: ds) = splitAt sep cs ++ splitAt sep ds := by
  induction cs with
  | nil =>
    rw [List.nil_append, splitAt.eq_2, if_pos rfl]
    rfl
  | cons c cs ih =>
    rw [List.cons_append, splitAt, splitAt, ih]
    split
    · rfl
    · cases hparts : splitAt sep cs with
      | nil => exact absurd hparts (splitAt_ne_nil sep cs)
      | cons part parts => rfl

theorem splitAt_of_not_mem (h : sep ∉ cs) : splitAt sep cs = [cs] := by
  induction cs with
  | nil => rfl
  | cons c cs ih =>
    rw [List.mem_cons, not_or] at h
    rw [splitAt, if_neg (Ne.symm h.1), ih h.2]

theorem not_mem_of_mem_splitAt (h : part ∈ splitAt sep cs) : sep ∉ part := by
  induction cs generalizing part with
  | nil =>
    rw [splitAt, List.mem_singleton] at h
    rw [h]
    exact List.not_mem_nil
  | cons c cs ih =>
    unfold splitAt at h
    split at h
    · rcases List.mem_cons.1 h with rfl | h
      · exact List.not_mem_nil
      · exact ih h
    · next hc =>
      split at h
      · next hnil => exact absurd hnil (splitAt_ne_nil sep cs)
      · next first parts hparts =>
        rw [hparts] at ih
        rcases List.mem_cons.1 h with rfl | h
        · rw [List.mem_cons, not_or]
          exact ⟨Ne.symm hc, ih List.mem_cons_self⟩
        · exact ih (List.mem_cons_of_mem _ h)

def textAbove (lines : List (List Char)) : List Char :=
  lines.flatMap (· ++ ['\n'])

def textBelow (lines : List (List Char)) : List Char :=
  lines.flatMap ('\n' :: ·)

theorem joinWith_cons_below (line : List Char) (below : List (List Char)) :
    joinWith ['\n'] (line :: below) = line ++ textBelow below := by
  induction below generalizing line with
  | nil => exact (List.append_nil line).symm
  | cons next below ih =>
    rw [joinWith_cons (List.cons_ne_nil _ _), ih next]
    simp [textBelow]

theorem joinWith_append_below (hspan : span ≠ []) :
    joinWith ['\n'] (span ++ below) = joinWith ['\n'] span ++ textBelow below := by
  obtain ⟨line, span, rfl⟩ := List.exists_cons_of_ne_nil hspan
  rw [List.cons_append, joinWith_cons_below, joinWith_cons_below]
  simp [textBelow]

theorem joinWith_append_above (hspan : span ≠ []) :
    joinWith ['\n'] (above ++ span) = textAbove above ++ joinWith ['\n'] span := by
  induction above with
  | nil => rfl
  | cons line above ih =>
    rw [List.cons_append, joinWith_cons (by simp [hspan]), ih]
    simp [textAbove]

theorem splitLines_append_below (below : List (List Char)) (hbelow : ∀ line ∈ below, '\n' ∉ line)
    (cs : List Char) : splitLines (cs ++ textBelow below) = splitLines cs ++ below := by
  induction below generalizing cs with
  | nil => simp [textBelow]
  | cons line below ih =>
    rw [List.forall_mem_cons] at hbelow
    have hline : splitLines line = [line] := splitAt_of_not_mem hbelow.1
    have hrest := ih hbelow.2 line
    rw [hline] at hrest
    have htext : textBelow (line :: below) = '\n' :: (line ++ textBelow below) := rfl
    rw [htext, splitLines, splitAt_append_cons]
    rw [splitLines] at hrest ⊢
    rw [hrest]
    rfl

theorem splitLines_append_above (above : List (List Char)) (habove : ∀ line ∈ above, '\n' ∉ line)
    (cs : List Char) : splitLines (textAbove above ++ cs) = above ++ splitLines cs := by
  induction above with
  | nil => rfl
  | cons line above ih =>
    rw [List.forall_mem_cons] at habove
    have hline : splitLines line = [line] := splitAt_of_not_mem habove.1
    have htext : textAbove (line :: above) ++ cs = line ++ '\n' :: (textAbove above ++ cs) := by
      simp [textAbove]
    rw [htext, splitLines, splitAt_append_cons]
    rw [splitLines] at hline ih
    rw [hline, ih habove.2]
    rfl

end Lines

section Strings

variable {above span below : List String}

theorem unlines_toList (lines : List String) :
    (unlines lines).toList = joinWith ['\n'] (lines.map String.toList) := by
  unfold unlines
  rw [String.toList_intercalate]
  induction lines with
  | nil => rfl
  | cons line lines ih =>
    cases lines with
    | nil => simp [joinWith]
    | cons next lines =>
      rw [List.map_cons, List.map_cons, joinWith_cons (List.cons_ne_nil _ _), ← List.map_cons, ← ih]
      simp [List.intercalate]

theorem lines_map_toList (s : String) : (lines s).map String.toList = splitLines s.toList := by
  unfold lines
  rw [List.map_map]
  simp

theorem not_mem_of_mem_lines {s line : String} (h : line ∈ lines s) : '\n' ∉ line.toList := by
  have hmem : line.toList ∈ (lines s).map String.toList := List.mem_map_of_mem h
  rw [lines_map_toList] at hmem
  exact not_mem_of_mem_splitAt hmem

/-- A text around a span of its lines. -/
theorem toList_of_lines {s : String} (hlines : lines s = above ++ span ++ below) (hspan : span ≠ []) :
    s.toList = textAbove (above.map String.toList) ++ (unlines span).toList ++
      textBelow (below.map String.toList) := by
  have hmap : span.map String.toList ≠ [] := by simpa using hspan
  rw [← joinWith_splitAt '\n' s.toList, ← splitLines, ← lines_map_toList, hlines, unlines_toList,
    List.map_append, List.map_append, joinWith_append_below (by simp [hspan]),
    joinWith_append_above hmap]

/-- Whatever takes the place of a span of lines, the lines around it stay. -/
theorem lines_of_toList {s : String} (habove : ∀ line ∈ above, '\n' ∉ line.toList)
    (hbelow : ∀ line ∈ below, '\n' ∉ line.toList) (new : String)
    (h : s.toList = textAbove (above.map String.toList) ++ new.toList ++
      textBelow (below.map String.toList)) :
    lines s = above ++ lines new ++ below := by
  have hchars : (lines s).map String.toList = (above ++ lines new ++ below).map String.toList := by
    rw [lines_map_toList, h, splitLines_append_below _ (by simpa using hbelow),
      splitLines_append_above _ (by simpa using habove), List.map_append, List.map_append,
      lines_map_toList]
  exact (List.map_inj_right fun _ _ => String.toList_inj.1).1 hchars

end Strings

end Text
end LintRemedy
