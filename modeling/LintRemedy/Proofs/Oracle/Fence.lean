import LintRemedy.Oracle.Payload

/-!
This module contains what is lost when blanks and a code fence are taken off a text: nothing before
the first opening brace, and nothing after the last closing brace.
-/

namespace LintRemedy
namespace Oracle

/-- A text without something at its ends, in which no object starts or ends. -/
def Strips (cs cleaned : List Char) : Prop :=
  ∃ a b, cs = a ++ (cleaned ++ b) ∧ '{' ∉ a ∧ '}' ∉ b

theorem exists_of_not_mem_left {c : Char} {a cs before after : List Char} (ha : c ∉ a)
    (h : a ++ cs = before ++ c :: after) :
    ∃ before', before = a ++ before' ∧ cs = before' ++ c :: after := by
  rcases List.append_eq_append_iff.1 h with ⟨before', hbefore, hcs⟩ | ⟨rest, ha', hrest⟩
  · exact ⟨before', hbefore, hcs⟩
  · cases rest with
    | nil => exact ⟨[], by simpa using ha'.symm, hrest.symm⟩
    | cons d rest =>
      rw [List.cons_append, List.cons.injEq] at hrest
      rw [ha', hrest.1] at ha
      exact absurd (by simp) ha

theorem exists_of_not_mem_right {c : Char} {b cs before after : List Char} (hb : c ∉ b)
    (h : cs ++ b = before ++ c :: after) :
    ∃ after', after = after' ++ b ∧ cs = before ++ c :: after' := by
  rcases List.append_eq_append_iff.1 h with ⟨rest, hbefore, hb'⟩ | ⟨rest, hcs, hrest⟩
  · rw [hb'] at hb
    exact absurd (by simp) hb
  · cases rest with
    | nil =>
      rw [List.nil_append] at hrest
      rw [← hrest] at hb
      exact absurd (by simp) hb
    | cons d rest =>
      rw [List.cons_append, List.cons.injEq] at hrest
      rw [hrest.1]
      exact ⟨rest, hrest.2, hcs⟩

theorem eq_of_first {c : Char} {a b rest rest' : List Char} (ha : c ∉ a) (hb : c ∉ b)
    (h : a ++ c :: rest = b ++ c :: rest') : rest = rest' := by
  obtain ⟨between, rfl, hrest⟩ := exists_of_not_mem_left ha h
  cases between with
  | nil => exact (List.cons.inj hrest).2
  | cons d between =>
    rw [List.cons_append, List.cons.injEq] at hrest
    rw [hrest.1] at hb
    exact absurd (by simp) hb

/-- An object in a text is in the text without its ends, as neither end reaches into it. -/
theorem exists_inside {a cleaned b before inner after : List Char} (ha : '{' ∉ a) (hb : '}' ∉ b)
    (h : a ++ (cleaned ++ b) = before ++ ('{' :: (inner ++ ['}']) ++ after)) :
    ∃ before' after', before = a ++ before' ∧ after = after' ++ b ∧
      cleaned = before' ++ ('{' :: (inner ++ ['}']) ++ after') := by
  rw [List.cons_append] at h
  obtain ⟨before', hbefore, hrest⟩ := exists_of_not_mem_left ha h
  have hends : cleaned ++ b = before' ++ '{' :: inner ++ '}' :: after := by
    rw [hrest]
    simp
  obtain ⟨after', hafter, hcleaned⟩ := exists_of_not_mem_right hb hends
  refine ⟨before', after', hbefore, hafter, ?_⟩
  rw [hcleaned]
  simp

namespace Strips

theorem refl (cs : List Char) : Strips cs cs :=
  ⟨[], [], (List.append_nil cs).symm, List.not_mem_nil, List.not_mem_nil⟩

theorem trans {cs between cleaned : List Char} (h : Strips cs between)
    (h' : Strips between cleaned) : Strips cs cleaned := by
  obtain ⟨a, b, rfl, ha, hb⟩ := h
  obtain ⟨a', b', rfl, ha', hb'⟩ := h'
  refine ⟨a ++ a', b' ++ b, by simp, ?_, ?_⟩
  · rw [List.mem_append, not_or]
    exact ⟨ha, ha'⟩
  · rw [List.mem_append, not_or]
    exact ⟨hb', hb⟩

theorem of_append_left {a cs : List Char} (h : '{' ∉ a) : Strips (a ++ cs) cs :=
  ⟨a, [], by rw [List.append_nil], h, List.not_mem_nil⟩

theorem of_append_right {cs b : List Char} (h : '}' ∉ b) : Strips (cs ++ b) cs :=
  ⟨[], b, rfl, List.not_mem_nil, h⟩

theorem not_mem_takeWhile {p : Char → Bool} {c : Char} (h : p c = false) (cs : List Char) :
    c ∉ cs.takeWhile p := by
  intro hc
  have hall := List.all_eq_true.1 List.all_takeWhile c hc
  rw [h] at hall
  cases hall

theorem dropWhile {p : Char → Bool} (h : p '{' = false) (cs : List Char) :
    Strips cs (cs.dropWhile p) := by
  have hstrip : Strips (cs.takeWhile p ++ cs.dropWhile p) (cs.dropWhile p) :=
    of_append_left (not_mem_takeWhile h cs)
  rw [List.takeWhile_append_dropWhile] at hstrip
  exact hstrip

theorem dropEndWhile {p : Char → Bool} (h : p '}' = false) (cs : List Char) :
    Strips cs (Text.dropEndWhile p cs) := by
  have hnot := not_mem_takeWhile h cs.reverse
  rw [← List.mem_reverse] at hnot
  have hstrip : Strips (Text.dropEndWhile p cs ++ (cs.reverse.takeWhile p).reverse)
      (Text.dropEndWhile p cs) :=
    of_append_right hnot
  unfold Text.dropEndWhile at hstrip ⊢
  rw [← List.reverse_append, List.takeWhile_append_dropWhile, List.reverse_reverse] at hstrip
  exact hstrip

theorem trim (cs : List Char) : Strips cs (Text.trim cs) :=
  (dropWhile (by decide) cs).trans (dropEndWhile (by decide) _)

theorem dropOne {c : Char} (h : c ≠ '{') (cs : List Char) : Strips cs (dropOne c cs) := by
  unfold Oracle.dropOne
  split
  · split
    · next heq =>
      rw [heq]
      exact of_append_left (a := [c]) (by simpa using h.symm)
    · exact refl _
  · exact refl []

theorem dropOpeningFence (cs : List Char) : Strips cs (dropOpeningFence cs) := by
  unfold Oracle.dropOpeningFence
  split
  · next rest hrest =>
    have htag : isTagChar '{' = false := by decide +kernel
    have hindent : Text.isIndent '{' = false := by decide
    rw [Text.after?_eq_some_iff.1 hrest]
    apply trans (of_append_left (by decide))
    apply trans (dropWhile htag rest)
    apply trans (dropWhile hindent _)
    exact dropOne (by decide) _
  · exact refl cs

theorem of_reverse_dropOne (cs : List Char) :
    Strips cs.reverse (Oracle.dropOne '\n' cs).reverse := by
  unfold Oracle.dropOne
  split
  · split
    · next heq =>
      rw [heq, List.reverse_cons]
      exact of_append_right (by decide)
    · exact refl _
  · exact refl _

theorem dropClosingFence (cs : List Char) : Strips cs (dropClosingFence cs) := by
  unfold Oracle.dropClosingFence
  split
  · next before hbefore =>
    have hblank : Text.isBlank '}' = false := by decide
    have hindent : Text.isIndent '}' = false := by decide
    apply trans (dropEndWhile hblank cs)
    have hsplit := congrArg List.reverse (Text.after?_eq_some_iff.1 hbefore)
    rw [List.reverse_reverse, List.reverse_append] at hsplit
    rw [hsplit]
    apply trans (of_append_right (by decide))
    apply trans (dropEndWhile hindent before.reverse)
    unfold Text.dropEndWhile
    rw [List.reverse_reverse]
    exact of_reverse_dropOne _
  · exact refl cs

/-- No object is lost or cut when the code fence is taken off. -/
theorem stripFence (cs : List Char) : Strips cs (stripFence cs) := by
  unfold Oracle.stripFence
  apply trans (trim cs)
  apply trans (dropOpeningFence _)
  apply trans (dropClosingFence _)
  exact trim _

end Strips

theorem trim_between {c d : Char} {a inner b : List Char} (ha : ∀ e ∈ a, Text.isBlank e)
    (hb : ∀ e ∈ b, Text.isBlank e) (hc : Text.isBlank c = false) (hd : Text.isBlank d = false) :
    Text.trim (a ++ (c :: (inner ++ [d]) ++ b)) = c :: (inner ++ [d]) := by
  have hb' : ∀ e ∈ b.reverse, Text.isBlank e := fun e he => hb e (List.mem_reverse.1 he)
  unfold Text.trim Text.trimWhile Text.dropEndWhile
  rw [List.dropWhile_append_of_pos ha, List.cons_append,
    List.dropWhile_cons_of_neg (by rw [hc]; decide), ← List.cons_append, List.reverse_append,
    List.dropWhile_append_of_pos hb', ← List.cons_append, List.reverse_append,
    List.reverse_singleton, List.singleton_append, List.dropWhile_cons_of_neg (by rw [hd]; decide),
    List.reverse_cons, List.reverse_reverse]

theorem trim_of_ends {c d : Char} {inner : List Char} (hc : Text.isBlank c = false)
    (hd : Text.isBlank d = false) :
    Text.trim (c :: (inner ++ [d])) = c :: (inner ++ [d]) := by
  have htrim : Text.trim ([] ++ (c :: (inner ++ [d]) ++ [])) = c :: (inner ++ [d]) :=
    trim_between (by simp) (by simp) hc hd
  rw [List.nil_append, List.append_nil] at htrim
  exact htrim

theorem after?_fenceMark_of_ne {c : Char} {cs : List Char} (h : c ≠ '\x60') :
    Text.after? fenceMark (c :: cs) = none :=
  if_neg h.symm

/-- A text without blanks and backticks at its ends has no fence. -/
theorem stripFence_of_ends {c d : Char} {inner : List Char} (hc : Text.isBlank c = false)
    (hd : Text.isBlank d = false) (hopen : c ≠ '\x60') (hclose : d ≠ '\x60') :
    stripFence (c :: (inner ++ [d])) = c :: (inner ++ [d]) := by
  have htrim : Text.trim (c :: (inner ++ [d])) = c :: (inner ++ [d]) := trim_of_ends hc hd
  have hopening : dropOpeningFence (c :: (inner ++ [d])) = c :: (inner ++ [d]) := by
    unfold dropOpeningFence
    rw [after?_fenceMark_of_ne hopen]
  have hclosing : dropClosingFence (c :: (inner ++ [d])) = c :: (inner ++ [d]) := by
    unfold dropClosingFence Text.dropEndWhile
    rw [← List.cons_append, List.reverse_append, List.reverse_singleton, List.singleton_append,
      List.dropWhile_cons_of_neg (by rw [hd]; decide), List.reverse_reverse,
      after?_fenceMark_of_ne hclose]
  unfold stripFence
  rw [htrim, hopening, hclosing, htrim]

end Oracle
end LintRemedy
