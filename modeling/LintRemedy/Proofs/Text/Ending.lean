import LintRemedy.Proofs.Text.Occurrence

/-!
This module contains the line breaks of a text. Where all of them are of one kind, the lines under the
ending of the text are those that line feeds end, but for the carriage returns. Where both kinds are
mixed, there are fewer lines under the ending of the text than line feeds end.
-/

namespace LintRemedy
namespace Text

/-- All line breaks of a text are of this kind: a carriage return stands right before every line feed,
or before none. -/
def LineEnding.EndsAll (ending : LineEnding) (cs : List Char) : Prop :=
  ∀ before after, cs = before ++ '\n' :: after →
    (before.getLast? = some '\r' ↔ ending = .crlf)

/-- All line breaks of a text are of one kind. -/
def Uniform (cs : List Char) : Prop :=
  ∃ ending : LineEnding, ending.EndsAll cs

/-- What stands before the line feed of the mark. -/
def LineEnding.lead : LineEnding → List Char
  | lf => []
  | crlf => ['\r']

variable {ending : LineEnding} {cs before after line : List Char} {c : Char}

@[simp]
theorem LineEnding.mark_eq (ending : LineEnding) : ending.mark = ending.lead ++ ['\n'] := by
  cases ending <;> rfl

theorem LineEnding.eq_of_mem_lead (ending : LineEnding) {c : Char} (h : c ∈ ending.lead) :
    c = '\r' := by
  cases ending with
  | lf => cases h
  | crlf => exact List.mem_singleton.1 h

theorem LineEnding.not_mem_lead (ending : LineEnding) : '\n' ∉ ending.lead := by
  cases ending <;> simp [lead]

section Feeds

theorem getLast?_append_feed (before after : List Char) :
    (before ++ '\n' :: after).getLast? = some '\r' ↔ after.getLast? = some '\r' := by
  cases after.eq_nil_or_concat with
  | inl hnil => simp [hnil]
  | inr hconcat =>
    obtain ⟨after, c, rfl⟩ := hconcat
    simp [List.getLast?_cons]

namespace LineEnding

theorem endsAll_of_not_mem (h : '\n' ∉ cs) : ending.EndsAll cs := by
  intro before after hcs
  simp [hcs] at h

/-- Whether a line feed stands behind a carriage return does not depend on the lines above it. -/
theorem endsAll_append_feed :
    ending.EndsAll (before ++ '\n' :: after) ↔ ending.EndsAll before ∧
      (before.getLast? = some '\r' ↔ ending = .crlf) ∧ ending.EndsAll after := by
  constructor
  · intro h
    refine ⟨?_, h before after rfl, ?_⟩
    · intro b a hb
      apply h b (a ++ '\n' :: after)
      simp [hb]
    · intro b a ha
      rw [← getLast?_append_feed before b]
      apply h _ a
      simp [ha]
  · rintro ⟨hbefore, hlast, hafter⟩ b a heq
    rcases List.append_eq_append_iff.1 heq with ⟨between, rfl, hrest⟩ | ⟨between, rfl, hrest⟩
    · cases between with
      | nil => simpa using hlast
      | cons d between =>
        simp only [List.cons_append, List.cons.injEq] at hrest
        obtain ⟨rfl, rfl⟩ := hrest
        rw [getLast?_append_feed]
        exact hafter between a rfl
    · cases between with
      | nil => simpa using hlast
      | cons d between =>
        simp only [List.cons_append, List.cons.injEq] at hrest
        obtain ⟨rfl, rfl⟩ := hrest
        exact hbefore b between rfl

/-- A text has the breaks of its two parts unless the seam goes through one of them. -/
theorem endsAll_append (hseam : before.getLast? = some '\r' → after.head? ≠ some '\n') :
    ending.EndsAll (before ++ after) ↔ ending.EndsAll before ∧ ending.EndsAll after := by
  constructor
  · intro h
    constructor
    · intro b a hb
      apply h b (a ++ after)
      simp [hb]
    · intro b a ha
      have hlast := h (before ++ b) a (by simp [ha])
      cases b with
      | nil =>
        have hreturn : before.getLast? ≠ some '\r' := by
          intro hreturn
          exact hseam hreturn (by simp [ha])
        simpa [hreturn] using hlast
      | cons c b => simpa [List.getLast?_cons] using hlast
  · rintro ⟨hbefore, hafter⟩ b a heq
    rcases List.append_eq_append_iff.1 heq with ⟨between, rfl, hrest⟩ | ⟨between, rfl, hrest⟩
    · have hlast := hafter between a hrest
      cases between with
      | nil =>
        have hreturn : before.getLast? ≠ some '\r' := by
          intro hreturn
          exact hseam hreturn (by simp [hrest])
        simpa [hreturn] using hlast
      | cons d between => simpa [List.getLast?_cons] using hlast
    · cases between with
      | nil =>
        rw [List.nil_append] at hrest
        have hreturn : b.getLast? ≠ some '\r' := by
          intro hreturn
          exact hseam (by simpa using hreturn) (by simp [← hrest])
        simpa [hreturn] using hafter [] a hrest.symm
      | cons d between =>
        simp only [List.cons_append, List.cons.injEq] at hrest
        obtain ⟨rfl, rfl⟩ := hrest
        exact hbefore b between rfl

theorem endsAll_append_of_not_mem (hfeed : '\n' ∉ before) (hlast : before.getLast? ≠ some '\r') :
    ending.EndsAll (before ++ after) ↔ ending.EndsAll after := by
  have hbefore : ending.EndsAll before := endsAll_of_not_mem hfeed
  rw [endsAll_append (fun hreturn => (hlast hreturn).elim)]
  exact and_iff_right hbefore

end LineEnding

theorem hasCrlf_iff :
    hasCrlf cs ↔ ∃ before after, cs = before ++ '\n' :: after ∧ before.getLast? = some '\r' := by
  fun_induction hasCrlf cs with
  | case1 => simp
  | case2 cs =>
    simp only [true_iff]
    exact ⟨['\r'], cs, rfl, rfl⟩
  | case3 c cs hne ih =>
    rw [ih]
    constructor
    · rintro ⟨before, after, rfl, hlast⟩
      refine ⟨c :: before, after, rfl, ?_⟩
      simp [List.getLast?_cons, hlast]
    · rintro ⟨before, after, heq, hlast⟩
      cases before with
      | nil => simp at hlast
      | cons d before =>
        simp only [List.cons_append, List.cons.injEq] at heq
        obtain ⟨rfl, rfl⟩ := heq
        refine ⟨before, after, rfl, ?_⟩
        cases before with
        | nil =>
          simp at hlast
          exact (hne after hlast rfl).elim
        | cons d before => simpa using hlast

theorem LineEnding.endsAll_lf_iff : LineEnding.lf.EndsAll cs ↔ ¬ hasCrlf cs := by
  rw [hasCrlf_iff]
  unfold EndsAll
  simp

theorem uniform_iff : Uniform cs ↔ (LineEnding.ofText cs).EndsAll cs := by
  constructor
  · rintro ⟨ending, h⟩
    unfold LineEnding.ofText
    split
    · next hcrlf =>
      obtain ⟨before, after, hcs, hlast⟩ := hasCrlf_iff.1 hcrlf
      have hending : ending = .crlf := (h before after hcs).1 hlast
      rwa [← hending]
    · next hcrlf => exact LineEnding.endsAll_lf_iff.2 hcrlf
  · intro h
    exact ⟨_, h⟩

/-- The ending of a text in which there are line breaks, and all of one kind. -/
theorem LineEnding.ofText_eq (h : ending.EndsAll cs) (hfeed : '\n' ∈ cs) :
    LineEnding.ofText cs = ending := by
  obtain ⟨before, after, hcs⟩ := List.append_of_mem hfeed
  have hof := uniform_iff.1 ⟨ending, h⟩ before after hcs
  rw [h before after hcs] at hof
  cases ending <;> cases heq : LineEnding.ofText cs <;> simp [heq] at hof ⊢

theorem LineEnding.ofText_eq_crlf_iff (h : LineEnding.crlf.EndsAll cs) :
    LineEnding.ofText cs = .crlf ↔ '\n' ∈ cs := by
  constructor
  · intro hof
    apply Classical.byContradiction
    intro hfeed
    have hlf : LineEnding.lf.EndsAll cs := endsAll_of_not_mem hfeed
    rw [endsAll_lf_iff] at hlf
    simp [ofText, hlf] at hof
  · exact ofText_eq h

end Feeds

section Split

namespace LineEnding

theorem endsAll_crlf_cons (hne : ∀ rest, c = '\r' → cs = '\n' :: rest → False) :
    LineEnding.crlf.EndsAll (c :: cs) ↔ c ≠ '\n' ∧ LineEnding.crlf.EndsAll cs := by
  constructor
  · intro h
    refine ⟨?_, ?_⟩
    · rintro rfl
      simpa using h [] cs rfl
    · intro before after hcs
      have hlast := h (c :: before) after (by simp [hcs])
      cases before with
      | nil =>
        simp at hlast
        exact (hne after hlast hcs).elim
      | cons d before => simpa using hlast
  · rintro ⟨hc, h⟩ before after hcs
    cases before with
    | nil =>
      simp at hcs
      exact (hc hcs.1).elim
    | cons d before =>
      simp only [List.cons_append, List.cons.injEq] at hcs
      have hlast : before.getLast? = some '\r' := (h before after hcs.2).2 rfl
      simp [List.getLast?_cons, hlast]

/-- Carriage returns with line feeds are the only breaks of a text exactly if no line feed is left in
the lines between them. -/
theorem endsAll_crlf_iff : LineEnding.crlf.EndsAll cs ↔ ∀ line ∈ splitCrlf cs, '\n' ∉ line := by
  fun_induction splitCrlf cs with
  | case1 => simp [endsAll_of_not_mem]
  | case2 cs ih =>
    have hreturn : LineEnding.crlf.EndsAll ['\r'] := endsAll_of_not_mem (by simp)
    have hfeed : LineEnding.crlf.EndsAll (['\r'] ++ '\n' :: cs) ↔ LineEnding.crlf.EndsAll cs := by
      rw [endsAll_append_feed]
      simp [hreturn]
    rw [List.singleton_append] at hfeed
    simp [hfeed, ih]
  | case3 c cs _ hnil => exact absurd hnil (splitCrlf_ne_nil cs)
  | case4 c cs hne line lines hsplit ih =>
    rw [endsAll_crlf_cons hne, ih, hsplit, List.forall_mem_cons, List.forall_mem_cons,
      List.mem_cons, not_or, and_assoc, ne_comm]

instance (ending : LineEnding) (cs : List Char) : Decidable (ending.EndsAll cs) :=
  match ending with
  | lf => decidable_of_iff _ endsAll_lf_iff.symm
  | crlf => decidable_of_iff _ endsAll_crlf_iff.symm

theorem head?_ne_of_endsAll_crlf (h : LineEnding.crlf.EndsAll cs) : cs.head? ≠ some '\n' := by
  intro hhead
  obtain ⟨after, rfl⟩ := List.head?_eq_some_iff.1 hhead
  simpa using h [] after rfl

theorem not_mem_of_mem_split (h : ending.EndsAll cs) (hline : line ∈ ending.split cs) :
    '\n' ∉ line := by
  cases ending with
  | lf => exact not_mem_of_mem_splitAt hline
  | crlf => exact endsAll_crlf_iff.1 h line hline

theorem join_append (ending : LineEnding) {above span : List (List Char)} (hspan : span ≠ []) :
    ending.join (above ++ span) =
      textAbove (above.map (· ++ ending.lead)) ++ ending.join span := by
  induction above with
  | nil => rfl
  | cons line above ih =>
    unfold join at ih ⊢
    rw [List.cons_append, joinWith_cons (by simp [hspan]), ih]
    simp [textAbove]

theorem splitLines_join_append {above span : List (List Char)}
    (habove : ∀ line ∈ above, '\n' ∉ line) (hspan : span ≠ []) :
    splitLines (ending.join (above ++ span)) =
      above.map (· ++ ending.lead) ++ splitLines (ending.join span) := by
  rw [join_append ending hspan, splitLines_append_above]
  intro line hline
  obtain ⟨line, hmem, rfl⟩ := List.mem_map.1 hline
  simp [habove line hmem, ending.not_mem_lead]

end LineEnding

end Split

section Length

theorem length_splitAt (sep : Char) (cs : List Char) :
    (splitAt sep cs).length = cs.count sep + 1 := by
  induction cs with
  | nil => rfl
  | cons c cs ih =>
    rw [splitAt]
    split
    · next hc => simp [hc, ih]
    · next hc =>
      rw [List.count_cons_of_ne hc]
      cases hparts : splitAt sep cs with
      | nil => exact absurd hparts (splitAt_ne_nil sep cs)
      | cons part parts => simpa [hparts] using ih

theorem length_splitCrlf (cs : List Char) :
    (splitCrlf cs).length + (splitCrlf cs).flatten.count '\n' = cs.count '\n' + 1 := by
  fun_induction splitCrlf cs with
  | case1 => rfl
  | case2 cs ih =>
    simp
    omega
  | case3 c cs _ hnil => exact absurd hnil (splitCrlf_ne_nil cs)
  | case4 c cs _ line lines hsplit ih =>
    rw [hsplit] at ih
    simp [List.count_cons] at ih ⊢
    omega

theorem count_flatten_splitCrlf_eq_zero_iff :
    (splitCrlf cs).flatten.count '\n' = 0 ↔ LineEnding.crlf.EndsAll cs := by
  rw [LineEnding.endsAll_crlf_iff, List.count_eq_zero, List.mem_flatten]
  simp

theorem LineEnding.length_split (h : ending.EndsAll cs) :
    (ending.split cs).length = (splitLines cs).length := by
  cases ending with
  | lf => rfl
  | crlf =>
    have hfree := count_flatten_splitCrlf_eq_zero_iff.2 h
    have hlength := length_splitCrlf cs
    rw [splitLines, length_splitAt, split]
    omega

/-- A text with breaks of both kinds has more lines than there are under its ending. -/
theorem length_split_lt (h : ¬ Uniform cs) :
    ((LineEnding.ofText cs).split cs).length < (splitLines cs).length := by
  rw [uniform_iff] at h
  cases hof : LineEnding.ofText cs with
  | lf =>
    rw [hof, LineEnding.endsAll_lf_iff, Classical.not_not] at h
    simp [LineEnding.ofText, h] at hof
  | crlf =>
    rw [hof, ← count_flatten_splitCrlf_eq_zero_iff] at h
    have hlength := length_splitCrlf cs
    rw [splitLines, length_splitAt, LineEnding.split]
    omega

end Length

end Text
end LintRemedy
