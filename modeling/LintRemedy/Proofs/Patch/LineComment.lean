import LintRemedy.Proofs.Patch.Application
import LintRemedy.Proofs.Text.Ending

/-!
This module contains where the comment goes that suppresses a rule in a line. The line is counted under
the ending of the file, which is how all other parts count lines exactly in files whose line breaks are
all of one kind.
-/

namespace LintRemedy

open Text

namespace Edit

section Characters

variable {line : Int} {rule content new target : List Char}

theorem suppressLine?_eq_none_iff : suppressLine? line rule content = none ↔
    line < 1 ∨ ((LineEnding.ofText content).split content).length < line := by
  unfold suppressLine?
  dsimp only
  split
  · next h => simp [h]
  · next h => simp [h]

theorem suppressLine?_eq_some (h : suppressLine? line rule content = some new) :
    ∃ above target below, (LineEnding.ofText content).split content = above ++ target :: below ∧
      (above.length : Int) + 1 = line ∧
      new = (LineEnding.ofText content).join
        (above ++ lineComment rule target :: target :: below) := by
  unfold suppressLine? at h
  dsimp only at h
  split at h
  · cases h
  · next inside =>
    generalize hlines : (LineEnding.ofText content).split content = lines at h inside ⊢
    have hindex : (line - 1).toNat < lines.length := by omega
    have hdrop := List.drop_eq_getElem_cons hindex
    refine ⟨lines.take (line - 1).toNat, lines[(line - 1).toNat], lines.drop ((line - 1).toNat + 1),
      ?_, ?_, ?_⟩
    · rw [← hdrop, List.take_append_drop]
    · rw [List.length_take]
      omega
    · rw [List.getElem?_eq_getElem hindex, Option.getD_some, hdrop, Option.some.injEq] at h
      exact h.symm

/-- A comment stands between the lines above its target and the rest of the text. -/
theorem textAbove_of_suppressLine? (h : suppressLine? line rule content = some new) :
    ∃ above target rest, content = textAbove above ++ rest ∧
      new = textAbove above ++
        (lineComment rule target ++ (LineEnding.ofText content).lead ++ '\n' :: rest) := by
  obtain ⟨above, target, below, hsplit, _, hnew⟩ := suppressLine?_eq_some h
  generalize hending : LineEnding.ofText content = ending at *
  refine ⟨above.map (· ++ ending.lead), target, ending.join (target :: below), ?_, ?_⟩
  · rw [← LineEnding.join_append ending (by simp), ← hsplit, LineEnding.join_split]
  · have happend : above ++ lineComment rule target :: target :: below =
        (above ++ [lineComment rule target]) ++ target :: below := by simp
    rw [hnew, happend, LineEnding.join_append ending (by simp)]
    simp [textAbove]

theorem mem_rule_of_mem_lineComment {c : Char} (hc : c ∈ lineComment rule target) :
    c ∈ rule ∨ isHalf c = false := by
  unfold lineComment at hc
  rw [List.mem_append, List.mem_append] at hc
  rcases hc with (hindent | hmark) | hrule
  · have hblank := List.all_eq_true.1 List.all_takeWhile c hindent
    simp only [isIndent, Bool.or_eq_true, beq_iff_eq] at hblank
    right
    rcases hblank with rfl | rfl <;> decide
  · have hplain : "// eslint-disable-next-line ".toList.all (!isHalf ·) = true := by decide +kernel
    right
    simpa using List.all_eq_true.1 hplain c hmark
  · exact .inl hrule

/-- A comment brings no characters without bytes in but those of the rule. -/
theorem suppressLine?_subset (h : suppressLine? line rule content = some new) {c : Char}
    (hc : c ∈ new) : c ∈ content ∨ c ∈ rule ∨ isHalf c = false := by
  obtain ⟨above, target, rest, hcontent, hnew⟩ := textAbove_of_suppressLine? h
  rw [hnew, List.mem_append, List.mem_append, List.mem_append, List.mem_cons] at hc
  rw [hcontent, List.mem_append]
  rcases hc with habove | (hcomment | hlead) | rfl | hrest
  · exact .inl (.inl habove)
  · exact .inr (mem_rule_of_mem_lineComment hcomment)
  · obtain rfl := LineEnding.eq_of_mem_lead _ hlead
    exact .inr (.inr (by decide))
  · exact .inr (.inr (by decide))
  · exact .inl (.inr hrest)

/-- A comment ends with the rule, and what stands before has no part of a line break. -/
theorem exists_lineComment_eq (rule target : List Char) :
    ∃ start, lineComment rule target = start ++ rule ∧ start.getLast? = some ' ' ∧
      ∀ c, c = '\n' ∨ c = '\r' → c ∉ start := by
  refine ⟨target.takeWhile isIndent ++ "// eslint-disable-next-line ".toList, rfl, ?_, ?_⟩
  · have hmark : "// eslint-disable-next-line ".toList.getLast? = some ' ' := by decide
    rw [List.getLast?_append, hmark]
    rfl
  · intro c hc
    have hindent : c ∉ target.takeWhile isIndent := by
      intro hmem
      have hblank := List.all_eq_true.1 List.all_takeWhile c hmem
      rcases hc with rfl | rfl <;> cases hblank
    rcases hc with rfl | rfl <;> simp [hindent]

theorem not_mem_lineComment {c : Char} (hc : c = '\n' ∨ c = '\r') (hrule : c ∉ rule)
    (target : List Char) : c ∉ lineComment rule target := by
  obtain ⟨start, hcomment, _, hfree⟩ := exists_lineComment_eq rule target
  rw [hcomment, List.mem_append, not_or]
  exact ⟨hfree c hc, hrule⟩

/-- A comment has the same indent whether or not its line ends with a carriage return. -/
theorem lineComment_append_lead (rule target : List Char) (ending : LineEnding) :
    lineComment rule (target ++ ending.lead) = lineComment rule target := by
  have hindent : (target ++ ending.lead).takeWhile isIndent = target.takeWhile isIndent := by
    cases ending with
    | lf => simp [LineEnding.lead]
    | crlf =>
      induction target with
      | nil => decide
      | cons c target ih =>
        rw [List.cons_append, List.takeWhile_cons, List.takeWhile_cons, ih]
  unfold lineComment
  rw [hindent]

/-- The first of the lines that are joined is kept, but it may end with a carriage return now. -/
theorem exists_splitLines_join (rule : List Char) (ending : LineEnding) (below : List (List Char))
    (htarget : '\n' ∉ target) : ∃ suffix below',
      splitLines (ending.join (target :: below)) = (target ++ suffix) :: below' ∧
        lineComment rule (target ++ suffix) = lineComment rule target := by
  cases below with
  | nil =>
    refine ⟨[], [], ?_, by simp⟩
    rw [List.append_nil]
    exact splitAt_of_not_mem htarget
  | cons next below =>
    have hjoin : splitLines (ending.join ([target] ++ next :: below)) =
        [target].map (· ++ ending.lead) ++ splitLines (ending.join (next :: below)) := by
      apply LineEnding.splitLines_join_append
      · simpa using htarget
      · simp
    exact ⟨ending.lead, _, hjoin, lineComment_append_lead rule target ending⟩

theorem splitLines_of_suppressLine? (uniform : Uniform content) (hrule : '\n' ∉ rule)
    (h : suppressLine? line rule content = some new) :
    ∃ above target below, splitLines content = above ++ target :: below ∧
      (above.length : Int) + 1 = line ∧
      splitLines new = above ++
        (lineComment rule target ++ (LineEnding.ofText content).lead) :: target :: below := by
  obtain ⟨above, target, below, hsplit, hline, hnew⟩ := suppressLine?_eq_some h
  have hends := uniform_iff.1 uniform
  generalize LineEnding.ofText content = ending at *
  have hfree : ∀ part ∈ above ++ target :: below, '\n' ∉ part := by
    intro part hpart
    rw [← hsplit] at hpart
    exact LineEnding.not_mem_of_mem_split hends hpart
  have hcontent : content = ending.join (above ++ target :: below) := by
    rw [← hsplit, LineEnding.join_split]
  have habove : ∀ part ∈ above, '\n' ∉ part := by
    intro part hpart
    exact hfree part (by simp [hpart])
  have htarget : '\n' ∉ target := hfree target (by simp)
  have hcommented : ∀ part ∈ above ++ [lineComment rule target], '\n' ∉ part := by
    intro part hpart
    rw [List.mem_append, List.mem_singleton] at hpart
    cases hpart with
    | inl hpart => exact habove part hpart
    | inr hpart =>
      rw [hpart]
      exact not_mem_lineComment (.inl rfl) hrule target
  -- Both texts go on alike from the target on, whose line may end with a carriage return.
  obtain ⟨suffix, below', hspan, hcomment⟩ := exists_splitLines_join rule ending below htarget
  refine ⟨above.map (· ++ ending.lead), target ++ suffix, below', ?_, ?_, ?_⟩
  · rw [hcontent, LineEnding.splitLines_join_append habove (by simp), hspan]
  · simpa using hline
  · have happend : above ++ lineComment rule target :: target :: below =
        (above ++ [lineComment rule target]) ++ target :: below := by simp
    rw [hnew, happend, LineEnding.splitLines_join_append hcommented (by simp), hspan, hcomment]
    simp

theorem length_of_suppressLine? (line : Int) (rule : List Char) (uniform : Uniform content) :
    suppressLine? line rule content = none ↔ line < 1 ∨ (splitLines content).length < line := by
  rw [suppressLine?_eq_none_iff, LineEnding.length_split (uniform_iff.1 uniform)]

end Characters

/-- The line of the comment that suppresses a rule in a line of a text. -/
def commentLine (content rule target : String) : String :=
  String.ofList (lineComment rule.toList target.toList ++ (LineEnding.ofText content.toList).lead)

/-- A text is another one with a comment line directly above the line that is shown to the oracle under
a number, and with nothing else changed. -/
def CommentsAbove (line : Int) (rule content new : String) : Prop :=
  ∃ above target below, lines content = above ++ target :: below ∧
    (above.length : Int) + 1 = line ∧
    Remedy.context (lines content) line 0 = toString line ++ "\t" ++ target ∧
    lines new = above ++ commentLine content rule target :: target :: below

theorem context_self (above below : List String) (target : String) :
    Remedy.context (above ++ target :: below) (above.length + 1) 0 =
      toString ((above.length : Int) + 1) ++ "\t" ++ target := by
  have hstart : (max 0 ((above.length : Int) + 1 - 0 - 1)).toNat = above.length := by omega
  have hstop : (min ((above ++ target :: below).length : Int) ((above.length : Int) + 1 + 0)).toNat =
      above.length + 1 := by
    rw [List.length_append, List.length_cons]
    omega
  unfold Remedy.context
  simp only [hstart, hstop]
  simp [List.zipIdx_append, List.take_append, unlines]
  rfl

theorem length_lines (s : String) : (lines s).length = (splitLines s.toList).length := by
  rw [← lines_map_toList, List.length_map]

theorem lines_of_splitLines {s : String} {parts : List (List Char)}
    (h : splitLines s.toList = parts) : lines s = parts.map String.ofList := by
  rw [← h, ← lines_map_toList, List.map_map]
  simp

theorem commentsAbove_of_suppressLine? {line : Int} {rule content : String} {new : List Char}
    (uniform : Uniform content.toList) (hrule : '\n' ∉ rule.toList)
    (h : suppressLine? line rule.toList content.toList = some new) :
    CommentsAbove line rule content (String.ofList new) := by
  obtain ⟨above, target, below, hcontent, hline, hnew⟩ :=
    splitLines_of_suppressLine? uniform hrule h
  have hlines := lines_of_splitLines hcontent
  rw [List.map_append, List.map_cons] at hlines
  refine ⟨above.map String.ofList, String.ofList target, below.map String.ofList, hlines, ?_, ?_, ?_⟩
  · simpa using hline
  · have hshown := context_self (above.map String.ofList) (below.map String.ofList)
      (String.ofList target)
    rwa [List.length_map, hline, ← hlines] at hshown
  · rw [← String.toList_ofList (l := new)] at hnew
    rw [lines_of_splitLines hnew]
    simp [commentLine]

end Edit

namespace Patch

/-- What comes of a comment for a line of a file with a text. -/
structure CommentsLine (file : String) (line : Int) (rule content : String) (world : World)
    (success : Bool) (world' : World) : Prop where
  success_iff : success = true ↔ 1 ≤ line ∧ line ≤ (lines content).length
  refused : success = false → world' = world
  commented : success = true → ∃ new, world'.files.readText file = .ok new ∧
    Edit.CommentsAbove line rule content new ∧
    ∀ key, world.files.resolve? file ≠ some key →
      world'.files.content? key = world.files.content? key

variable {file rule content : String} {line : Int} {world : World}

theorem suppressLine_of_none (hread : world.files.readText file = .ok content)
    (h : Edit.suppressLine? line rule.toList content.toList = none) :
    suppressLine file line rule world = .ok false world := by
  apply commit_of_none
  rw [revised_of_readText _ hread, h]

/-- A comment can be written where its rule can be and the text that it is put in. -/
theorem encodable_of_suppressLine? {files : Files} {new : List Char}
    (hcontent : files.Encodable content) (hrule : files.Encodable rule)
    (h : Edit.suppressLine? line rule.toList content.toList = some new) :
    files.Encodable (String.ofList new) := by
  intro halves c hc
  rw [String.toList_ofList] at hc
  rcases Edit.suppressLine?_subset h hc with hold | hnamed | hplain
  · exact hcontent halves c hold
  · exact hrule halves c hnamed
  · exact hplain

theorem commit_revised_of_some (edit : List Char → Option (List Char)) {new : List Char}
    (hread : world.files.readText file = .ok content) (writable : world.files.Writable file)
    (h : edit content.toList = some new) (encodable : world.files.Encodable (String.ofList new)) :
    ∃ files, world.files.editText file (String.ofList new) = .ok files ∧
      commit file (revised file edit) world =
        .ok true ({ world with files }.record (.editedFile file)) := by
  obtain ⟨files, hwrite⟩ := writable (String.ofList new) encodable
  refine ⟨files, hwrite, ?_⟩
  apply commit_of_some
  rw [revised_of_readText _ hread, h]
  dsimp only
  rw [hwrite]
  rfl

theorem suppressLine_commentsLine (uniform : Uniform content.toList) (hrule : '\n' ∉ rule.toList)
    (hread : world.files.readText file = .ok content) (writable : world.files.Writable file)
    (hcontent : world.files.Encodable content) (hnamed : world.files.Encodable rule) :
    ∃ success world', suppressLine file line rule world = .ok success world' ∧
      CommentsLine file line rule content world success world' := by
  have hrange := Edit.length_of_suppressLine? line rule.toList uniform
  rw [← Edit.length_lines] at hrange
  cases hedit : Edit.suppressLine? line rule.toList content.toList with
  | none =>
    refine ⟨false, world, suppressLine_of_none hread hedit, ?_, fun _ => rfl, nofun⟩
    have hout := hrange.1 hedit
    simp only [Bool.false_eq_true, false_iff]
    omega
  | some new =>
    obtain ⟨files, hwrite, hdone⟩ := commit_revised_of_some _ hread writable hedit
      (encodable_of_suppressLine? hcontent hnamed hedit)
    refine ⟨true, _, hdone, ?_, nofun, fun _ => ?_⟩
    · have hin : ¬ (line < 1 ∨ (lines content).length < line) := by
        rw [← hrange, hedit]
        simp
      simp only [true_iff]
      omega
    · exact ⟨_, Files.readText_of_editText hwrite,
        Edit.commentsAbove_of_suppressLine? uniform hrule hedit,
        fun key hkey => Files.content?_of_editText hwrite hkey⟩

def holding (content : String) : World :=
  { World.empty with files := (Files.empty ["w"]).set ["w", "a.js"] (.text content) }

theorem holding_readText (content : String) :
    (holding content).files.readText "/w/a.js" = .ok content := by
  rfl

theorem holding_writable (content : String) : (holding content).files.Writable "/w/a.js" := by
  intro text _
  exact ⟨_, rfl⟩

theorem holding_encodable (content text : String) : (holding content).files.Encodable text := by
  intro halves
  exact (Bool.false_ne_true halves).elim

/-- Comments go above the lines that are meant, and are refused just for lines that there are not,
exactly in the files whose line breaks are all of one kind. -/
theorem suppressLine_counts_lines (content : String) :
    (∀ file line rule world, '\n' ∉ rule.toList → world.files.readText file = .ok content →
      world.files.Writable file → world.files.Encodable content → world.files.Encodable rule →
      ∃ success world', suppressLine file line rule world = .ok success world' ∧
          CommentsLine file line rule content world success world') ↔
      Uniform content.toList := by
  constructor
  · intro counts
    apply Classical.byContradiction
    intro mixed
    -- The last of the lines that line feeds end is out of range under the ending of the text.
    obtain ⟨success, world', hdone, comments⟩ := counts "/w/a.js" (lines content).length ""
      (holding content) (by simp) (holding_readText content) (holding_writable content)
      (holding_encodable content content) (holding_encodable content "")
    have hlength := length_split_lt mixed
    rw [← Edit.length_lines] at hlength
    have hnone : Edit.suppressLine? (lines content).length "".toList content.toList = none := by
      rw [Edit.suppressLine?_eq_none_iff]
      omega
    rw [suppressLine_of_none (holding_readText content) hnone] at hdone
    cases hdone
    have hrange := comments.success_iff
    simp only [Bool.false_eq_true, false_iff] at hrange
    omega
  · intro uniform file line rule world hrule hread writable hcontent hnamed
    exact suppressLine_commentsLine uniform hrule hread writable hcontent hnamed

/-- In a file with breaks of both kinds, the comment for the second line goes above the third one. -/
theorem suppressLine_mixed :
    ∃ world', suppressLine "/w/a.js" 2 "no-x" (holding "a();\n  b();\r\nc();\n") = .ok true world' ∧
      world'.files.readText "/w/a.js" =
        .ok "a();\n  b();\r\n// eslint-disable-next-line no-x\r\nc();\n" ∧
      ¬ Edit.CommentsAbove 2 "no-x" "a();\n  b();\r\nc();\n"
        "a();\n  b();\r\n// eslint-disable-next-line no-x\r\nc();\n" := by
  refine ⟨_, rfl, rfl, ?_⟩
  rintro ⟨above, target, below, hcontent, hline, -, hnew⟩
  have hlength : above.length = 1 := by omega
  obtain ⟨first, rfl⟩ := List.length_eq_one_iff.1 hlength
  have hold : lines "a();\n  b();\r\nc();\n" = ["a();", "  b();\r", "c();", ""] := by decide +kernel
  have hsecond : lines "a();\n  b();\r\n// eslint-disable-next-line no-x\r\nc();\n" =
      ["a();", "  b();\r", "// eslint-disable-next-line no-x\r", "c();", ""] := by decide +kernel
  rw [hold] at hcontent
  rw [hsecond] at hnew
  simp only [List.singleton_append, List.cons.injEq] at hcontent hnew
  obtain ⟨-, rfl, -⟩ := hcontent
  exact absurd hnew.2.1 (by decide +kernel)

end Patch

end LintRemedy
