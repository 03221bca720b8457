import LintRemedy.Proofs.Patch.Placement
import LintRemedy.Proofs.Patch.Repetition
import LintRemedy.Proofs.Remedy.Consultation

/-!
This module contains what becomes of a file in which a carriage return stands before every line feed.
The suppression comments take the ending of the file, which has to have a line break for that. The old
code of a fix takes the carriage return of its last line along, but the new code is put in as it is. So
exactly those fixes leave such a file behind whose new code brings the carriage return back, or which
reach to the end of the file.
-/

namespace LintRemedy
namespace Text

/-- All carriage returns of a text are parts of line breaks. -/
def Paired (cs : List Char) : Prop :=
  ∀ before after, cs = before ++ '\r' :: after → after.head? = some '\n'

variable {cs before piece rest : List Char}

theorem LineEnding.getLast?_of_endsAll_crlf (h : LineEnding.crlf.EndsAll (cs ++ rest))
    (hrest : rest.head? = some '\n') : cs.getLast? = some '\r' := by
  obtain ⟨after, rfl⟩ := List.head?_eq_some_iff.1 hrest
  exact (h cs after rfl).2 rfl

/-- Whether a line ends below a piece of text can be told from the piece. -/
theorem head?_eq_feed_iff (hends : LineEnding.crlf.EndsAll (before ++ piece ++ rest))
    (paired : Paired (before ++ piece ++ rest)) (hpiece : piece ≠ []) :
    rest.head? = some '\n' ↔ piece.getLast? = some '\r' := by
  constructor
  · intro hrest
    have hlast := LineEnding.getLast?_of_endsAll_crlf hends hrest
    rwa [List.getLast?_append_of_ne_nil before hpiece] at hlast
  · intro hlast
    obtain ⟨start, rfl⟩ := List.getLast?_eq_some_iff.1 hlast
    apply paired (before ++ start) rest
    simp

theorem head?_textBelow (below : List (List Char)) :
    (textBelow below).head? = some '\n' ↔ below ≠ [] := by
  cases below with
  | nil => simp [textBelow]
  | cons line below => simp [textBelow]

end Text

open Text

namespace Edit

variable {line : Int} {rule content old new before rest target : List Char}

/-- A comment for a line has the breaks of the rule. In a text without a line break, it is followed by
a line feed alone. -/
theorem endsAll_crlf_suppressLine?_iff (hends : LineEnding.crlf.EndsAll content)
    (h : suppressLine? line rule content = some new) :
    LineEnding.crlf.EndsAll new ↔
      LineEnding.crlf.EndsAll rule ∧ ('\n' ∈ content ∨ rule.getLast? = some '\r') := by
  obtain ⟨above, target, rest, hcontent, hnew⟩ := textAbove_of_suppressLine? h
  obtain ⟨start, hcomment, hblank, hfree⟩ := exists_lineComment_eq rule target
  have hstart : start.getLast? ≠ some '\r' := by simp [hblank]
  have hlead : LineEnding.crlf.EndsAll (LineEnding.ofText content).lead :=
    LineEnding.endsAll_of_not_mem (LineEnding.not_mem_lead _)
  have hrule : LineEnding.crlf.EndsAll (lineComment rule target ++ (LineEnding.ofText content).lead) ↔
      LineEnding.crlf.EndsAll rule := by
    have hseam : (LineEnding.ofText content).lead.head? ≠ some '\n' :=
      LineEnding.head?_ne_of_endsAll_crlf hlead
    rw [LineEnding.endsAll_append (fun _ => hseam), hcomment,
      LineEnding.endsAll_append_of_not_mem (hfree '\n' (.inl rfl)) hstart]
    exact and_iff_left hlead
  have hlast : (lineComment rule target ++ (LineEnding.ofText content).lead).getLast? = some '\r' ↔
      '\n' ∈ content ∨ rule.getLast? = some '\r' := by
    by_cases hfeed : '\n' ∈ content
    · rw [LineEnding.ofText_eq hends hfeed]
      simp [LineEnding.lead, hfeed]
    · have hending : LineEnding.ofText content = .lf := by
        cases hof : LineEnding.ofText content with
        | lf => rfl
        | crlf => exact absurd ((LineEnding.ofText_eq_crlf_iff hends).1 hof) hfeed
      rw [hending, hcomment]
      cases rule.eq_nil_or_concat with
      | inl hnil => simp [hnil, LineEnding.lead, hfeed, hstart]
      | inr hconcat =>
        obtain ⟨rule, c, rfl⟩ := hconcat
        simp [LineEnding.lead, hfeed]
  rw [hcontent, endsAll_textAbove_append] at hends
  rw [hnew, endsAll_textAbove_append, LineEnding.endsAll_append_feed, hrule, hlast]
  constructor
  · rintro ⟨-, hends', hreturn, -⟩
    exact ⟨hends', hreturn.2 rfl⟩
  · rintro ⟨hends', hreturn⟩
    exact ⟨hends.1, hends', iff_of_true hreturn rfl, hends.2⟩

theorem endsAll_crlf_flatMap_mark (cs : List Char) : LineEnding.crlf.EndsAll
    (cs.flatMap fun c => if c = '\n' then LineEnding.crlf.mark else [c]) := by
  induction cs with
  | nil => exact LineEnding.endsAll_of_not_mem (by simp)
  | cons c cs ih =>
    have hhead := LineEnding.head?_ne_of_endsAll_crlf ih
    have hmark : LineEnding.crlf.EndsAll (if c = '\n' then LineEnding.crlf.mark else [c]) := by
      split
      · decide
      · next hc => exact LineEnding.endsAll_of_not_mem (by simpa using Ne.symm hc)
    rw [List.flatMap_cons, LineEnding.endsAll_append (fun _ => hhead)]
    exact ⟨hmark, ih⟩

theorem endsAll_crlf_fileHeader_iff (ending : LineEnding) (rule : List Char) :
    LineEnding.crlf.EndsAll (fileHeader ending rule) ↔ ending = .crlf := by
  cases ending with
  | lf =>
    have hheader : ∃ start, fileHeader .lf rule = (start ++ " */".toList) ++ '\n' :: [] := by
      refine ⟨(fileMark ++ ' ' :: rule).flatMap fun c => if c = '\n' then ['\n'] else [c], ?_⟩
      simp [fileHeader, LineEnding.mark]
    obtain ⟨start, hheader⟩ := hheader
    rw [hheader, LineEnding.endsAll_append_feed]
    simp
  | crlf => exact iff_of_true (endsAll_crlf_flatMap_mark _) rfl

/-- A header that is extended has the breaks of the rule. A new one has those of the text, and in a text
without a line break it is followed by a line feed alone. -/
theorem endsAll_crlf_suppressFile_iff (hends : LineEnding.crlf.EndsAll content) :
    LineEnding.crlf.EndsAll (suppressFile rule content) ↔
      if fileMark <+: content then LineEnding.crlf.EndsAll rule else '\n' ∈ content := by
  have hfree : '\n' ∉ fileMark := by decide
  have hmark : fileMark.getLast? ≠ some '\r' := by decide
  unfold suppressFile
  cases hafter : after? fileMark content with
  | some rest =>
    have hcontent := after?_eq_some_iff.1 hafter
    rw [hcontent, LineEnding.endsAll_append_of_not_mem hfree hmark] at hends
    rw [if_pos ⟨rest, hcontent.symm⟩]
    have hedited : fileMark ++ ' ' :: rule ++ ',' :: rest =
        fileMark ++ ([' '] ++ (rule ++ ([','] ++ rest))) := by simp
    dsimp only
    rw [hedited, LineEnding.endsAll_append_of_not_mem hfree hmark,
      LineEnding.endsAll_append_of_not_mem (by decide) (by decide),
      LineEnding.endsAll_append (by simp),
      LineEnding.endsAll_append_of_not_mem (by decide) (by decide)]
    exact and_iff_left hends
  | none =>
    have hnew : ¬ fileMark <+: content := by
      rintro ⟨rest, hcontent⟩
      rw [after?_eq_some_iff.2 hcontent.symm] at hafter
      cases hafter
    have hhead := LineEnding.head?_ne_of_endsAll_crlf hends
    rw [if_neg hnew]
    dsimp only
    rw [LineEnding.endsAll_append (fun _ => hhead), endsAll_crlf_fileHeader_iff, and_iff_left hends]
    exact LineEnding.ofText_eq_crlf_iff hends

/-- New code in the place of old code brings a line feed without a carriage return about exactly if it
stands before a line feed and does not end with a carriage return itself. -/
theorem endsAll_crlf_replaced_iff (hends : LineEnding.crlf.EndsAll (before ++ old ++ rest))
    (hnew : LineEnding.crlf.EndsAll new) (hne : new ≠ []) :
    LineEnding.crlf.EndsAll (before ++ new ++ rest) ↔
      (rest.head? = some '\n' → new.getLast? = some '\r') := by
  have hhead : (new ++ rest).head? ≠ some '\n' := by
    rw [List.head?_append_of_ne_nil _ hne]
    exact LineEnding.head?_ne_of_endsAll_crlf hnew
  have hbefore : LineEnding.crlf.EndsAll before := by
    intro b a hb
    apply hends b (a ++ old ++ rest)
    simp [hb]
  rw [List.append_assoc, LineEnding.endsAll_append (fun _ => hhead), and_iff_right hbefore]
  by_cases hrest : rest.head? = some '\n'
  · obtain ⟨below, rfl⟩ := List.head?_eq_some_iff.1 hrest
    rw [LineEnding.endsAll_append_feed] at hends
    rw [LineEnding.endsAll_append_feed, and_iff_right hnew, and_iff_left hends.2.2]
    simp
  · rw [LineEnding.endsAll_append (fun _ => hrest)] at hends ⊢
    simp [hnew, hends.2, hrest]

end Edit

namespace Replacement

variable {fix : Replacement} {content : String}

/-- If a line feed comes after the old code of a fix, where that stands first in a text, the new code
ends with a carriage return. -/
def KeepsReturn (fix : Replacement) (content : String) : Prop :=
  ∀ before rest, FirstAt fix.old.toList content.toList before rest →
    rest.head? = some '\n' → fix.new.toList.getLast? = some '\r'

theorem keepsReturn_iff {before rest : List Char}
    (first : FirstAt fix.old.toList content.toList before rest) :
    fix.KeepsReturn content ↔ (rest.head? = some '\n' → fix.new.toList.getLast? = some '\r') := by
  constructor
  · intro keeps
    exact keeps before rest first
  · intro hrest before' rest' first'
    rw [(first'.unique first).2]
    exact hrest

/-- The old code of a fix ends with a carriage return unless its last line is that of the text. -/
theorem Captures.keepsReturn_iff (captures : fix.Captures content) (hold : fix.old.toList ≠ [])
    (hends : LineEnding.crlf.EndsAll content.toList) (paired : Paired content.toList) :
    fix.KeepsReturn content ↔
      fix.endLine = (lines content).length ∨ fix.new.toList.getLast? = some '\r' := by
  have hcontent := captures.content_eq
  obtain ⟨before, rest, hcut⟩ := exists_cut? fix.old.toList (fix.textAbove content)
    (textBelow ((fix.linesBelow content).map String.toList))
  rw [← hcontent] at hcut
  have first := firstAt_of_cut? hcut
  have hfirst : rest.head? = some '\n' ↔ fix.old.toList.getLast? = some '\r' := by
    rw [first.split] at hends paired
    exact head?_eq_feed_iff hends paired hold
  have hcaptured : (textBelow ((fix.linesBelow content).map String.toList)).head? = some '\n' ↔
      fix.old.toList.getLast? = some '\r' := by
    rw [hcontent] at hends paired
    exact head?_eq_feed_iff hends paired hold
  have hbelow : fix.linesBelow content ≠ [] ↔ fix.endLine ≠ (lines content).length := by
    have hend := captures.end_le
    have hstart := captures.start_pos
    have hle := captures.start_le
    rw [linesBelow, ne_eq, List.drop_eq_nil_iff]
    omega
  rw [head?_textBelow, ne_eq, List.map_eq_nil_iff, ← ne_eq, hbelow] at hcaptured
  rw [Replacement.keepsReturn_iff first, hfirst, ← hcaptured, ← or_iff_not_imp_left]

end Replacement

/-- A file with a text in which a carriage return stands before every line feed. -/
def Files.HoldsCrlf (files : Files) (name : String) : Prop :=
  ∃ content, files.readText name = .ok content ∧ LineEnding.crlf.EndsAll content.toList

theorem Files.holdsCrlf_iff {files : Files} {name : String} {new : List Char}
    (h : files.readText name = .ok (String.ofList new)) :
    files.HoldsCrlf name ↔ LineEnding.crlf.EndsAll new := by
  constructor
  · rintro ⟨content, hread, hends⟩
    rw [h, Except.ok.injEq] at hread
    rwa [← hread, String.toList_ofList] at hends
  · intro hends
    exact ⟨_, h, by rwa [String.toList_ofList]⟩

namespace Patch

variable {file content rule : String} {line : Int} {world world' : World} {fix : Replacement}

theorem suppressLine_holdsCrlf_iff (hread : world.files.readText file = .ok content)
    (hends : LineEnding.crlf.EndsAll content.toList)
    (h : suppressLine file line rule world = .ok true world') :
    world'.files.HoldsCrlf file ↔ LineEnding.crlf.EndsAll rule.toList ∧
      ('\n' ∈ content.toList ∨ rule.toList.getLast? = some '\r') := by
  obtain ⟨content', new, hread', hedit, hnew⟩ := readText_of_commit h
  rw [hread, Except.ok.injEq] at hread'
  rw [← hread'] at hedit
  rw [Files.holdsCrlf_iff hnew]
  exact Edit.endsAll_crlf_suppressLine?_iff hends hedit

theorem suppressFile_holdsCrlf_iff (hread : world.files.readText file = .ok content)
    (hends : LineEnding.crlf.EndsAll content.toList)
    (h : suppressFile file rule world = .ok true world') :
    world'.files.HoldsCrlf file ↔
      if Edit.fileMark <+: content.toList then LineEnding.crlf.EndsAll rule.toList
      else '\n' ∈ content.toList := by
  obtain ⟨content', new, hread', hedit, hnew⟩ := readText_of_commit h
  rw [hread, Except.ok.injEq] at hread'
  rw [← hread', Option.some.injEq] at hedit
  rw [Files.holdsCrlf_iff hnew, ← hedit]
  exact Edit.endsAll_crlf_suppressFile_iff hends

theorem replace_holdsCrlf_iff (hread : world.files.readText fix.file = .ok content)
    (hends : LineEnding.crlf.EndsAll content.toList)
    (hnew : LineEnding.crlf.EndsAll fix.new.toList) (hne : fix.new ≠ "")
    (h : replace fix world = .ok true world') :
    world'.files.HoldsCrlf fix.file ↔ fix.KeepsReturn content := by
  obtain ⟨content', before, rest, hread', first, hedited⟩ := readText_of_replace h
  rw [hread, Except.ok.injEq] at hread'
  rw [← hread'] at first
  rw [first.split] at hends
  rw [Files.holdsCrlf_iff hedited, Replacement.keepsReturn_iff first]
  exact Edit.endsAll_crlf_replaced_iff hends hnew (mt String.toList_eq_nil_iff.1 hne)

/-- Which suppressions and which fixes keep a file in which a carriage return stands before every line
feed. A fix is one that was made from this text, and the breaks in its new code are of that kind. -/
theorem crlf_kept_iff (hread : world.files.readText file = .ok content)
    (hends : LineEnding.crlf.EndsAll content.toList) :
    (∀ line rule world', suppressLine file line rule world = .ok true world' →
      (world'.files.HoldsCrlf file ↔ LineEnding.crlf.EndsAll rule.toList ∧
        ('\n' ∈ content.toList ∨ rule.toList.getLast? = some '\r'))) ∧
    (∀ rule world', suppressFile file rule world = .ok true world' →
      (world'.files.HoldsCrlf file ↔
        if Edit.fileMark <+: content.toList then LineEnding.crlf.EndsAll rule.toList
        else '\n' ∈ content.toList)) ∧
    ∀ channel window rule message location talk fix replied talk' world',
      Remedy.replacementAt channel window rule message location talk =
        .ok (some fix, replied) talk' →
      fix.file = file → talk'.world.files.readText file = .ok content →
      LineEnding.crlf.EndsAll fix.new.toList → replace fix world = .ok true world' →
      (world'.files.HoldsCrlf file ↔ fix.KeepsReturn content) ∧
      (Paired content.toList → (fix.KeepsReturn content ↔
        fix.endLine = (lines content).length ∨ fix.new.toList.getLast? = some '\r')) := by
  refine ⟨?_, ?_, ?_⟩
  · intro line rule world' h
    exact suppressLine_holdsCrlf_iff hread hends h
  · intro rule world' h
    exact suppressFile_holdsCrlf_iff hread hends h
  · rintro channel window rule message location talk fix replied talk' world' proposed rfl hcurrent
      hnew h
    obtain ⟨content', payload, hread', hfix⟩ := Remedy.replacementAt_eq_some proposed
    obtain ⟨hfile, captures⟩ := Remedy.captures_of_fixOf? hfix
    rw [← hfile, hcurrent, Except.ok.injEq] at hread'
    rw [← hread'] at captures
    have hne := (Remedy.proposes_of_fixOf? hfix).nonEmpty
    have hold := (replace_eq_ok_true h).1
    refine ⟨replace_holdsCrlf_iff hread hends hnew hne h, ?_⟩
    exact captures.keepsReturn_iff hold hends

/-- A project with carriage returns, and an oracle that proposes code for the first line. -/
def returnWorld (code : String) : World :=
  let answer := "\x7b\"start_line\":1,\"end_line\":1,\"fixed_code\":\"" ++ code ++ "\"\x7d"
  { holding "var a;\r\nb();\r\n" with
    replies := [⟨.finished 0 (.text answer) (.text ""), []⟩] }

/-- The fix with new code for the first line. -/
def returnFix (code : String) : Replacement :=
  ⟨"/w/a.js", 1, 1, "var a;\r", code, "No explanation provided"⟩

theorem replace_returnFix {code edited : String}
    (hfiles : world.files = (holding "var a;\r\nb();\r\n").files)
    (hedit : Edit.replace? "var a;\r".toList code.toList "var a;\r\nb();\r\n".toList =
      some edited.toList) :
    world.files.readText "/w/a.js" = .ok "var a;\r\nb();\r\n" ∧
    ∃ world', replace (returnFix code) world = .ok true world' ∧
      world'.files.readText "/w/a.js" = .ok edited := by
  have hread : world.files.readText "/w/a.js" = .ok "var a;\r\nb();\r\n" := by
    rw [hfiles]
    exact holding_readText _
  have writable : world.files.Writable "/w/a.js" := by
    rw [hfiles]
    exact holding_writable _
  have encodable : world.files.Encodable (String.ofList edited.toList) := by
    rw [hfiles]
    exact holding_encodable _ _
  obtain ⟨files, hwrite, hdone⟩ := commit_revised_of_some _ hread writable hedit encodable
  have hnew := Files.readText_of_editText hwrite
  rw [String.ofList_toList] at hnew
  exact ⟨hread, _, hdone, hnew⟩

theorem crlf_kept_returned :
    (∃ world', suppressLine "/w/a.js" 2 "no-x" (holding "var a;\r\nb();\r\n") = .ok true world' ∧
      world'.files.HoldsCrlf "/w/a.js") ∧
    (∃ world', suppressFile "/w/a.js" "no-x" (holding "var a;\r\nb();\r\n") = .ok true world' ∧
      world'.files.HoldsCrlf "/w/a.js") ∧
    ∃ talk' world', Remedy.replacementAt agentChannel 10 "no-var" "Unexpected var."
        ⟨"a.js", "/w/a.js", 1, 1, false⟩ ⟨returnWorld "let a;\\r", {}⟩ =
          .ok (some (returnFix "let a;\r"), true) talk' ∧
      replace (returnFix "let a;\r") talk'.world = .ok true world' ∧
      world'.files.HoldsCrlf "/w/a.js" := by
  have hends : LineEnding.crlf.EndsAll "var a;\r\nb();\r\n".toList := by decide +kernel
  obtain ⟨suppressedLine, suppressedFile, _⟩ := crlf_kept_iff (holding_readText _) hends
  have passes : Action.passes (fun answer talk => decide
      (talk.world.files = (holding "var a;\r\nb();\r\n").files ∧
        answer = (some (returnFix "let a;\r"), true)))
      (Remedy.replacementAt agentChannel 10 "no-var" "Unexpected var."
        ⟨"a.js", "/w/a.js", 1, 1, false⟩) ⟨returnWorld "let a;\\r", {}⟩ := by decide +kernel
  obtain ⟨answer, talk', proposed, hcheck⟩ := Action.exists_of_passes passes
  obtain ⟨hfiles, rfl⟩ := of_decide_eq_true hcheck
  have hedit : Edit.replace? "var a;\r".toList "let a;\r".toList "var a;\r\nb();\r\n".toList =
      some "let a;\r\nb();\r\n".toList := by decide
  obtain ⟨hread, world', hdone, _⟩ := replace_returnFix hfiles hedit
  obtain ⟨_, _, fixed⟩ := crlf_kept_iff hread hends
  have keeps : (returnFix "let a;\r").KeepsReturn "var a;\r\nb();\r\n" := by
    intro _ _ _ _
    decide
  refine ⟨⟨_, rfl, ?_⟩, ⟨_, rfl, ?_⟩, talk', world', proposed, hdone, ?_⟩
  · exact (suppressedLine 2 "no-x" _ rfl).2 (by decide +kernel)
  · exact (suppressedFile "no-x" _ rfl).2 (by decide +kernel)
  · exact (fixed _ _ _ _ _ _ _ _ _ _ proposed rfl hread (by decide +kernel) hdone).1.2 keeps

/-- The carriage return of a line is lost with new code that does not bring it back. -/
theorem crlf_lost :
    LineEnding.crlf.EndsAll "var a;\r\nb();\r\n".toList ∧ LineEnding.crlf.EndsAll "let a;".toList ∧
    ∃ talk' world', Remedy.replacementAt agentChannel 10 "no-var" "Unexpected var."
        ⟨"a.js", "/w/a.js", 1, 1, false⟩ ⟨returnWorld "let a;", {}⟩ =
          .ok (some (returnFix "let a;"), true) talk' ∧
      talk'.world.files.readText "/w/a.js" = .ok "var a;\r\nb();\r\n" ∧
      replace (returnFix "let a;") talk'.world = .ok true world' ∧
      world'.files.readText "/w/a.js" = .ok "let a;\nb();\r\n" ∧
      ¬ world'.files.HoldsCrlf "/w/a.js" := by
  refine ⟨by decide +kernel, by decide +kernel, ?_⟩
  have passes : Action.passes (fun answer talk => decide
      (talk.world.files = (holding "var a;\r\nb();\r\n").files ∧
        answer = (some (returnFix "let a;"), true)))
      (Remedy.replacementAt agentChannel 10 "no-var" "Unexpected var."
        ⟨"a.js", "/w/a.js", 1, 1, false⟩) ⟨returnWorld "let a;", {}⟩ := by decide +kernel
  obtain ⟨answer, talk', proposed, hcheck⟩ := Action.exists_of_passes passes
  obtain ⟨hfiles, rfl⟩ := of_decide_eq_true hcheck
  have hedit : Edit.replace? "var a;\r".toList "let a;".toList "var a;\r\nb();\r\n".toList =
      some "let a;\nb();\r\n".toList := by decide
  obtain ⟨hread, world', hdone, hnew⟩ := replace_returnFix hfiles hedit
  refine ⟨talk', world', proposed, hread, hdone, hnew, ?_⟩
  rintro ⟨content, hcontent, hends⟩
  rw [hnew, Except.ok.injEq] at hcontent
  rw [← hcontent] at hends
  exact absurd hends (by decide +kernel)

end Patch

end LintRemedy
