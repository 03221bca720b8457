import Mathlib.Algebra.Order.Group.Abs
import Mathlib.Algebra.Order.Group.Int
import LintRemedy.Proofs.Remedy.Contract

/-!
This module contains what an oracle is shown of a file: one row for each line that is near enough to the
reported one, with its number in front. What a fix captures that goes from one of these rows to another
is the text of the rows from the first to the last of them.
-/

namespace LintRemedy
namespace Remedy

open LintRemedy.Action

/-- A line with its number, counted from one. -/
structure Row where
  number : Nat
  text : String
deriving DecidableEq, Repr

def Row.shown (row : Row) : String :=
  toString row.number ++ "\t" ++ row.text

/-- The row that a line is read as: a number up to the first tab, and the text after it. -/
def Row.read? (line : String) : Option Row :=
  let cs := line.toList
  if '\t' ∈ cs then
    some ⟨Nat.ofDigitChars 10 (cs.takeWhile (· ≠ '\t')) 0,
      String.ofList (cs.dropWhile (· ≠ '\t')).tail⟩
  else none

/-- The rows that are read off code that is shown. -/
def rowsOf (code : String) : List Row :=
  (Text.lines code).filterMap Row.read?

def numbered (content : String) : List Row :=
  (Text.lines content).zipIdx.map fun (text, i) => ⟨i + 1, text⟩

def rowsNear (content : String) (line window : Int) : List Row :=
  (numbered content).filter fun row => |(row.number : Int) - line| ≤ window

def rowsFrom (first last : Nat) (rows : List Row) : List Row :=
  rows.filter fun row => first ≤ row.number ∧ row.number ≤ last

section Positions

variable {α : Type}

theorem filter_zipIdx (start stop k : Nat) (xs : List α) :
    ((xs.zipIdx k).filter fun p => start ≤ p.2 ∧ p.2 < stop) =
      ((xs.zipIdx k).take (stop - k)).drop (start - k) := by
  induction xs generalizing k with
  | nil => simp
  | cons x xs ih =>
    rw [List.zipIdx_cons]
    by_cases hstop : k < stop
    · have htake : stop - k = stop - (k + 1) + 1 := by omega
      by_cases hstart : start ≤ k
      · have hdrop : start - k = 0 := by omega
        have hdrop' : start - (k + 1) = 0 := by omega
        rw [List.filter_cons_of_pos (by simp [hstart, hstop]), ih, htake, hdrop, hdrop',
          List.take_succ_cons, List.drop_zero, List.drop_zero]
      · have hdrop : start - k = start - (k + 1) + 1 := by omega
        rw [List.filter_cons_of_neg (by simp [hstart]), ih, htake, hdrop, List.take_succ_cons,
          List.drop_succ_cons]
    · have htake : stop - k = 0 := by omega
      have htake' : stop - (k + 1) = 0 := by omega
      rw [List.filter_cons_of_neg (by simp [hstop]), ih, htake, htake', List.take_zero,
        List.take_zero, List.drop_nil, List.drop_nil]

end Positions

section Rows

variable {content : String} {line window : Int} {row : Row}

theorem mem_numbered_iff : row ∈ numbered content ↔
    1 ≤ row.number ∧ (Text.lines content)[row.number - 1]? = some row.text := by
  unfold numbered
  rw [List.mem_map]
  constructor
  · rintro ⟨⟨text, i⟩, hmem, rfl⟩
    exact ⟨Nat.le_add_left 1 i, List.mem_zipIdx_iff_getElem?.1 hmem⟩
  · rintro ⟨hone, hget⟩
    refine ⟨(row.text, row.number - 1), List.mem_zipIdx_iff_getElem?.2 hget, ?_⟩
    dsimp only
    rw [Nat.sub_add_cancel hone]

theorem mem_rowsNear_iff : row ∈ rowsNear content line window ↔
    1 ≤ row.number ∧ (Text.lines content)[row.number - 1]? = some row.text ∧
      |(row.number : Int) - line| ≤ window := by
  unfold rowsNear
  rw [List.mem_filter, mem_numbered_iff, decide_eq_true_eq, and_assoc]

theorem number_numbered (content : String) :
    (numbered content).map (·.number) = List.range' 1 (Text.lines content).length := by
  have hsnd := congrArg (List.map (1 + ·)) (List.zipIdx_map_snd 0 (Text.lines content))
  rw [List.map_map, List.map_add_range'] at hsnd
  unfold numbered
  rw [List.map_map, ← hsnd]
  exact List.map_congr_left fun p _ => Nat.add_comm p.2 1

theorem number_le_of_mem {content : String} {row : Row} (h : row ∈ numbered content) :
    row.number ≤ (Text.lines content).length := by
  obtain ⟨hone, hget⟩ := mem_numbered_iff.1 h
  have hlt := (List.getElem?_eq_some_iff.1 hget).1
  omega

/-- The rows between two positions are those of the lines between them. -/
theorem filter_numbered (content : String) (start stop : Nat) :
    (numbered content).filter (fun row => start < row.number ∧ row.number ≤ stop) =
      (((Text.lines content).zipIdx.take stop).drop start).map fun (text, i) => ⟨i + 1, text⟩ := by
  have hfilter := filter_zipIdx start stop 0 (Text.lines content)
  rw [Nat.sub_zero, Nat.sub_zero] at hfilter
  unfold numbered
  rw [List.filter_map, ← hfilter]
  refine congrArg _ (List.filter_congr fun p _ => decide_eq_decide.2 ?_)
  exact Nat.lt_succ_iff.and Nat.succ_le_iff

/-- The positions that are run through are those of lines. -/
theorem rowsNear_eq (content : String) (line window : Int) : rowsNear content line window =
    (numbered content).filter fun row => (max 0 (line - window - 1)).toNat < row.number ∧
      row.number ≤ (min ((Text.lines content).length : Int) (line + window)).toNat := by
  unfold rowsNear
  apply List.filter_congr
  intro row hrow
  have hone := (mem_numbered_iff.1 hrow).1
  have hle := number_le_of_mem hrow
  rw [decide_eq_decide, abs_le]
  omega

theorem context_eq (content : String) (line window : Int) :
    context (Text.lines content) line window =
      Text.unlines ((rowsNear content line window).map Row.shown) := by
  rw [rowsNear_eq, filter_numbered, List.map_map]
  rfl

theorem pairwise_rowsNear (content : String) (line window : Int) :
    (rowsNear content line window).Pairwise (·.number < ·.number) := by
  have hall : (numbered content).Pairwise (·.number < ·.number) := by
    rw [← List.pairwise_map (f := Row.number) (R := (· < ·)), number_numbered]
    exact List.pairwise_lt_range'
  exact hall.filter _

theorem Row.shown_toList (row : Row) :
    row.shown.toList = Nat.toDigits 10 row.number ++ '\t' :: row.text.toList := by
  unfold Row.shown
  rw [Nat.toString_eq_repr, String.toList_append, String.toList_append, Nat.toList_repr,
    List.append_assoc]
  rfl

theorem isDigit_of_mem_toDigits {n : Nat} {c : Char} (h : c ∈ Nat.toDigits 10 n) : c.isDigit :=
  Nat.isDigit_of_mem_toDigits (by decide) (by decide) h

theorem Row.read?_shown (row : Row) : Row.read? row.shown = some row := by
  have htab : ∀ c ∈ Nat.toDigits 10 row.number, decide (c ≠ '\t') := by
    intro c hc
    rw [decide_eq_true_eq]
    rintro rfl
    exact absurd (isDigit_of_mem_toDigits hc) (by decide)
  unfold Row.read?
  rw [Row.shown_toList]
  dsimp only
  rw [if_pos (List.mem_append_right _ List.mem_cons_self), List.takeWhile_append_of_pos htab,
    List.dropWhile_append_of_pos htab, List.takeWhile_cons_of_neg (by decide), List.append_nil,
    List.dropWhile_cons_of_neg (by decide), List.tail_cons, String.ofList_toList,
    Nat.ofDigitChars_ten_toDigits]

theorem Row.not_mem_shown {row : Row} (h : '\n' ∉ row.text.toList) : '\n' ∉ row.shown.toList := by
  rw [Row.shown_toList, List.mem_append, List.mem_cons, not_or, not_or]
  refine ⟨fun hfeed => ?_, by decide, h⟩
  exact absurd (isDigit_of_mem_toDigits hfeed) (by decide)

theorem lines_of_not_mem {s : String} (h : '\n' ∉ s.toList) : Text.lines s = [s] := by
  unfold Text.lines Text.splitLines
  rw [Text.splitAt_of_not_mem h, List.map_singleton, String.ofList_toList]

/-- Rows without line feeds are read off as they are. -/
theorem rowsOf_unlines {rows : List Row} (h : ∀ row ∈ rows, '\n' ∉ row.text.toList) :
    rowsOf (Text.unlines (rows.map Row.shown)) = rows := by
  cases rows with
  | nil => rfl
  | cons row rows =>
    have hshown : ∀ row ∈ rows, '\n' ∉ row.shown.toList := fun row hrow =>
      Row.not_mem_shown (h row (List.mem_cons_of_mem _ hrow))
    have hlines : Text.lines (Text.unlines ((row :: rows).map Row.shown)) =
        [] ++ Text.lines row.shown ++ rows.map Row.shown := by
      apply Text.lines_of_toList (List.forall_mem_nil _) (List.forall_mem_map.2 hshown)
      rw [Text.unlines_toList, List.map_cons, List.map_cons, Text.joinWith_cons_below]
      rfl
    rw [lines_of_not_mem (Row.not_mem_shown (h row List.mem_cons_self)), List.nil_append,
      List.singleton_append, ← List.map_cons] at hlines
    unfold rowsOf
    rw [hlines, List.filterMap_map]
    exact (List.filterMap_congr fun row _ => Row.read?_shown row).trans List.filterMap_some

/-- What is shown can be read off as it is. -/
theorem rowsOf_context (content : String) (line window : Int) :
    rowsOf (context (Text.lines content) line window) = rowsNear content line window := by
  rw [context_eq]
  apply rowsOf_unlines
  intro row hrow
  exact Text.not_mem_of_mem_lines (List.mem_of_getElem? (mem_rowsNear_iff.1 hrow).2.1)

end Rows

section Capture

variable {content file : String} {line window : Int} {first last : Row} {payload : Json}

/-- All rows between two that are shown are shown, too. -/
theorem rowsFrom_rowsNear (hfirst : first ∈ rowsNear content line window)
    (hlast : last ∈ rowsNear content line window) :
    (rowsFrom first.number last.number (rowsNear content line window)).map (·.text) =
      ((Text.lines content).take last.number).drop (first.number - 1) := by
  obtain ⟨hone, _, habove⟩ := mem_rowsNear_iff.1 hfirst
  obtain ⟨_, _, hbelow⟩ := mem_rowsNear_iff.1 hlast
  have hrows : rowsFrom first.number last.number (rowsNear content line window) =
      (numbered content).filter fun row =>
        first.number - 1 < row.number ∧ row.number ≤ last.number := by
    unfold rowsFrom rowsNear
    rw [List.filter_filter]
    apply List.filter_congr
    intro row _
    rw [abs_le] at habove hbelow
    rw [← Bool.decide_and, decide_eq_decide, abs_le]
    omega
  have htexts := congrArg (fun texts => (texts.take last.number).drop (first.number - 1))
    (List.zipIdx_map_fst 0 (Text.lines content))
  rw [hrows, filter_numbered, List.map_map, ← htexts]
  dsimp only
  rw [← List.map_take, ← List.map_drop]
  rfl

/-- The text of the rows from one to another that are shown. -/
def textFrom (content : String) (line window : Int) (first last : Row) : String :=
  Text.unlines ((rowsFrom first.number last.number
    (rowsOf (context (Text.lines content) line window))).map (·.text))

/-- New code is proposed for the rows from one to another. -/
structure ProposesFor (payload : Json) (first last : Row) (new : String) : Prop where
  startLine : payload.field "start_line" = .int first.number
  endLine : payload.field "end_line" = .int last.number
  fixed : payload.field "fixed_code" = .str new
  nonEmpty : new ≠ ""

def fixFor (file content : String) (line window : Int) (first last : Row) (payload : Json)
    (new : String) : Replacement where
  file := file
  startLine := first.number
  endLine := last.number
  old := textFrom content line window first last
  new := new
  explanation := (payload.field "explanation").nonEmptyStr?.getD "No explanation provided"

theorem fixOf?_of_proposesFor {new : String}
    (hfirst : first ∈ rowsNear content line window) (hlast : last ∈ rowsNear content line window)
    (hle : first.number ≤ last.number) (proposes : ProposesFor payload first last new) :
    fixOf? file (Text.lines content) payload =
      some (fixFor file content line window first last payload new) := by
  have hone := (mem_rowsNear_iff.1 hfirst).1
  have hcount := number_le_of_mem (List.mem_filter.1 hlast).1
  have hstart : ((first.number : Int) - 1).toNat = first.number - 1 := by omega
  refine fixOf?_of_proposes rfl ⟨?_, ?_, ?_, ?_⟩ ⟨?_, ?_, ?_, ?_, rfl⟩
  · exact Int.ofNat_le.2 hone
  · exact Int.ofNat_le.2 hle
  · exact Int.ofNat_le.2 hcount
  · unfold fixFor textFrom Replacement.linesWithin
    rw [rowsOf_context, rowsFrom_rowsNear hfirst hlast]
    dsimp only
    rw [hstart, Int.toNat_natCast]
  · exact proposes.startLine
  · exact proposes.endLine
  · exact proposes.fixed
  · exact proposes.nonEmpty

theorem payloadIn?_of_proposesFor {reply : Reply} {new : String}
    (replied : reply.outcome = .ok payload) (proposes : ProposesFor payload first last new) :
    payloadIn? reply = some payload := by
  refine payloadIn?_eq_some_iff.2 ⟨replied, ?_⟩
  have hfixed := proposes.fixed
  cases payload with
  | obj fields =>
    cases fields with
    | nil => cases hfixed
    | cons => rfl
  | null | bool | int | float | str | arr => cases hfixed

/-- An oracle is asked about a finding in a file, and the file is the same when it has replied. -/
structure Asked (channel : Oracle.Channel) (window : Int) (rule message : String)
    (location : Location) (content : String) (talk : Talk) (reply : Reply) (talk' : Talk) :
    Prop where
  read : talk.world.files.readText location.fileFull = .ok content
  replied : converse (channel.askReplacement rule location.fileFull location.line message
    (context (Text.lines content) location.line window)) talk = .ok reply talk'
  unchanged : talk'.world.files.readText location.fileFull = .ok content

theorem replacementAt_of_asked {channel : Oracle.Channel} {rule message : String}
    {location : Location} {talk talk' : Talk} {reply : Reply}
    (asked : Asked channel window rule message location content talk reply talk')
    (hpayload : payloadIn? reply = some payload) :
    replacementAt channel window rule message location talk =
      .ok (fixOf? location.fileFull (Text.lines content) payload, true) talk' := by
  have named : (payloadIn? reply).isSome → ∀ cause,
      talk'.world.files.readText location.fileFull ≠ .error (.badName cause) := by
    rw [asked.unchanged]
    nofun
  have hvisit : replacementBy (.ofChannel channel) window rule message location talk = _ :=
    replacementBy_of_converse asked.read asked.replied named
  rw [asked.unchanged, Visit.fix?_of_some hpayload, hpayload] at hvisit
  exact hvisit

/-- What is shown of a text around a line. -/
structure Displays (content : String) (line window : Int) (rows : List Row) : Prop where
  increasing : rows.Pairwise (·.number < ·.number)
  number_iff : ∀ n : Nat, (∃ row ∈ rows, row.number = n) ↔
    1 ≤ n ∧ n ≤ (Text.lines content).length ∧ |(n : Int) - line| ≤ window
  text_eq : ∀ row ∈ rows, (Text.lines content)[row.number - 1]? = some row.text
  /-- Each position that is run through is that of a line. -/
  positions : rows.map (·.number - 1) = List.range' (max 0 (line - window - 1)).toNat
    ((min ((Text.lines content).length : Int) (line + window)).toNat
      - (max 0 (line - window - 1)).toNat)

theorem displays_context (content : String) (line window : Int) :
    Displays content line window (rowsOf (context (Text.lines content) line window)) := by
  rw [rowsOf_context]
  refine ⟨pairwise_rowsNear content line window, ?_, ?_, ?_⟩
  · intro n
    constructor
    · rintro ⟨row, hrow, rfl⟩
      obtain ⟨hone, _, hnear⟩ := mem_rowsNear_iff.1 hrow
      exact ⟨hone, number_le_of_mem (List.mem_filter.1 hrow).1, hnear⟩
    · rintro ⟨hone, hle, hnear⟩
      have hlt : n - 1 < (Text.lines content).length := by omega
      exact ⟨⟨n, (Text.lines content)[n - 1]⟩,
        mem_rowsNear_iff.2 ⟨hone, List.getElem?_eq_getElem hlt, hnear⟩, rfl⟩
  · exact fun row hrow => (mem_rowsNear_iff.1 hrow).2.1
  · have hpositions := List.zipIdx_map_snd 0 (Text.lines content)
    rw [rowsNear_eq, filter_numbered, List.map_map]
    generalize hstop : (min ((Text.lines content).length : Int) (line + window)).toNat = stop
    generalize (max 0 (line - window - 1)).toNat = start
    have hle : (Text.lines content).length ≥ stop := by omega
    calc (((Text.lines content).zipIdx.take stop).drop start).map (·.2)
      _ = ((List.range' 0 (Text.lines content).length).take stop).drop start := by
        rw [List.map_drop, List.map_take, hpositions]
      _ = List.range' start (stop - start) := by
        rw [List.take_range'_of_length_ge hle, List.drop_range', Nat.mul_one, Nat.zero_add]

/-- What is shown is what gets captured: a fix for rows that are shown is accepted if the file has not
changed, and its old code is the text of these rows. -/
theorem shown_captured (window : Int) (location : Location) (content : String) :
    Displays content location.line window
      (rowsOf (context (Text.lines content) location.line window)) ∧
    ∀ first ∈ rowsOf (context (Text.lines content) location.line window),
    ∀ last ∈ rowsOf (context (Text.lines content) location.line window),
      first.number ≤ last.number →
    ∀ channel rule message talk reply talk',
      Asked channel window rule message location content talk reply talk' →
    ∀ payload new, reply.outcome = .ok payload → ProposesFor payload first last new →
      replacementAt channel window rule message location talk =
        .ok (some (fixFor location.fileFull content location.line window first last payload new),
          true) talk' := by
  refine ⟨displays_context content location.line window, ?_⟩
  intro first hfirst last hlast hle channel rule message talk reply talk' asked payload new replied
    proposes
  rw [rowsOf_context] at hfirst hlast
  rw [replacementAt_of_asked asked (payloadIn?_of_proposesFor replied proposes),
    fixOf?_of_proposesFor hfirst hlast hle proposes]

/-- What the agent proposes for the second line. -/
def secondRepair : Json :=
  .obj [("start_line", .int 2), ("end_line", .int 2), ("fixed_code", .str "a === b;")]

/-- The row in the middle of three is replaced. -/
theorem shown_captured_twice : ∃ talk',
    rowsOf (context (Text.lines "a == b;\na == b;\n") 2 1) =
      [⟨1, "a == b;"⟩, ⟨2, "a == b;"⟩, ⟨3, ""⟩] ∧
    replacementAt agentChannel 1 "eqeqeq" "Expected ===." ⟨"a.js", "/w/a.js", 2, 1, false⟩
      ⟨twiceWorld, {}⟩ =
        .ok (some ⟨"/w/a.js", 2, 2, "a == b;", "a === b;", "No explanation provided"⟩, true) talk' := by
  have hrows : rowsOf (context (Text.lines "a == b;\na == b;\n") 2 1) =
      [⟨1, "a == b;"⟩, ⟨2, "a == b;"⟩, ⟨3, ""⟩] := by decide +kernel
  have passes : Action.passes (fun reply talk => decide (talk.world.files = twiceWorld.files ∧
      payloadIn? reply = some secondRepair))
      (converse (agentChannel.askReplacement "eqeqeq" "/w/a.js" 2 "Expected ===."
        (context (Text.lines "a == b;\na == b;\n") 2 1))) ⟨twiceWorld, {}⟩ := by decide +kernel
  obtain ⟨reply, talk', replied, hcheck⟩ := Action.exists_of_passes passes
  obtain ⟨hfiles, hpayload⟩ := of_decide_eq_true hcheck
  have asked : Asked agentChannel 1 "eqeqeq" "Expected ===." ⟨"a.js", "/w/a.js", 2, 1, false⟩
      "a == b;\na == b;\n" ⟨twiceWorld, {}⟩ reply talk' :=
    ⟨rfl, replied, by rw [hfiles]; rfl⟩
  have hmem : (⟨2, "a == b;"⟩ : Row) ∈ rowsOf (context (Text.lines "a == b;\na == b;\n") 2 1) := by
    rw [hrows]
    decide
  have captured := (shown_captured 1 ⟨"a.js", "/w/a.js", 2, 1, false⟩ "a == b;\na == b;\n").2
    _ hmem _ hmem le_rfl agentChannel "eqeqeq" "Expected ===." _ reply talk' asked secondRepair
    "a === b;" (payloadIn?_eq_some_iff.1 hpayload).1 ⟨rfl, rfl, rfl, by decide⟩
  refine ⟨talk', hrows, captured.trans ?_⟩
  unfold fixFor textFrom
  rw [hrows]
  rfl

end Capture

end Remedy
end LintRemedy
