import LintRemedy.Loop.Run
import LintRemedy.Proofs.Patch.LineComment

/-!
This module contains what comes of suppression comments for several lines. Where those of a file are put
in from the last line to the first, none of them moves a line that is still to come, and in the end there
is a comment above each of the lines that were meant.
-/

namespace LintRemedy

open Text

namespace Edit

/-- Lines with a comment above each that has one of the numbers, where `first` is the number of the
first line. -/
def annotate (comment : String → String) (numbers : List Int) (first : Nat) (lines : List String) :
    List String :=
  (lines.zipIdx first).flatMap fun (line, number) =>
    if (number : Int) ∈ numbers then [comment line, line] else [line]

section Annotate

variable {comment : String → String} {numbers numbers' : List Int} {first : Nat}
  {lines above below : List String} {target : String}

theorem annotate_append : annotate comment numbers first (above ++ below) =
    annotate comment numbers first above ++
      annotate comment numbers (first + above.length) below := by
  simp [annotate, List.zipIdx_append]

theorem annotate_cons : annotate comment numbers first (target :: below) =
    (if (first : Int) ∈ numbers then [comment target, target] else [target]) ++
      annotate comment numbers (first + 1) below := by
  simp [annotate, List.zipIdx_cons]

theorem annotate_congr (h : ∀ n : Nat, first ≤ n → n < first + lines.length →
    ((n : Int) ∈ numbers ↔ (n : Int) ∈ numbers')) :
    annotate comment numbers first lines = annotate comment numbers' first lines := by
  induction lines generalizing first with
  | nil => rfl
  | cons line lines ih =>
    rw [List.length_cons] at h
    have hfirst := h first (by omega) (by omega)
    have hrest : annotate comment numbers (first + 1) lines =
        annotate comment numbers' (first + 1) lines := by
      apply ih
      intro n hle hlt
      exact h n (by omega) (by omega)
    rw [annotate_cons, annotate_cons, hrest]
    simp only [hfirst]

theorem annotate_nil : annotate comment [] first lines = lines := by
  induction lines generalizing first with
  | nil => rfl
  | cons line lines ih => simp [annotate_cons, ih]

theorem annotate_of_lt (h : ∀ n ∈ numbers, n < first) :
    annotate comment numbers first lines = lines := by
  have hnil : annotate comment numbers first lines = annotate comment [] first lines := by
    apply annotate_congr
    intro n hle _
    simp only [List.not_mem_nil, iff_false]
    intro hn
    have hlt := h n hn
    omega
  rw [hnil, annotate_nil]

/-- A comment that is put in below all others. -/
theorem annotate_insert (h : ∀ n ∈ numbers, n ≤ above.length) :
    annotate comment numbers 1 (above ++ comment target :: target :: below) =
      annotate comment (((above.length : Int) + 1) :: numbers) 1 (above ++ target :: below) := by
  have habove : annotate comment (((above.length : Int) + 1) :: numbers) 1 above =
      annotate comment numbers 1 above := by
    apply annotate_congr
    intro n _ hlt
    have hne : (n : Int) ≠ above.length + 1 := by omega
    simp [hne]
  have hspan : annotate comment numbers (1 + above.length) (comment target :: target :: below) =
      comment target :: target :: below := by
    apply annotate_of_lt
    intro n hn
    have hle := h n hn
    omega
  have hbelow : annotate comment (((above.length : Int) + 1) :: numbers) (1 + above.length + 1) below =
      below := by
    apply annotate_of_lt
    intro n hn
    cases List.mem_cons.1 hn with
    | inl heq => omega
    | inr hn =>
      have hle := h n hn
      omega
  have htarget : ((1 + above.length : Nat) : Int) ∈ ((above.length : Int) + 1) :: numbers := by
    rw [List.mem_cons]
    omega
  rw [annotate_append, annotate_append, habove, hspan, annotate_cons, hbelow, if_pos htarget]
  rfl

end Annotate

section Uniform

variable {ending : LineEnding} {line : Int} {rule content new cs : List Char}
  {parts : List (List Char)}

theorem endsAll_textAbove_append : ending.EndsAll (textAbove parts ++ cs) ↔
    (∀ part ∈ parts, ending.EndsAll part ∧ (part.getLast? = some '\r' ↔ ending = .crlf)) ∧
      ending.EndsAll cs := by
  induction parts with
  | nil => simp [textAbove]
  | cons part parts ih =>
    have htext : textAbove (part :: parts) ++ cs = part ++ '\n' :: (textAbove parts ++ cs) := by
      simp [textAbove]
    rw [htext, LineEnding.endsAll_append_feed, ih, List.forall_mem_cons, and_assoc, and_assoc]

end Uniform

/-- The lines of a text with a comment above each that has one of the numbers. -/
def commented (content rule : String) (numbers : List Int) : List String :=
  annotate (commentLine content rule) numbers 1 (lines content)

theorem commentLine_of_ofText {content content' : String} (rule : String)
    (h : LineEnding.ofText content'.toList = LineEnding.ofText content.toList) :
    commentLine content' rule = commentLine content rule := by
  funext target
  unfold commentLine
  rw [h]

end Edit

namespace Files

variable {files files' : Files} {name next text content : String}

/-- A file that can be read and written, and whose line breaks are all of one kind. -/
structure Editable (files : Files) (name content : String) : Prop where
  readable : files.readText name = .ok content
  writable : files.Writable name
  encodable : files.Encodable content
  uniform : Uniform content.toList

theorem Writable.of_editText (writable : files.Writable next)
    (h : files.editText name text = .ok files') : files'.Writable next := by
  intro new encodable
  obtain ⟨_, _, rfl⟩ := editText_eq_ok h
  have hnew := exists_editText_iff.1 (writable new encodable)
  exact exists_editText_iff.2 hnew

theorem Editable.edited (editable : files.Editable name content)
    (h : files.editText name text = .ok files') (uniform : Uniform text.toList) :
    files'.Editable name text where
  readable := readText_of_editText h
  writable := editable.writable.of_editText h
  encodable := (encodable_of_editText h text).2 (editText_eq_ok_iff.1 h).1
  uniform := uniform

theorem Editable.of_apart (editable : files.Editable next content)
    (h : files.editText name text = .ok files') (apart : files.resolve? name ≠ files.resolve? next) :
    files'.Editable next content where
  readable := by
    obtain ⟨key, hkey, _⟩ := readText_eq_ok editable.readable
    have hsame : files'.content? key = files.content? key := by
      apply content?_of_editText h
      rwa [hkey] at apart
    have hread := editable.readable
    unfold readText at hread ⊢
    rw [nameFault?_of_editText h, resolve?_of_editText h, hkey, Option.bind_some, hsame]
    rwa [hkey] at hread
  writable := editable.writable.of_editText h
  encodable := (encodable_of_editText h content).2 editable.encodable
  uniform := editable.uniform

end Files

namespace Patch

abbrev Places := List (String × Int)

def Places.linesIn (places : Places) (file : String) : List Int :=
  (places.filter (·.1 = file)).map (·.2)

variable {places : Places} {file rule : String} {n line : Int}

theorem Places.mem_linesIn_iff : n ∈ places.linesIn file ↔ (file, n) ∈ places := by
  simp [linesIn]

theorem Places.linesIn_cons_self : Places.linesIn ((file, line) :: places) file =
    line :: places.linesIn file := by
  simp [linesIn]

theorem Places.linesIn_cons_of_ne {other : String} (h : file ≠ other) :
    Places.linesIn ((file, line) :: places) other = places.linesIn other := by
  simp [linesIn, h]

/-- Files that can be edited, and none of which goes by two of the names. -/
structure AllEditable (files : Files) (names : List String) (contents : String → String) : Prop where
  editable : ∀ name ∈ names, files.Editable name (contents name)
  apart : ∀ name ∈ names, ∀ other ∈ names, name ≠ other →
    files.resolve? name ≠ files.resolve? other

/-- In every file there is a comment above each of the lines at the places, and nothing else has
changed. -/
structure Annotates (files : Files) (names : List String) (contents : String → String)
    (rule : String) (places : Places) (files' : Files) : Prop where
  annotated : ∀ name ∈ names, ∃ new, files'.readText name = .ok new ∧
    lines new = Edit.commented (contents name) rule (places.linesIn name)
  others : ∀ key, (∀ name ∈ names, files.resolve? name ≠ some key) →
    files'.content? key = files.content? key

variable {files files' : Files} {names : List String} {contents : String → String}

theorem AllEditable.edited {new : String} (all : AllEditable files names contents)
    (hfile : file ∈ names) (h : files.editText file new = .ok files')
    (uniform : Uniform new.toList) :
    AllEditable files' names fun name => if name = file then new else contents name where
  editable name hname := by
    split
    · next heq =>
      rw [heq]
      exact (all.editable file hfile).edited h uniform
    · next hne =>
      exact (all.editable name hname).of_apart h (all.apart file hfile name hname (Ne.symm hne))
  apart name hname other hother hne := by
    rw [Files.resolve?_of_editText h, Files.resolve?_of_editText h]
    exact all.apart name hname other hother hne

theorem Annotates.nil (all : AllEditable files names contents) :
    Annotates files names contents rule [] files where
  annotated name hname := by
    refine ⟨_, (all.editable name hname).readable, ?_⟩
    exact Edit.annotate_nil.symm
  others _ _ := rfl

/-- The comments for further lines go above a comment that is there already. -/
theorem Annotates.cons {middle : Files} {new : String}
    (h : files.editText file new = .ok middle) (hfile : file ∈ names)
    (comments : Edit.CommentsAbove line rule (contents file) new)
    (hending : LineEnding.ofText new.toList = LineEnding.ofText (contents file).toList)
    (above : ∀ place ∈ places, place.1 = file → place.2 < line)
    (annotates : Annotates middle names (fun name => if name = file then new else contents name) rule
      places files') :
    Annotates files names contents rule ((file, line) :: places) files' where
  annotated name hname := by
    obtain ⟨final, hread, hlines⟩ := annotates.annotated name hname
    refine ⟨final, hread, ?_⟩
    rw [hlines]
    by_cases heq : name = file
    · obtain ⟨before, target, below, hcontent, hline, _, hnew⟩ := comments
      rw [if_pos heq, heq, Places.linesIn_cons_self]
      unfold Edit.commented
      rw [Edit.commentLine_of_ofText rule hending, hnew, hcontent, ← hline]
      apply Edit.annotate_insert
      intro n hn
      have hlt := above _ (Places.mem_linesIn_iff.1 hn) rfl
      dsimp only at hlt
      omega
    · rw [if_neg heq, Places.linesIn_cons_of_ne (Ne.symm heq)]
  others key hkey := by
    rw [annotates.others key]
    · exact Files.content?_of_editText h (hkey file hfile)
    · intro name hname
      rw [Files.resolve?_of_editText h]
      exact hkey name hname

end Patch

end LintRemedy
