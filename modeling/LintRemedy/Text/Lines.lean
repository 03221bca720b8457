import LintRemedy.Text.Search

/-!
This module contains the line structure of text files: the two line endings, the splitting of a text
into lines under either of them, and the joining of lines.
-/

namespace LintRemedy
namespace Text

inductive LineEnding where
  | lf
  | crlf
deriving DecidableEq, Repr

/-- The lines with a mark between each two of them. -/
def joinWith (mark : List Char) : List (List Char) → List Char
  | [] => []
  | [line] => line
  | line :: next :: lines => line ++ mark ++ joinWith mark (next :: lines)

/-- The lines of a text in which only a line feed ends a line. -/
def splitLines (cs : List Char) : List (List Char) :=
  splitAt '\n' cs

/-- The lines of a text in which a carriage return with a line feed ends a line. A line feed alone
is part of its line. -/
def splitCrlf : List Char → List (List Char)
  | [] => [[]]
  | '\r' :: '\n' :: cs => [] :: splitCrlf cs
  | c :: cs =>
    match splitCrlf cs with
    | [] => [[c]]
    | line :: lines => (c :: line) :: lines

/-- Whether a carriage return stands right before a line feed somewhere in the text. -/
def hasCrlf : List Char → Bool
  | [] => false
  | '\r' :: '\n' :: _ => true
  | _ :: cs => hasCrlf cs

namespace LineEnding

def mark : LineEnding → List Char
  | lf => ['\n']
  | crlf => ['\r', '\n']

/-- The ending of a text: one carriage return before a line feed makes it a `crlf` text. -/
def ofText (cs : List Char) : LineEnding :=
  if hasCrlf cs then crlf else lf

def split : LineEnding → List Char → List (List Char)
  | lf => splitLines
  | crlf => splitCrlf

def join (ending : LineEnding) (lines : List (List Char)) : List Char :=
  joinWith ending.mark lines

end LineEnding

/-- The text with every line ending turned into a line feed. A carriage return alone ends a line. -/
def unifyLines : List Char → List Char
  | [] => []
  | '\r' :: '\n' :: cs => '\n' :: unifyLines cs
  | '\r' :: cs => '\n' :: unifyLines cs
  | c :: cs => c :: unifyLines cs

/-- The lines of a string that only line feeds end. -/
def lines (s : String) : List String :=
  (splitLines s.toList).map String.ofList

/-- The strings with a line feed between each two of them. -/
def unlines (parts : List String) : String :=
  String.intercalate "\n" parts

theorem joinWith_cons {mark line : List Char} {lines : List (List Char)} (h : lines ≠ []) :
    joinWith mark (line :: lines) = line ++ mark ++ joinWith mark lines := by
  cases lines with
  | nil => exact absurd rfl h
  | cons => rfl

theorem joinWith_splitAt (sep : Char) (cs : List Char) :
    joinWith [sep] (splitAt sep cs) = cs := by
  induction cs with
  | nil => rfl
  | cons c cs ih =>
    simp only [splitAt]
    split
    · rename_i h
      rw [joinWith_cons (splitAt_ne_nil sep cs), ih]
      simp [h]
    · split
      · rename_i h
        exact absurd h (splitAt_ne_nil sep cs)
      · rename_i part parts h
        rw [h] at ih
        cases parts with
        | nil => simpa [joinWith] using ih
        | cons p ps => simpa [joinWith] using ih

theorem joinWith_cons_head (mark : List Char) (c : Char) (line : List Char)
    (lines : List (List Char)) :
    joinWith mark ((c :: line) :: lines) = c :: joinWith mark (line :: lines) := by
  cases lines <;> rfl

theorem splitCrlf_ne_nil (cs : List Char) : splitCrlf cs ≠ [] := by
  fun_cases splitCrlf cs <;> simp_all

theorem joinWith_splitCrlf (cs : List Char) : joinWith ['\r', '\n'] (splitCrlf cs) = cs := by
  fun_induction splitCrlf cs with
  | case1 => rfl
  | case2 cs ih => rw [joinWith_cons (splitCrlf_ne_nil cs), ih]; rfl
  | case3 c cs _ h => exact absurd h (splitCrlf_ne_nil cs)
  | case4 c cs _ line lines h ih =>
    rw [joinWith_cons_head]
    rw [h] at ih
    rw [ih]

@[simp]
theorem LineEnding.join_split (ending : LineEnding) (cs : List Char) :
    ending.join (ending.split cs) = cs := by
  cases ending with
  | lf => exact joinWith_splitAt '\n' cs
  | crlf => exact joinWith_splitCrlf cs

end Text
end LintRemedy
