/-!
This module contains the blank characters and the trimming of text.
-/

namespace LintRemedy
namespace Text

/-- A blank character: white space of any script, or one of the separators U+001C to U+001F. -/
def isBlank (c : Char) : Bool :=
  let n := c.toNat
  (9 ≤ n && n ≤ 13) || (28 ≤ n && n ≤ 32) || n == 0x85 || n == 0xA0 || n == 0x1680
    || (0x2000 ≤ n && n ≤ 0x200A) || n == 0x2028 || n == 0x2029 || n == 0x202F || n == 0x205F
    || n == 0x3000

/-- A space or a tab, the blanks that indent a line of code. -/
def isIndent (c : Char) : Bool :=
  c == ' ' || c == '\t'

/-- The text without the characters of a class at its end. -/
def dropEndWhile (p : Char → Bool) (cs : List Char) : List Char :=
  (cs.reverse.dropWhile p).reverse

/-- The text without the characters of a class at both ends. -/
def trimWhile (p : Char → Bool) (cs : List Char) : List Char :=
  dropEndWhile p (cs.dropWhile p)

/-- The text without blanks at both ends. -/
def trim (cs : List Char) : List Char :=
  trimWhile isBlank cs

/-- The string without blanks at both ends. -/
def trimmed (s : String) : String :=
  String.ofList (trim s.toList)

@[simp]
theorem trim_nil : trim [] = [] := rfl

end Text
end LintRemedy
