import LintRemedy.HostName.Punycode
import LintRemedy.HostName.Repertoire
import LintRemedy.HostName.Traits
import LintRemedy.Text.Ascii
import LintRemedy.Text.Case
import LintRemedy.Text.Composition
import LintRemedy.Text.Search

/-!
This module contains the labels of host names, the parts between the dots: the rules for them, and
their form in ASCII. A label is a list of code points.
-/

namespace LintRemedy
namespace HostName

inductive LabelFault where
  | malformed
  /-- It has a character that no label may have. -/
  | badCharacter
  /-- It has a character that may not stand where it does. -/
  | outOfContext
  /-- Its directions of writing do not go together. -/
  | mixedDirections
deriving DecidableEq, Repr

def LabelFault.message : LabelFault → String
  | malformed => "Malformed label"
  | badCharacter => "Codepoint not allowed"
  | outOfContext => "Codepoint not allowed in its context"
  | mixedDirections => "Invalid directions in label"

def maxLabelLength : Nat := 63

/-- The most characters of a host name with a dot at its end. -/
def maxLength : Nat := 254

def encodedMark : List Char := "xn--".toList

/-- The combining class of the marks that take the vowel from a consonant. -/
def vowelKillerClass : Nat := 9

/-- Whether the hyphens of a label are neither at its ends nor where they mark an encoded one. -/
def hyphensFit (label : List Nat) : Bool :=
  (label.drop 2).take 2 ≠ [0x2D, 0x2D] && label.head? ≠ some 0x2D && label.getLast? ≠ some 0x2D

/-- Whether a joiner fits between what stands before it, last first, and what stands after it. Both
follow a vowel killer, and the one that keeps letters apart stands between letters that join. -/
def joinerFits (code : Nat) (before after : List Nat) : Bool :=
  before.head?.any (Text.combiningClass · = vowelKillerClass)
    || (code = 0x200C && (before.dropWhile isNonspacing).head?.any joinsAfter
      && (after.dropWhile isNonspacing).head?.any joinsBefore)

/-- Whether a contextual character fits between what stands before it, last first, and what stands
after it. -/
def contextFits (code : Nat) (before after : List Nat) : Bool :=
  let others := before ++ after
  if code = 0xB7 then before.head? = some 0x6C && after.head? = some 0x6C
  else if code = 0x375 then after.head?.any (isWithin greekRanges)
  else if code = 0x5F3 ∨ code = 0x5F4 then before.head?.any (isWithin hebrewRanges)
  else if code = 0x30FB then others.any (isWithin japaneseRanges)
  else if code < 0x6F0 then !others.any fun other => 0x6F0 ≤ other && other ≤ 0x6F9
  else !others.any fun other => 0x660 ≤ other && other ≤ 0x669

/-- The fault of the first character that may not stand where it does. `before` is what stands
before the others, last first. Nothing can be said about a joiner after a character whose traits are
not known. -/
def characterFault? (before : List Nat) : List Nat → Option LabelFault
  | [] => none
  | code :: after =>
    if isPlain code || isYoung code then characterFault? (code :: before) after
    else if isJoiner code then
      if before.head?.any isYoung then some .malformed
      else if joinerFits code before after then characterFault? (code :: before) after
      else some .outOfContext
    else if isContextual code then
      if contextFits code before after then characterFault? (code :: before) after
      else some .outOfContext
    else some .badCharacter

/-- Whether directions go together. With something that runs from right to left, the label starts
with a letter that does so, and ends with such a letter or with a digit. -/
def directionsFit (directions : List Direction) : Bool :=
  let runsBack := fun direction => direction = .rightToLeft || direction = .arabicLetter
  let isFigure := fun direction => direction = .digit || direction = .arabicDigit
  let last? := (directions.reverse.dropWhile (· = .nonspacing)).head?
  if directions.any fun direction => runsBack direction || direction = .arabicDigit then
    directions.head?.any runsBack
      && !directions.contains .leftToRight
      && !(directions.contains .digit && directions.contains .arabicDigit)
      && last?.any fun last => runsBack last || isFigure last
  else true

def labelFault? (label : List Nat) : Option LabelFault :=
  if label.isEmpty ∨ maxLength < label.length then some .malformed
  else if ¬ Text.isComposed label ∨ ¬ hyphensFit label ∨ label.head?.any isMark then
    some .malformed
  else
    match characterFault? [] label with
    | some fault => some fault
    | none =>
      match label.mapM direction? with
      | some directions => if directionsFit directions then none else some .mixedDirections
      | none => some .mixedDirections

/-- The fault of a label in ASCII, or of the one that is encoded in it. -/
def asciiLabelFault? (label : List Char) : Option LabelFault :=
  match Text.after? encodedMark label with
  | none => labelFault? (label.map Char.toNat)
  | some spelled =>
    if spelled = [] ∨ spelled.getLast? = some '-' then some .malformed
    else (Punycode.decode? spelled).elim (some .malformed) labelFault?

/-- The form of a label in ASCII, if it has one that is not too long. -/
def asciiLabel? (label : List Char) : Option (List Char) :=
  let codes := label.map Char.toNat
  let (fault, ascii) :=
    if label.all Text.isAscii then (asciiLabelFault? label, label)
    else (labelFault? codes, encodedMark ++ Punycode.encode codes)
  if fault.isNone ∧ ascii.length ≤ maxLabelLength then some ascii else none

end HostName
end LintRemedy
