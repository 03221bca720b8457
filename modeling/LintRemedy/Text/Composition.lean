import LintRemedy.Text.Combining
import LintRemedy.Text.Composite

/-!
This module contains the composed form of text: one character stands for two wherever there is such
a one, and the marks after a character stand in the order of their classes. Two texts that mean the
same have the same composed form.
-/

namespace LintRemedy
namespace Text

/-- How many levels of parts a character has at most. -/
def maxPartLevels : Nat := 3

/-- The parts of a code point, taken apart down to a number of levels. -/
def decomposed (levels code : Nat) : List Nat :=
  match levels with
  | 0 => [code]
  | levels + 1 =>
    match parts? code with
    | some (first, second) => decomposed levels first ++ [second]
    | none => [code]

/-- Puts a code point before others, but after the marks at their start that come before it. -/
def place (code : Nat) : List Nat → List Nat
  | [] => [code]
  | next :: rest =>
    if combiningClass next ≠ 0 ∧ combiningClass next < combiningClass code then
      next :: place code rest
    else code :: next :: rest

/-- Code points with the marks after each character in the order of their classes. -/
def ordered (codes : List Nat) : List Nat :=
  codes.foldr place []

/-- Whether nothing stands between a character and a code point that keeps them apart. `held` are
the marks between them, last first. -/
def isFree (held : List Nat) (code : Nat) : Bool :=
  held.head?.all fun last => combiningClass last < combiningClass code

/-- The code points in which a character and the ones after it are put together. `held` are the
marks after the character that it has not taken in, last first. -/
def joined (character : Nat) (held : List Nat) : List Nat → List Nat
  | [] => character :: held.reverse
  | code :: rest =>
    match if isFree held code then composite? character code else none with
    | some whole => joined whole held rest
    | none =>
      if combiningClass code = 0 then character :: held.reverse ++ joined code [] rest
      else joined character (code :: held) rest

/-- The composed form of code points of which none is replaced. -/
def composed (codes : List Nat) : List Nat :=
  match ordered (codes.flatMap (decomposed maxPartLevels)) with
  | [] => []
  | code :: rest => joined code [] rest

def isComposed (codes : List Nat) : Bool :=
  !codes.any isReplaced && composed codes = codes

example : composed [0x65, 0x301] = [0xE9] := by decide +kernel

example : composed [0xE2, 0x323] = [0x1EAD] := by decide +kernel

end Text
end LintRemedy
