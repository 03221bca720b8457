import LintRemedy.Number.Fixed
import LintRemedy.Number.Shortest

/-!
This module contains the decimal text of binary numbers with an exponent, and the general text that
has an exponent only where the number is very large or very small.
-/

namespace LintRemedy
namespace Binary64

/-- The first digits of a positive fraction, rounded, with the power of ten of the first one. -/
def leadingDigits (count num den : Nat) : List Char × Int :=
  let place := magnitude num den - count
  let (n, d) :=
    if place < 0 then (num * Nat.pow 10 place.natAbs, den)
    else (num, den * Nat.pow 10 place.natAbs)
  let coefficient := roundHalfEven n d
  let digits := Nat.toDigits 10 coefficient
  (digits.take count, place + digits.length - 1)

/-- The first digits of the size of a number, with the power of ten of the first one. A zero has
zeros only. -/
def significant (count : Nat) (mantissa : Nat) (exponent : Int) : List Char × Int :=
  if mantissa = 0 then (List.replicate count '0', 0)
  else
    let (num, den) := fraction mantissa exponent
    leadingDigits count num den

/-- Digits with a point after the first one and an exponent of at least two digits. -/
def withExponent (keepPoint : Bool) (digits : List Char) (power : Int) : List Char :=
  let powerDigits := Nat.toDigits 10 power.natAbs
  digits.take 1 ++ afterPoint keepPoint (digits.drop 1)
    ++ 'e' :: (if power < 0 then '-' else '+')
    :: (List.replicate (2 - powerDigits.length) '0' ++ powerDigits)

/-- The size of a number with this many places and an exponent. Without places the point is left out
unless it is to be kept. -/
def scientific (places : Nat) (keepPoint : Bool) : Binary64 → List Char
  | nan => "nan".toList
  | infinite _ => "inf".toList
  | finite _ mantissa exponent =>
    let (digits, power) := significant (places + 1) mantissa exponent
    withExponent keepPoint digits power

/-- More digits than any number has from its first one to its last one that is not zero, and more
than the power of ten of any number. -/
def mostDigits : Nat := 1100

/-- The size of a number with at most this many digits: with places where its power of ten is at
least `-4` and below the count of digits, else with an exponent. Zeros at the end and a point that
nothing follows are kept on demand. -/
def general (count : Nat) (keepEnd : Bool) : Binary64 → List Char
  | nan => "nan".toList
  | infinite _ => "inf".toList
  | finite _ mantissa exponent =>
    let count := if keepEnd then max count 1 else min (max count 1) mostDigits
    let (digits, power) := significant count mantissa exponent
    let trim := fun (digits : List Char) =>
      if keepEnd then digits else (digits.reverse.dropWhile (· = '0')).reverse
    if -4 ≤ power ∧ power < count then
      let digits := List.replicate (-power).toNat '0' ++ digits
      let whole := (max power 0).toNat + 1
      digits.take whole ++ afterPoint keepEnd (trim (digits.drop whole))
    else
      withExponent keepEnd (digits.take 1 ++ trim (digits.drop 1)) power

end Binary64
end LintRemedy
