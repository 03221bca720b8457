/-!
This module contains the binary floating point numbers of 64 bits as exact values, and the rounding
of fractions and decimals to the nearest of them.
-/

namespace LintRemedy

/-- A binary floating point number. A finite one has the value `mantissa * 2 ^ exponent`, with a
mantissa below `2 ^ 53` and the least exponent from `-1074` on that allows it. -/
inductive Binary64 where
  | nan
  | infinite (negative : Bool)
  | finite (negative : Bool) (mantissa : Nat) (exponent : Int)
deriving DecidableEq, Repr

namespace Binary64

def minExponent : Int := -1074

def maxExponent : Int := 971

/-- The quotient rounded to the nearest whole number, a tie to the even one. -/
def roundHalfEven (num den : Nat) : Nat :=
  let q := num / den
  let r := num % den
  if 2 * r < den then q
  else if den < 2 * r then q + 1
  else q + q % 2

/-- The numerator and denominator of the fraction divided by `2 ^ e`. -/
def scaleDown (num den : Nat) (e : Int) : Nat × Nat :=
  if e < 0 then (num * Nat.pow 2 e.natAbs, den) else (num, den * Nat.pow 2 e.natAbs)

/-- The number of this sign nearest to the fraction, a tie to the even mantissa. -/
def ofFraction (negative : Bool) (num den : Nat) : Binary64 :=
  if num = 0 then
    finite negative 0 minExponent
  else
    let low := max minExponent ((Nat.log2 num : Int) - Nat.log2 den - 53)
    let (n, d) := scaleDown num den low
    let exponent := if n / d < Nat.pow 2 53 then low else low + 1
    let (n, d) := scaleDown num den exponent
    let mantissa := roundHalfEven n d
    let (mantissa, exponent) :=
      if mantissa = Nat.pow 2 53 then (Nat.pow 2 52, exponent + 1) else (mantissa, exponent)
    if maxExponent < exponent then infinite negative else finite negative mantissa exponent

/-- The number of this sign nearest to `coefficient * 10 ^ exponent`. -/
def ofDecimal (negative : Bool) (coefficient : Nat) (exponent : Int) : Binary64 :=
  let magnitude := (Nat.toDigits 10 coefficient).length + exponent
  if coefficient = 0 ∨ magnitude < -326 then finite negative 0 minExponent
  else if 310 < magnitude then infinite negative
  else if exponent < 0 then ofFraction negative coefficient (Nat.pow 10 exponent.natAbs)
  else ofFraction negative (coefficient * Nat.pow 10 exponent.natAbs) 1

def ofInt (n : Int) : Binary64 :=
  ofFraction (n < 0) n.natAbs 1

/-- The size of a finite number as a fraction. -/
def fraction (mantissa : Nat) (exponent : Int) : Nat × Nat :=
  scaleDown mantissa 1 (-exponent)

/-- Whether the number is a zero of either sign. -/
def isZero : Binary64 → Bool
  | finite _ 0 _ => true
  | _ => false

def isNegative : Binary64 → Bool
  | infinite negative => negative
  | finite negative _ _ => negative
  | nan => false

def isAtMostZero : Binary64 → Bool
  | nan => false
  | infinite negative => negative
  | finite negative mantissa _ => negative || mantissa == 0

/-- The whole part of a number, without what follows the point. -/
def truncate? : Binary64 → Option Int
  | finite negative mantissa exponent =>
    let (num, den) := fraction mantissa exponent
    let whole : Int := (num / den : Nat)
    some (if negative then -whole else whole)
  | _ => none

/-- The greatest whole number that is not above a number. -/
def floor? : Binary64 → Option Int
  | finite negative mantissa exponent =>
    let (num, den) := fraction mantissa exponent
    let whole : Int := num
    some ((if negative then -whole else whole).fdiv den)
  | _ => none

/-- The whole number that equals this number. -/
def toInt? : Binary64 → Option Int
  | finite negative mantissa exponent =>
    let (num, den) := fraction mantissa exponent
    if num % den = 0 then
      let whole : Int := (num / den : Nat)
      some (if negative then -whole else whole)
    else none
  | _ => none

end Binary64
end LintRemedy
