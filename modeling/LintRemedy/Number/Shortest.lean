import LintRemedy.Number.Binary64

/-!
This module contains the shortest decimal text of binary numbers: the fewest digits that read back
as the same number, and of those the ones nearest to it.
-/

namespace LintRemedy
namespace Binary64

/-- The power of ten above a fraction: `10 ^ (p - 1) ≤ num / den < 10 ^ p`. -/
def magnitude (num den : Nat) : Int :=
  if den ≤ num then
    (Nat.toDigits 10 (num / den)).length
  else
    let digits := (Nat.toDigits 10 (den / num)).length
    if num * Nat.pow 10 (digits - 1) = den then 2 - (digits : Int) else 1 - (digits : Int)

/-- The coefficients of the two decimals with the given exponent that enclose a fraction are the
result and its successor. The remainder and the denominator tell how far the lower one is off. -/
def below (num den : Nat) (exponent : Int) : Nat × Nat × Nat :=
  let (n, d) :=
    if exponent < 0 then (num * Nat.pow 10 exponent.natAbs, den)
    else (num, den * Nat.pow 10 exponent.natAbs)
  (n / d, n % d, d)

/-- The coefficient and the exponent of the shortest decimal that reads back as the number. -/
def shortest (mantissa : Nat) (exponent : Int) : Nat × Int :=
  let (num, den) := fraction mantissa exponent
  search num den (magnitude num den) 1 17
where
  /-- Tries the decimals of `count` digits, then those of more. -/
  search (num den : Nat) (top : Int) (count : Nat) : Nat → Nat × Int
    | 0 => ((below num den (top - count)).1, top - count)
    | left + 1 =>
      let place := top - count
      let (low, rest, d) := below num den place
      let target := finite false mantissa exponent
      let lowReads := ofDecimal false low place = target
      let highReads := ofDecimal false (low + 1) place = target
      if lowReads ∧ (¬ highReads ∨ 2 * rest < d ∨ (2 * rest = d ∧ low % 2 = 0)) then (low, place)
      else if highReads then (low + 1, place)
      else search num den top (count + 1) left

def significantDigits (coefficient : Nat) : List Char :=
  ((Nat.toDigits 10 coefficient).reverse.dropWhile (· = '0')).reverse

/-- The digits of a number whose point stands after `point` of them. Positional from `10 ^ -4` to
below `10 ^ 16`, otherwise with an exponent of at least two digits. -/
def layOut (digits : List Char) (point : Int) : List Char :=
  if -4 < point ∧ point ≤ 16 then
    if point ≤ 0 then
      '0' :: '.' :: (List.replicate point.natAbs '0' ++ digits)
    else
      let whole := point.natAbs
      let digits := digits ++ List.replicate (whole - digits.length) '0'
      let after := digits.drop whole
      digits.take whole ++ '.' :: (if after.isEmpty then ['0'] else after)
  else
    let power := point - 1
    let powerDigits := Nat.toDigits 10 power.natAbs
    let lead := digits.take 1 ++ (if digits.length ≤ 1 then [] else '.' :: digits.drop 1)
    lead ++ 'e' :: (if power < 0 then '-' else '+')
      :: (List.replicate (2 - powerDigits.length) '0' ++ powerDigits)

/-- The shortest text that reads back as the number. -/
def text : Binary64 → String
  | nan => "nan"
  | infinite negative => if negative then "-inf" else "inf"
  | finite negative mantissa exponent =>
    let sign := if negative then "-" else ""
    if mantissa = 0 then sign ++ "0.0"
    else
      let (coefficient, place) := shortest mantissa exponent
      let point := (Nat.toDigits 10 coefficient).length + place
      sign ++ String.ofList (layOut (significantDigits coefficient) point)

end Binary64
end LintRemedy
