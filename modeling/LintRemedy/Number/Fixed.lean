import LintRemedy.Number.Binary64

/-!
This module contains the decimal text of binary numbers with a fixed count of places.
-/

namespace LintRemedy
namespace Binary64

/-- Digits with a point before them. Without digits there is none unless it is to be kept. -/
def afterPoint (keepPoint : Bool) (digits : List Char) : List Char :=
  if digits.isEmpty ∧ ¬ keepPoint then [] else '.' :: digits

/-- The size of a number with this many places, a tie going to the even last digit. Without places
the point is left out unless it is to be kept. -/
def positional (places : Nat) (keepPoint : Bool) : Binary64 → List Char
  | nan => "nan".toList
  | infinite _ => "inf".toList
  | finite _ mantissa exponent =>
    let (num, den) := fraction mantissa exponent
    let digits := Nat.toDigits 10 (roundHalfEven (num * Nat.pow 10 places) den)
    let digits := List.replicate (places + 1 - digits.length) '0' ++ digits
    let whole := digits.take (digits.length - places)
    let after := digits.drop (digits.length - places)
    whole ++ afterPoint keepPoint after

/-- The number with this many places and its sign. -/
def fixed (places : Nat) (x : Binary64) : String :=
  String.ofList ((if x.isNegative then ['-'] else []) ++ x.positional places false)

end Binary64
end LintRemedy
