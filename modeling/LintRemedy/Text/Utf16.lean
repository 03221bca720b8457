import LintRemedy.Text.Encoding

/-!
This module contains the reading of bytes as UTF-16 text. Half of a pair that stands alone is read
as the replacement character.
-/

namespace LintRemedy
namespace Text

/-- Whether a code unit is the first half of a pair. -/
def isHighHalf (unit : Nat) : Bool :=
  0xD800 ≤ unit && unit ≤ 0xDBFF

/-- Whether a code unit is the second half of a pair. -/
def isLowHalf (unit : Nat) : Bool :=
  0xDC00 ≤ unit && unit ≤ 0xDFFF

/-- The code units of bytes that start at a position. -/
def utf16Units (order : ByteOrder) (position : Nat) : List UInt8 → Except BytesFault (List Nat)
  | [] => .ok []
  | [byte] => .error ⟨.utf16 order, byte, position, 1, .truncated⟩
  | a :: b :: rest => (order.value [a, b] :: ·) <$> utf16Units order (position + 2) rest

def charsOfUnits : List Nat → List Char
  | [] => []
  | [unit] => [codeChar unit]
  | high :: low :: rest =>
    if isHighHalf high ∧ isLowHalf low then pairChar high low :: charsOfUnits rest
    else codeChar high :: charsOfUnits (low :: rest)

/-- The characters of bytes that start at a position. -/
def decodeUtf16 (order : ByteOrder) (position : Nat) (bytes : List UInt8) :
    Except BytesFault (List Char) :=
  charsOfUnits <$> utf16Units order position bytes

end Text
end LintRemedy
