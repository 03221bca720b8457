/-!
This module contains the encodings of text as bytes, and what can be wrong with bytes that are read
in one of them.
-/

namespace LintRemedy
namespace Text

inductive ByteOrder where
  | little
  | big
deriving DecidableEq, Repr

def ByteOrder.value (order : ByteOrder) (bytes : List UInt8) : Nat :=
  let bytes := match order with
    | little => bytes.reverse
    | big => bytes
  bytes.foldl (fun n byte => n * 256 + byte.toNat) 0

inductive Encoding where
  | utf8
  | utf16 (order : ByteOrder)
  | utf32 (order : ByteOrder)
deriving DecidableEq, Repr

def Encoding.name : Encoding → String
  | utf8 => "utf-8"
  | utf16 .little => "utf-16-le"
  | utf16 .big => "utf-16-be"
  | utf32 .little => "utf-32-le"
  | utf32 .big => "utf-32-be"

inductive BytesCause where
  | badStart
  | badContinuation
  | cutOff
  | truncated
  | outOfRange
deriving DecidableEq, Repr

def BytesCause.message : BytesCause → String
  | badStart => "invalid start byte"
  | badContinuation => "invalid continuation byte"
  | cutOff => "unexpected end of data"
  | truncated => "truncated data"
  | outOfRange => "code point not in range(0x110000)"

/-- The first invalid part of a byte sequence. -/
structure BytesFault where
  encoding : Encoding
  first : UInt8
  position : Nat
  size : Nat
  cause : BytesCause
deriving DecidableEq, Repr

def BytesFault.message (fault : BytesFault) : String :=
  let place :=
    if fault.size = 1 then
      let digits := Nat.toDigits 16 fault.first.toNat
      "byte 0x" ++ String.ofList (List.replicate (2 - digits.length) '0' ++ digits)
        ++ " in position " ++ toString fault.position
    else
      "bytes in position " ++ toString fault.position ++ "-"
        ++ toString (fault.position + fault.size - 1)
  "'" ++ fault.encoding.name ++ "' codec can't decode " ++ place ++ ": " ++ fault.cause.message

/-- The character that stands for an invalid part. -/
def replacement : Char :=
  Char.ofNat 0xFFFD

/-- The distance from half of a pair of code units to the character of private use that stands for
it, since it is no character itself. -/
def halfShift : Nat := 0x101800

/-- The character of a code point. Half of a pair of code units is kept as what stands for it. -/
def codeChar (code : Nat) : Char :=
  if 0xD800 ≤ code ∧ code ≤ 0xDFFF then Char.ofNat (code + halfShift) else Char.ofNat code

/-- Whether a character stands for half of a pair. -/
def isHalf (c : Char) : Bool :=
  0xD800 + halfShift ≤ c.toNat && c.toNat ≤ 0xDFFF + halfShift

/-- The code unit that a character stands for. -/
def halfUnit (c : Char) : Nat :=
  c.toNat - halfShift

/-- The code point of a character, the unit itself for what stands for half of a pair. -/
def codePoint (c : Char) : Nat :=
  if isHalf c then halfUnit c else c.toNat

/-- The character of a pair of code units. -/
def pairChar (high low : Nat) : Char :=
  Char.ofNat (0x10000 + (high - 0xD800) * 0x400 + (low - 0xDC00))

end Text
end LintRemedy
