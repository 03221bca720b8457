import LintRemedy.Text.Ascii

/-!
This module contains the characters of a text for which an encoding has no bytes: those beyond ASCII
in an ASCII text, and halves of pairs in a UTF-8 text.
-/

namespace LintRemedy
namespace Text

/-- An encoding that does not have bytes for every character. -/
inductive Codec where
  | ascii
  | utf8
deriving DecidableEq, Repr

def Codec.name : Codec → String
  | ascii => "ascii"
  | utf8 => "utf-8"

/-- Why an encoding has no bytes for a character. -/
def Codec.reason : Codec → String
  | ascii => "ordinal not in range(128)"
  | utf8 => "surrogates not allowed"

/-- The first run of characters in a text for which an encoding has no bytes. -/
structure EncodeFault where
  codec : Codec
  position : Nat
  first : Char
  /-- The number of such characters that follow the first one. -/
  following : Nat
deriving DecidableEq, Repr

def EncodeFault.message (fault : EncodeFault) : String :=
  let place :=
    if fault.following = 0 then
      "character '" ++ String.ofList (charCode fault.first) ++ "' in position "
        ++ toString fault.position
    else
      "characters in position " ++ toString fault.position ++ "-"
        ++ toString (fault.position + fault.following)
  "'" ++ fault.codec.name ++ "' codec can't encode " ++ place ++ ": " ++ fault.codec.reason

/-- The first run in a text that starts at a position, by the characters that a run starts with and
those that it goes on with. -/
def firstRun? (codec : Codec) (starts goesOn : Char → Bool) (position : Nat) :
    List Char → Option EncodeFault
  | [] => none
  | c :: cs =>
    if starts c then some ⟨codec, position, c, (cs.takeWhile goesOn).length⟩
    else firstRun? codec starts goesOn (position + 1) cs

def asciiFault? (cs : List Char) : Option EncodeFault :=
  firstRun? .ascii (!isAscii ·) (!isAscii ·) 0 cs

/-- What keeps a text from being written in UTF-8. -/
def halfFault? (cs : List Char) : Option EncodeFault :=
  firstRun? .utf8 isHalf isHalf 0 cs

/-- Whether half of a pair stands for a byte of a name that is no UTF-8. -/
def isByteHalf (c : Char) : Bool :=
  isHalf c && (0xDC80 ≤ halfUnit c && halfUnit c ≤ 0xDCFF)

/-- What keeps a text from being a name. The halves that stand for bytes become those bytes. -/
def nameFault? (cs : List Char) : Option EncodeFault :=
  firstRun? .utf8 (fun c => isHalf c && !isByteHalf c) isHalf 0 cs

end Text
end LintRemedy
