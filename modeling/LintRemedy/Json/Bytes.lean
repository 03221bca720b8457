import LintRemedy.Json.Decoder
import LintRemedy.Text.Utf16
import LintRemedy.Text.Utf32
import LintRemedy.Text.Utf8

/-!
This module contains the reading of JSON text that comes as bytes. The encoding is told by a byte
order mark, or else by the zeros among the first bytes, since JSON text starts with ASCII.
-/

namespace LintRemedy
namespace Json

/-- Why bytes cannot be read as JSON text. -/
inductive BytesDecodeFault where
  | notText (fault : Text.BytesFault)
  | notJson (fault : DecodeFault)
deriving DecidableEq, Repr

def BytesDecodeFault.message : BytesDecodeFault → String
  | notText fault => fault.message
  | notJson fault => fault.message

/-- The encoding of bytes that start with a byte order mark, and the bytes after the mark. -/
def markedEncoding? : List UInt8 → Option (Text.Encoding × List UInt8)
  | 0x00 :: 0x00 :: 0xFE :: 0xFF :: rest => some (.utf32 .big, rest)
  | 0xFF :: 0xFE :: 0x00 :: 0x00 :: rest => some (.utf32 .little, rest)
  | 0xFE :: 0xFF :: rest => some (.utf16 .big, rest)
  | 0xFF :: 0xFE :: rest => some (.utf16 .little, rest)
  | 0xEF :: 0xBB :: 0xBF :: rest => some (.utf8, rest)
  | _ => none

/-- The encoding that the zeros among the first bytes tell. -/
def encodingOfZeros : List UInt8 → Text.Encoding
  | a :: b :: c :: d :: _ =>
    if a = 0 then (if b = 0 then .utf32 .big else .utf16 .big)
    else if b = 0 then (if c = 0 ∧ d = 0 then .utf32 .little else .utf16 .little)
    else .utf8
  | [a, b] => if a = 0 then .utf16 .big else if b = 0 then .utf16 .little else .utf8
  | _ => .utf8

/-- The characters of bytes that start at a position. -/
def textIn (encoding : Text.Encoding) (position : Nat) (bytes : List UInt8) :
    Except Text.BytesFault (List Char) :=
  match encoding with
  | .utf16 order => Text.decodeUtf16 order position bytes
  | .utf32 order => Text.decodeUtf32 order position bytes
  | .utf8 => Text.decodeUtf8From position bytes

/-- The characters of bytes without a byte order mark. Positions count the mark, except in UTF-8. -/
def textOfBytes (bytes : List UInt8) : Except Text.BytesFault (List Char) :=
  match markedEncoding? bytes with
  | some (.utf8, rest) => textIn .utf8 0 rest
  | some (encoding, rest) => textIn encoding (bytes.length - rest.length) rest
  | none => textIn (encodingOfZeros bytes) 0 bytes

def decodeBytes (bytes : List UInt8) : Except BytesDecodeFault Json := do
  let cs ← (textOfBytes bytes).mapError .notText
  (decodeMarkless cs).mapError .notJson

end Json
end LintRemedy
