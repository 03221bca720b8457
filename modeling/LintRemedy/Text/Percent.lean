import LintRemedy.Text.Quoted
import LintRemedy.Text.Utf8

/-!
This module contains the percent encoding of text in addresses, in paths and in the values of a
query, and its decoding.
-/

namespace LintRemedy
namespace Text

def percentByte (byte : UInt8) : List Char :=
  '%' :: (hexDigits 2 byte.toNat).map Char.toUpper

/-- The codes of the bytes of a character. -/
def percentChar (c : Char) : List Char :=
  c.toString.toUTF8.toList.flatMap percentByte

/-- A character that stands for itself in the value of a query. -/
def isUnreserved (c : Char) : Bool :=
  c.isAlphanum || c == '_' || c == '.' || c == '-' || c == '~'

/-- The text as the value of a field in a query, with a plus for a space. -/
def encodeField (s : String) : String :=
  String.ofList (s.toList.flatMap fun c =>
    if isUnreserved c then [c] else if c = ' ' then ['+'] else percentChar c)

/-- A visible ASCII character that stands for itself in a fragment. -/
def isFragmentChar (c : Char) : Bool :=
  0x20 < c.toNat && c.toNat < 0x7F && !"\"<>\x60".toList.contains c

/-- A visible ASCII character that stands for itself in a query. -/
def isQueryChar (c : Char) : Bool :=
  0x20 < c.toNat && c.toNat < 0x7F && !"\"#<>".toList.contains c

/-- A visible ASCII character that stands for itself in a path. -/
def isPathChar (c : Char) : Bool :=
  isQueryChar c && !"?\x60\x7b\x7d".toList.contains c

/-- An ASCII character that stands for itself in the name of a host. -/
def isHostChar (c : Char) : Bool :=
  isUnreserved c || "!$&'()*+,;=\"%|\\\x60\x7b\x7d".toList.contains c

/-- The text with codes for all characters that do not stand for themselves. -/
def encodePercent (isSafe : Char → Bool) (s : String) : String :=
  String.ofList (s.toList.flatMap fun c => if isSafe c then [c] else percentChar c)

/-- The bytes of a text in which codes stand for bytes. -/
def percentBytes : List Char → List UInt8
  | '%' :: high :: low :: rest =>
    match hexBytes? [high, low] with
    | some bytes => bytes ++ percentBytes rest
    | none => '%'.toString.toUTF8.toList ++ percentBytes (high :: low :: rest)
  | c :: rest => c.toString.toUTF8.toList ++ percentBytes rest
  | [] => []

def decodePercent (s : String) : String :=
  String.ofList (decodeUtf8 (percentBytes s.toList))

end Text
end LintRemedy
