import LintRemedy.Json.Basic
import LintRemedy.Number.Numeral
import LintRemedy.Text.Encoding

/-!
This module contains the reading of JSON text. Besides the numbers of the format the three values
`NaN`, `Infinity` and `-Infinity` are read. A text that cannot be read is answered with the cause
and the place of the first fault.
-/

namespace LintRemedy
namespace Json

/-- What is wrong at the place of a fault. -/
inductive DecodeCause where
  | byteOrderMark
  | noValue
  | noName
  | noColon
  | noComma
  | unclosedString
  | controlCharacter
  | badEscape
  | badUnicodeEscape
  | extraData
deriving DecidableEq, Repr

/-- Where a text goes deeper than it may: at the start of a list or of an object. -/
inductive TooDeep where
  | list
  | object
deriving DecidableEq, Repr

/-- Why a text cannot be read: it is malformed at an offset, which is also given as line and column,
it holds a whole number with too many digits, or it goes too deep. -/
inductive DecodeFault where
  | malformed (cause : DecodeCause) (offset line column : Nat)
  | tooManyDigits (count : Nat)
  | tooDeep (place : TooDeep)
deriving DecidableEq, Repr

/-- The most lists and objects that may be open at the same time. -/
def maxDepth : Nat := 985

def DecodeCause.message : DecodeCause → String
  | byteOrderMark => "Unexpected UTF-8 BOM (decode using utf-8-sig)"
  | noValue => "Expecting value"
  | noName => "Expecting property name enclosed in double quotes"
  | noColon => "Expecting ':' delimiter"
  | noComma => "Expecting ',' delimiter"
  | unclosedString => "Unterminated string starting at"
  | controlCharacter => "Invalid control character at"
  | badEscape => "Invalid \\escape"
  | badUnicodeEscape => "Invalid \\uXXXX escape"
  | extraData => "Extra data"

def TooDeep.message : TooDeep → String
  | list => "maximum recursion depth exceeded while decoding a JSON array from a unicode string"
  | object => "maximum recursion depth exceeded while decoding a JSON object from a unicode string"

def DecodeFault.message : DecodeFault → String
  | malformed cause offset line column =>
    cause.message ++ ": line " ++ toString line ++ " column " ++ toString column
      ++ " (char " ++ toString offset ++ ")"
  | tooManyDigits count => (NumeralFault.tooManyDigits count).message
  | tooDeep place => place.message

/-- A fault while reading, placed by the number of characters from it to the end of the text. -/
inductive Stop where
  | malformed (cause : DecodeCause) (remaining : Nat)
  | tooManyDigits (count : Nat)
  | tooDeep (place : TooDeep)
deriving DecidableEq, Repr

/-- The outcome of reading a part at the start of a text, with what is left of the text. -/
abbrev Reading (α : Type) := Except Stop (α × List Char)

/-- The fault of this cause at the start of the rest. -/
def stopAt {α : Type} (cause : DecodeCause) (rest : List Char) : Reading α :=
  .error (.malformed cause rest.length)

/-- A blank between the parts of a JSON text. -/
def isSpace (c : Char) : Bool :=
  c == ' ' || c == '\t' || c == '\n' || c == '\r'

/-- The text from its first character that is no blank. -/
def skipSpace (cs : List Char) : List Char :=
  cs.dropWhile isSpace

def hexValue? (c : Char) : Option Nat :=
  if c.isDigit then some (c.toNat - 48)
  else if 'a' ≤ c ∧ c ≤ 'f' then some (c.toNat - 87)
  else if 'A' ≤ c ∧ c ≤ 'F' then some (c.toNat - 55)
  else none

/-- The number that four hexadecimal digits spell. -/
def hexValue4? (a b c d : Char) : Option Nat := do
  let a ← hexValue? a
  let b ← hexValue? b
  let c ← hexValue? c
  let d ← hexValue? d
  return ((a * 16 + b) * 16 + c) * 16 + d

/-- The character that a letter after a backslash stands for. -/
def escapeValue? : Char → Option Char
  | '"' => some '"'
  | '\\' => some '\\'
  | '/' => some '/'
  | 'b' => some '\x08'
  | 'f' => some '\x0c'
  | 'n' => some '\n'
  | 'r' => some '\r'
  | 't' => some '\t'
  | _ => none

/-- Puts a character before the characters of a reading. -/
def consChar (c : Char) : Reading (List Char) → Reading (List Char)
  | .ok (cs, rest) => .ok (c :: cs, rest)
  | .error stop => .error stop

/-- The characters of a string after its opening quote. `opening` counts the characters from that
quote to the end of the text. -/
def stringBody (opening : Nat) : List Char → Reading (List Char)
  | [] => .error (.malformed .unclosedString opening)
  | '"' :: rest => .ok ([], rest)
  | ['\\'] => .error (.malformed .unclosedString opening)
  | '\\' :: 'u' :: a :: b :: c :: d :: '\\' :: 'u' :: e :: f :: g :: h :: next :: rest =>
    match hexValue4? a b c d with
    | none => stopAt .badUnicodeEscape
        ('u' :: a :: b :: c :: d :: '\\' :: 'u' :: e :: f :: g :: h :: next :: rest)
    | some high =>
      if 0xD800 ≤ high ∧ high ≤ 0xDBFF then
        match hexValue4? e f g h with
        | none => stopAt .badUnicodeEscape ('u' :: e :: f :: g :: h :: next :: rest)
        | some low =>
          if 0xDC00 ≤ low ∧ low ≤ 0xDFFF then
            consChar (Text.pairChar high low) (stringBody opening (next :: rest))
          else
            consChar (Text.codeChar high)
              (stringBody opening ('\\' :: 'u' :: e :: f :: g :: h :: next :: rest))
      else
        consChar (Text.codeChar high)
          (stringBody opening ('\\' :: 'u' :: e :: f :: g :: h :: next :: rest))
  | '\\' :: 'u' :: a :: b :: c :: d :: next :: rest =>
    match hexValue4? a b c d with
    | none => stopAt .badUnicodeEscape ('u' :: a :: b :: c :: d :: next :: rest)
    | some unit => consChar (Text.codeChar unit) (stringBody opening (next :: rest))
  | '\\' :: 'u' :: rest => stopAt .badUnicodeEscape ('u' :: rest)
  | '\\' :: c :: rest =>
    match escapeValue? c with
    | none => stopAt .badEscape ('\\' :: c :: rest)
    | some value => consChar value (stringBody opening rest)
  | c :: rest =>
    if c.toNat < 0x20 then stopAt .controlCharacter (c :: rest)
    else consChar c (stringBody opening rest)

/-- The string whose opening quote has just been read. -/
def string (rest : List Char) : Reading String :=
  match stringBody (rest.length + 1) rest with
  | .ok (cs, rest) => .ok (String.ofList cs, rest)
  | .error stop => .error stop

/-- The digits at the start of a text, and the rest. -/
def spanDigits (cs : List Char) : List Char × List Char :=
  (cs.takeWhile Char.isDigit, cs.dropWhile Char.isDigit)

/-- The digits before the point: a zero alone, or digits that do not start with one. -/
def wholeDigits? : List Char → Option (List Char × List Char)
  | [] => none
  | '0' :: rest => some (['0'], rest)
  | c :: rest => if c.isDigit then some (spanDigits (c :: rest)) else none

/-- The digits after a point, and the rest. A point without a digit belongs to the rest. -/
def placeDigits : List Char → List Char × List Char
  | '.' :: d :: rest => if d.isDigit then spanDigits (d :: rest) else ([], '.' :: d :: rest)
  | cs => ([], cs)

/-- The sign and the digits of an exponent, and the rest. -/
def exponentDigits : List Char → Option (Bool × List Char) × List Char
  | [] => (none, [])
  | e :: rest =>
    if e = 'e' ∨ e = 'E' then
      let (negative, digits, after) := match rest with
        | '-' :: rest => (true, spanDigits rest)
        | '+' :: rest => (false, spanDigits rest)
        | rest => (false, spanDigits rest)
      if digits.isEmpty then (none, e :: rest) else (some (negative, digits), after)
    else (none, e :: rest)

def number (cs : List Char) : Reading Json :=
  let (negative, unsigned) := match cs with
    | '-' :: rest => (true, rest)
    | rest => (false, rest)
  match wholeDigits? unsigned with
  | none => stopAt .noValue cs
  | some (whole, rest) =>
    let (places, rest) := placeDigits rest
    match exponentDigits rest with
    | (some (down, digits), rest) =>
      let power : Int := if down then -(Numeral.value digits : Int) else Numeral.value digits
      .ok (float (.ofDecimal negative (Numeral.value (whole ++ places)) (power - places.length)),
          rest)
    | (none, rest) =>
      if places.isEmpty then
        if Numeral.maxDigits < whole.length then .error (.tooManyDigits whole.length)
        else
          let n : Int := Numeral.value whole
          .ok (int (if negative then -n else n), rest)
      else
        .ok (float (.ofDecimal negative (Numeral.value (whole ++ places)) (-places.length)), rest)

mutual

/-- The value at the start of a text. `depth` counts the lists and objects that may still be opened.
-/
def value : (budget depth : Nat) → List Char → Reading Json
  | 0, _, cs => stopAt .noValue cs
  | budget + 1, depth, cs =>
    match cs with
    | '"' :: rest =>
      match string rest with
      | .ok (s, rest) => .ok (str s, rest)
      | .error stop => .error stop
    | '{' :: rest =>
      match depth with
      | 0 => .error (.tooDeep .object)
      | depth + 1 =>
        match skipSpace rest with
        | '}' :: rest => .ok (obj [], rest)
        | rest =>
          match members budget depth rest with
          | .ok (fields, rest) => .ok (obj (distinctFields fields), rest)
          | .error stop => .error stop
    | '[' :: rest =>
      match depth with
      | 0 => .error (.tooDeep .list)
      | depth + 1 =>
        match skipSpace rest with
        | ']' :: rest => .ok (arr [], rest)
        | rest =>
          match elements budget depth rest with
          | .ok (items, rest) => .ok (arr items, rest)
          | .error stop => .error stop
    | 'n' :: 'u' :: 'l' :: 'l' :: rest => .ok (null, rest)
    | 't' :: 'r' :: 'u' :: 'e' :: rest => .ok (bool true, rest)
    | 'f' :: 'a' :: 'l' :: 's' :: 'e' :: rest => .ok (bool false, rest)
    | 'N' :: 'a' :: 'N' :: rest => .ok (float .nan, rest)
    | 'I' :: 'n' :: 'f' :: 'i' :: 'n' :: 'i' :: 't' :: 'y' :: rest =>
      .ok (float (.infinite false), rest)
    | '-' :: 'I' :: 'n' :: 'f' :: 'i' :: 'n' :: 'i' :: 't' :: 'y' :: rest =>
      .ok (float (.infinite true), rest)
    | cs => number cs

/-- The fields of an object up to its closing brace. -/
def members : (budget depth : Nat) → List Char → Reading (List (String × Json))
  | 0, _, cs => stopAt .noName cs
  | budget + 1, depth, cs =>
    match cs with
    | '"' :: rest =>
      match string rest with
      | .error stop => .error stop
      | .ok (name, rest) =>
        match skipSpace rest with
        | ':' :: rest =>
          match value budget depth (skipSpace rest) with
          | .error stop => .error stop
          | .ok (v, rest) =>
            match skipSpace rest with
            | '}' :: rest => .ok ([(name, v)], rest)
            | ',' :: rest =>
              match members budget depth (skipSpace rest) with
              | .ok (fields, rest) => .ok ((name, v) :: fields, rest)
              | .error stop => .error stop
            | rest => stopAt .noComma rest
        | rest => stopAt .noColon rest
    | cs => stopAt .noName cs

/-- The items of an array up to its closing bracket. -/
def elements : (budget depth : Nat) → List Char → Reading (List Json)
  | 0, _, cs => stopAt .noValue cs
  | budget + 1, depth, cs =>
    match value budget depth cs with
    | .error stop => .error stop
    | .ok (v, rest) =>
      match skipSpace rest with
      | ']' :: rest => .ok ([v], rest)
      | ',' :: rest =>
        match elements budget depth (skipSpace rest) with
        | .ok (items, rest) => .ok (v :: items, rest)
        | .error stop => .error stop
      | rest => stopAt .noComma rest

end

/-- The value at the start of a text. Every second step of the reading takes a character, so the
budget is never used up. -/
def decodeStart (cs : List Char) : Reading Json :=
  value (2 * cs.length + 2) maxDepth cs

def DecodeFault.ofStop (cs : List Char) : Stop → DecodeFault
  | .tooManyDigits count => .tooManyDigits count
  | .tooDeep place => .tooDeep place
  | .malformed cause remaining =>
    let offset := cs.length - remaining
    let before := cs.take offset
    .malformed cause offset (before.count '\n' + 1)
      ((before.reverse.takeWhile (· ≠ '\n')).length + 1)

/-- The value of a whole text, with blanks allowed around it. A byte order mark has no meaning. -/
def decodeMarkless (cs : List Char) : Except DecodeFault Json :=
  match decodeStart (skipSpace cs) with
  | .error stop => .error (.ofStop cs stop)
  | .ok (v, rest) =>
    match skipSpace rest with
    | [] => .ok v
    | rest => .error (.ofStop cs (.malformed .extraData rest.length))

/-- The value of a whole text, with blanks allowed around it. A byte order mark is refused. -/
def decode (cs : List Char) : Except DecodeFault Json :=
  match cs with
  | '\ufeff' :: _ => .error (.ofStop cs (.malformed .byteOrderMark cs.length))
  | _ => decodeMarkless cs

def decodeString (s : String) : Except DecodeFault Json :=
  decode s.toList

end Json
end LintRemedy
