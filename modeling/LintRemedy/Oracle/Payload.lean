import LintRemedy.Json.Decoder
import LintRemedy.Text.Blank
import LintRemedy.Text.Search
import LintRemedy.Text.Word

/-!
This module contains the search for a payload object in the text of a reply: the code fence around
the text is taken off, and then the whole text or the first brace-delimited piece of it that can be
read and has an expected field is the payload.
-/

namespace LintRemedy
namespace Oracle

/-- Whether a value is an object with at least one of the fields. -/
def exposes (fields : List String) (value : Json) : Bool :=
  fields.any value.hasField

/-- The three backticks of a code fence. -/
def fenceMark : List Char :=
  ['\x60', '\x60', '\x60']

/-- A character of the language tag behind an opening fence. -/
def isTagChar (c : Char) : Bool :=
  Text.isWord c || c == '+' || c == '-'

/-- The text without one character at its start. -/
def dropOne (c : Char) : List Char → List Char
  | d :: cs => if d = c then cs else d :: cs
  | [] => []

/-- The text without an opening fence, its language tag and the end of its line. -/
def dropOpeningFence (cs : List Char) : List Char :=
  match Text.after? fenceMark cs with
  | some rest => dropOne '\n' ((rest.dropWhile isTagChar).dropWhile Text.isIndent)
  | none => cs

/-- The text without a closing fence at its end and the line break and indent before it. -/
def dropClosingFence (cs : List Char) : List Char :=
  match Text.after? fenceMark (Text.dropEndWhile Text.isBlank cs).reverse with
  | some before => (dropOne '\n' (before.dropWhile Text.isIndent)).reverse
  | none => cs

/-- The text without blanks and a code fence around it. -/
def stripFence (cs : List Char) : List Char :=
  Text.trim (dropClosingFence (dropOpeningFence (Text.trim cs)))

/-- Where in a JSON text the search for a closing brace stands. -/
inductive BraceScan where
  | outside
  | inString
  | escaped
deriving DecidableEq, Repr

/-- The text up to the brace that closes an object, after its opening brace. Braces in strings do
not count. `depth` counts the objects that are open inside. -/
def closeBrace? (scan : BraceScan) (depth : Nat) : List Char → Option (List Char)
  | [] => none
  | c :: cs =>
    match scan with
    | .escaped => (closeBrace? .inString depth cs).map (c :: ·)
    | .inString =>
      if c = '\\' then (closeBrace? .escaped depth cs).map (c :: ·)
      else if c = '"' then (closeBrace? .outside depth cs).map (c :: ·)
      else (closeBrace? .inString depth cs).map (c :: ·)
    | .outside =>
      if c = '"' then (closeBrace? .inString depth cs).map (c :: ·)
      else if c = '{' then (closeBrace? .outside (depth + 1) cs).map (c :: ·)
      else if c = '}' then
        match depth with
        | 0 => some [c]
        | depth + 1 => (closeBrace? .outside depth cs).map (c :: ·)
      else (closeBrace? .outside depth cs).map (c :: ·)

/-- The brace-delimited pieces of a text, in the order of their opening braces. -/
def balancedObjects : List Char → List (List Char)
  | [] => []
  | c :: cs =>
    if c = '{' then
      match closeBrace? .outside 0 cs with
      | some body => (c :: body) :: balancedObjects cs
      | none => balancedObjects cs
    else balancedObjects cs

/-- The value of a text if it can be read and has an expected field. -/
def payloadOf? (fields : List String) (cs : List Char) : Except Json.TooDeep (Option Json) :=
  match Json.decode cs with
  | .ok value => .ok (if exposes fields value then some value else none)
  | .error (.tooDeep place) => .error place
  | .error (.malformed ..) | .error (.tooManyDigits _) => .ok none

def firstPayload? (fields : List String) : List (List Char) → Except Json.TooDeep (Option Json)
  | [] => .ok none
  | cs :: rest => do
    match ← payloadOf? fields cs with
    | some payload => return some payload
    | none => firstPayload? fields rest

/-- The payload in the text of a reply: the whole text without its fence, or else the first
brace-delimited piece that is one. A text that goes too deep ends the search. -/
def findPayload? (fields : List String) (cs : List Char) : Except Json.TooDeep (Option Json) :=
  let cleaned := stripFence cs
  if cleaned.isEmpty then .ok none
  else firstPayload? fields (cleaned :: balancedObjects cleaned)

end Oracle
end LintRemedy
