import LintRemedy.Json.Basic
import LintRemedy.Number.Shortest
import LintRemedy.Text.Quoted

/-!
This module contains the writing of JSON text in ASCII, on one line or indented.
-/

namespace LintRemedy
namespace Json

def unitEscape (unit : Nat) : List Char :=
  '\\' :: 'u' :: Text.hexDigits 4 unit

/-- A character between the quotes of a JSON string. -/
def encodeChar (c : Char) : List Char :=
  if c = '"' then ['\\', '"']
  else if c = '\\' then ['\\', '\\']
  else if c = '\n' then ['\\', 'n']
  else if c = '\r' then ['\\', 'r']
  else if c = '\t' then ['\\', 't']
  else if c = '\x0c' then ['\\', 'f']
  else if c = '\x08' then ['\\', 'b']
  else if 0x20 ≤ c.toNat ∧ c.toNat < 0x7F then [c]
  else
    let code := Text.codePoint c
    if code < 0x10000 then unitEscape code
    else
      let offset := code - 0x10000
      unitEscape (0xD800 + offset / 0x400) ++ unitEscape (0xDC00 + offset % 0x400)

def encodeString (s : String) : String :=
  String.ofList ('"' :: s.toList.flatMap encodeChar ++ ['"'])

/-- A binary number, with names for the values that have no digits. -/
def encodeFloat : Binary64 → String
  | .nan => "NaN"
  | .infinite negative => if negative then "-Infinity" else "Infinity"
  | x => x.text

inductive Layout where
  /-- On one line. -/
  | line
  /-- Every item on a line of its own, two spaces deeper than what holds it. -/
  | indented
deriving DecidableEq, Repr

/-- The break before an item at a depth. -/
def Layout.lead (depth : Nat) : Layout → String
  | line => ""
  | indented => "\n" ++ String.ofList (List.replicate (2 * depth) ' ')

/-- The mark between two items at a depth. -/
def Layout.separator (depth : Nat) : Layout → String
  | line => ", "
  | indented => "," ++ indented.lead depth

/-- The text of a value that stands at a depth. -/
def encodeAt (layout : Layout) (depth : Nat) : Json → String
  | null => "null"
  | bool value => if value then "true" else "false"
  | int value => toString value
  | float value => encodeFloat value
  | str value => encodeString value
  | arr [] => "[]"
  | arr (item :: items) =>
    "[" ++ layout.lead (depth + 1) ++ encodeAt layout (depth + 1) item
      ++ moreItems layout (depth + 1) items ++ layout.lead depth ++ "]"
  | obj [] => "\x7b\x7d"
  | obj ((name, value) :: fields) =>
    "\x7b" ++ layout.lead (depth + 1) ++ encodeString name ++ ": "
      ++ encodeAt layout (depth + 1) value ++ moreFields layout (depth + 1) fields
      ++ layout.lead depth ++ "\x7d"
where
  /-- The items after the first. -/
  moreItems (layout : Layout) (depth : Nat) : List Json → String
    | [] => ""
    | item :: items =>
      layout.separator depth ++ encodeAt layout depth item ++ moreItems layout depth items
  /-- The fields after the first. -/
  moreFields (layout : Layout) (depth : Nat) : List (String × Json) → String
    | [] => ""
    | (name, value) :: fields =>
      layout.separator depth ++ encodeString name ++ ": " ++ encodeAt layout depth value
        ++ moreFields layout depth fields

def encode (v : Json) : String :=
  encodeAt .line 0 v

/-- The text of a value over several lines. -/
def encodeIndented (v : Json) : String :=
  encodeAt .indented 0 v

end Json
end LintRemedy
