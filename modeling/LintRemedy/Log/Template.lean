import LintRemedy.Json.Display
import LintRemedy.Number.Numeral
import LintRemedy.Number.Scientific
import LintRemedy.Text.Ascii

/-!
This module contains message templates: texts in which directives that start with a percent sign
stand for values.
-/

namespace LintRemedy

/-- Why a template cannot be filled with values. -/
inductive TemplateFault where
  | tooFewValues
  | unusedValues
  | wrongKind
  | missingKey (name : String)
  | incomplete
  | incompleteKey
  | unknownDirective (letter : Char) (position : Nat)
  | undefinedNumber
  | tooWide
  | tooPrecise
  | outOfRange
  | noRoom
  /-- A value has no display form, or no decimal digits. -/
  | unrendered (fault : Json.RenderFault)
deriving DecidableEq, Repr

/-- The wording of a fault that is about the template or about a number, empty for the others. -/
def TemplateFault.message : TemplateFault → String
  | incomplete => "incomplete format"
  | incompleteKey => "incomplete format key"
  | unknownDirective letter position =>
    let shown := if 31 ≤ letter.toNat ∧ letter.toNat ≤ 126 then letter else '?'
    let code := String.ofList (Nat.toDigits 16 letter.toNat)
    "unsupported format character '" ++ shown.toString ++ "' (0x" ++ code ++ ") at index "
      ++ toString position
  | undefinedNumber => "cannot convert float NaN to integer"
  | tooWide => "width too big"
  | tooPrecise => "precision too big"
  | unrendered fault => fault.message
  | _ => ""

namespace Template

structure Layout where
  left : Bool := false
  plus : Bool := false
  blank : Bool := false
  alternate : Bool := false
  zeros : Bool := false
  width : Nat := 0
  places : Option Nat := none
deriving DecidableEq, Repr

/-- Fills a text up to the width. -/
def Layout.pad (layout : Layout) (cs : List Char) : List Char :=
  let fill := List.replicate (layout.width - cs.length) ' '
  if layout.left then cs ++ fill else fill ++ cs

/-- There is no room for a text as wide as this or wider. -/
def widthWithoutRoom : Nat := 0x800000000

/-- No whole number has this many digits or more. -/
def tooManyPlaces : Nat := 0x7FFFFFFD

/-- A number made of its sign, a mark of its base and its digits, filled up to the width. Zeros go
between the mark and the digits. -/
def Layout.number (layout : Layout) (negative : Bool) (mark digits : List Char) : List Char :=
  let sign :=
    if negative then ['-'] else if layout.plus then ['+'] else if layout.blank then [' '] else []
  let head := sign ++ mark
  if layout.zeros ∧ ¬ layout.left then
    head ++ List.replicate (layout.width - head.length - digits.length) '0' ++ digits
  else layout.pad (head ++ digits)

def Layout.whole (layout : Layout) (base : Nat) (mark : String) (n : Int) :
    Except TemplateFault (List Char) :=
  let places := layout.places.getD 0
  if tooManyPlaces ≤ places then .error .outOfRange
  else if base = 10 ∧ Json.hasTooManyDigits n then .error (.unrendered .tooManyDigits)
  else
    let digits := Nat.toDigits base n.natAbs
    let digits := List.replicate (places - digits.length) '0' ++ digits
    .ok (layout.number (n < 0) (if layout.alternate then mark.toList else []) digits)

/-- A binary number in the form of a letter. The alternate form always has a point. -/
def Layout.binary (layout : Layout) (letter : Char) (x : Binary64) : List Char :=
  let places := layout.places.getD 6
  let digits := match letter.toLower with
    | 'e' => x.scientific places layout.alternate
    | 'g' => x.general places layout.alternate
    | _ => x.positional places layout.alternate
  layout.number x.isNegative []
    (if letter.isUpper then digits.map Char.toUpper else digits)

/-- The whole number of a value, without the places of a binary number. -/
def wholeOf : Json → Except TemplateFault Int
  | .int n => .ok n
  | .bool b => .ok (if b then 1 else 0)
  | .float .nan => .error .undefinedNumber
  | .float x => x.truncate?.elim (.error .outOfRange) .ok
  | _ => .error .wrongKind

/-- The whole number of a value that has to be one. -/
def exactWholeOf : Json → Except TemplateFault Int
  | .int n => .ok n
  | .bool b => .ok (if b then 1 else 0)
  | _ => .error .wrongKind

def binaryOf : Json → Except TemplateFault Binary64
  | .float x => .ok x
  | v => do
    match Binary64.ofInt (← exactWholeOf v) with
    | .finite negative mantissa exponent => return .finite negative mantissa exponent
    | _ => throw .outOfRange

def characterOf : Json → Except TemplateFault Char
  | .str s =>
    match s.toList with
    | [c] => .ok c
    | _ => .error .wrongKind
  | v => do
    let n ← exactWholeOf v
    if 0 ≤ n ∧ n < 0x110000 then return Char.ofNat n.toNat else throw .outOfRange

def rendered (text : Except Json.RenderFault String) : Except TemplateFault String :=
  text.mapError .unrendered

/-- A value in the form of a letter. The position is that of the letter. -/
def Layout.value (layout : Layout) (letter : Char) (position : Nat) (v : Json) :
    Except TemplateFault (List Char) := do
  let text := fun (cs : List Char) =>
    layout.pad (match layout.places with
      | some count => cs.take count
      | none => cs)
  match letter with
  | 's' => return text (← rendered v.display).toList
  | 'r' => return text (← rendered v.inspect).toList
  | 'a' => return text (Text.toAscii (← rendered v.inspect).toList)
  | 'd' | 'i' | 'u' => layout.whole 10 "" (← wholeOf v)
  | 'x' => layout.whole 16 "0x" (← exactWholeOf v)
  | 'X' => return (← layout.whole 16 "0x" (← exactWholeOf v)).map Char.toUpper
  | 'o' => layout.whole 8 "0o" (← exactWholeOf v)
  | 'e' | 'E' | 'f' | 'F' | 'g' | 'G' => return layout.binary letter (← binaryOf v)
  | 'c' => return layout.pad [← characterOf v]
  | _ => throw (.unknownDirective letter position)

/-- The values that are still to be used. A single object is looked into by name. -/
structure Values where
  remaining : List Json
  named : Option (List (String × Json)) := none

def Values.next (values : Values) : Except TemplateFault (Json × Values) :=
  match values.remaining with
  | [] => .error .tooFewValues
  | v :: remaining => .ok (v, { values with remaining })

def takeFlags (layout : Layout) : List Char → Layout × List Char
  | '-' :: cs => takeFlags { layout with left := true } cs
  | '+' :: cs => takeFlags { layout with plus := true } cs
  | ' ' :: cs => takeFlags { layout with blank := true } cs
  | '#' :: cs => takeFlags { layout with alternate := true } cs
  | '0' :: cs => takeFlags { layout with zeros := true } cs
  | cs => (layout, cs)

/-- Reads an amount below a limit: digits, or an asterisk that stands for the next value, which may
be as low as the limit below zero. For digits that are too many the given fault is reported. -/
def takeAmount (limit : Nat) (fault : TemplateFault) (values : Values) :
    List Char → Except TemplateFault (Int × Values × List Char)
  | '*' :: cs => do
    let (v, values) ← values.next
    let amount ← exactWholeOf v
    if amount < -limit ∨ limit ≤ amount then throw .outOfRange
    return (amount, values, cs)
  | cs =>
    let amount := Numeral.value (cs.takeWhile (·.isDigit))
    if amount < limit then .ok (amount, values, cs.dropWhile (·.isDigit)) else .error fault

/-- Every width is below this one. -/
def widthLimit : Nat := 0x8000000000000000

/-- Reads the width of a directive. A negative one puts the value to the left, and the lowest one,
whose size is no width, is none. -/
def takeWidth (layout : Layout) (values : Values) (cs : List Char) :
    Except TemplateFault (Layout × Values × List Char) := do
  let (amount, values, cs) ← takeAmount widthLimit .tooWide values cs
  let width := if amount.natAbs < widthLimit then amount.natAbs else 0
  return ({ layout with width, left := layout.left || amount < 0 }, values, cs)

/-- Reads the number of places of a directive. A negative one is zero. -/
def takePlaces (layout : Layout) (values : Values) :
    List Char → Except TemplateFault (Layout × Values × List Char)
  | '.' :: cs => do
    let (places, values, cs) ← takeAmount 0x80000000 .tooPrecise values cs
    return ({ layout with places := some places.toNat }, values, cs)
  | cs => .ok (layout, values, cs)

/-- Divides a text at the parenthesis that closes as many open ones as the first argument says and
one more. There is none if the text ends before. -/
def closeName? : Nat → List Char → Option (List Char × List Char)
  | _, [] => none
  | 0, ')' :: cs => some ([], cs)
  | depth + 1, ')' :: cs => (closeName? depth cs).map fun (name, rest) => (')' :: name, rest)
  | depth, '(' :: cs => (closeName? (depth + 1) cs).map fun (name, rest) => ('(' :: name, rest)
  | depth, c :: cs => (closeName? depth cs).map fun (name, rest) => (c :: name, rest)

/-- Reads the name in parentheses that stands before a directive. It may hold parentheses that are
closed again. -/
def takeName (values : Values) : List Char → Except TemplateFault (Values × List Char)
  | '(' :: cs =>
    match values.named, closeName? 0 cs with
    | none, _ => .error .wrongKind
    | some _, none => .error .incompleteKey
    | some fields, some (name, rest) =>
      let name := String.ofList name
      match Json.lookup? name fields with
      | none => .error (.missingKey name)
      | some v => .ok ({ values with remaining := [v] }, rest)
  | cs => .ok (values, cs)

def dropSizeLetter : List Char → List Char
  | c :: cs => if c = 'h' ∨ c = 'l' ∨ c = 'L' then cs else c :: cs
  | [] => []

/-- The text of a directive that stands for a value, with the values and the text that are left. -/
def directive (size : Nat) (values : Values) (cs : List Char) :
    Except TemplateFault (List Char × Values × List Char) := do
  let (values, cs) ← takeName values cs
  let (layout, cs) := takeFlags {} cs
  let (layout, values, cs) ← takeWidth layout values cs
  let (layout, values, cs) ← takePlaces layout values cs
  match dropSizeLetter cs with
  | [] => throw .incomplete
  | letter :: cs =>
    let (v, values) ← values.next
    let hasRoom : Bool := layout.width < widthWithoutRoom
    let layout := if hasRoom then layout else { layout with width := 0 }
    let text ← layout.value letter (size - cs.length - 1) v
    if hasRoom then return (text, values, cs) else throw .noRoom

/-- Fills the text with values, at most as many characters of it as the first argument says. -/
def fillWithin (size : Nat) : Nat → Values → List Char → Except TemplateFault (List Char)
  | 0, values, _ | _ + 1, values, [] =>
    if values.remaining.isEmpty ∨ values.named.isSome then .ok [] else .error .unusedValues
  | limit + 1, values, '%' :: '%' :: cs => do
    return '%' :: (← fillWithin size limit values cs)
  | limit + 1, values, '%' :: cs => do
    let (text, values, cs) ← directive size values cs
    return text ++ (← fillWithin size limit values cs)
  | limit + 1, values, c :: cs => do
    return c :: (← fillWithin size limit values cs)

/-- The text filled with values. Without values it is left as it is. -/
def fill (text : String) (values : List Json) : Except TemplateFault String :=
  let cs := text.toList
  let go := fun values => String.ofList <$> fillWithin cs.length (cs.length + 1) values cs
  match values with
  | [] => .ok text
  | [.obj (field :: fields)] =>
    go { remaining := [.obj (field :: fields)], named := some (field :: fields) }
  | values => go { remaining := values }

end Template
end LintRemedy
