import LintRemedy.Number.Binary64
import LintRemedy.Text.Blank
import LintRemedy.Text.Case
import LintRemedy.Text.Digit
import LintRemedy.Text.Quoted

/-!
This module contains the reading of numbers that a person or a tool has typed as text: a sign,
digits of any script with single underscores between them, and blanks around.
-/

namespace LintRemedy

inductive NumeralFault where
  | notWhole (text : String)
  | notNumber (text : String)
  | tooManyDigits (count : Nat)
deriving DecidableEq, Repr

namespace Numeral

def maxDigits : Nat := 4300

/-- A blank around a numeral in plain ASCII, narrower than the blanks of other text. -/
def isEdge (c : Char) : Bool :=
  if c.toNat < 128 then c == ' ' || (9 ≤ c.toNat && c.toNat ≤ 13) else Text.isBlank c

/-- The numeral with its digits in ASCII and without blanks at both ends. -/
def normalize (s : String) : List Char :=
  (Text.trimWhile isEdge s.toList).map fun c =>
    match Text.decimalValue? c with
    | some v => Char.ofNat (48 + v)
    | none => c

/-- The ASCII digits at the start with single underscores between them taken out, and the rest. -/
def takeDigits : List Char → List Char × List Char
  | [] => ([], [])
  | c :: '_' :: d :: cs =>
    if c.isDigit ∧ d.isDigit then
      let (digits, rest) := takeDigits (d :: cs)
      (c :: digits, rest)
    else if c.isDigit then ([c], '_' :: d :: cs)
    else ([], c :: '_' :: d :: cs)
  | c :: cs =>
    if c.isDigit then
      let (digits, rest) := takeDigits cs
      (c :: digits, rest)
    else ([], c :: cs)

def value (digits : List Char) : Nat :=
  digits.foldl (fun n c => n * 10 + (c.toNat - 48)) 0

/-- A sign at the start, and the rest. -/
def takeSign : List Char → Bool × List Char
  | '-' :: cs => (true, cs)
  | '+' :: cs => (false, cs)
  | cs => (false, cs)

/-- The whole number that the text spells. Too many digits are found out before anything that
follows them but an underscore. -/
def toInt (s : String) : Except NumeralFault Int :=
  let (negative, cs) := takeSign (normalize s)
  let (digits, rest) := takeDigits cs
  if maxDigits < digits.length ∧ rest.head? ≠ some '_' then .error (.tooManyDigits digits.length)
  else if digits.isEmpty ∨ ¬ rest.isEmpty then .error (.notWhole s)
  else
    let n : Int := value digits
    .ok (if negative then -n else n)

/-- The exponent that follows the letter `e` of a numeral, and the rest. -/
def takeExponent (cs : List Char) : Int × List Char :=
  match cs with
  | c :: rest =>
    if c = 'e' ∨ c = 'E' then
      let (negative, rest) := takeSign rest
      let (digits, rest) := takeDigits rest
      if digits.isEmpty then (0, cs)
      else ((if negative then -(value digits : Int) else value digits), rest)
    else (0, cs)
  | [] => (0, [])

/-- The digits after the point of a numeral, and the rest. -/
def takePlaces : List Char → List Char × List Char
  | '.' :: cs => takeDigits cs
  | cs => ([], cs)

/-- The binary number nearest to the one that the text spells. -/
def toBinary64 (s : String) : Except NumeralFault Binary64 :=
  let (negative, cs) := takeSign (normalize s)
  let word := Text.lowered (String.ofList cs)
  if word = "inf" ∨ word = "infinity" then .ok (.infinite negative)
  else if word = "nan" then .ok .nan
  else
    let (whole, rest) := takeDigits cs
    let (places, rest) := takePlaces rest
    if whole.isEmpty ∧ places.isEmpty then .error (.notNumber s)
    else
      let (exponent, rest) := takeExponent rest
      if ¬ rest.isEmpty then .error (.notNumber s)
      else .ok (.ofDecimal negative (value (whole ++ places)) (exponent - places.length))

end Numeral

/-- The wording of a fault. A long text is shown in part where a whole number is expected. -/
def NumeralFault.message : NumeralFault → String
  | notWhole text =>
    "invalid literal for int() with base 10: "
      ++ String.ofList ((Text.quote text.toList).take 200)
  | notNumber text => "could not convert string to float: " ++ Text.quoted text
  | tooManyDigits count =>
    "Exceeds the limit (" ++ toString Numeral.maxDigits
      ++ " digits) for integer string conversion: value has " ++ toString count
      ++ " digits; use sys.set_int_max_str_digits() to increase the limit"

end LintRemedy
