/-!
This module contains the styling of terminal text: the control codes for colours and weights, and
the plain text that is left when the codes are taken out.
-/

namespace LintRemedy
namespace Text

inductive Colour where
  | red
  | green
  | yellow
  | magenta
  | cyan
deriving DecidableEq, Repr

/-- A style: a colour, a weight that is set or cleared when given, and whether the text is dim. -/
structure Style where
  colour : Option Colour := none
  bold : Option Bool := none
  dim : Bool := false
deriving DecidableEq, Repr

def controlCode (number : String) : String :=
  "\x1b[" ++ number ++ "m"

def Colour.number : Colour → String
  | red => "31"
  | green => "32"
  | yellow => "33"
  | magenta => "35"
  | cyan => "36"

/-- The text between the codes of a style and the reset: colour first, then weight, then dim. -/
def Style.apply (style : Style) (text : String) : String :=
  let colour := (style.colour.map fun c => controlCode c.number).getD ""
  let weight := (style.bold.map fun b => controlCode (if b then "1" else "22")).getD ""
  let dim := if style.dim then controlCode "2" else ""
  colour ++ weight ++ dim ++ text ++ controlCode "0"

def coloured (colour : Colour) (text : String) : String :=
  Style.apply { colour := some colour } text

def bold (text : String) : String :=
  Style.apply { bold := some true } text

def boldColoured (colour : Colour) (text : String) : String :=
  Style.apply { colour := some colour, bold := some true } text

def dim (text : String) : String :=
  Style.apply { dim := true } text

/-- A form of control codes: the characters for the parameters, those between the parameters and
the final character, and the final ones. -/
structure CodeForm where
  isParameter : Char → Bool
  isInfix : Char → Bool
  isFinal : Char → Bool

/-- All codes of the standard for terminals. -/
def CodeForm.standard : CodeForm where
  isParameter := fun c => 0x30 ≤ c.toNat && c.toNat ≤ 0x3F
  isInfix := fun c => 0x20 ≤ c.toNat && c.toNat ≤ 0x2F
  isFinal := fun c => 0x40 ≤ c.toNat && c.toNat ≤ 0x7E

/-- The codes in common use: numbers and a letter. -/
def CodeForm.common : CodeForm where
  isParameter := fun c => c.isDigit || c == ';' || c == '?'
  isInfix := fun _ => false
  isFinal := Char.isAlpha

/-- What follows a control code whose bracket has been read, if it is complete. -/
def CodeForm.after? (form : CodeForm) (cs : List Char) : Option (List Char) :=
  match (cs.dropWhile form.isParameter).dropWhile form.isInfix with
  | c :: rest => if form.isFinal c then some rest else none
  | [] => none

theorem CodeForm.length_lt_of_after? {form : CodeForm} {cs rest : List Char}
    (h : form.after? cs = some rest) : rest.length < cs.length := by
  have hinfix :=
    (List.dropWhile_suffix form.isInfix (l := cs.dropWhile form.isParameter)).length_le
  have hparameter := (List.dropWhile_suffix form.isParameter (l := cs)).length_le
  unfold CodeForm.after? at h
  split at h
  · rename_i heq
    rw [heq, List.length_cons] at hinfix
    split at h
    · cases h
      omega
    · simp at h
  · simp at h

/-- The text without the control codes of a form. An incomplete code stays. -/
def dropCodes (form : CodeForm) : (cs : List Char) → List Char
  | [] => []
  | '\x1b' :: '[' :: cs =>
    match h : form.after? cs with
    | some rest =>
      have := form.length_lt_of_after? h
      dropCodes form rest
    | none => '\x1b' :: dropCodes form ('[' :: cs)
  | c :: cs => c :: dropCodes form cs
termination_by cs => cs.length
decreasing_by
  all_goals
    simp only [List.length_cons]
    omega

def withoutCodes (form : CodeForm) (s : String) : String :=
  String.ofList (dropCodes form s.toList)

/-- The string without any control codes. -/
def plain (s : String) : String :=
  withoutCodes .standard s

end Text
end LintRemedy
