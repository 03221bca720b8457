import LintRemedy.Json.Basic
import LintRemedy.Number.Numeral

/-!
This module contains what keeps a value from being written out, be it in its display form or as JSON
text: whole numbers with too many digits, and values that go too deep.
-/

namespace LintRemedy
namespace Json

inductive Rendering where
  | display
  | encoding
deriving DecidableEq, Repr

/-- The most values that may be under way at the same time, each inside the one before. -/
def Rendering.maxDepth : Rendering → Nat
  | display => 983
  | encoding => 982

/-- How many values are under way for one that holds no others. JSON text counts only lists and
objects. -/
def Rendering.leafDepth : Rendering → Nat
  | display => 1
  | encoding => 0

/-- Why a value cannot be written out. -/
inductive RenderFault where
  | tooManyDigits
  | tooDeep (rendering : Rendering)
deriving DecidableEq, Repr

def RenderFault.message : RenderFault → String
  | tooManyDigits =>
    "Exceeds the limit (" ++ toString Numeral.maxDigits ++ " digits) for integer string conversion; "
      ++ "use sys.set_int_max_str_digits() to increase the limit"
  | tooDeep .display => "maximum recursion depth exceeded while getting the repr of an object"
  | tooDeep .encoding => "maximum recursion depth exceeded while encoding a JSON object"

/-- Whether a whole number has more digits than may be written out. -/
def hasTooManyDigits (n : Int) : Bool :=
  Numeral.maxDigits < (Nat.toDigits 10 n.natAbs).length

/-- The first thing on the way through a value that keeps it from being written out, if `room` more
values may be under way. -/
def obstacleWithin? (rendering : Rendering) : (room : Nat) → Json → Option RenderFault
  | room, arr items =>
    match room with
    | 0 => some (.tooDeep rendering)
    | room + 1 => inItems? room items
  | room, obj fields =>
    match room with
    | 0 => some (.tooDeep rendering)
    | room + 1 => inFields? room fields
  | room, int n =>
    if room < rendering.leafDepth then some (.tooDeep rendering)
    else if hasTooManyDigits n then some .tooManyDigits
    else none
  | room, _ => if room < rendering.leafDepth then some (.tooDeep rendering) else none
where
  /-- The first such thing in the items of a list. -/
  inItems? (room : Nat) : List Json → Option RenderFault
    | [] => none
    | item :: items => (obstacleWithin? rendering room item).or (inItems? room items)
  /-- The first such thing in the fields of an object. -/
  inFields? (room : Nat) : List (String × Json) → Option RenderFault
    | [] => none
    | (_, value) :: fields =>
      if room < rendering.leafDepth then some (.tooDeep rendering)
      else (obstacleWithin? rendering room value).or (inFields? room fields)

/-- What keeps a value from being written out. -/
def obstacle? (rendering : Rendering) (value : Json) : Option RenderFault :=
  obstacleWithin? rendering rendering.maxDepth value

end Json
end LintRemedy
