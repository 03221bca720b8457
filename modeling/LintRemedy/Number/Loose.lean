import LintRemedy.Number.Numeral

/-!
This module contains the reading of whole numbers that are spelled loosely in ASCII: with blanks
around, a plus sign, zeros in front, single underscores between the digits and places that are all
zero.
-/

namespace LintRemedy

/-- Why a loose spelling gives no whole number. -/
inductive LooseFault where
  | unreadable
  | tooLong
deriving DecidableEq, Repr

namespace Numeral

/-- The text without the zeros in front of its first other digit. Underscores and one minus sign may
stand among them. Of zeros alone, and of zeros before a point, the last character is kept. -/
def dropZeros? : List Char → Option (List Char)
  | '0' :: cs => afterZeros '0' cs
  | c :: cs => if c.isDigit ∨ c = '-' then some (c :: cs) else none
  | [] => none
where
  /-- What follows zeros and underscores of which `last` is the last one. -/
  afterZeros (last : Char) : List Char → Option (List Char)
    | [] => some [last]
    | c :: cs =>
      if c = '0' ∨ c = '_' then afterZeros c cs
      else if c.isDigit ∨ c = '-' then some (c :: cs)
      else if c = '.' then some (last :: c :: cs)
      else none

/-- The text without a point that is followed by zeros only, and by one at least. -/
def dropZeroPlaces (cs : List Char) : List Char :=
  match cs.dropWhile (· ≠ '.') with
  | _ :: '0' :: places => if places.all (· = '0') then cs.takeWhile (· ≠ '.') else cs
  | _ => cs

/-- Whether two underscores stand side by side. -/
def hasDoubleUnderscore : List Char → Bool
  | '_' :: '_' :: _ => true
  | _ :: cs => hasDoubleUnderscore cs
  | [] => false

/-- The text without its underscores, which have to be single and inside it. -/
def dropUnderscores? (cs : List Char) : Option (List Char) :=
  if cs.head? = some '_' ∨ cs.getLast? = some '_' ∨ hasDoubleUnderscore cs then none
  else some (cs.filter (· ≠ '_'))

/-- A minus sign at the start, and the rest. -/
def takeMinus : List Char → Bool × List Char
  | '-' :: cs => (true, cs)
  | cs => (false, cs)

/-- The whole number of digits without zeros in front, after a minus sign if there is one. That
there are too many digits is found out before anything that follows them. -/
def bare (cs : List Char) : Except LooseFault Int :=
  let (negative, cs) := takeMinus cs
  let digits := cs.takeWhile (·.isDigit)
  if digits.head? = some '0' ∧ digits.length ≠ 1 then .error .unreadable
  else if maxDigits < digits.length then .error .tooLong
  else if digits.isEmpty ∨ digits.length ≠ cs.length then .error .unreadable
  else
    let n : Int := value digits
    .ok (if negative then -n else n)

/-- The text without what is loose in its spelling. The sign of a negative number stands before the
zeros, or else after them. -/
def tidy? (cs : List Char) : Option (List Char) := do
  let signed := match Text.trimWhile isEdge cs with
    | '+' :: '-' :: _ => none
    | '+' :: cs => some cs
    | cs => some cs
  let (negative, cs) := takeMinus (← signed)
  let cs ← dropUnderscores? (dropZeroPlaces (← dropZeros? cs))
  return if negative then '-' :: cs else cs

/-- The whole number that is spelled loosely. Only of a number that is not spelled loosely it is
told that it is too long. -/
def loose (s : String) : Except LooseFault Int :=
  match bare s.toList with
  | .ok n => .ok n
  | .error .tooLong => .error .tooLong
  | .error .unreadable =>
    match (tidy? s.toList).map bare with
    | some (.ok n) => .ok n
    | _ => .error .unreadable

end Numeral
end LintRemedy
