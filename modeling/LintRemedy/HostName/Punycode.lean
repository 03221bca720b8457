/-!
This module contains the spelling of code points in the letters, digits and hyphens of ASCII. What
is in ASCII stands first and as it is. After a hyphen, numbers tell which code points come in
between, from the lowest to the highest, and how many places lie between one and the next.
-/

namespace LintRemedy
namespace HostName
namespace Punycode

/-- The value of a digit: the letters come before the ten figures. -/
def digitValue? (c : Char) : Option Nat :=
  if c.isLower then some (c.toNat - 97)
  else if c.isUpper then some (c.toNat - 65)
  else if c.isDigit then some (c.toNat - 22)
  else none

def digitChar (value : Nat) : Char :=
  Char.ofNat (if value < 26 then value + 97 else value + 22)

/-- The bound for the digit at a place of a number: a lower one is the last of its number. -/
def bound (bias place : Nat) : Nat :=
  max 1 (min 26 (36 * (place + 1) - bias))

theorem bound_pos (bias place : Nat) : 0 < bound bias place := by
  unfold bound
  omega

/-- The bias that belongs to a number, after a number of rounds in which it has been made smaller.
-/
def settle (rounds number : Nat) : Nat :=
  if 455 < number then settle (rounds + 1) (number / 35)
  else 36 * rounds + 36 * number / (number + 38)
termination_by number
decreasing_by omega

/-- The bias after a number. The first number is much larger than the ones after it, and numbers
grow with the count of the code points that are there. -/
def nextBias (isFirst : Bool) (number count : Nat) : Nat :=
  let damped := if isFirst then number / 700 else number / 2
  settle 0 (damped + damped / count)

/-- The digits of a number from a place on, the lowest first. -/
def numberDigits (bias place number : Nat) : List Char :=
  let limit := bound bias place
  if number < limit then [digitChar number]
  else
    digitChar (limit + (number - limit) % (36 - limit))
      :: numberDigits bias (place + 1) ((number - limit) / (36 - limit))
termination_by number
decreasing_by
  have := bound_pos bias place
  have := Nat.div_le_self (number - bound bias place) (36 - bound bias place)
  omega

/-- How far the writing has come. -/
structure Writing where
  text : List Char := []
  /-- All lower code points have been written. -/
  code : Nat := 128
  /-- The number of places since the last code point that was written. -/
  distance : Nat := 0
  bias : Nat := 72
  /-- The number of code points that have been written. -/
  count : Nat
  isFirst : Bool := true

/-- Passes a code point while all that are equal to `code` are written. -/
def Writing.pass (writing : Writing) (code : Nat) : Writing :=
  if code < writing.code then { writing with distance := writing.distance + 1 }
  else if code = writing.code then
    { writing with
      text := writing.text ++ numberDigits writing.bias 0 writing.distance
      distance := 0
      bias := nextBias writing.isFirst writing.distance (writing.count + 1)
      count := writing.count + 1
      isFirst := false }
  else writing

/-- Writes a code point wherever it stands among the others. -/
def Writing.write (codes : List Nat) (writing : Writing) (code : Nat) : Writing :=
  let skipped := (code - writing.code) * (writing.count + 1)
  let writing := codes.foldl Writing.pass
    { writing with code, distance := writing.distance + skipped }
  { writing with code := code + 1, distance := writing.distance + 1 }

def encode (codes : List Nat) : List Char :=
  let basic := (codes.filter (· < 128)).map Char.ofNat
  let others := (codes.filter (128 ≤ ·)).mergeSort.eraseDups
  let writing := others.foldl (Writing.write codes) { count := basic.length }
  (if basic.isEmpty then [] else basic ++ ['-']) ++ writing.text

/-- How far the reading has come. -/
structure Reading where
  codes : List Nat
  /-- The code point that was read last. -/
  code : Nat := 128
  place : Nat := 0
  bias : Nat := 72
  isFirst : Bool := true

/-- Puts the code point in that a number tells, if there is one. -/
def Reading.insert? (reading : Reading) (number : Nat) : Option Reading :=
  let count := reading.codes.length + 1
  let code := reading.code + (reading.place + number) / count
  let place := (reading.place + number) % count
  if code < 0x110000 then
    some {
      codes := reading.codes.insertIdx place code
      code
      place := place + 1
      bias := nextBias reading.isFirst number count
      isFirst := false }
  else none

/-- Reads numbers. `number` is what the digits of the current one are worth so far, `place` counts
them, and `weight` is what the next one is multiplied by. -/
def Reading.readNumbers? (reading : Reading) (number place weight : Nat) :
    List Char → Option (List Nat)
  | [] => if place = 0 then some reading.codes else none
  | c :: cs => do
    let value ← digitValue? c
    let number := number + value * weight
    let limit := bound reading.bias place
    if value < limit then (← reading.insert? number).readNumbers? 0 0 1 cs
    else reading.readNumbers? number (place + 1) (weight * (36 - limit)) cs

/-- The code points that are spelled. A hyphen that no character of ASCII stands before is no
spelling of anything. -/
def decode? (text : List Char) : Option (List Nat) :=
  let numbers := (text.reverse.takeWhile (· ≠ '-')).reverse
  let basic := text.take (text.length - numbers.length - 1)
  if basic = [] ∧ numbers ≠ text then none
  else Reading.readNumbers? { codes := basic.map Char.toNat } 0 0 1 numbers

example : encode ("bücher".toList.map Char.toNat) = "bcher-kva".toList := by decide +kernel

example : decode? "bcher-kva".toList = some ("bücher".toList.map Char.toNat) := by decide +kernel

example : decode? "-9ca".toList = none := by decide +kernel

end Punycode
end HostName
end LintRemedy
