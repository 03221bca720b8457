import LintRemedy.Number.Binary64

/-!
This module contains moments of time in the calendar.
-/

namespace LintRemedy

structure Moment where
  year : Int
  month : Nat
  day : Nat
  hour : Nat
  minute : Nat
  second : Nat
deriving DecidableEq, Repr

inductive MomentFault where
  | beyondClock
  | beyondCalendar
  | undefined
deriving DecidableEq, Repr

/-- The wording of a fault that is about a number that is none, empty for the others. -/
def MomentFault.message : MomentFault → String
  | undefined => "Invalid value NaN (not a number)"
  | _ => ""

namespace Moment

/-- Year, month and day, from the number of days since the start of 1970. The years are counted from
March on, so that a leap day comes last, and four hundred of them always have the same number of
days. -/
def dateOfDays (days : Int) : Int × Nat × Nat :=
  let shifted := days + 719468
  let era := shifted.fdiv 146097
  let dayOfEra := (shifted.fmod 146097).toNat
  let yearOfEra :=
    (dayOfEra - dayOfEra / 1460 + dayOfEra / 36524 - dayOfEra / 146096) / 365
  let dayOfYear := dayOfEra - (365 * yearOfEra + yearOfEra / 4 - yearOfEra / 100)
  let monthFromMarch := (5 * dayOfYear + 2) / 153
  let day := dayOfYear - (153 * monthFromMarch + 2) / 5 + 1
  let month := if monthFromMarch < 10 then monthFromMarch + 3 else monthFromMarch - 9
  let year := yearOfEra + era * 400
  (if month ≤ 2 then year + 1 else year, month, day)

/-- The moment that is a number of seconds after the start of 1970. -/
def ofSeconds (seconds : Int) : Moment :=
  let (year, month, day) := dateOfDays (seconds.fdiv 86400)
  let second := (seconds.fmod 86400).toNat
  ⟨year, month, day, second / 3600, second / 60 % 60, second % 60⟩

/-- The moment that is a number of seconds after the start of 1970. The seconds are counted in 64
bits, the years in 32 bits from 1900 on, and a year in a text has 32 bits of its own. -/
def ofSeconds? (seconds : Int) : Except MomentFault Moment :=
  let moment := ofSeconds seconds
  if seconds < -0x8000000000000000 ∨ 0x7fffffffffffffff < seconds then .error .beyondClock
  else if moment.year - 1900 < -0x80000000 ∨ 0x7fffffff < moment.year - 1900 then
    .error .beyondCalendar
  else if 0x7fffffff < moment.year then .error .beyondClock
  else .ok moment

/-- The moment of a binary number of seconds, without what follows the point. The first number
past the 64 bits is their bound as a binary number, so only the calendar keeps it out. -/
def ofBinary? (seconds : Binary64) : Except MomentFault Moment :=
  match seconds with
  | .nan => .error .undefined
  | x => x.floor?.elim (.error .beyondClock) fun n =>
    if n = 0x8000000000000000 then .error .beyondCalendar else ofSeconds? n

def twoDigits (n : Nat) : String :=
  (if n < 10 then "0" else "") ++ toString n

def text (m : Moment) : String :=
  toString m.year ++ "-" ++ twoDigits m.month ++ "-" ++ twoDigits m.day ++ " "
    ++ twoDigits m.hour ++ ":" ++ twoDigits m.minute ++ ":" ++ twoDigits m.second

example : (ofSeconds 951782399).text = "2000-02-28 23:59:59" := by decide +kernel

end Moment
end LintRemedy
