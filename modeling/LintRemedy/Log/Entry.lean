import LintRemedy.Log.Moment
import LintRemedy.Log.Template
import LintRemedy.Text.Style

/-!
This module contains the entries of the log and the lines that are shown for them.
-/

namespace LintRemedy

/-- The level of an entry. Any number is a level, and some have names. -/
abbrev LogLevel := Int

namespace LogLevel

/-- The level of what helps to find faults. -/
def debug : LogLevel := 10

def info : LogLevel := 20

def warning : LogLevel := 30

def name (level : LogLevel) : String :=
  if level = 0 then "NOTSET"
  else if level = debug then "DEBUG"
  else if level = info then "INFO"
  else if level = warning then "WARNING"
  else if level = 40 then "ERROR"
  else if level = 50 then "CRITICAL"
  else "Level " ++ toString level

/-- The number of the colour in which a level is shown. -/
def colour? (level : LogLevel) : Option String :=
  if level = debug then some "36"
  else if level = info then some "32"
  else if level = warning then some "33"
  else if level = 40 then some "31"
  else if level = 50 then some "31;1"
  else none

end LogLevel

structure LogEntry where
  logger : String
  level : LogLevel
  /-- The line of code that has made the entry. -/
  line : Int
  message : String
  values : List Json
  moment : Except MomentFault Moment

inductive LogFault where
  | badTemplate (fault : TemplateFault)
  | badMoment (fault : MomentFault)
deriving DecidableEq, Repr

namespace LogEntry

/-- The line of an entry: its moment, level, place and message. -/
def line? (entry : LogEntry) : Except LogFault String := do
  let message ← (Template.fill entry.message entry.values).mapError .badTemplate
  let moment ← entry.moment.mapError .badMoment
  let level := entry.level.name
  let level := level ++ String.ofList (List.replicate (8 - level.length) ' ')
  return moment.text ++ " | " ++ level ++ " | " ++ entry.logger ++ ":"
    ++ toString entry.line ++ " - " ++ message

def colouredLine? (entry : LogEntry) : Except LogFault String := do
  let line ← entry.line?
  match entry.level.colour? with
  | some number =>
    return Text.controlCode number ++ line ++ Text.controlCode "0"
  | none => return line

end LogEntry
end LintRemedy
