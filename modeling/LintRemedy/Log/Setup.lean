import LintRemedy.Files.Basic
import LintRemedy.Log.Entry

/-!
This module contains the setup of the log: where entries go, and which level each logger has.
-/

namespace LintRemedy

structure LogRequest where
  level : LogLevel := .warning
  toFile : Bool := false
  directory : String := "logs"
  /-- The loggers that have the level that is asked for. -/
  loggers : List String := ["lintpilot", "main", "uvicorn", "uvicorn.error", "uvicorn.access"]
deriving DecidableEq, Repr

inductive LogOutput where
  | console
  | file
deriving DecidableEq, Repr

structure LogSetup where
  level : LogLevel
  outputs : List LogOutput
  /-- The level of every logger. -/
  levels : List (String × LogLevel)
deriving DecidableEq, Repr

namespace LogSetup

/-- The loggers that have much to tell about every request. -/
def chattyLoggers : List String :=
  ["httpx", "httpcore"]

/-- The level of the chatty loggers: they are heard only while faults are looked for. -/
def chattyLevel (level : LogLevel) : LogLevel :=
  if level ≤ .debug then .debug else .warning

def fileName (day : String) : String :=
  "lintpilot_" ++ day ++ ".log"

def ofRequest (request : LogRequest) : LogSetup where
  level := request.level
  outputs := .console :: if request.toFile then [.file] else []
  levels :=
    (request.loggers.filter (· ∉ chattyLoggers)).map (fun name => (name, request.level))
      ++ chattyLoggers.map fun name => (name, chattyLevel request.level)

/-- The files after the log has been set up on a day: a log file is made with its directory unless
it is there. -/
def makeFile (day : String) (request : LogRequest) (files : Files) :
    Except Files.DirectoryFault Files := do
  if ¬ request.toFile then return files
  else
    let (made, key) ← files.makeDirectories request.directory
    let key := key ++ [fileName day]
    return if (made.content? key).isSome then made else made.set key (.text "")

end LogSetup
end LintRemedy
