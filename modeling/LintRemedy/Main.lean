import LintRemedy.CommandLine.Execution
import LintRemedy.Json.Decoder
import LintRemedy.Service.Basic
import LintRemedy.World.Recording

/-!
This module contains the program. It carries its command line out in recorded surroundings, which
are read as a line of JSON from the input, with the settings that the environment gives. Where the
command starts the service, every further line is a request, and a line is printed for its response.
-/

namespace LintRemedy

def environment : IO Settings.Variables := do
  let mut env := []
  for name in Settings.variableNames do
    if let some value ← IO.getEnv name then env := env ++ [(name, value)]
  return env

def showTerminal (terminal : Terminal) : IO Unit := do
  IO.print terminal.stdout
  IO.eprint terminal.stderr

def recordedRequest (v : Json) : ServiceRequest where
  method := Recording.text (v.field "method")
  target := Recording.text (v.field "path")
  body := (v.field? "body").map fun body => .text body.encode

def responseLine (response : ServiceResponse) : String :=
  (Json.obj [("status", .int response.status), ("body", response.body)]).encode

/-- Answers the requests on the lines of the input until it ends. -/
partial def answerRequests (setup : ServiceSetup) (service : Service) : IO UInt32 := do
  let line ← (← IO.getStdin).getLine
  if line.isEmpty then return 0
  match Json.decodeString line with
  | .error fault =>
    IO.eprintln fault.message
    return 1
  | .ok v =>
    match service.respond setup (recordedRequest v) with
    | .error fault =>
      IO.eprintln fault.message
      return 1
    | .ok (response, service) =>
      IO.println (responseLine response)
      (← IO.getStdout).flush
      answerRequests setup service

/-- Carries a command line out in a recorded world and gives the exit status. -/
def replay (settings : Settings) (arguments : List String) (recording : Json) : IO UInt32 := do
  let world := Recording.world recording
  let world := { world with keys := world.keys ++ settings.keys }
  match CommandLine.run settings arguments world with
  | .ok status world =>
    showTerminal world.terminal
    if world.hasStartedService then answerRequests { settings } { world }
    else return status.toUInt32
  | .error fault world =>
    showTerminal world.terminal
    IO.eprintln fault.message
    return 1

end LintRemedy

open LintRemedy

def main (arguments : List String) : IO UInt32 := do
  match Settings.ofVariables (← environment) with
  | .error fault =>
    IO.eprintln fault.message
    return 1
  | .ok settings =>
    let line ← (← IO.getStdin).getLine
    match Json.decodeString (if line.isEmpty then "\x7b\x7d" else line) with
    | .ok recording => replay settings arguments recording
    | .error fault =>
      IO.eprintln fault.message
      return 1
