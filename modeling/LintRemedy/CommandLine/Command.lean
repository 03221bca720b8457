import LintRemedy.CommandLine.Options
import LintRemedy.Number.Loose
import LintRemedy.Settings

/-!
This module contains the commands of the command line and their reading from arguments.
-/

namespace LintRemedy

structure AnalysisRequest where
  path : String
  provider : String
  model : Option String
  /-- The file to which results are saved. -/
  output : Option String
  /-- Whether the report of the analyzer is printed as it is. -/
  raw : Bool
  /-- Whether to scan only once. -/
  once : Bool
  /-- Whether the repair loop goes on unattended. -/
  unattended : Bool
  config : Option String
deriving DecidableEq, Repr

inductive Command where
  | version
  | help
  | analyze (request : AnalysisRequest)
  | fix (path : String)
  | login (provider : String)
  | status (provider : Option String)
  | models (provider : String)
  | serve (host : String) (tcpPort : Int) (reload : Bool)
deriving DecidableEq, Repr

namespace Command

def helpOption : OptionSpec :=
  ⟨"help", ["--help"], .flag true⟩

def rootOptions : List OptionSpec :=
  [⟨"version", ["--version"], .flag true⟩, helpOption]

def debugOption : OptionSpec :=
  ⟨"debug", ["--debug", "-d"], .flag true⟩

def providerOption : OptionSpec :=
  ⟨"provider", ["--provider", "-p"], .valued⟩

def analyzeOptions : List OptionSpec :=
  [providerOption, debugOption, helpOption,
    ⟨"model", ["--model", "-m"], .valued⟩,
    ⟨"output", ["--output", "-o"], .valued⟩,
    ⟨"raw", ["--raw", "-r"], .flag true⟩,
    ⟨"once", ["--non-interactive", "-n"], .flag true⟩,
    ⟨"unattended", ["--auto-fix"], .flag true⟩,
    ⟨"config", ["--config", "-c"], .valued⟩]

def serveOptions : List OptionSpec :=
  [helpOption,
    ⟨"host", ["--host"], .valued⟩,
    ⟨"port", ["--port"], .valued⟩,
    ⟨"reload", ["--reload"], .flag true⟩,
    ⟨"reload", ["--no-reload"], .flag false⟩]

/-- The only positional argument, if there is any. -/
def single (arguments : Arguments) : Except UsageFault (Option String) :=
  match arguments.positional with
  | [] => .ok none
  | [argument] => .ok (some argument)
  | _ :: extra :: _ => .error (.extraArgument extra)

/-- Nothing, if there are no positional arguments. -/
def none (arguments : Arguments) : Except UsageFault Unit :=
  match arguments.positional with
  | [] => .ok ()
  | extra :: _ => .error (.extraArgument extra)

/-- Reads the arguments of a command, and makes the command of them unless they ask for help. -/
def ofOptions (specs : List OptionSpec) (make : Arguments → Except UsageFault Command)
    (arguments : List String) : Except UsageFault Command := do
  let arguments ← Arguments.read specs true arguments
  if arguments.isOn "help" then return help else make arguments

def makeAnalyze (settings : Settings) (arguments : Arguments) : Except UsageFault Command := do
  let path ← single arguments
  return analyze {
    path := path.getD "."
    provider := (arguments.text? "provider").getD settings.provider
    model := arguments.text? "model"
    output := arguments.text? "output"
    raw := arguments.isOn "raw"
    once := arguments.isOn "once"
    unattended := arguments.isOn "unattended"
    config := arguments.text? "config" }

def makeServe (settings : Settings) (arguments : Arguments) : Except UsageFault Command := do
  none arguments
  let tcpPort ← match arguments.text? "port" with
    | .none => .ok settings.tcpPort
    | some text =>
      match Numeral.loose text with
      | .ok tcpPort => .ok tcpPort
      | .error _ => .error (.badNumber text)
  return serve ((arguments.text? "host").getD settings.host) tcpPort (arguments.isOn "reload")

/-- The reading of the arguments of a named command, if there is such a command. -/
def named? (settings : Settings) (name : String) :
    Option (List String → Except UsageFault Command) :=
  match name with
  | "analyze" => some <| ofOptions analyzeOptions (makeAnalyze settings)
  | "fix" => some <| ofOptions [debugOption, helpOption] fun arguments => do
    return fix ((← single arguments).getD ".")
  | "login" => some <| ofOptions [helpOption] fun arguments => do
    return login ((← single arguments).getD settings.provider)
  | "status" => some <| ofOptions [providerOption, helpOption] fun arguments => do
    none arguments
    return status (arguments.text? "provider")
  | "models" => some <| ofOptions [helpOption] fun arguments => do
    return models ((← single arguments).getD settings.provider)
  | "serve" => some <| ofOptions serveOptions (makeServe settings)
  | _ => .none

/-- What the options before the name of a command ask for, and the other arguments. -/
def readRoot (arguments : List String) : Except UsageFault (Option Command × List String) := do
  let root ← Arguments.read rootOptions false arguments
  let asked :=
    if root.isOn "help" then some help else if root.isOn "version" then some version else .none
  return (asked, root.positional)

/-- The command that the arguments spell. What stands in the place of a name and names no command is
read once more for options. -/
def ofArguments (settings : Settings) (arguments : List String) : Except UsageFault Command := do
  if arguments.isEmpty then throw .noArguments
  match ← readRoot arguments with
  | (some command, _) => return command
  | (.none, []) => throw .missingCommand
  | (.none, name :: rest) =>
    match named? settings name with
    | some read => read rest
    | .none =>
      match ← readRoot (name :: rest) with
      | (some command, _) => return command
      | _ => throw (.unknownCommand name)

end Command
end LintRemedy
