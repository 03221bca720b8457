/-!
This module contains the reading of command line arguments: options in their long and short forms,
and the positional arguments between them.
-/

namespace LintRemedy

/-- What is wrong with the arguments of a command line. -/
inductive UsageFault where
  | noArguments
  | missingCommand
  | unknownCommand (name : String)
  | unknownOption (argument : String)
  | missingValue (option : String)
  | unexpectedValue (option : String)
  | extraArgument (argument : String)
  | badNumber (text : String)
deriving DecidableEq, Repr

inductive OptionForm where
  /-- Nothing: the option says yes or no by itself. -/
  | flag (on : Bool)
  /-- A value. -/
  | valued
deriving DecidableEq, Repr

structure OptionSpec where
  /-- The name of the setting that the option makes. -/
  key : String
  spellings : List String
  form : OptionForm
deriving DecidableEq, Repr

inductive OptionValue where
  | flag (on : Bool)
  | text (value : String)
deriving DecidableEq, Repr

structure Arguments where
  settings : List (String × OptionValue) := []
  positional : List String := []
deriving DecidableEq, Repr

namespace Arguments

def last? (arguments : Arguments) (key : String) : Option OptionValue :=
  (arguments.settings.reverse.find? (·.1 = key)).map (·.2)

def text? (arguments : Arguments) (key : String) : Option String :=
  match arguments.last? key with
  | some (.text value) => some value
  | _ => none

def isOn (arguments : Arguments) (key : String) : Bool :=
  arguments.last? key = some (.flag true)

def spelled? (specs : List OptionSpec) (spelling : String) : Option OptionSpec :=
  specs.find? (spelling ∈ ·.spellings)

/-- A group of short options, and the arguments after it. The value of an option is the rest of the
group, or else the next argument. -/
def shortGroup (specs : List OptionSpec) (rest : List String) :
    List Char → Except UsageFault (List (String × OptionValue) × List String)
  | [] => .ok ([], rest)
  | c :: cs =>
    let spelling := String.ofList ['-', c]
    match spelled? specs spelling with
    | none => .error (.unknownOption spelling)
    | some spec =>
      match spec.form with
      | .flag on => do
        let (settings, rest) ← shortGroup specs rest cs
        return ((spec.key, .flag on) :: settings, rest)
      | .valued =>
        match cs, rest with
        | [], [] => .error (.missingValue spelling)
        | [], value :: rest => .ok ([(spec.key, .text value)], rest)
        | cs, rest => .ok ([(spec.key, .text (String.ofList cs))], rest)

/-- A long option with the value that is written after an equals sign, and the arguments after it.
-/
def longOption (spec : OptionSpec) (attached : Option String) (rest : List String) :
    Except UsageFault (List (String × OptionValue) × List String) :=
  match spec.form, attached, rest with
  | .flag on, none, rest => .ok ([(spec.key, .flag on)], rest)
  | .flag _, some value, _ => .error (.unexpectedValue value)
  | .valued, some value, rest => .ok ([(spec.key, .text value)], rest)
  | .valued, none, value :: rest => .ok ([(spec.key, .text value)], rest)
  | .valued, none, [] => .error (.missingValue spec.key)

/-- The parts of an argument before and after its first equals sign. -/
def attachment (argument : String) : String × Option String :=
  let cs := argument.toList
  match cs.dropWhile (· ≠ '=') with
  | _ :: value => (String.ofList (cs.takeWhile (· ≠ '=')), some (String.ofList value))
  | [] => (argument, none)

/-- The settings of an argument that starts with a dash, and the arguments after it. -/
def option (specs : List OptionSpec) (argument : String) (rest : List String) :
    Except UsageFault (List (String × OptionValue) × List String) :=
  let (name, attached) := attachment argument
  match argument.toList with
  | '-' :: '-' :: _ =>
    match spelled? specs name with
    | some spec => longOption spec attached rest
    | none => .error (.unknownOption argument)
  | _ :: cs => shortGroup specs rest cs
  | [] => .error (.unknownOption argument)

def isOption (argument : String) : Bool :=
  argument.toList.head? = some '-' ∧ argument.length ≠ 1

/-- Reads arguments, at most as many as the first argument says. Options may stand between
positional arguments only if `mixed` holds; otherwise the first positional argument ends them. -/
def readWithin (specs : List OptionSpec) (mixed : Bool) :
    Nat → List String → Except UsageFault Arguments
  | 0, _ | _, [] => .ok {}
  | limit + 1, argument :: rest =>
    if argument = "--" then .ok { positional := rest }
    else if isOption argument then do
      let (settings, rest) ← option specs argument rest
      let arguments ← readWithin specs mixed limit rest
      return { arguments with settings := settings ++ arguments.settings }
    else if mixed then do
      let arguments ← readWithin specs mixed limit rest
      return { arguments with positional := argument :: arguments.positional }
    else .ok { positional := argument :: rest }

def read (specs : List OptionSpec) (mixed : Bool) (arguments : List String) :
    Except UsageFault Arguments :=
  readWithin specs mixed arguments.length arguments

end Arguments
end LintRemedy
