import LintRemedy.Files.Basic
import LintRemedy.Terminal

/-!
This module contains the world around the program: the files, what the analyzer and the oracle are
going to answer, the terminal, and the record of what the program has done. Actions change the world
and may end with a fault.
-/

namespace LintRemedy

/-- Changes that others make to files just before they answer. -/
abbrev FileChanges := List (String × Option Content)

inductive AnalyzerOutcome where
  | programMissing
  | timedOut
  | notStarted (reason : String)
  | finished (status : Int) (stdout stderr : String)
deriving DecidableEq, Repr

structure AnalyzerAnswer where
  outcome : AnalyzerOutcome
  changes : FileChanges := []
deriving DecidableEq, Repr

inductive OracleOutcome where
  /-- The agent process ends. -/
  | finished (status : Int) (stdout stderr : Content)
  /-- The agent process cannot be started. -/
  | notStarted (reason : String)
  /-- The service responds. -/
  | responded (status : Nat) (body : Content)
  /-- The service responds with a text of the model in its own form. The text may be any value. -/
  | spoken (status : Nat) (text : Json)
  /-- The service cannot be reached. -/
  | unreachable (reason : String)
  /-- The time limit is reached at once. -/
  | timedOut
  /-- There is no answer until the time limit is reached. -/
  | silent
deriving DecidableEq, Repr

structure OracleAnswer where
  outcome : OracleOutcome
  changes : FileChanges := []
deriving DecidableEq, Repr

/-- Something that the program has done. -/
inductive Deed where
  | ranAnalyzer (command : List String) (workDir : String)
  | ranAgent (command : List String) (input : Option String) (killed : Bool)
  | posted (url : String) (authorization : Option String) (body : Json)
  | editedFile (name : String)
  | startedService (host : String) (tcpPort : Int) (reload : Bool)
deriving DecidableEq, Repr

structure World where
  files : Files
  /-- The agent programs that can be found. -/
  programs : List String
  /-- The keys of the hosted services by provider. -/
  keys : List (String × String)
  /-- The answers to scans. The last one is repeated. -/
  scans : List AnalyzerAnswer
  /-- The answers to runs of the analyzer that repair files. The last one is repeated. -/
  repairs : List AnalyzerAnswer
  replies : List OracleAnswer
  terminal : Terminal
  deeds : List Deed
deriving DecidableEq, Repr

abbrev Act := EStateM Fault World

/-- A world with the working directory `/w` and nothing in it. -/
def World.empty : World :=
  ⟨.empty ["w"], [], [], [], [], [], .fresh [], []⟩

namespace World

/-- The key for a provider, empty if there is none. -/
def keyFor (world : World) (provider : String) : String :=
  ((world.keys.find? (·.1 = provider)).map (·.2)).getD ""

/-- The world after changes that others have made to files. -/
def afterChanges (world : World) (changes : FileChanges) : World :=
  let change := fun (files : Files) (name, content) => files.change name content
  { world with files := changes.foldl change world.files }

/-- The world with one more deed. -/
def record (deed : Deed) (world : World) : World :=
  { world with deeds := world.deeds ++ [deed] }

def hasStartedService (world : World) : Bool :=
  world.deeds.any fun deed => match deed with
    | .startedService .. => true
    | _ => false

/-- What keeps a process from being started with these words, its working directory among them. -/
def launchFault? (world : World) (words : List String) : Option NameFault :=
  words.findSome? world.files.nameFault?

def workDir (world : World) : String :=
  "/" ++ "/".intercalate world.files.workDir

end World

/-- The first of a list of answers and the list without it, unless it is the last one. -/
def nextAnswer {α : Type} : List α → Option α × List α
  | [] => (none, [])
  | [answer] => (some answer, [answer])
  | answer :: answers => (some answer, answers)

namespace Act

/-- Records a deed. -/
def record (deed : Deed) : Act Unit :=
  modify (World.record deed)

/-- An action on the terminal as an action in the world. -/
def ofConsole {α : Type} (act : Console α) : Act α := fun world =>
  match act world.terminal with
  | .ok a terminal => .ok a { world with terminal }
  | .error fault terminal => .error fault { world with terminal }

/-- Shows a line about a command. -/
def report (text : String) : Act Unit :=
  ofConsole (Console.report text)

/-- Writes a line about a command to the error output. -/
def reportError (text : String) : Act Unit :=
  ofConsole (Console.reportError text)

def ofExcept {ε α : Type} (toFault : ε → Fault) : Except ε α → Act α
  | .ok a => pure a
  | .error e => throw (toFault e)

/-- The outcome of an action, with a fault as a value. -/
def attempt {α : Type} (act : Act α) : Act (Except Fault α) := fun world =>
  match act world with
  | .ok a world => .ok (.ok a) world
  | .error fault world => .ok (.error fault) world

end Act
end LintRemedy
