import LintRemedy.Loop.Run
import LintRemedy.Settings

/-!
This module contains the course of a run from its first scan to its end, with every passage from one
state to the next.
-/

namespace LintRemedy

/-- The amount of what an answer of the analyzer can report. -/
def AnalyzerAnswer.amount (answer : AnalyzerAnswer) : Nat :=
  match answer.outcome with
  | .finished _ stdout _ => stdout.length + 1
  | _ => 1

/-- The amount of what several answers of the analyzer can report. -/
def AnalyzerAnswer.total : List AnalyzerAnswer → Nat
  | [] => 0
  | answer :: answers => answer.amount + total answers

/-- The amount of what others are going to answer. Where the command of the analyzer repairs anyhow,
the answers to repairs are reports, too. -/
def World.amount (world : World) : Nat :=
  AnalyzerAnswer.total world.scans + AnalyzerAnswer.total world.repairs + world.replies.length
    + world.terminal.keyboard.length

namespace Loop

structure Passage (μ : Type) where
  state : State
  event : Event
  after : Run μ

structure Course (μ : Type) where
  passages : List (Passage μ)
  /-- The report, or the fault that has ended the run. -/
  outcome : Except Fault RunRecord
  last : Run μ

variable {μ : Type} (setup : Setup μ)

/-- A number of passages that is large enough: between two scans there are few passages apart from
questions, and what can make a scan necessary is a new answer, or one more try of one of the pairs
that the reports name. -/
def passageLimit (run : Run μ) : Nat :=
  let amount := run.talk.world.amount
  16 * (amount + 2) * (amount + 2) * (setup.operator.patience run.memory + 2)

/-- Follows a run for a number of passages, and closes it if it is over by then. The passages so far
are given, the last one first. -/
def follow : Nat → Run μ → List (Passage μ) → Course μ
  | 0, run, passages => ⟨passages.reverse, .ok run.report, run⟩
  | limit + 1, run, passages =>
    match step setup run with
    | .error fault last => ⟨passages.reverse, .error fault, last⟩
    | .ok (some event) after =>
      follow limit after (⟨run.phase.state, event, after⟩ :: passages)
    | .ok none ended =>
      match finish setup ended with
      | .error fault last => ⟨passages.reverse, .error fault, last⟩
      | .ok report last => ⟨passages.reverse, .ok report, last⟩

/-- The course of a run that starts in a world. -/
def course (memory : μ) (world : World) : Course μ :=
  let run : Run μ := { talk := ⟨world, {}⟩, memory }
  follow setup (passageLimit setup run) run []

def carryOut (memory : μ) : Act RunRecord := fun world =>
  let course := course setup memory world
  match course.outcome with
  | .ok report => .ok report course.last.talk.world
  | .error fault => .error fault course.last.talk.world

structure Request where
  root : String
  target : String
  provider : String
  model : Option String := none
  /-- The lint config, if it is named. -/
  config : Option String := none
deriving DecidableEq, Repr

/-- What a run works with that is asked for. The config is looked for first. -/
def prepare (settings : Settings) (operator : Operator μ) (request : Request) : Act (Setup μ) := do
  let config ← ConfigFile.find request.root request.config
  let channel ← Act.ofExcept id
    (Oracle.Channel.ofName request.provider request.model (.seconds settings.oracleTimeLimit))
  let analyzer ← Act.ofExcept id
    (Analyzer.ofCommandLine request.root settings.analyzerCommand
      (.seconds settings.analyzerTimeLimit))
  return { operator, analyzer, channel, config, target := request.target,
           window := settings.contextWindow }

end Loop
end LintRemedy
