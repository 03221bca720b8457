import LintRemedy.Proofs.Outcome
import LintRemedy.Proofs.World.Account

/-!
This module contains what a run of the analyzer comes to: a process that can be started is answered
once, and all the rest depends on this answer alone.
-/

namespace LintRemedy

open LintRemedy.Action

namespace Analyzer

def dueAnswer (world : World) (command : List String) : AnalyzerAnswer :=
  if "--fix" ∈ command then (nextAnswer world.repairs).1.getD ⟨.finished 0 "" "", []⟩
  else (nextAnswer world.scans).1.getD ⟨.programMissing, []⟩

def withoutAnswer (world : World) (command : List String) : World :=
  if "--fix" ∈ command then { world with repairs := (nextAnswer world.repairs).2 }
  else { world with scans := (nextAnswer world.scans).2 }

/-- What keeps a process from being started. -/
def launchFault? (analyzer : Analyzer) (arguments : List String) (world : World) :
    Option NameFault :=
  world.launchFault? (analyzer.command ++ arguments ++ [analyzer.root])

def changes (analyzer : Analyzer) (arguments : List String) (world : World) : FileChanges :=
  match analyzer.launchFault? arguments world with
  | some _ => []
  | none => (dueAnswer world (analyzer.command ++ arguments)).changes

def result (analyzer : Analyzer) (arguments : List String) (world : World) :
    Except Fault (Int × String × String) :=
  match analyzer.launchFault? arguments world with
  | some fault => .error (.badName fault)
  | none => analyzer.ended (dueAnswer world (analyzer.command ++ arguments)).outcome

/-- The world that a run of the analyzer leaves. -/
def ranWorld (analyzer : Analyzer) (arguments : List String) (world : World) : World :=
  let recorded := world.record (.ranAnalyzer (analyzer.command ++ arguments) analyzer.root)
  match analyzer.launchFault? arguments world with
  | some _ => recorded
  | none =>
    (withoutAnswer recorded (analyzer.command ++ arguments)).afterChanges
      (dueAnswer world (analyzer.command ++ arguments)).changes

variable (analyzer : Analyzer) (arguments : List String) (world : World)

theorem takeAnswer_eq (command : List String) :
    takeAnswer command world = .ok (dueAnswer world command) (withoutAnswer world command) := by
  unfold takeAnswer dueAnswer withoutAnswer
  by_cases h : "--fix" ∈ command
  · simp only [if_pos h]
    rfl
  · simp only [if_neg h]
    rfl

theorem run_eq : analyzer.run arguments world =
    Act.ofExcept id (analyzer.result arguments world) (analyzer.ranWorld arguments world) := by
  unfold run
  refine (bind_of_ok rfl).trans ((bind_of_ok rfl).trans ?_)
  unfold result ranWorld
  -- What is recorded has no part in what can be started.
  have hrecorded : (world.record (.ranAnalyzer (analyzer.command ++ arguments)
      analyzer.root)).launchFault? (analyzer.command ++ arguments ++ [analyzer.root]) =
      analyzer.launchFault? arguments world := rfl
  rw [hrecorded]
  cases analyzer.launchFault? arguments world with
  | some fault => rfl
  | none => exact (bind_of_ok (takeAnswer_eq _ _)).trans (bind_of_ok rfl)

theorem left_run :
    left (analyzer.run arguments world) = analyzer.ranWorld arguments world := by
  rw [run_eq, Act.left_ofExcept]

theorem withoutAnswer_files (command : List String) :
    (withoutAnswer world command).files = world.files := by
  unfold withoutAnswer
  split <;> rfl

theorem withoutAnswer_deeds (command : List String) :
    (withoutAnswer world command).deeds = world.deeds := by
  unfold withoutAnswer
  split <;> rfl

theorem ranWorld_files : (analyzer.ranWorld arguments world).files =
    world.files.afterChanges (analyzer.changes arguments world) := by
  unfold ranWorld changes
  cases analyzer.launchFault? arguments world with
  | some fault => rfl
  | none => exact congrArg (Files.afterChanges · _) (withoutAnswer_files _ _)

theorem ranWorld_deeds : (analyzer.ranWorld arguments world).deeds =
    world.deeds ++ [.ranAnalyzer (analyzer.command ++ arguments) analyzer.root] := by
  unfold ranWorld
  cases analyzer.launchFault? arguments world with
  | some fault => rfl
  | none => exact withoutAnswer_deeds _ _

end Analyzer
end LintRemedy
