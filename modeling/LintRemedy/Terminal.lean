import LintRemedy.Fault
import LintRemedy.Text.Lines
import LintRemedy.Text.Style

/-!
This module contains the terminal: the lines that are going to be typed, the text that has been
shown, and the prompts that ask for a line.
-/

namespace LintRemedy

structure Terminal where
  /-- The lines that are going to be typed. -/
  keyboard : List String
  stdout : String
  stderr : String
deriving DecidableEq, Repr

abbrev Console := EStateM Fault Terminal

/-- A terminal on which nothing has been shown. -/
def Terminal.fresh (keyboard : List String) : Terminal :=
  ⟨keyboard, "", ""⟩

/-- The lines of what is typed. Any line ending inside it ends a line. -/
def Terminal.typedLines (typed : String) : List String :=
  let lines := Text.splitLines (Text.unifyLines (typed.toList ++ ['\n']))
  lines.dropLast.map String.ofList

namespace Console

def ofExcept {α : Type} : Except Fault α → Console α
  | .ok a => return a
  | .error fault => throw fault

/-- Shows text. Control codes do not reach the terminal. -/
def print (text : String) : Console Unit :=
  modify fun terminal => { terminal with stdout := terminal.stdout ++ Text.plain text }

def printLine (text : String) : Console Unit :=
  print (text ++ "\n")

/-- Shows a line unless it has to be quiet. -/
def announce (quiet : Bool) (text : String) : Console Unit :=
  if quiet then return () else printLine text

/-- Shows a line about a command. Only control codes in common use are kept from the terminal. -/
def report (text : String) : Console Unit :=
  modify fun terminal =>
    { terminal with
      stdout := terminal.stdout ++ Text.withoutCodes .common (text ++ "\n") }

/-- Writes a line about a command to the error output, in the same way. -/
def reportError (text : String) : Console Unit :=
  modify fun terminal =>
    { terminal with
      stderr := terminal.stderr ++ Text.withoutCodes .common (text ++ "\n") }

/-- Shows a prompt and takes the next line, which is shown as it is typed. -/
def readLine (prompt : String) : Console String := do
  print prompt
  match (← get).keyboard with
  | [] => throw .inputEnded
  | line :: keyboard =>
    modify fun terminal => { terminal with keyboard, stdout := terminal.stdout ++ line ++ "\n" }
    return line

/-- Asks a question. An empty line takes the default, which is shown if it is not empty. -/
def ask (question : String) (default : String) : Console String := do
  let hint := if default = "" then "" else " [" ++ default ++ "]"
  let line ← readLine (question ++ hint ++ ": ")
  return if line = "" then default else line

/-- The decision that a line spells. An empty line takes the default. -/
def decision? (default : Bool) (line : String) : Option Bool :=
  let word := Text.trimmed (Text.lowered line)
  if word = "y" ∨ word = "yes" then some true
  else if word = "n" ∨ word = "no" then some false
  else if word = "" then some default
  else none

/-- Asks for a decision for every line that is going to be typed, up to the first that spells one.
-/
def confirmAmong (question : String) (default : Bool) : List String → Console Bool
  | [] => do
    let _ ← readLine question
    throw .inputEnded
  | _ :: lines => do
    let line ← readLine question
    match decision? default line with
    | some decision => return decision
    | none =>
      printLine "Error: invalid input"
      confirmAmong question default lines

/-- Asks for a decision until the line spells one. -/
def confirm (question : String) (default : Bool) : Console Bool := do
  let hint := if default then " [Y/n]: " else " [y/N]: "
  confirmAmong (question ++ hint) default (← get).keyboard

end Console
end LintRemedy
