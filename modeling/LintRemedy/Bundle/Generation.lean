import LintRemedy.Bundle.Basic
import LintRemedy.Oracle.Channel
import LintRemedy.Oracle.Conversation
import LintRemedy.Text.Lines
import LintRemedy.RuleGroup

/-!
This module contains the making of a bundle for a rule group: the oracle is asked for an
explanation, for a change of the lint config, and for a fix of every location, one after the other.
What it proposes for a location is checked against the file as it is then, and nothing is written.
-/

namespace LintRemedy

structure Talk where
  world : World
  conversation : Conversation
deriving DecidableEq, Repr

/-- An action that may take part in the conversation. -/
abbrev Dialogue := EStateM Fault Talk

/-- An action of the world as a part of a dialogue. -/
def Dialogue.ofAct {α : Type} (act : Act α) : Dialogue α := fun talk =>
  match act talk.world with
  | .ok a world => .ok a { talk with world }
  | .error fault world => .error fault { talk with world }

instance : MonadLift Act Dialogue := ⟨Dialogue.ofAct⟩

namespace Remedy

/-- The explanation in the place of one that could not be had. -/
def placeholder : Explanation where
  problem := "Failed to generate explanation"
  reason := "N/A"
  guidance := "Check the ESLint documentation for this rule"
  priority := .medium

/-- The change of the config in the place of one that could not be had. -/
def noChange : ConfigChange :=
  ⟨"", "Failed to generate"⟩

/-- The lines around a line, counted from one, with their numbers in front. -/
def context (lines : List String) (line window : Int) : String :=
  let start := (max 0 (line - window - 1)).toNat
  let stop := (min (lines.length : Int) (line + window)).toNat
  Text.unlines (((lines.zipIdx).take stop).drop start |>.map fun (text, i) =>
    toString (i + 1) ++ "\t" ++ text)

structure Proposal where
  startLine : Int
  endLine : Int
  fixed : String
  explanation : String
deriving DecidableEq, Repr

/-- The whole number of a value. A flag or a binary number is none. -/
def wholeNumber? : Json → Option Int
  | .int n => some n
  | _ => none

/-- The proposal in a payload, if its lines are in the file and its code is not empty. -/
def Proposal.ofPayload? (payload : Json) (lineCount : Nat) : Option Proposal := do
  let startLine ← wholeNumber? (payload.field "start_line")
  let endLine ← wholeNumber? (payload.field "end_line")
  if startLine < 1 ∨ endLine < startLine ∨ (lineCount : Int) < endLine then none
  else
    let fixed ← (payload.field "fixed_code").nonEmptyStr?
    let explanation :=
      (payload.field "explanation").nonEmptyStr?.getD "No explanation provided"
    return ⟨startLine, endLine, fixed, explanation⟩

/-- The display form of a field that is filled, else nothing. -/
def shownField (payload : Json) (name : String) : Except Json.RenderFault String :=
  match (payload.field name).filled? with
  | some value => value.display
  | none => .ok ""

def explanation? (payload : Json) : Except Json.RenderFault (Option Explanation) := do
  match (payload.field "problem_description").nonEmptyStr? with
  | none => return none
  | some problem =>
    let reason ← shownField payload "why_problem"
    let guidance ← shownField payload "how_to_fix"
    let priority := ((payload.field "priority").str?.bind Priority.ofName?).getD .medium
    return some ⟨problem, reason, guidance, priority⟩

def configChange? (payload : Json) : Except Json.RenderFault (Option ConfigChange) := do
  match (payload.field "modified_config").str? with
  | none => return none
  | some modified =>
    let description ← shownField payload "diff_description"
    return some ⟨modified, description⟩

def answer? (payload : Json) : Option Answer := do
  let answer ← (payload.field "answer").nonEmptyStr?
  return ⟨answer, (payload.field "code_suggestion").nonEmptyStr?⟩

def payloadIn? (reply : Reply) : Option Json :=
  reply.outcome.toOption.bind Json.filled?

/-- What is read from the payload of a reply, nothing if there is none. -/
def readIn {α : Type} (read : Json → Except Json.RenderFault (Option α)) (reply : Reply) :
    Except Json.RenderFault (Option α) :=
  match payloadIn? reply with
  | some payload => read payload
  | none => .ok none

/-- Asks the oracle under the handle of the conversation, which the reply may renew. -/
def converse (ask : Option String → Act Reply) : Dialogue Reply := do
  let reply ← ask (← get).conversation.handle
  modify fun talk => { talk with conversation := talk.conversation.update reply.handle }
  return reply

/-- Asks the oracle for what is read from the payload of its reply. -/
def inquire {α : Type} (read : Json → Except Json.RenderFault (Option α))
    (ask : Option String → Act Reply) : Dialogue (Option α) := do
  let reply ← converse ask
  (Act.ofExcept .unrendered (readIn read reply) : Act _)

/-- The lines of a file, none if it cannot be read. -/
def currentLines (file : String) : Act (Option (List String)) := do
  match (← get).files.readText file with
  | .ok content => return some (Text.lines content)
  | .error (.badName fault) => throw (.badName fault)
  | .error _ => return none

/-- The fix that a payload proposes for a file with these lines. -/
def fixOf? (file : String) (lines : List String) (payload : Json) : Option Replacement := do
  let proposal ← Proposal.ofPayload? payload lines.length
  let old := (lines.take proposal.endLine.toNat).drop (proposal.startLine - 1).toNat
  return {
    file
    startLine := proposal.startLine
    endLine := proposal.endLine
    old := Text.unlines old
    new := proposal.fixed
    explanation := proposal.explanation }

/-- The fix of one location, and whether the oracle has given a payload for it. -/
def replacementAt (channel : Oracle.Channel) (window : Int) (rule message : String)
    (location : Location) : Dialogue (Option Replacement × Bool) := do
  let file := location.fileFull
  match ← (currentLines file : Act _) with
  | none => return (none, false)
  | some lines =>
    let code := context lines location.line window
    let reply ← converse (channel.askReplacement rule file location.line message code)
    match payloadIn? reply with
    | none => return (none, false)
    | some payload =>
      match ← (currentLines file : Act _) with
      | none => return (none, true)
      | some lines => return (fixOf? file lines payload, true)

/-- The fixes of the locations in their order, and whether there was a payload for one of them. -/
def replacementsAt (channel : Oracle.Channel) (window : Int) (rule message : String) :
    List Location → Dialogue (List Replacement × Bool)
  | [] => return ([], false)
  | location :: locations => do
    let (fix, replied) ← replacementAt channel window rule message location
    let (fixes, repliedLater) ← replacementsAt channel window rule message locations
    return (fix.toList ++ fixes, replied || repliedLater)

/-- The bundle for a rule group. There is none without a rule, or without any usable reply. -/
def gather (channel : Oracle.Channel) (window : Int) (group : RuleGroup) (config : String) :
    Dialogue (Option Bundle) := do
  match group.ruleId with
  | none => return none
  | some rule =>
    let explanation ← inquire explanation?
      (channel.askExplanation rule (Text.unlines group.sampleSource)
        (Text.unlines group.sampleMessages))
    let edit ← inquire configChange? (channel.askConfigChange rule config)
    let message := group.sampleMessages.head?.getD ""
    let (fixes, replied) ← replacementsAt channel window rule message group.locations
    if explanation.isNone ∧ edit.isNone ∧ ¬ replied then return none
    else
      return some {
        ruleId := rule
        count := fixes.length
        severity := group.severity
        explain := explanation.getD placeholder
        disable := edit.getD noChange
        fixes }

/-- What the oracle is told about a bundle along with a question. -/
def questionContext (bundle : Bundle) : String :=
  "Rule: " ++ bundle.ruleId ++ "\nProblem: " ++ bundle.explain.problem ++ "\nFix: "
    ++ bundle.explain.guidance

def answerQuestion (channel : Oracle.Channel) (bundle : Bundle) (question : String) :
    Dialogue (Option Answer) := do
  let reply ← converse (channel.askAnswer question (questionContext bundle))
  return (payloadIn? reply).bind answer?

end Remedy
end LintRemedy
