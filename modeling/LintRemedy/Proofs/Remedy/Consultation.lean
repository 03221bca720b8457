import LintRemedy.Proofs.Remedy.Capture
import LintRemedy.Proofs.Remedy.Legibility

/-!
This module contains the consultation of an oracle about a rule group. A bundle can be made with any
oracle, of which the channels are examples: it may reply whatever it likes, and files may change until
it does. The locations are visited one after the other, and a visit asks once if the file can be read.
-/

namespace LintRemedy

open LintRemedy.Action

namespace Remedy

/-- What an oracle is asked about a rule group. -/
inductive Inquiry where
  | explanation (rule source messages : String)
  | configChange (rule config : String)
  | replacement (rule file : String) (line : Int) (message code : String)
deriving DecidableEq, Repr

/-- An oracle, which is asked under the handle of a conversation. -/
abbrev Consultant := Inquiry → Option String → Act Reply

def Consultant.ofChannel (channel : Oracle.Channel) : Consultant
  | .explanation rule source messages => channel.askExplanation rule source messages
  | .configChange rule config => channel.askConfigChange rule config
  | .replacement rule file line message code =>
    channel.askReplacement rule file line message code

section Generation

variable (oracle : Consultant) (window : Int)

/-- The fix of one location, and whether an oracle has given a payload for it. -/
def replacementBy (rule message : String) (location : Location) :
    Dialogue (Option Replacement × Bool) := do
  let file := location.fileFull
  match ← (currentLines file : Act _) with
  | none => return (none, false)
  | some lines =>
    let code := context lines location.line window
    let reply ← converse (oracle (.replacement rule file location.line message code))
    match payloadIn? reply with
    | none => return (none, false)
    | some payload =>
      match ← (currentLines file : Act _) with
      | none => return (none, true)
      | some lines => return (fixOf? file lines payload, true)

/-- The fixes of the locations in their order, and whether there was a payload for one of them. -/
def replacementsBy (rule message : String) :
    List Location → Dialogue (List Replacement × Bool)
  | [] => return ([], false)
  | location :: locations => do
    let (fix, replied) ← replacementBy oracle window rule message location
    let (fixes, repliedLater) ← replacementsBy rule message locations
    return (fix.toList ++ fixes, replied || repliedLater)

/-- The bundle that comes of the consultation of an oracle. -/
def consult (group : RuleGroup) (config : String) : Dialogue (Option Bundle) := do
  match group.ruleId with
  | none => return none
  | some rule =>
    let explanation ← inquire explanation?
      (oracle (.explanation rule (Text.unlines group.sampleSource)
        (Text.unlines group.sampleMessages)))
    let edit ← inquire configChange? (oracle (.configChange rule config))
    let message := group.sampleMessages.head?.getD ""
    let (fixes, replied) ← replacementsBy oracle window rule message group.locations
    if explanation.isNone ∧ edit.isNone ∧ ¬ replied then return none
    else
      return some {
        ruleId := rule
        count := fixes.length
        severity := group.severity
        explain := explanation.getD placeholder
        disable := edit.getD noChange
        fixes }

end Generation

section Channels

variable (channel : Oracle.Channel) (window : Int)

theorem replacementsAt_eq (rule message : String) (locations : List Location) :
    replacementsAt channel window rule message locations =
      replacementsBy (.ofChannel channel) window rule message locations := by
  induction locations with
  | nil => rfl
  | cons location locations ih =>
    unfold replacementsAt replacementsBy
    rw [ih]
    rfl

/-- A bundle is made by the consultation of the oracle behind the channel. -/
theorem gather_eq_consult (group : RuleGroup) (config : String) :
    gather channel window group config = consult (.ofChannel channel) window group config := by
  unfold gather consult
  simp only [replacementsAt_eq]
  rfl

end Channels

section Reading

variable {file content : String} {fault : FileFault} {talk : Talk}

theorem currentLines_of_readText (h : talk.world.files.readText file = .ok content) :
    Dialogue.ofAct (currentLines file) talk = .ok (some (Text.lines content)) talk := by
  have hlines : currentLines file talk.world = .ok (some (Text.lines content)) talk.world := by
    unfold currentLines
    rw [bind_of_ok (get_eq_ok.2 ⟨rfl, rfl⟩), h]
    rfl
  exact Dialogue.ofAct_eq_ok.2 ⟨_, hlines, rfl⟩

theorem currentLines_of_fault (h : talk.world.files.readText file = .error fault)
    (named : ∀ cause, fault ≠ .badName cause) :
    Dialogue.ofAct (currentLines file) talk = .ok none talk := by
  have hlines : currentLines file talk.world = .ok none talk.world := by
    unfold currentLines
    rw [bind_of_ok (get_eq_ok.2 ⟨rfl, rfl⟩), h]
    cases fault with
    | badName cause => exact absurd rfl (named cause)
    | unavailable | notText => rfl
  exact Dialogue.ofAct_eq_ok.2 ⟨_, hlines, rfl⟩

theorem currentLines_of_badName {cause : NameFault}
    (h : talk.world.files.readText file = .error (.badName cause)) :
    Dialogue.ofAct (currentLines file) talk = .error (.badName cause) talk := by
  have hlines : currentLines file talk.world = .error (.badName cause) talk.world := by
    unfold currentLines
    rw [bind_of_ok (get_eq_ok.2 ⟨rfl, rfl⟩), h]
    rfl
  exact Dialogue.ofAct_eq_error.2 ⟨_, hlines, rfl⟩

theorem payloadIn?_eq_some_iff {reply : Reply} {payload : Json} :
    payloadIn? reply = some payload ↔ reply.outcome = .ok payload ∧ payload.isFilled := by
  unfold payloadIn?
  cases reply.outcome with
  | error _ => simp [Except.toOption]
  | ok value =>
    simp only [Except.toOption, Option.bind_some, Json.filled?, Except.ok.injEq]
    split
    · next filled =>
      simp only [Option.some.injEq]
      constructor
      · rintro rfl
        exact ⟨rfl, filled⟩
      · exact And.left
    · next empty =>
      simp only [reduceCtorEq, false_iff, not_and]
      rintro rfl
      exact empty

end Reading

/-- What has come of the visit of a location: its file could not be read, or the oracle was asked and
has replied, and then the file was read again. -/
inductive Visit where
  | unread (location : Location)
  | asked (location : Location) (reply : Reply) (reread : Except FileFault String)

namespace Visit

def location : Visit → Location
  | unread location => location
  | asked location _ _ => location

def payload? : Visit → Option Json
  | unread _ => none
  | asked _ reply _ => payloadIn? reply

def fix? : Visit → Option Replacement
  | asked location reply (.ok content) =>
    (payloadIn? reply).bind (fixOf? location.fileFull (Text.lines content))
  | _ => none

theorem fix?_of_none {location : Location} {reply : Reply} {reread : Except FileFault String}
    (h : payloadIn? reply = none) : (asked location reply reread).fix? = none := by
  unfold fix?
  cases reread with
  | ok content =>
    dsimp only
    rw [h, Option.bind_none]
  | error _ => rfl

theorem fix?_of_some {location : Location} {reply : Reply} {content : String} {payload : Json}
    (h : payloadIn? reply = some payload) : (asked location reply (.ok content)).fix? =
      fixOf? location.fileFull (Text.lines content) payload := by
  unfold fix?
  dsimp only
  rw [h, Option.bind_some]

end Visit

/-- The lines and the new code of a fix are those of a payload. -/
structure Proposes (payload : Json) (fix : Replacement) : Prop where
  startLine : payload.field "start_line" = .int fix.startLine
  endLine : payload.field "end_line" = .int fix.endLine
  fixed : payload.field "fixed_code" = .str fix.new
  nonEmpty : fix.new ≠ ""
  explanation : fix.explanation =
    (payload.field "explanation").nonEmptyStr?.getD "No explanation provided"

/-- A visit supports a fix for its location: the reply proposes it, and its old code is what its lines
hold in the file that was read again. -/
inductive Visit.Supports : Visit → Replacement → Prop where
  | asked {location : Location} {reply : Reply} {content : String} {payload : Json}
      {fix : Replacement} (replied : reply.outcome = .ok payload) (filled : payload.isFilled)
      (file : fix.file = location.fileFull) (captures : fix.Captures content)
      (proposes : Proposes payload fix) : Supports (asked location reply (.ok content)) fix

section Fixes

variable {file content : String} {payload : Json} {fix : Replacement}

theorem wholeNumber?_eq_some_iff {value : Json} {n : Int} :
    wholeNumber? value = some n ↔ value = .int n := by
  unfold wholeNumber?
  cases value <;> simp

theorem proposes_of_fixOf? (h : fixOf? file (Text.lines content) payload = some fix) :
    Proposes payload fix := by
  unfold fixOf? at h
  obtain ⟨proposal, hproposal, h⟩ := Option.bind_eq_some_iff.1 h
  cases h
  unfold Proposal.ofPayload? at hproposal
  obtain ⟨startLine, hstart, h⟩ := Option.bind_eq_some_iff.1 hproposal
  obtain ⟨endLine, hend, h⟩ := Option.bind_eq_some_iff.1 h
  split at h
  · cases h
  · obtain ⟨fixed, hfixed, h⟩ := Option.bind_eq_some_iff.1 h
    cases h
    obtain ⟨hnew, nonEmpty⟩ := nonEmptyStr?_eq_some_iff.1 hfixed
    exact ⟨wholeNumber?_eq_some_iff.1 hstart, wholeNumber?_eq_some_iff.1 hend, hnew, nonEmpty, rfl⟩

theorem fixOf?_of_proposes (hfile : fix.file = file) (captures : fix.Captures content)
    (proposes : Proposes payload fix) :
    fixOf? file (Text.lines content) payload = some fix := by
  have hstart := captures.start_pos
  have hle := captures.start_le
  have hend := captures.end_le
  have inside : ¬ (fix.startLine < 1 ∨ fix.endLine < fix.startLine ∨
      ((Text.lines content).length : Int) < fix.endLine) := by omega
  have hproposal : Proposal.ofPayload? payload (Text.lines content).length =
      some ⟨fix.startLine, fix.endLine, fix.new, fix.explanation⟩ := by
    unfold Proposal.ofPayload?
    rw [wholeNumber?_eq_some_iff.2 proposes.startLine, wholeNumber?_eq_some_iff.2 proposes.endLine,
      nonEmptyStr?_eq_some_iff.2 ⟨proposes.fixed, proposes.nonEmpty⟩, ← proposes.explanation]
    dsimp only [Option.bind_eq_bind, Option.bind_some]
    rw [if_neg inside]
    rfl
  unfold fixOf?
  rw [hproposal, Option.bind_eq_bind, Option.bind_some, ← hfile]
  have hold := captures.old_eq
  unfold Replacement.linesWithin at hold
  dsimp only
  rw [← hold]
  rfl

/-- A fix comes of a visit exactly if the visit supports it. -/
theorem Visit.fix?_eq_some_iff {visit : Visit} : visit.fix? = some fix ↔ visit.Supports fix := by
  constructor
  · intro h
    unfold fix? at h
    split at h
    · obtain ⟨payload, hpayload, hfix⟩ := Option.bind_eq_some_iff.1 h
      obtain ⟨replied, filled⟩ := payloadIn?_eq_some_iff.1 hpayload
      obtain ⟨file, captures⟩ := captures_of_fixOf? hfix
      exact .asked replied filled file captures (proposes_of_fixOf? hfix)
    · cases h
  · intro supports
    cases supports with
    | asked replied filled file captures proposes =>
      rw [fix?_of_some (payloadIn?_eq_some_iff.2 ⟨replied, filled⟩)]
      exact fixOf?_of_proposes file captures proposes

end Fixes

end Remedy

end LintRemedy
