import LintRemedy.Address
import LintRemedy.Files.Basic
import LintRemedy.Finding.Report
import LintRemedy.Json.Decoder
import LintRemedy.Json.Display
import LintRemedy.Number.Fixed
import LintRemedy.Text.Excerpt
import LintRemedy.Text.ShellWords
import LintRemedy.Text.Unencodable
import LintRemedy.TimeLimit

/-!
This module contains the faults that end an operation, by cause, and their wording.
-/

namespace LintRemedy

inductive ScanFault where
  | programMissing (program : String)
  | timedOut (limit : Binary64)
  | notStarted (reason : String)
  | noOutput (detail : String)
  | notJson (fault : Json.DecodeFault)
  | notAList
  | badReport (fault : ReportFault)
  | repairFailed (status : Int) (detail : String)
deriving DecidableEq, Repr

/-- The wording of a scan failure. The fault of a report is not spelled out. -/
def ScanFault.message : ScanFault → String
  | programMissing program => "Analyzer not found: " ++ program
  | timedOut limit => "Analyzer timed out after " ++ limit.fixed 0 ++ "s"
  | notStarted reason => "Analyzer could not be started: " ++ reason
  | noOutput detail => "ESLint produced no output: " ++ detail
  | notJson fault => "ESLint output is not valid JSON: " ++ fault.message
  | notAList => "ESLint output is not a JSON report list"
  | badReport _ => "Unexpected ESLint report structure: <detail>"
  | repairFailed status detail =>
    "eslint --fix failed (status " ++ toString status ++ "): " ++ detail

inductive ConfigFault where
  | named (path : String)
  | noCandidate (candidates : List String)
deriving DecidableEq, Repr

def ConfigFault.message : ConfigFault → String
  | named path => "ESLint config not found: " ++ path
  | noCandidate candidates =>
    "ESLint config not found (looked for: " ++ ", ".intercalate candidates ++ ")"

inductive Fault where
  | scanFailed (failure : ScanFault)
  | configMissing (missing : ConfigFault)
  /-- A provider refuses a request. -/
  | refused (reason : String)
  /-- A program cannot be started. -/
  | system (reason : String)
  /-- Any other fault of the program's own. -/
  | internal (reason : String)
  | unknownProvider (name : String) (available : List String)
  | unknownAction (name : String)
  | unknownState (name : String)
  | unknownEvent (name : String)
  | invalidTransition (state event : String)
  | badNumeral (fault : NumeralFault)
  | badCommand (fault : Text.ShellFault)
  | badJson (fault : Json.DecodeFault)
  /-- A name that no file can have, or a word that no process can be given. -/
  | badName (fault : NameFault)
  /-- A text was to be written that has no bytes. -/
  | unencodable (fault : Text.EncodeFault)
  /-- A value was to be written out that has no such form. -/
  | unrendered (fault : Json.RenderFault)
  | badAddress (fault : AddressFault)
  /-- The host of an address cannot be told in ASCII. -/
  | hostBeyondAscii (fault : Text.EncodeFault)
  /-- The name of the host of an address encodes one that is refused. -/
  | badHostName (fault : HostName.LabelFault)
  /-- An address has a scheme under which nothing is served. -/
  | unknownScheme (scheme : String)
  /-- A request was sent on from place to place without an end. -/
  | sentOnTooOften
  /-- A value with a number that is not finite was to become JSON text. -/
  | notFinite
  | badTimeLimit (fault : TimeLimitFault)
  | badReport (fault : ReportFault)
  /-- A record was made with values of the wrong kinds. -/
  | rejected (record : String) (faults : List FieldFault)
  /-- The handle of a conversation is no text. -/
  | badHandle (handle : Json)
  /-- A record was made of a value without fields. -/
  | notFields (kind : ValueKind)
  /-- A field was asked of a value that has none. -/
  | noField (kind : ValueKind) (field : String)
  /-- A part was cut from a value that has none. -/
  | notSliceable (kind : ValueKind)
  /-- An item was asked of a list that is too short. -/
  | noItem
  /-- The keyboard input has ended at a prompt. -/
  | inputEnded
deriving DecidableEq, Repr

def ReportFault.message : ReportFault → String
  | notWalkable => "value is not iterable"
  | noFields => "value has no attribute 'get'"
  | notNumeric => "value is not a number"
  | badNumeral fault => fault.message
  | undefinedNumber => "cannot convert float NaN to integer"
  | infiniteNumber => "cannot convert float infinity to integer"
  | rejected faults => toString faults.length ++ " validation error for Diagnostic"

/-- What is shown of a value in a message. -/
def Fault.excerptOf (value : Json) : String :=
  match value.inspect with
  | .ok shown => Text.excerpt shown
  | .error _ => "<unprintable " ++ (ValueKind.of value).name ++ " object>"

def Fault.message : Fault → String
  | scanFailed failure => failure.message
  | configMissing missing => missing.message
  | refused reason => reason
  | system reason => reason
  | internal reason => reason
  | unknownProvider name available =>
    "Unknown provider: " ++ name ++ " (available: " ++ ", ".intercalate available ++ ")"
  | unknownAction name => "Unknown action: " ++ name
  | unknownState name => Text.quoted name ++ " is not a valid LoopState"
  | unknownEvent name => Text.quoted name ++ " is not a valid LoopEvent"
  | invalidTransition state event => "Invalid transition: " ++ state ++ " on " ++ event
  | badNumeral fault => fault.message
  | badCommand fault => fault.message
  | badJson fault => fault.message
  | badName fault => fault.message
  | unencodable fault => fault.message
  | unrendered fault => fault.message
  | badAddress fault => fault.message
  | hostBeyondAscii fault => fault.message
  | badHostName fault => fault.message
  | unknownScheme scheme => Text.quoted scheme
  | sentOnTooOften => "Exceeded maximum allowed redirects."
  | notFinite => "Out of range float values are not JSON compliant"
  | badTimeLimit fault => fault.message
  | badReport fault => fault.message
  | rejected record faults =>
    toString faults.length ++ " validation error" ++ (if faults.length = 1 then "" else "s")
      ++ " for " ++ record
  | badHandle handle =>
    "1 validation error for OracleReply\nsession_id\n  Input should be a valid string "
      ++ "[type=string_type, input_value=" ++ excerptOf handle ++ ", input_type="
      ++ (ValueKind.of handle).name ++ "]\n    For further information visit "
      ++ "https://errors.pydantic.dev/2.14/v/string_type"
  | notFields kind => "argument after ** must be a mapping, not " ++ kind.name
  | noField kind field =>
    "'" ++ kind.name ++ "' object has no attribute '" ++ field ++ "'"
  | notSliceable kind =>
    if kind = .object then "unhashable type: 'slice'"
    else "'" ++ kind.name ++ "' object is not subscriptable"
  | noItem => "list index out of range"
  | inputEnded => ""

end LintRemedy
