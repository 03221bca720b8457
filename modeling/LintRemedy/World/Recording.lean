import LintRemedy.Json.Encoder
import LintRemedy.World

/-!
This module contains the reading of recorded surroundings: the files, the answers of the analyzer
and of the oracle, and the typed lines, as a JSON object. Whatever is missing there is missing in
the world.
-/

namespace LintRemedy
namespace Recording

def items : Json → List Json
  | .arr vs => vs
  | _ => []

/-- The fields of an object, none if it is no object. -/
def entries : Json → List (String × Json)
  | .obj fields => fields
  | _ => []

/-- A text, empty if it is none. -/
def text (v : Json) : String :=
  v.str?.getD ""

def texts (v : Json) : List String :=
  (items v).filterMap Json.str?

def whole? : Json → Option Int
  | .int n => some n
  | _ => none

/-- A content: a text, or an object with the bytes in hexadecimal digits. -/
def content (v : Json) : Content :=
  match v with
  | .str s => .text s
  | _ => .ofBytes ((Text.hexBytes? (text (v.field "$hex")).toList).getD [])

/-- The content of a field, empty if there is none. -/
def contentIn (v : Json) (name : String) : Content :=
  ((v.field? name).map content).getD (.text "")

/-- Changes to files. A file without content is deleted. -/
def changes (v : Json) : FileChanges :=
  (entries v).map fun (name, v) => (name, if v = .null then none else some (content v))

def analyzerAnswer (v : Json) : AnalyzerAnswer where
  changes := changes (v.field "files")
  outcome :=
    match v.field "launch" with
    | .str "not_found" => .programMissing
    | .str "timeout" => .timedOut
    | .str reason => .notStarted reason
    | _ =>
      let status := whole? (v.field "rc")
      match v.field? "report" with
      | some report => .finished (status.getD 1) report.encode (text (v.field "stderr"))
      | none =>
        .finished (status.getD 0) (text (v.field "stdout")) (text (v.field "stderr"))

def oracleAnswer (v : Json) : OracleAnswer where
  changes := changes (v.field "files")
  outcome :=
    let status := ((whole? (v.field "status")).getD 200).toNat
    if let .str reason := v.field "launch" then .notStarted reason
    else if let .str reason := v.field "connect" then .unreachable reason
    else if (v.field "timeout").isFilled then .timedOut
    else if (v.field "hang").isFilled then .silent
    else if let some text := v.field? "text" then .spoken status text
    else if let some body := v.field? "json" then .responded status (.text body.encode)
    else if v.hasField "body" ∨ v.hasField "status" then
      .responded status (contentIn v "body")
    else
      let stdout := match v.field? "envelope" with
        | some envelope => .text envelope.encode
        | none => contentIn v "stdout"
      .finished ((whole? (v.field "rc")).getD 0) stdout (contentIn v "stderr")

/-- The terminal at which something is going to be typed. -/
def terminal (input : Json) : Terminal :=
  .fresh ((texts input).flatMap Terminal.typedLines)

/-- The name under which recordings know the working directory. It is an alias only: no absolute
name with it leads there. -/
def shownWorkDir : String := "/w"

def workDir : FileKey := ["recorded-workspace"]

/-- A name with the working directory in the place of its alias. -/
def unaliased (name : String) : String :=
  match Text.after? (shownWorkDir ++ "/").toList name.toList with
  | some rest => "/" ++ "/".intercalate workDir ++ "/" ++ String.ofList rest
  | none => name

/-- The files of a recording in the working directory. -/
def files (v : Json) : Files :=
  let start := fun (files : Files) (name, content) => files.change name content
  let files := (changes (v.field "files")).foldl start (.empty workDir)
  let directory := fun (files : Files) (name : String) =>
    files.makeDirectory (files.keyOf name)
  { (texts (v.field "dirs")).foldl directory files with
    locked := (texts (v.field "readonly")).map unaliased
    halves := true }

def world (v : Json) : World where
  files := files v
  programs := texts (v.field "binaries")
  keys := (entries (v.field "api_keys")).map fun (provider, key) => (provider, text key)
  scans := (items (v.field "scans")).map analyzerAnswer
  repairs := (items (v.field "autofix")).map analyzerAnswer
  replies := (items (v.field "replies")).map oracleAnswer
  terminal := terminal (v.field "input")
  deeds := []

end Recording
end LintRemedy
