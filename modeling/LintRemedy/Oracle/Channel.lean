import LintRemedy.Json.Bytes
import LintRemedy.Oracle.Delivery
import LintRemedy.Oracle.Prompt
import LintRemedy.Oracle.Provider
import LintRemedy.Oracle.Schema
import LintRemedy.Oracle.StatusLine
import LintRemedy.Text.Unencodable
import LintRemedy.World

/-!
This module contains the requests to the oracle. Whatever becomes of a request is a reply: a
payload, or the reason why there is none, with the handle under which the conversation goes on.
-/

namespace LintRemedy

structure Reply where
  /-- The payload, or why there is none. -/
  outcome : Except String Json
  handle : Option String

structure Availability where
  available : Bool
  details : String
  version : String := ""
deriving DecidableEq, Repr

structure Oracle.Channel where
  provider : Provider
  model : String
  timeLimit : TimeLimit
deriving DecidableEq, Repr

namespace Oracle
namespace Channel

/-- What an exchange with the provider yields: a reply with the handle that came with it, or the
reason why there is no reply. -/
inductive Exchange where
  | replied (normalized : Normalized) (handle : Json)
  | failed (reason : String)

/-- The answer past the end of all answers. -/
def exhausted (provider : Provider) : OracleOutcome :=
  if provider.isAgent then .finished 1 (.text "") (.text "") else .responded 503 (.text "")

/-- Takes the next answer. Others may change files before it comes. -/
def takeAnswer (provider : Provider) : Act OracleOutcome := do
  let world ← get
  match world.replies with
  | [] => return exhausted provider
  | answer :: replies =>
    set ({ world with replies }.afterChanges answer.changes)
    return answer.outcome

/-- Whether the program of an agent can be found. -/
def programFound (channel : Channel) : Act Bool := do
  return channel.provider.program ∈ (← get).programs

def key (channel : Channel) : Act String := do
  return (← get).keyFor channel.provider.name

/-- The reason of a process that has printed nothing of use. -/
def exitReason (program : String) (status : Int) (stderr : String) : String :=
  if stderr = "" then program ++ " exited with status " ++ toString status else stderr

def agentCommand (channel : Channel) (schema : Schema) (handle : Option String) : List String :=
  let mode := if channel.provider.transport = .schemaAgent then [] else ["agent"]
  let shape :=
    if channel.provider.transport = .schemaAgent then ["--json-schema", schema.toJson.encode]
    else []
  let resume := match handle with
    | some h => if h = "" then [] else ["--resume", h]
    | none => []
  channel.provider.program :: mode ++ ["-p", "--model", channel.model, "--output-format", "json"]
    ++ shape ++ resume

/-- The fault of a text that goes too deep. -/
def tooDeep (place : Json.TooDeep) : Fault :=
  .badJson (.tooDeep place)

/-- The fault of a reply that can be neither read nor refused. -/
def replyFault : ReplyFault → Fault
  | .tooDeep place => tooDeep place
  | .unshown fault => .unrendered fault

/-- What a reply yields that came with a handle. -/
def exchangeOf (handle : Json) (normalized : Except ReplyFault Normalized) :
    Except Fault Exchange :=
  match normalized with
  | .ok normalized => .ok (.replied normalized handle)
  | .error fault => .error (replyFault fault)

/-- What the output of an agent process yields. A text that is no JSON is a reply of its own, but
only of a process that has ended well. -/
def readAgent (fields : List String) (program : String) (status : Int) (stdout stderr : String) :
    Except Fault Exchange :=
  match Text.trim stdout.toList with
  | [] => .ok (.failed (exitReason program status (Text.trimmed stderr)))
  | cs =>
    match Json.decode cs with
    | .ok reply => exchangeOf (reply.field "session_id") (normalize fields reply)
    | .error (.tooDeep place) => .error (tooDeep place)
    | .error (.tooManyDigits count) =>
      .ok (.failed (Json.DecodeFault.tooManyDigits count).message)
    | .error (.malformed ..) =>
      if status = 0 then exchangeOf .null (Normalized.ofText fields (String.ofList cs))
      else .ok (.failed (exitReason program status (Text.trimmed stderr)))

/-- What an agent process is sent, nothing if it cannot be started. -/
def sentTo (prompt : String) : OracleOutcome → Option String
  | .notStarted _ => none
  | _ => some prompt

/-- Starts an agent program with a command whose prompt cannot be encoded, and so is never sent. -/
def startMute (channel : Channel) (command : List String) (fault : Text.EncodeFault) :
    Act (Option Exchange) := do
  let outcome ← takeAnswer channel.provider
  Act.record (.ranAgent command none false)
  match outcome with
  | .notStarted reason => return some (.failed reason)
  | _ => return some (.failed fault.message)

/-- Starts an agent program with a command and sends it a prompt. -/
def startAgent (channel : Channel) (command : List String) (prompt : String) (schema : Schema) :
    Act (Option Exchange) := do
  let outcome ← takeAnswer channel.provider
  Act.record (.ranAgent command (sentTo prompt outcome) (outcome = .silent))
  match outcome with
  | .finished status stdout stderr =>
    some <$> Act.ofExcept id (readAgent schema.fields channel.provider.program status stdout.lenient
      stderr.lenient)
  | .notStarted reason => return some (.failed reason)
  | .timedOut | .silent => return none
  | .responded .. | .spoken .. | .unreachable _ =>
    some <$> Act.ofExcept id (readAgent schema.fields channel.provider.program 0 "" "")

/-- Sends a prompt to an agent program, unless there is a word in its command that no program can be
given. -/
def askAgent (channel : Channel) (prompt : String) (schema : Schema) (handle : Option String) :
    Act (Option Exchange) := do
  let command := channel.agentCommand schema handle
  let world ← get
  match world.launchFault? command, world.files.textFault? prompt with
  | some fault, _ => return some (.failed fault.message)
  | none, some fault => channel.startMute command fault
  | none, none => channel.startAgent command prompt schema

/-- The name of what a service does that generates content. -/
def contentVerb : String := "generateContent"

def address (channel : Channel) (key : String) : Except AddressFault Address :=
  match channel.provider.transport with
  | .contentService => do
    let address ← Address.parse
      (channel.provider.baseUrl ++ "/models/" ++ channel.model ++ ":" ++ contentVerb)
    address.withQuery ("key=" ++ Text.encodeField key)
  | _ => Address.parse (channel.provider.baseUrl ++ "/chat/completions")

/-- The number one tenth, the temperature of all requests. -/
def temperature : Json :=
  .float (.ofDecimal false 1 (-1))

def body (channel : Channel) (prompt : String) : Json :=
  match channel.provider.transport with
  | .contentService =>
    .obj [("system_instruction", .obj [("parts", .arr [.obj [("text", .str Prompt.system)]])]),
      ("contents", .arr [.obj [("parts", .arr [.obj [("text", .str prompt)]])]]),
      ("generationConfig",
        .obj [("temperature", temperature), ("maxOutputTokens", .int 8192)])]
  | _ =>
    .obj [("model", .str channel.model),
      ("messages", .arr [
        .obj [("role", .str "system"), ("content", .str Prompt.system)],
        .obj [("role", .str "user"), ("content", .str prompt)]]),
      ("temperature", temperature), ("max_tokens", .int 8192)]

/-- The first item of a list or character of a text. -/
def first? : Json → Option Json
  | .arr (v :: _) => some v
  | .str s => s.toList.head?.map fun c => .str c.toString
  | _ => none

/-- The last object on the way to the text of a response. -/
def carrier? (transport : Transport) (response : Json) : Option Json :=
  match transport with
  | .contentService => do
    let candidate ← first? (← response.field? "candidates")
    first? (← (← candidate.field? "content").field? "parts")
  | _ => do
    let choice ← first? (← response.field? "choices")
    choice.field? "message"

/-- The text that a response carries under the last object on the way to it. In a completed chat,
nothing and an empty value are an empty text. -/
def carriedText (transport : Transport) (text : Option Json) : Json :=
  match transport with
  | .contentService => text.getD (.str "")
  | _ => (text.bind Json.filled?).getD (.str "")

/-- The text of a response as it stands there, empty if there is none. -/
def spokenValue (transport : Transport) (response : Json) : Except Fault Json :=
  match carrier? transport response with
  | none => .ok (.str "")
  | some (.obj fields) =>
    let name := if transport = .contentService then "text" else "content"
    .ok (carriedText transport (Json.lookup? name fields))
  | some v => .error (.noField (.of v) "get")

def resultReply (fields : List String) (text : Json) : Except Fault Exchange :=
  match text with
  | .str _ | .arr _ => exchangeOf .null (normalize fields (.obj [("result", text)]))
  | _ => .error (.notSliceable (.of text))

/-- What a response yields that has a text in the form of the service at the address. -/
def readSpoken (fields : List String) (transport : Transport) (status : Nat) (address : Address)
    (text : Json) : Except Fault Exchange :=
  if ¬ StatusLine.isSuccess status then .ok (.failed (StatusLine.failure status address.text))
  else
    let generated := Text.occurs contentVerb.toList address.plainPath.toList
    let understood := generated == (transport == .contentService)
    resultReply fields (carriedText transport (if understood then some text else none))

/-- What a response yields. Its text becomes the result of a reply. -/
def readResponse (fields : List String) (transport : Transport) (status : Nat) (address : Address)
    (content : Content) : Except Fault Exchange :=
  if ¬ StatusLine.isSuccess status then .ok (.failed (StatusLine.failure status address.text))
  else
    match Json.decodeBytes content.bytes with
    | .ok response => spokenValue transport response >>= resultReply fields
    | .error (.notJson (.tooDeep place)) => .error (tooDeep place)
    | .error fault => .ok (.failed fault.message)

/-- What shows a hosted service that a request is allowed, none where its address does that. It is
sent in ASCII. -/
def authorization (channel : Channel) (key : String) : Except String (Option String) :=
  if channel.provider.transport = .contentService then .ok none
  else
    let value := "Bearer " ++ key
    match Text.asciiFault? value.toList with
    | none => .ok (some value)
    | some fault => .error fault.message

/-- Posts a prompt to a hosted service and reads what comes back. -/
def post (channel : Channel) (prompt : String) (schema : Schema) (address : Address)
    (authorization : Option String) : Act (Option Exchange) := do
  let outcome ← takeAnswer channel.provider
  Act.record (.posted address.text authorization (channel.body prompt))
  let transport := channel.provider.transport
  let read := readResponse schema.fields transport
  match outcome with
  | .responded status content => some <$> Act.ofExcept id (read status address content)
  | .spoken status text =>
    some <$> Act.ofExcept id (readSpoken schema.fields transport status address text)
  | .unreachable reason => return some (.failed reason)
  | .timedOut | .silent => return none
  | .finished .. | .notStarted _ => some <$> Act.ofExcept id (read 200 address (.text ""))

def askService (channel : Channel) (prompt : String) (schema : Schema) : Act (Option Exchange) := do
  let key ← channel.key
  if key = "" then return some (.failed ("No API key configured for " ++ channel.provider.name))
  match channel.authorization key with
  | .error reason => return some (.failed reason)
  | .ok authorization =>
    let address ← Act.ofExcept .badAddress (channel.address key)
    channel.post prompt schema address authorization

/-- Sends a prompt in the way of the provider. Without any time to answer, nothing is sent. -/
def send (channel : Channel) (prompt : String) (schema : Schema) (handle : Option String) :
    Act (Option Exchange) := do
  if ← Act.ofExcept .badTimeLimit channel.timeLimit.isOver then return none
  else if channel.provider.isAgent then channel.askAgent prompt schema handle
  else channel.askService prompt schema

/-- The handle under which a conversation goes on: the one that came with the reply, or else the one
that was sent. -/
def nextHandle (came : Json) (sent : Option String) : Except Fault (Option String) :=
  match came.filled? with
  | none => .ok sent
  | some (.str handle) => .ok (some handle)
  | some handle => .error (.badHandle handle)

/-- The reply to a request. A payload is put into the log as JSON text before it is handed on. -/
def request (channel : Channel) (prompt : String) (schema : Schema) (handle : Option String) :
    Act Reply := do
  let prompt :=
    if channel.provider.transport = .schemaAgent then prompt else schema.hint prompt
  match ← channel.send prompt schema handle with
  | none =>
    let limit ← Act.ofExcept .badTimeLimit channel.timeLimit.number
    return ⟨.error ("Timed out after " ++ limit.fixed 0 ++ "s"), handle⟩
  | some (.failed reason) => return ⟨.error reason, handle⟩
  | some (.replied normalized came) =>
    Act.ofExcept .unrendered normalized.logged
    let next ← Act.ofExcept id (nextHandle came handle)
    return ⟨normalized.outcome, next⟩

def askExplanation (channel : Channel) (rule source messages : String) (handle : Option String) :
    Act Reply :=
  channel.request (Prompt.explain rule source messages) .explain handle

def askReplacement (channel : Channel) (rule file : String) (line : Int) (message context : String)
    (handle : Option String) : Act Reply :=
  channel.request (Prompt.fix rule file line message context) .fix handle

def askConfigChange (channel : Channel) (rule config : String) (handle : Option String) :
    Act Reply :=
  channel.request (Prompt.disable rule config) .disable handle

def askAnswer (channel : Channel) (question context : String) (handle : Option String) :
    Act Reply :=
  channel.request (Prompt.question question context) .question handle

def isUsable (channel : Channel) : Act Bool := do
  if channel.provider.isAgent then channel.programFound
  else return (← channel.key) ≠ ""

/-- The arguments with which an agent tells its version. -/
def versionArguments (provider : Provider) : List String :=
  if provider.transport = .schemaAgent then ["--version"] else ["agent", "status"]

def loginArguments (provider : Provider) : List String :=
  if provider.transport = .schemaAgent then ["setup-token"] else ["agent", "login"]

/-- The reason that the program of an agent is not there. -/
def notInstalled (provider : Provider) : String :=
  provider.program ++ " CLI not found. Install it first."

/-- What an agent prints about its version, or why it does not. -/
def version (channel : Channel) : Act (Except String String) := do
  let provider := channel.provider
  let arguments := versionArguments provider
  let command := provider.program :: arguments
  let line := " ".intercalate command
  let outcome ← takeAnswer provider
  Act.record (.ranAgent command none (outcome = .timedOut ∨ outcome = .silent))
  match outcome with
  | .finished status stdout _ =>
    if status = 0 then return .ok (Text.trimmed stdout.lenient)
    else return .error (line ++ " exited with " ++ toString status)
  | .notStarted reason => return .error reason
  | .timedOut | .silent => return .error (line ++ " timed out")
  | .responded .. | .spoken .. | .unreachable _ => return .ok ""

def status (channel : Channel) : Act Availability := do
  let provider := channel.provider
  if provider.isAgent then
    if ¬ (← channel.programFound) then return ⟨false, notInstalled provider, ""⟩
    match ← channel.version with
    | .error reason => return ⟨false, reason, ""⟩
    | .ok version => return ⟨true, provider.program ++ " CLI is available", version⟩
  else if (← channel.key) ≠ "" then
    return ⟨true, "API key configured for " ++ provider.name, ""⟩
  else
    return ⟨false, "No API key configured for " ++ provider.name ++ " (set it in .env)", ""⟩

def login (channel : Channel) : Act Unit := do
  let provider := channel.provider
  if ¬ provider.isAgent then
    throw (.refused (provider.name ++ " uses an API key; set "
      ++ String.ofList (provider.name.toList.map Char.toUpper) ++ "_API_KEY in your .env file"))
  if ¬ (← channel.programFound) then throw (.refused (notInstalled provider))
  let outcome ← takeAnswer provider
  Act.record (.ranAgent (provider.program :: loginArguments provider) none false)
  match outcome with
  | .finished status _ _ =>
    if status ≠ 0 then throw (.refused ("Login exited with status " ++ toString status))
  | .notStarted reason => throw (.system reason)
  | _ => return ()

end Channel

def Channel.ofName (name : String) (model : Option String) (timeLimit : TimeLimit) :
    Except Fault Channel := do
  let provider ← Provider.ofName name
  return ⟨provider, provider.model model, timeLimit⟩

end Oracle
end LintRemedy
