import LintRemedy.CommandLine.Execution
import LintRemedy.Json.Bytes
import LintRemedy.Json.Finite
import LintRemedy.Service.Endpoint
import LintRemedy.Service.Registry

/-!
This module contains the service: it scans a target, starts unattended runs of the repair loop, and
tells about them. A request is answered before the run that it starts goes on.
-/

namespace LintRemedy

structure ServiceRequest where
  method : String
  target : String
  body : Option Content := none
deriving DecidableEq, Repr

structure ServiceResponse where
  status : Nat
  body : Json
  /-- Whether the response tells how long it took. Only an unexpected fault prevents it. -/
  timed : Bool := true
deriving DecidableEq, Repr

structure ServiceSetup where
  settings : Settings
  /-- How the lint config of a project is found to scan it. -/
  findConfig : (root : String) → (named : Option String) → Act String := ConfigFile.find

structure Service where
  world : World
  registry : Registry := []
  /-- The number of runs that it has started. -/
  started : Nat := 0

abbrev Serving := EStateM Fault Service

namespace Service

/-- An action of the world as an action of the service. -/
def ofAct {α : Type} (act : Act α) : Serving α := fun service =>
  match act service.world with
  | .ok a world => .ok a { service with world }
  | .error fault world => .error fault { service with world }

def detailed (status : Nat) (detail : String) : ServiceResponse :=
  { status, body := .obj [("detail", .str detail)] }

/-- A response to a request whose values are of the wrong kinds. -/
def rejected (faults : List FieldFault) : ServiceResponse where
  status := 422
  body :=
    let step : Step → Json := fun
      | .field name => .str name
      | .item index => .int index
    .arr (faults.map fun f =>
      .obj [("loc", .arr (f.place.map step)), ("type", .str f.cause.name)])

/-- Why the body of a request cannot be used. -/
inductive BodyFault where
  | unreadable
  /-- Some values in the body, which is there as far as it can be read, are of the wrong kinds. -/
  | faulty (body : Json) (faults : List FieldFault)
deriving DecidableEq, Repr

def valueAt (v : Json) : List Step → Json
  | [] => v
  | .field name :: place => valueAt (v.field name) place
  | .item index :: place =>
    match v with
    | .arr items => valueAt (items.getD index .null) place
    | _ => .null

/-- The value that a fault in a body is told with: the one that has it, or the one in which
something is missing. -/
def subject (body : Json) (fault : FieldFault) : Json :=
  valueAt body
    (if fault.cause = .missing then fault.place.dropLast.drop 1 else fault.place.drop 1)

/-- Reads the bytes of a body. Empty ones are taken for a missing body. -/
def readBytes {α : Type} (read : List (String × Json) → Checked α) (bytes : List UInt8) :
    Except BodyFault α :=
  let reject := fun (body : Json) (place : List Step) (cause : FieldCause) =>
    Except.error (BodyFault.faulty body [⟨.field "body" :: place, cause⟩])
  if bytes.isEmpty then reject .null [] .missing
  else
    match Json.decodeBytes bytes with
    | .error (.notJson (.malformed _ position _ _)) =>
      reject .null [.item position] .unreadableBody
    | .error _ => .error .unreadable
    | .ok .null => reject .null [] .missing
    | .ok (.obj fields) =>
      match (read fields).under (.field "body") with
      | .ok a => .ok a
      | .faulty faults => .error (.faulty (.obj fields) faults)
    | .ok body => reject body [] .notObject

/-- Goes on with the body of a request, or tells what is wrong with it. That needs the values that
are wrong to be such that they can be told. -/
def withBody {α : Type} (read : List (String × Json) → Checked α) (body : Option Content)
    (next : α → Serving ServiceResponse) : Serving ServiceResponse :=
  match readBytes read (body.elim [] Content.bytes) with
  | .ok a => next a
  | .error .unreadable => return detailed 400 "There was an error parsing the body"
  | .error (.faulty body faults) =>
    if faults.all fun fault => (subject body fault).isFinite then return rejected faults
    else throw .notFinite

/-- The root of the project to which a path belongs: the path itself if it is a directory, else the
directory in which it is. -/
def projectRoot (world : World) (path : String) : String :=
  let path := Path.absolute world.workDir path
  if world.files.isDirectory path then path else Path.directory path

structure ScanRequest where
  path : String
  config : Option String
deriving DecidableEq, Repr

def ScanRequest.read (fields : List (String × Json)) : Checked ScanRequest :=
  ScanRequest.mk
    <$> Field.required Field.text "path" fields
    <*> Field.withDefault none (Field.optional Field.text) "config" fields

/-- The JSON form of what a scan has found. -/
def findings (config : String) (found : Aggregation) : Json :=
  .obj [("config_path", .str config), ("summary", found.summary.toJson),
    ("rules", .arr (found.rules.map RuleGroup.toJson)),
    ("parse_errors", .arr (found.parseErrors.map ParseError.toJson))]

def scan (setup : ServiceSetup) (request : ScanRequest) : Act ServiceResponse := do
  let world ← get
  let root := projectRoot world request.path
  match ← Act.attempt (setup.findConfig root request.config) with
  | .error (.configMissing missing) => return detailed 400 missing.message
  | .error fault => throw fault
  | .ok config =>
    let settings := setup.settings
    let analyzer ← Act.ofExcept id
      (Analyzer.ofCommandLine root settings.analyzerCommand (.seconds settings.analyzerTimeLimit))
    match ← Act.attempt (analyzer.scan (Path.absolute world.workDir request.path)) with
    | .error (.scanFailed failure) => return detailed 502 failure.message
    | .error fault => throw fault
    | .ok found => return { status := 200, body := findings config found }

structure StartRequest where
  path : String
  provider : String
  model : Option String
  config : Option String
deriving DecidableEq, Repr

def StartRequest.read (settings : Settings) (fields : List (String × Json)) :
    Checked StartRequest :=
  StartRequest.mk
    <$> Field.required Field.text "path" fields
    <*> Field.withDefault settings.provider Field.text "provider" fields
    <*> Field.withDefault none (Field.optional Field.text) "model" fields
    <*> Field.withDefault none (Field.optional Field.text) "config" fields

/-- The id of a run by its number: nine digits at least. -/
def runId (number : Nat) : String :=
  let digits := (toString number).toList
  "run" ++ String.ofList (List.replicate (9 - digits.length) '0' ++ digits)

/-- The final report of a run. A run that has crashed is reported as given up. -/
def finalReport {μ : Type} (course : Loop.Course μ) : RunRecord :=
  match course.outcome with
  | .ok report => report
  | .error fault =>
    { course.last.report with status := .quit, message := "Run crashed: " ++ fault.message }

/-- Carries a run out that has been started. -/
def carryOut {μ : Type} (id : String) (setup : Loop.Setup μ) (memory : μ) : Serving Unit :=
  modify fun service =>
    let course := Loop.course setup memory service.world
    { service with
      world := course.last.talk.world
      registry := service.registry.complete id (finalReport course) }

/-- Registers a new run and gives its id. -/
def register (limit : Int) : Serving String := do
  let id := runId ((← get).started + 1)
  modify fun service => { service with
    started := service.started + 1
    registry := service.registry.start limit id }
  return id

def startRun (settings : Settings) (request : StartRequest) : Serving ServiceResponse := do
  if (Provider.find? request.provider).isNone then
    return detailed 400 ("Unknown provider: " ++ request.provider)
  let world := (← get).world
  let run : Loop.Request := {
    root := projectRoot world request.path
    target := Path.absolute world.workDir request.path
    provider := request.provider
    model := some ((request.model.filter (· ≠ "")).getD settings.model)
    config := request.config }
  let operator := Operator.automatic settings.skipBudget true
  match ← ofAct (Act.attempt (Loop.prepare settings operator run)) with
  | .error (.configMissing missing) => return detailed 400 missing.message
  | .error fault => throw fault
  | .ok setup =>
    let id ← register settings.keptRuns
    let response : ServiceResponse := {
      status := 200
      body := .obj [("run_id", .str id), ("status", .str RunStatus.running.name)] }
    carryOut id setup []
    return response

/-- Goes on with the report of a run, or tells that there is no such run. -/
def withRun (id : String) (registry : Registry) (next : RunRecord → ServiceResponse) :
    ServiceResponse :=
  match registry.find? id with
  | some report => next report
  | none => detailed 404 ("Unknown run: " ++ id)

def runStatus (id : String) (registry : Registry) : ServiceResponse :=
  withRun id registry fun report =>
    { status := 200
      body := .obj [("run_id", .str id), ("status", .str report.status.name),
        ("iterations", .int report.iterations), ("total_fixed", .int report.totalFixed),
        ("total_skipped", .int report.totalSkipped)] }

/-- Gives the report of a run that is over. -/
def runResults (id : String) (registry : Registry) : ServiceResponse :=
  withRun id registry fun report =>
    if report.status = .running then detailed 409 "Run still in progress"
    else { status := 200, body := report.toJson }

/-- Answers a request to an endpoint. The pages that describe the service are made elsewhere. -/
def serve (setup : ServiceSetup) (body : Option Content) : Endpoint → Serving ServiceResponse
  | .manual => return { status := 200, body := .str "" }
  | .health =>
    return { status := 200,
             body := .obj [("status", .str "ok"), ("version", .str programVersion)] }
  | .analyze => withBody ScanRequest.read body fun request => ofAct (scan setup request)
  | .startRun => withBody (StartRequest.read setup.settings) body (startRun setup.settings)
  | .runStatus id => return runStatus id (← get).registry
  | .runResults id => return runResults id (← get).registry

/-- The name of a fault of the program's own. -/
def ownName? : Fault → Option String
  | .scanFailed _ => some "ScanFailure"
  | .configMissing _ => some "ConfigMissing"
  | .refused _ => some "OracleError"
  | .internal _ => some "LintPilotError"
  | _ => none

/-- The response to a request that has ended with a fault. -/
def faulted (fault : Fault) : ServiceResponse :=
  match ownName? fault with
  | some name =>
    { status := 500, body := .obj [("detail", .str fault.message), ("error", .str name)] }
  | none => { status := 500, body := .str "Internal Server Error", timed := false }

/-- Answers a request with all of its body. -/
def respondInFull (setup : ServiceSetup) (method : String) (body : Option Content)
    (endpoint : Option Endpoint) (service : Service) : ServiceResponse × Service :=
  match endpoint with
  | none => (detailed 404 "Not Found", service)
  | some endpoint =>
    if method ∉ endpoint.methods then (detailed 405 "Method Not Allowed", service)
    else
      match serve setup body endpoint service with
      | .ok response service => (response, service)
      | .error fault service => (faulted fault, service)

/-- Answers a request. Where only the head is asked for, there is no body. A request whose target is
no place of the service never comes there. -/
def respond (setup : ServiceSetup) (request : ServiceRequest) (service : Service) :
    Except Fault (ServiceResponse × Service) := do
  let endpoint ← Endpoint.ofTarget? request.target
  let method := Text.uppered request.method
  let (response, service) := respondInFull setup method request.body endpoint service
  return (if method = "HEAD" then { response with body := .str "" } else response, service)

end Service
end LintRemedy
