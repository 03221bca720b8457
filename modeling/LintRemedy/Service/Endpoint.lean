import LintRemedy.Fault

/-!
This module contains the endpoints of the service and their addresses.
-/

namespace LintRemedy

inductive Endpoint where
  /-- One of the pages that describe the service. -/
  | manual
  | health
  | analyze
  | startRun
  | runStatus (id : String)
  | runResults (id : String)
deriving DecidableEq, Repr

namespace Endpoint

def methods : Endpoint → List String
  | manual => ["GET", "HEAD"]
  | health => ["GET"]
  | analyze => ["POST"]
  | startRun => ["POST"]
  | runStatus _ => ["GET"]
  | runResults _ => ["GET"]

def dropLineBreak (path : String) : String :=
  match path.toList.reverse with
  | '\n' :: before => String.ofList before.reverse
  | _ => path

/-- The endpoint of a decoded path. A line break may follow the path of an endpoint without an id.
-/
def ofPath? (path : String) : Option Endpoint :=
  match Text.fields '/' (dropLineBreak path) with
  | ["", "docs"] | ["", "docs", "oauth2-redirect"] | ["", "redoc"] | ["", "openapi.json"] =>
    some manual
  | ["", "health"] => some health
  | ["", "api", "analyze"] => some analyze
  | ["", "api", "run-agent"] => some startRun
  | _ =>
    match Text.fields '/' path with
    | ["", "api", "status", id] => if id = "" then none else some (runStatus id)
    | ["", "api", "results", id] => if id = "" then none else some (runResults id)
    | _ => none

/-- The path of an endpoint before slashes, if there is no endpoint with them. -/
def beforeSlashes? (path : String) : Option String :=
  let before := String.ofList (Text.dropEndWhile (· = '/') path.toList)
  if before = path ∨ path = "/" then none
  else (ofPath? before).map fun _ => before

def home : Address :=
  { scheme := "http", host := "testserver", path := "/" }

/-- A character that stands for itself in an address to which a request is sent on. -/
def isPlaceChar (c : Char) : Bool :=
  Text.isUnreserved c || ":/%#?=@[]!$&'()*+,;".toList.contains c

/-- A character that stands for itself in a path to which a request is sent on. -/
def isStepChar (c : Char) : Bool :=
  isPlaceChar c && !"?#%".toList.contains c

/-- The address of another path on the same host. Nothing in the path is a mark. -/
def sibling (address : Address) (path : String) : Except AddressFault Address :=
  let query := (address.query.filter (· ≠ "")).elim "" ("?" ++ ·)
  Address.parse (Text.encodePercent isPlaceChar
    (address.scheme ++ "://" ++ address.netLocation ++ Text.encodePercent isStepChar path ++ query))

/-- The endpoint of an address. Where there is one only without the slashes at the end of the path,
the request is sent on, a limited number of times. -/
def ofAddress? (sendings : Nat) (address : Address) : Except Fault (Option Endpoint) :=
  let path := Text.decodePercent address.plainPath
  match ofPath? path, beforeSlashes? path with
  | some endpoint, _ => .ok (some endpoint)
  | none, none => .ok none
  | none, some before =>
    match sendings with
    | 0 => .error .sentOnTooOften
    | sendings + 1 =>
      match sibling address before with
      | .error fault => .error (.badAddress fault)
      | .ok address => ofAddress? sendings address

/-- How often a request is sent on at most. -/
def maxSendings : Nat := 20

/-- Why no request can be sent to an address. Its host has to be in ASCII, then its scheme has to be
one of the net, and then a name that the host encodes has to be one of a host. -/
def sendFault? (address : Address) : Option Fault :=
  match Text.asciiFault? address.netLocation.toList with
  | some fault => some (.hostBeyondAscii fault)
  | none =>
    if address.scheme ∈ ["http", "https", "ws", "wss"] then
      (HostName.fault? address.host).map .badHostName
    else some (.unknownScheme address.scheme)

def ofTarget? (target : String) : Except Fault (Option Endpoint) :=
  match Address.parse target >>= home.seenFrom with
  | .error fault => .error (.badAddress fault)
  | .ok address =>
    match sendFault? address with
    | some fault => .error fault
    | none =>
      if address.scheme = "http" ∨ address.scheme = "https" then ofAddress? maxSendings address
      else .error (.unknownScheme address.scheme)

end Endpoint
end LintRemedy
