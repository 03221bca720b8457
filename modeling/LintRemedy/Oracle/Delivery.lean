import LintRemedy.Json.Display
import LintRemedy.Oracle.Payload

/-!
This module contains the ways in which a reply of the oracle delivers its payload. A reply is sorted
into exactly one of them, and then either yields a payload or the reason why it has none.
-/

namespace LintRemedy
namespace Oracle

/-- How a reply delivers its payload. -/
inductive Delivery where
  /-- The reply reports an error, for a reason that is shown in its display form. -/
  | failure (reason : Json)
  /-- An object in the slot for structured output. -/
  | structured (payload : Json)
  /-- An object in a result slot, or the reply itself. -/
  | object (payload : Json)
  /-- A text in a result slot, in which the payload has to be found. -/
  | text (content : String)
  | nothing
deriving DecidableEq, Repr

/-- The result slots of a reply, in the order in which they are looked at. -/
def resultSlots : List String :=
  ["result", "content", "message"]

/-- The reason that a reply gives for a failure. -/
def failureOf? (reply : Json) : Option Json :=
  if reply.field? "is_error" = some (.bool true) then
    match (reply.field "result").filled?, (reply.field "error").filled? with
    | some reason, _ => some reason
    | none, some reason => some reason
    | none, none => some (.str "Oracle reported an error")
  else
    match reply.field? "subtype" with
    | some (.str subtype) =>
      if (Text.after? "error".toList subtype.toList).isSome then
        some (.str ("Oracle reported " ++ subtype))
      else errorField?
    | _ => errorField?
where
  /-- The reason in the field for errors, a text or an object. -/
  errorField? : Option Json :=
    match reply.field? "error" with
    | some (.str reason) => if reason = "" then none else some (.str reason)
    | some (.obj (field :: fields)) => some (.obj (field :: fields))
    | _ => none

/-- A text that is more than blanks. -/
def spokenText? : Json → Option String
  | .str s => if Text.trim s.toList = [] then none else some s
  | _ => none

/-- How a reply delivers its payload. Anything but an object delivers nothing. -/
def Delivery.ofReply (fields : List String) (reply : Json) : Delivery :=
  match reply with
  | .obj _ =>
    match failureOf? reply with
    | some reason => .failure reason
    | none =>
      let slot := reply.field "structured_output"
      if exposes fields slot then .structured slot
      else
        let slots := resultSlots.map reply.field
        match slots.find? (exposes fields) with
        | some payload => .object payload
        | none =>
          if exposes fields reply then .object reply
          else
            match slots.findSome? spokenText? with
            | some content => .text content
            | none => .nothing
  | _ => .nothing

/-- The ways of delivery without what is delivered. -/
inductive Shape where
  | structured
  | object
  | text
  | failure
  | nothing
deriving DecidableEq, Repr

def Shape.name : Shape → String
  | structured => "structured_output"
  | object => "result_object"
  | text => "result_text"
  | failure => "error"
  | nothing => "empty"

def Delivery.shape : Delivery → Shape
  | failure _ => .failure
  | structured _ => .structured
  | object _ => .object
  | text _ => .text
  | nothing => .nothing

/-- Why a reply can be neither read nor refused. -/
inductive ReplyFault where
  | tooDeep (place : Json.TooDeep)
  /-- The reason for a failure has no display form. -/
  | unshown (fault : Json.RenderFault)
deriving DecidableEq, Repr

/-- The payload of a delivery, or the reason why there is none. -/
def Delivery.resolve (fields : List String) :
    Delivery → Except ReplyFault (Except String Json)
  | failure reason =>
    match reason.display with
    | .ok shown => .ok (.error shown)
    | .error fault => .error (.unshown fault)
  | structured payload => .ok (.ok payload)
  | object payload => .ok (.ok payload)
  | text content =>
    match findPayload? fields content.toList with
    | .ok (some payload) => .ok (.ok payload)
    | .ok none =>
      .ok (.error
        ("No JSON object with fields " ++ ", ".intercalate fields ++ " found in response"))
    | .error place => .error (.tooDeep place)
  | nothing => .ok (.error "No data found in response")

/-- The shape of a reply and the payload that was found in it, or the reason why there is none. -/
structure Normalized where
  shape : Shape
  outcome : Except String Json

/-- The writing of a payload into the log as JSON text, which may fail. -/
def Normalized.logged (normalized : Normalized) : Except Json.RenderFault Unit :=
  match normalized.outcome with
  | .error _ => .ok ()
  | .ok payload =>
    match payload.obstacle? .encoding with
    | some fault => .error fault
    | none => .ok ()

def Normalized.ofValue (fields : List String) (reply : Json) : Except ReplyFault Normalized := do
  let delivery := Delivery.ofReply fields reply
  return ⟨delivery.shape, ← delivery.resolve fields⟩

/-- The value of a text that may be a whole reply: an object is the reply itself, anything else is
the result of one. -/
def replyOfText (cs : List Char) : Except ReplyFault Json :=
  match Json.decode cs with
  | .ok (.obj fields) => .ok (.obj fields)
  | .error (.tooDeep place) => .error (.tooDeep place)
  | .ok _ | .error (.malformed ..) | .error (.tooManyDigits _) =>
    .ok (.obj [("result", .str (String.ofList cs))])

def Normalized.ofText (fields : List String) (reply : String) : Except ReplyFault Normalized :=
  match Text.trim reply.toList with
  | [] => .ok ⟨.nothing, .error "Empty response from oracle"⟩
  | cs => replyOfText cs >>= ofValue fields

/-- A reply, either raw text or a value. -/
def normalize (fields : List String) : Json → Except ReplyFault Normalized
  | .str reply => Normalized.ofText fields reply
  | reply => Normalized.ofValue fields reply

end Oracle
end LintRemedy
