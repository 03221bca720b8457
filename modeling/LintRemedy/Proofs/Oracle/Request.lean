import LintRemedy.Proofs.Action
import LintRemedy.Proofs.Outcome

/-!
This module contains what requests to the oracle come to: the answer that is due is taken at most
once, and the reply is made of this answer alone.
-/

namespace LintRemedy
namespace Oracle
namespace Channel

def dueOutcome (provider : Provider) (world : World) : OracleOutcome :=
  (world.replies.head?.map (·.outcome)).getD (exhausted provider)

def answered (world : World) : World :=
  match world.replies with
  | [] => world
  | answer :: replies => { world with replies }.afterChanges answer.changes

def sentPrompt (channel : Channel) (prompt : String) (schema : Schema) : String :=
  if channel.provider.transport = .schemaAgent then prompt else schema.hint prompt

/-- How a request starts: it is sent, to an agent or a service, or an agent is started in vain, or
else the request has ended in a fault, or failed for a reason, or there is no time for it. -/
inductive Approach where
  | ended (outcome : Except Fault (Option String))
  | mute (fault : Text.EncodeFault)
  | agent
  | service (address : Address) (authorization : Option String)

/-- How a request to an agent starts in a world. -/
def agentApproach (channel : Channel) (prompt : String) (schema : Schema)
    (handle : Option String) (world : World) : Approach :=
  match world.launchFault? (channel.agentCommand schema handle),
    world.files.textFault? (channel.sentPrompt prompt schema) with
  | some fault, _ => .ended (.ok (some fault.message))
  | none, some fault => .mute fault
  | none, none => .agent

/-- How a request to a service starts in a world. -/
def serviceApproach (channel : Channel) (world : World) : Approach :=
  let key := world.keyFor channel.provider.name
  if key = "" then .ended (.ok (some ("No API key configured for " ++ channel.provider.name)))
  else
    match channel.authorization key with
    | .error reason => .ended (.ok (some reason))
    | .ok authorization =>
      match channel.address key with
      | .error fault => .ended (.error (.badAddress fault))
      | .ok address => .service address authorization

/-- How a request starts in a world. -/
def approach (channel : Channel) (prompt : String) (schema : Schema) (handle : Option String)
    (world : World) : Approach :=
  match channel.timeLimit.isOver with
  | .error fault => .ended (.error (.badTimeLimit fault))
  | .ok true => .ended (.ok none)
  | .ok false =>
    if channel.provider.isAgent then channel.agentApproach prompt schema handle world
    else channel.serviceApproach world

/-- What comes of an agent that was started in vain. -/
def muteExchange (fault : Text.EncodeFault) : OracleOutcome → Exchange
  | .notStarted reason => .failed reason
  | _ => .failed fault.message

/-- What the outcome of an agent process yields. -/
def agentExchange (channel : Channel) (schema : Schema) :
    OracleOutcome → Except Fault (Option Exchange)
  | .finished status stdout stderr =>
    some <$> readAgent schema.fields channel.provider.program status stdout.lenient stderr.lenient
  | .notStarted reason => .ok (some (.failed reason))
  | .timedOut | .silent => .ok none
  | .responded .. | .spoken .. | .unreachable _ =>
    some <$> readAgent schema.fields channel.provider.program 0 "" ""

/-- What the outcome of a hosted service yields. -/
def serviceExchange (channel : Channel) (schema : Schema) (address : Address) :
    OracleOutcome → Except Fault (Option Exchange)
  | .responded status content =>
    some <$> readResponse schema.fields channel.provider.transport status address content
  | .spoken status text =>
    some <$> readSpoken schema.fields channel.provider.transport status address text
  | .unreachable reason => .ok (some (.failed reason))
  | .timedOut | .silent => .ok none
  | .finished .. | .notStarted _ =>
    some <$> readResponse schema.fields channel.provider.transport 200 address (.text "")

/-- The reply to a request that was made under a handle. -/
def replyOf (channel : Channel) (handle : Option String) :
    Option Exchange → Except Fault Reply
  | none => do
    let limit ← channel.timeLimit.number.mapError .badTimeLimit
    return ⟨.error ("Timed out after " ++ limit.fixed 0 ++ "s"), handle⟩
  | some (.failed reason) => .ok ⟨.error reason, handle⟩
  | some (.replied normalized came) => do
    normalized.logged.mapError .unrendered
    let next ← nextHandle came handle
    return ⟨normalized.outcome, next⟩

def exchange (channel : Channel) (prompt : String) (schema : Schema) (handle : Option String)
    (world : World) : Except Fault (Option Exchange) :=
  match channel.approach prompt schema handle world with
  | .ended outcome => Option.map .failed <$> outcome
  | .mute fault => .ok (some (muteExchange fault (dueOutcome channel.provider world)))
  | .agent => channel.agentExchange schema (dueOutcome channel.provider world)
  | .service address _ => channel.serviceExchange schema address (dueOutcome channel.provider world)

def sentWorld (channel : Channel) (prompt : String) (schema : Schema) (handle : Option String)
    (world : World) : World :=
  match channel.approach prompt schema handle world with
  | .ended _ => world
  | .mute _ => (answered world).record (.ranAgent (channel.agentCommand schema handle) none false)
  | .agent =>
    let outcome := dueOutcome channel.provider world
    (answered world).record (.ranAgent (channel.agentCommand schema handle)
      (sentTo (channel.sentPrompt prompt schema) outcome) (outcome = .silent))
  | .service address authorization =>
    (answered world).record (.posted address.text authorization
      (channel.body (channel.sentPrompt prompt schema)))

variable (channel : Channel) (prompt : String) (schema : Schema) (handle : Option String)
  (world : World)

theorem takeAnswer_eq_ok (provider : Provider) :
    takeAnswer provider world = .ok (dueOutcome provider world) (answered world) := by
  unfold takeAnswer dueOutcome answered
  refine (Action.bind_of_ok rfl).trans ?_
  cases world.replies with
  | nil => rfl
  | cons answer replies => rfl

theorem startMute_eq (command : List String) (fault : Text.EncodeFault) :
    channel.startMute command fault world =
      .ok (some (muteExchange fault (dueOutcome channel.provider world)))
        ((answered world).record (.ranAgent command none false)) := by
  unfold startMute
  refine (Action.bind_of_ok (takeAnswer_eq_ok world _)).trans ((Action.bind_of_ok rfl).trans ?_)
  cases dueOutcome channel.provider world <;> rfl

theorem startAgent_eq (command : List String) : channel.startAgent command prompt schema world =
    Act.ofExcept id (channel.agentExchange schema (dueOutcome channel.provider world))
      ((answered world).record (.ranAgent command
        (sentTo prompt (dueOutcome channel.provider world))
        (dueOutcome channel.provider world = .silent))) := by
  unfold startAgent
  refine (Action.bind_of_ok (takeAnswer_eq_ok world _)).trans ((Action.bind_of_ok rfl).trans ?_)
  unfold agentExchange
  cases dueOutcome channel.provider world with
  | notStarted | timedOut | silent => rfl
  | finished | responded | spoken | unreachable => exact Act.ofExcept_map _ _ _

theorem post_eq (address : Address) (authorization : Option String) :
    channel.post prompt schema address authorization world =
      Act.ofExcept id (channel.serviceExchange schema address (dueOutcome channel.provider world))
        ((answered world).record (.posted address.text authorization (channel.body prompt))) := by
  unfold post
  refine (Action.bind_of_ok (takeAnswer_eq_ok world _)).trans ((Action.bind_of_ok rfl).trans ?_)
  unfold serviceExchange
  cases dueOutcome channel.provider world with
  | unreachable | timedOut | silent => rfl
  | finished | notStarted | responded | spoken => exact Act.ofExcept_map _ _ _

theorem send_eq : channel.send (channel.sentPrompt prompt schema) schema handle world =
    Act.ofExcept id (channel.exchange prompt schema handle world)
      (channel.sentWorld prompt schema handle world) := by
  unfold send exchange sentWorld approach
  cases channel.timeLimit.isOver with
  | error fault => rfl
  | ok isOver =>
    refine (Action.bind_of_ok rfl).trans ?_
    cases isOver with
    | true => rfl
    | false =>
      by_cases agent : channel.provider.isAgent
      · simp only [agent, if_true]
        unfold askAgent agentApproach
        refine (Action.bind_of_ok rfl).trans ?_
        cases world.launchFault? (channel.agentCommand schema handle) with
        | some fault => rfl
        | none =>
          cases world.files.textFault? (channel.sentPrompt prompt schema) with
          | some fault => exact channel.startMute_eq world _ fault
          | none => exact channel.startAgent_eq _ schema world _
      · simp only [agent]
        unfold askService serviceApproach
        refine (Action.bind_of_ok rfl).trans ?_
        by_cases key : world.keyFor channel.provider.name = ""
        · simp only [key, if_true]
          rfl
        · simp only [key, if_false]
          cases channel.authorization (world.keyFor channel.provider.name) with
          | error reason => rfl
          | ok authorization =>
            cases channel.address (world.keyFor channel.provider.name) with
            | error fault => rfl
            | ok address =>
              refine (Action.bind_of_ok rfl).trans ?_
              exact channel.post_eq _ schema world address authorization

/-- An agent is asked in time if its program can be started and the prompt be sent. -/
theorem approach_eq_agent {channel : Channel} {prompt : String} {schema : Schema}
    {handle : Option String} {world : World} (timely : channel.timeLimit.isOver = .ok false)
    (agent : channel.provider.isAgent)
    (launched : world.launchFault? (channel.agentCommand schema handle) = none)
    (sendable : world.files.textFault? (channel.sentPrompt prompt schema) = none) :
    channel.approach prompt schema handle world = .agent := by
  unfold approach agentApproach
  rw [timely]
  dsimp only
  rw [if_pos agent, launched, sendable]

/-- A request yields what is made of the exchange, and leaves the world of that. -/
theorem request_eq : channel.request prompt schema handle world =
    Act.ofExcept id (channel.exchange prompt schema handle world >>= channel.replyOf handle)
      (channel.sentWorld prompt schema handle world) := by
  unfold request
  apply Act.ofExcept_bind (channel.send_eq prompt schema handle world)
  intro exchange?
  cases exchange? with
  | none =>
    unfold replyOf
    cases channel.timeLimit.number <;> rfl
  | some exchange =>
    cases exchange with
    | failed reason => rfl
    | replied normalized came =>
      unfold replyOf
      dsimp only
      cases normalized.logged with
      | error fault => rfl
      | ok _ => cases nextHandle came handle <;> rfl

end Channel
end Oracle
end LintRemedy
