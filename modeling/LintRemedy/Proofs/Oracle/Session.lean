import LintRemedy.Bundle.Generation
import LintRemedy.Proofs.Oracle.Request
import LintRemedy.Proofs.World.Keeping

/-!
This module contains the sessions of a dialogue with the oracle: every call is made under the handle
that a reply has brought last, and nothing else than a reply brings one.
-/

namespace LintRemedy

open LintRemedy.Action

/-- A call of the oracle, with the world in which it is made. -/
structure Oracle.Call where
  prompt : String
  schema : Schema
  handle : Option String
  world : World

namespace Oracle.Channel

/-- How a call starts. -/
abbrev approachOf (channel : Channel) (call : Call) : Approach :=
  channel.approach call.prompt call.schema call.handle call.world

/-- The session that is named in the reply to a call. Only an agent names one, in a text that is not
empty. -/
def carried? (channel : Channel) (call : Call) : Option String :=
  match channel.approachOf call, dueOutcome channel.provider call.world with
  | .agent, .finished _ stdout _ =>
    match Json.decode (Text.trim stdout.lenient.toList) with
    | .ok reply => (reply.field "session_id").nonEmptyStr?
    | .error _ => none
  | _, _ => none

/-- The handle after calls, the last one first. -/
def renewed (channel : Channel) (calls : List Call) (handle : Option String) : Option String :=
  (calls.findSome? channel.carried?).or handle

def Exchange.session? : Exchange → Option String
  | .replied _ came => came.nonEmptyStr?
  | .failed _ => none

variable {channel : Channel} {fields : List String} {exchange : Exchange}

theorem session?_of_exchangeOf {came : Json} {normalized : Except ReplyFault Normalized}
    (h : exchangeOf came normalized = .ok exchange) : exchange.session? = came.nonEmptyStr? := by
  unfold exchangeOf at h
  cases normalized with
  | ok normalized =>
    cases h
    rfl
  | error place => cases h

theorem session?_of_readAgent {program stdout stderr : String} {status : Int}
    (h : readAgent fields program status stdout stderr = .ok exchange) :
    exchange.session? = match Json.decode (Text.trim stdout.toList) with
      | .ok reply => (reply.field "session_id").nonEmptyStr?
      | .error _ => none := by
  unfold readAgent at h
  generalize Text.trim stdout.toList = cs at h
  cases cs with
  | nil =>
    cases h
    rfl
  | cons c cs =>
    dsimp only at h
    cases hdecode : Json.decode (c :: cs) with
    | ok reply =>
      rw [hdecode] at h
      exact session?_of_exchangeOf h
    | error fault =>
      rw [hdecode] at h
      cases fault with
      | tooDeep place => cases h
      | tooManyDigits count =>
        cases h
        rfl
      | malformed =>
        dsimp only at h
        split at h
        · exact session?_of_exchangeOf h
        · cases h
          rfl

/-- A hosted service names no session. -/
theorem session?_of_resultReply {text : Json} (h : resultReply fields text = .ok exchange) :
    exchange.session? = none := by
  unfold resultReply at h
  split at h
  · exact session?_of_exchangeOf h
  · exact session?_of_exchangeOf h
  · cases h

theorem session?_of_readResponse {transport : Transport} {status : Nat} {address : Address}
    {content : Content} (h : readResponse fields transport status address content = .ok exchange) :
    exchange.session? = none := by
  unfold readResponse at h
  split at h
  · cases h
    rfl
  · split at h
    · obtain ⟨text, _, h⟩ := Outcome.bind_eq_ok.1 h
      exact session?_of_resultReply h
    · cases h
    · cases h
      rfl

theorem session?_of_readSpoken {transport : Transport} {status : Nat} {address : Address}
    {text : Json} (h : readSpoken fields transport status address text = .ok exchange) :
    exchange.session? = none := by
  unfold readSpoken at h
  split at h
  · cases h
    rfl
  · exact session?_of_resultReply h

theorem session?_of_serviceExchange {schema : Schema} {address : Address}
    {outcome : OracleOutcome} {exchange? : Option Exchange}
    (h : channel.serviceExchange schema address outcome = .ok exchange?) :
    exchange?.bind Exchange.session? = none := by
  unfold serviceExchange at h
  cases outcome with
  | responded | finished | notStarted =>
    obtain ⟨_, hread, rfl⟩ := Outcome.map_eq_ok.1 h
    exact session?_of_readResponse hread
  | spoken =>
    obtain ⟨_, hread, rfl⟩ := Outcome.map_eq_ok.1 h
    exact session?_of_readSpoken hread
  | unreachable | timedOut | silent =>
    cases h
    rfl

theorem session?_of_exchange {call : Call} {exchange? : Option Exchange}
    (h : channel.exchange call.prompt call.schema call.handle call.world = .ok exchange?) :
    exchange?.bind Exchange.session? = channel.carried? call := by
  unfold exchange at h
  unfold carried? approachOf
  cases hstart : channel.approach call.prompt call.schema call.handle call.world with
  | ended outcome =>
    rw [hstart] at h
    obtain ⟨reason?, _, rfl⟩ := Outcome.map_eq_ok.1 h
    cases reason? with
    | none => rfl
    | some reason => rfl
  | mute fault =>
    rw [hstart] at h
    cases h
    unfold muteExchange
    split <;> rfl
  | agent =>
    rw [hstart] at h
    dsimp only at h ⊢
    unfold agentExchange at h
    cases hdue : dueOutcome channel.provider call.world with
    | finished status stdout stderr =>
      rw [hdue] at h
      obtain ⟨_, hread, rfl⟩ := Outcome.map_eq_ok.1 h
      exact session?_of_readAgent hread
    | notStarted | timedOut | silent =>
      rw [hdue] at h
      cases h
      rfl
    | responded | spoken | unreachable =>
      rw [hdue] at h
      obtain ⟨_, hread, rfl⟩ := Outcome.map_eq_ok.1 h
      cases hread
      rfl
  | service address authorization =>
    rw [hstart] at h
    exact session?_of_serviceExchange h

theorem eq_of_nextHandle {came : Json} {sent next : Option String}
    (h : nextHandle came sent = .ok next) : next = came.nonEmptyStr?.or sent := by
  unfold nextHandle Json.filled? at h
  cases came with
  | str s =>
    by_cases empty : s = ""
    · rw [if_neg (by simp [Json.isFilled, empty])] at h
      cases h
      simp [Json.nonEmptyStr?, empty]
    · rw [if_pos (by simp [Json.isFilled, empty])] at h
      cases h
      simp [Json.nonEmptyStr?, empty]
  | _ =>
    split at h
    · cases h
      rfl
    · next filled => split at filled <;> cases filled
    · cases h

theorem handle_of_replyOf {handle : Option String} {exchange? : Option Exchange} {reply : Reply}
    (h : channel.replyOf handle exchange? = .ok reply) :
    reply.handle = (exchange?.bind Exchange.session?).or handle := by
  unfold replyOf at h
  cases exchange? with
  | none =>
    obtain ⟨_, _, h⟩ := Outcome.bind_eq_ok.1 h
    cases h
    rfl
  | some exchange =>
    cases exchange with
    | failed reason =>
      cases h
      rfl
    | replied normalized came =>
      obtain ⟨_, _, h⟩ := Outcome.bind_eq_ok.1 h
      obtain ⟨next, hnext, h⟩ := Outcome.bind_eq_ok.1 h
      cases h
      exact eq_of_nextHandle hnext

/-- The handle of a reply is the session that is named in it, or else the handle of the call. -/
theorem request_handle {call : Call} {after : World} {reply : Reply}
    (h : channel.request call.prompt call.schema call.handle call.world = .ok reply after) :
    reply.handle = (channel.carried? call).or call.handle := by
  rw [request_eq, Act.ofExcept_eq_ok] at h
  obtain ⟨exchange?, hexchange, hreply⟩ := Outcome.bind_eq_ok.1 h.1
  rw [handle_of_replyOf hreply, session?_of_exchange hexchange]

theorem renewed_append (later earlier : List Call) (handle : Option String) :
    channel.renewed (later ++ earlier) handle =
      channel.renewed later (channel.renewed earlier handle) := by
  unfold renewed
  rw [List.findSome?_append, Option.or_assoc]

theorem renewed_cons (call : Call) (earlier : List Call) (handle : Option String) :
    channel.renewed (call :: earlier) handle =
      (channel.carried? call).or (channel.renewed earlier handle) := by
  unfold renewed
  rw [List.findSome?_cons]
  cases channel.carried? call with
  | none => rfl
  | some session => rfl

def leftBy (channel : Channel) (call : Call) : World :=
  left (channel.request call.prompt call.schema call.handle call.world)

/-- These calls were made between two worlds and no others, the last one first. -/
inductive Makes (channel : Channel) (world : World) : List Call → World → Prop where
  | nil {world'} (aside : world'.heard = world.heard) : Makes channel world [] world'
  | cons {calls call world'} (earlier : Makes channel world calls call.world)
      (aside : world'.heard = (channel.leftBy call).heard) :
      Makes channel world (call :: calls) world'

theorem Makes.append {world middle world' : World} {earlier later : List Call}
    (hearlier : channel.Makes world earlier middle) (hlater : channel.Makes middle later world') :
    channel.Makes world (later ++ earlier) world' := by
  induction hlater with
  | nil aside =>
    cases hearlier with
    | nil aside' => exact .nil (aside.trans aside')
    | cons earlier aside' => exact .cons earlier (aside.trans aside')
  | cons _ aside ih => exact .cons ih aside

/-- A talk leads to another one by calls. Each is made under the handle that is current then. -/
structure Carries (channel : Channel) (talk : Talk) (calls : List Call) (talk' : Talk) : Prop where
  makes : channel.Makes talk.world calls talk'.world
  sent : ∀ later call earlier, calls = later ++ call :: earlier →
    call.handle = channel.renewed earlier talk.conversation.handle
  file : talk'.conversation.file = talk.conversation.file
  resets : talk'.conversation.resets = talk.conversation.resets

theorem Carries.of_seen {talk talk' : Talk}
    (h : talk'.seen World.heard = talk.seen World.heard) : channel.Carries talk [] talk' := by
  obtain ⟨conversation, heard⟩ := Prod.mk.inj h
  refine ⟨.nil heard, ?_, ?_, ?_⟩
  · intro later call earlier hnil
    exact (List.append_ne_nil_of_right_ne_nil later (List.cons_ne_nil call earlier) hnil.symm).elim
  · rw [conversation]
  · rw [conversation]

theorem Carries.append {talk middle talk' : Talk} {earlier later : List Call}
    (hearlier : channel.Carries talk earlier middle) (hlater : channel.Carries middle later talk')
    (handle : middle.conversation.handle = channel.renewed earlier talk.conversation.handle) :
    channel.Carries talk (later ++ earlier) talk' where
  makes := hearlier.makes.append hlater.makes
  sent after call before h := by
    -- The call is among the later ones or among the earlier ones.
    rcases List.append_eq_append_iff.1 h with ⟨between, rfl, hrest⟩ | ⟨between, rfl, hrest⟩
    · exact hearlier.sent between call before hrest
    · cases between with
      | nil => exact hearlier.sent [] call before hrest.symm
      | cons first between =>
        cases hrest
        change call.handle = channel.renewed (between ++ earlier) _
        rw [renewed_append, ← handle]
        exact hlater.sent after call between rfl
  file := hlater.file.trans hearlier.file
  resets := hlater.resets.trans hearlier.resets

/-- From a talk on, an action makes calls under the handles that are current, whatever it ends with.
Unless that is a fault, it leaves the handle that is current then. -/
def Converses {σ α : Type} (channel : Channel) (view : σ → Talk) (talk : Talk)
    (act : EStateM Fault σ α) (s : σ) : Prop :=
  ∃ calls, channel.Carries talk calls (view (left (act s))) ∧ ∀ a s', act s = .ok a s' →
    (view s').conversation.handle = channel.renewed calls talk.conversation.handle

namespace Converses

variable {σ α β : Type} {view : σ → Talk} {talk : Talk} {x : EStateM Fault σ α}
  {f : α → EStateM Fault σ β} {s : σ}

/-- An action in which the oracle has no part. -/
theorem of_seen (h : (view (left (x s))).seen World.heard = talk.seen World.heard) :
    channel.Converses view talk x s := by
  refine ⟨[], .of_seen h, ?_⟩
  intro a s' hx
  rw [hx] at h
  exact congrArg (fun seen => seen.1.handle) h

theorem of_keeps (h : Keeps (fun s => (view s).seen World.heard) x s) :
    channel.Converses view (view s) x s :=
  of_seen h

theorem of_pure {a : α} : channel.Converses view (view s) (pure a : EStateM Fault σ α) s :=
  of_seen rfl

theorem bind (hx : channel.Converses view talk x s)
    (hf : ∀ a s', x s = .ok a s' → channel.Converses view (view s') (f a) s') :
    channel.Converses view talk (x >>= f) s := by
  obtain ⟨earlier, carries, handle⟩ := hx
  cases h : x s with
  | ok a s' =>
    rw [h] at carries
    obtain ⟨later, carries', handle'⟩ := hf a s' h
    have current := handle a s' h
    refine ⟨later ++ earlier, ?_, ?_⟩
    · rw [bind_of_ok h]
      exact carries.append carries' current
    · intro b s'' hb
      rw [bind_of_ok h] at hb
      rw [handle' b s'' hb, current, renewed_append]
  | error fault s' =>
    rw [h] at carries
    refine ⟨earlier, ?_, ?_⟩
    · rw [bind_of_error h]
      exact carries
    · intro b s'' hb
      rw [bind_of_error h] at hb
      cases hb

theorem of_get {f : σ → EStateM Fault σ β} (h : channel.Converses view talk (f s) s) :
    channel.Converses view talk (get >>= f) s :=
  h

theorem map {g : α → β} (hx : channel.Converses view talk x s) :
    channel.Converses view talk (g <$> x) s := by
  rw [map_eq_pure_bind]
  apply hx.bind
  intro _ _ _
  exact of_pure

end Converses

end Oracle.Channel

theorem Oracle.Channel.carried?_ne_empty (channel : Oracle.Channel) (call : Oracle.Call) :
    channel.carried? call ≠ some "" := by
  unfold carried?
  split
  · split
    · next reply _ =>
      cases reply.field "session_id" with
      | str s =>
        unfold Json.nonEmptyStr?
        dsimp only
        split
        · nofun
        · next filled => exact fun h => filled (Option.some.inj h)
      | _ => nofun
    · nofun
  · nofun

/-- What an agent is told about the session that it takes up. -/
def Oracle.Channel.resumption : Option String → List String
  | none => []
  | some session => ["--resume", session]

theorem Oracle.Channel.agentCommand_eq (channel : Channel) (schema : Schema)
    {handle : Option String} (h : handle ≠ some "") :
    channel.agentCommand schema handle = channel.agentCommand schema none ++ resumption handle := by
  unfold agentCommand
  cases handle with
  | none => simp [resumption]
  | some session =>
    have filled : session ≠ "" := fun empty => h (congrArg some empty)
    simp [resumption, filled]

/-- An agent that is asked is told the session of the call. -/
theorem Oracle.Channel.leftBy_deeds {channel : Channel} {call : Call}
    (agent : channel.approachOf call = .agent) (h : call.handle ≠ some "") :
    ∃ input killed, (channel.leftBy call).deeds = call.world.deeds ++
      [.ranAgent (channel.agentCommand call.schema none ++ resumption call.handle) input
        killed] := by
  have deeds : (answered call.world).deeds = call.world.deeds := by
    unfold answered
    split
    · rfl
    · rfl
  unfold leftBy
  rw [request_eq, Act.left_ofExcept]
  unfold approachOf at agent
  unfold sentWorld World.record
  rw [agent, ← agentCommand_eq channel call.schema h, ← deeds]
  exact ⟨_, _, rfl⟩

theorem Conversation.handle_update {session? : Option String} (h : session? ≠ some "")
    (conversation : Conversation) :
    (conversation.update (session?.or conversation.handle)).handle =
      session?.or conversation.handle := by
  obtain ⟨handle, file, resets⟩ := conversation
  unfold Conversation.update
  cases session? with
  | some session =>
    have filled : session ≠ "" := fun empty => h (congrArg some empty)
    simp [filled]
  | none =>
    cases handle with
    | none => rfl
    | some handle =>
      simp only [Option.none_or]
      split <;> rfl

theorem Conversation.update_eq (handle : Option String) (conversation : Conversation) :
    (conversation.update handle).file = conversation.file ∧
      (conversation.update handle).resets = conversation.resets := by
  unfold Conversation.update
  cases handle with
  | none => exact ⟨rfl, rfl⟩
  | some handle =>
    dsimp only
    split
    · exact ⟨rfl, rfl⟩
    · exact ⟨rfl, rfl⟩

namespace Remedy

variable {channel : Oracle.Channel} {window : Int}

open Oracle.Channel

theorem converse_of_ok {ask : Option String → Act Reply} {talk : Talk} {reply : Reply}
    {world : World} (h : ask talk.conversation.handle talk.world = .ok reply world) :
    converse ask talk = .ok reply ⟨world, talk.conversation.update reply.handle⟩ := by
  unfold converse
  refine (bind_of_ok rfl).trans ?_
  refine (bind_of_ok (Dialogue.ofAct_eq_ok.2 ⟨world, h, rfl⟩)).trans ?_
  rfl

theorem converse_of_error {ask : Option String → Act Reply} {talk : Talk} {fault : Fault}
    {world : World} (h : ask talk.conversation.handle talk.world = .error fault world) :
    converse ask talk = .error fault ⟨world, talk.conversation⟩ := by
  unfold converse
  refine (bind_of_ok rfl).trans ?_
  exact bind_of_error (Dialogue.ofAct_eq_error.2 ⟨world, h, rfl⟩)

theorem converse_converses (prompt : String) (schema : Schema) (talk : Talk) :
    channel.Converses id talk (converse (channel.request prompt schema)) talk := by
  let call : Oracle.Call := ⟨prompt, schema, talk.conversation.handle, talk.world⟩
  have alone : ∀ later other earlier, [call] = later ++ other :: earlier →
      other.handle = channel.renewed earlier talk.conversation.handle := by
    intro later other earlier h
    rw [List.singleton_eq_append_iff] at h
    obtain ⟨_, h⟩ | ⟨_, h⟩ := h
    · cases h
      rfl
    · cases h
  refine ⟨[call], ?_⟩
  cases h : channel.request prompt schema talk.conversation.handle talk.world with
  | ok reply world =>
    have hleft : channel.leftBy call = world := congrArg left h
    obtain ⟨hfile, hresets⟩ := talk.conversation.update_eq reply.handle
    rw [converse_of_ok h]
    refine ⟨⟨.cons (.nil rfl) (congrArg World.heard hleft.symm), alone, hfile, hresets⟩, ?_⟩
    rintro _ _ ⟨⟩
    change (talk.conversation.update reply.handle).handle = _
    have hhandle : reply.handle = (channel.carried? call).or call.handle := request_handle h
    rw [hhandle, renewed_cons]
    exact Conversation.handle_update (channel.carried?_ne_empty call) talk.conversation
  | error fault world =>
    have hleft : channel.leftBy call = world := congrArg left h
    rw [converse_of_error h]
    exact ⟨⟨.cons (.nil rfl) (congrArg World.heard hleft.symm), alone, rfl, rfl⟩, nofun⟩

theorem inquire_converses {α : Type} (read : Json → Except Json.RenderFault (Option α))
    (prompt : String) (schema : Schema) (talk : Talk) :
    channel.Converses id talk (inquire read (channel.request prompt schema)) talk := by
  apply Converses.bind (converse_converses prompt schema talk)
  intro _ _ _
  exact .of_keeps (Dialogue.ofAct_keeps (Act.ofExcept_keeps _ _ _))

theorem replacementAt_converses (rule message : String) (location : Location) (talk : Talk) :
    channel.Converses id talk (replacementAt channel window rule message location) talk := by
  unfold replacementAt
  apply Converses.bind (.of_keeps (Dialogue.ofAct_keeps (currentLines_keeps _ _)))
  intro lines? talk _
  cases lines? with
  | none => exact .of_pure
  | some lines =>
    apply Converses.bind (converse_converses _ _ talk)
    intro reply _ _
    split
    · exact .of_pure
    · apply Converses.bind (.of_keeps (Dialogue.ofAct_keeps (currentLines_keeps _ _)))
      intro lines? _ _
      cases lines? with
      | none => exact .of_pure
      | some lines => exact .of_pure

theorem replacementsAt_converses (rule message : String) (locations : List Location) (talk : Talk) :
    channel.Converses id talk (replacementsAt channel window rule message locations) talk := by
  induction locations generalizing talk with
  | nil => exact .of_pure
  | cons location locations ih =>
    unfold replacementsAt
    apply Converses.bind (replacementAt_converses rule message location talk)
    intro _ talk _
    apply Converses.bind (ih talk)
    intro _ _ _
    exact .of_pure

theorem gather_converses (group : RuleGroup) (config : String) (talk : Talk) :
    channel.Converses id talk (gather channel window group config) talk := by
  unfold gather
  split
  · exact .of_pure
  · apply Converses.bind (inquire_converses explanation? _ _ talk)
    intro _ talk _
    apply Converses.bind (inquire_converses configChange? _ _ talk)
    intro _ talk _
    apply Converses.bind (replacementsAt_converses _ _ _ talk)
    intro _ _ _
    dsimp only
    split
    · exact .of_pure
    · exact .of_pure

theorem answerQuestion_converses (bundle : Bundle) (question : String) (talk : Talk) :
    channel.Converses id talk (answerQuestion channel bundle question) talk := by
  unfold answerQuestion
  apply Converses.bind (converse_converses _ _ talk)
  intro _ _ _
  exact .of_pure

end Remedy
end LintRemedy
