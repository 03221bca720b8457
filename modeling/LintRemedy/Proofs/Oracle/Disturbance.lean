import LintRemedy.Proofs.Oracle.Request

/-!
This module contains which requests to the oracle end in a fault, although every request should be
answered by a reply.
-/

namespace LintRemedy
namespace Oracle

inductive Query where
  | explanation (rule source messages : String)
  | replacement (rule file : String) (line : Int) (message context : String)
  | configChange (rule config : String)
  | answer (question context : String)

/-- The schema of the payload that is asked for. -/
def Query.schema : Query → Schema
  | explanation .. => .explain
  | replacement .. => .fix
  | configChange .. => .disable
  | answer .. => .question

def Query.prompt : Query → String
  | explanation rule source messages => Prompt.explain rule source messages
  | replacement rule file line message context => Prompt.fix rule file line message context
  | configChange rule config => Prompt.disable rule config
  | answer question context => Prompt.question question context

namespace Channel

def ask (channel : Channel) : Query → Option String → Act Reply
  | .explanation rule source messages => channel.askExplanation rule source messages
  | .replacement rule file line message context =>
    channel.askReplacement rule file line message context
  | .configChange rule config => channel.askConfigChange rule config
  | .answer question context => channel.askAnswer question context

/-- A reply that cannot be dealt with: it can be neither read nor refused, its payload cannot be put
into the log, or it comes with a handle that is no text. -/
inductive Garbled (fields : List String) (reply came : Json) : Prop where
  | unread {fault} (unread : normalize fields reply = .error fault)
  | unlogged {shape payload fault} (given : normalize fields reply = .ok ⟨shape, .ok payload⟩)
      (obstacle : payload.obstacle? .encoding = some fault)
  | handle (filled : came.isFilled) (noText : ∀ s, came ≠ .str s)

/-- The output of an agent that cannot be dealt with. -/
inductive GarbledOutput (fields : List String) (status : Int) (stdout : String) : Prop where
  | deep {place} (decoded : Json.decode (Text.trim stdout.toList) = .error (.tooDeep place))
  | prose {cause offset line column}
      (decoded : Json.decode (Text.trim stdout.toList) =
        .error (.malformed cause offset line column))
      (well : status = 0)
      (garbled : Garbled fields (.str (String.ofList (Text.trim stdout.toList))) .null)
  | reply {reply} (decoded : Json.decode (Text.trim stdout.toList) = .ok reply)
      (garbled : Garbled fields reply (reply.field "session_id"))

/-- A hosted service has responded with this text. -/
inductive Speaks (transport : Transport) (address : Address) : OracleOutcome → Json → Prop where
  | responded {status content response text} (success : StatusLine.isSuccess status)
      (decoded : Json.decodeBytes content.bytes = .ok response)
      (value : spokenValue transport response = .ok text) :
      Speaks transport address (.responded status content) text
  | spoken {status text} (success : StatusLine.isSuccess status) :
      Speaks transport address (.spoken status text) (carriedText transport
        (if Text.occurs contentVerb.toList address.plainPath.toList ==
          (transport == .contentService) then some text else none))

/-- A response of a hosted service that cannot be dealt with. -/
inductive GarbledResponse (fields : List String) (transport : Transport) (address : Address)
    (outcome : OracleOutcome) : Prop where
  | deep {status content place} (responded : outcome = .responded status content)
      (success : StatusLine.isSuccess status)
      (decoded : Json.decodeBytes content.bytes = .error (.notJson (.tooDeep place)))
  | noObject {status content response carrier} (responded : outcome = .responded status content)
      (success : StatusLine.isSuccess status)
      (decoded : Json.decodeBytes content.bytes = .ok response)
      (carried : carrier? transport response = some carrier)
      (noObject : ∀ members, carrier ≠ .obj members)
  | noText {text} (speaks : Speaks transport address outcome text)
      (noText : (∀ s, text ≠ .str s) ∧ ∀ items, text ≠ .arr items)
  | prose {text} (speaks : Speaks transport address outcome text)
      (garbled : Garbled fields (.obj [("result", text)]) .null)

/-- A request with this answer due cannot be dealt with: it cannot be sent, its time limit cannot be
told when the time is over, or what comes back is garbled. -/
inductive Disturbs (channel : Channel) (schema : Schema) (due : OracleOutcome) : Approach → Prop where
  | unsent {fault} : Disturbs channel schema due (.ended (.error fault))
  | overtime {fault} (untold : channel.timeLimit.number = .error fault) :
      Disturbs channel schema due (.ended (.ok none))
  | agentLate {fault} (late : due = .timedOut ∨ due = .silent)
      (untold : channel.timeLimit.number = .error fault) : Disturbs channel schema due .agent
  | serviceLate {fault address authorization} (late : due = .timedOut ∨ due = .silent)
      (untold : channel.timeLimit.number = .error fault) :
      Disturbs channel schema due (.service address authorization)
  | agent {status stdout stderr} (finished : due = .finished status stdout stderr)
      (garbled : GarbledOutput schema.fields status stdout.lenient) :
      Disturbs channel schema due .agent
  | service {address authorization}
      (garbled : GarbledResponse schema.fields channel.provider.transport address due) :
      Disturbs channel schema due (.service address authorization)

/-- A request that cannot be dealt with in a world. -/
def Disturbed (channel : Channel) (prompt : String) (schema : Schema) (handle : Option String)
    (world : World) : Prop :=
  channel.Disturbs schema (dueOutcome channel.provider world)
    (channel.approach prompt schema handle world)

variable {channel : Channel} {handle : Option String} {fields : List String}

open Outcome

theorem fails_replyOf_none_iff :
    Fails (fun _ => True) (channel.replyOf handle none) ↔
      ∃ fault, channel.timeLimit.number = .error fault := by
  unfold replyOf
  cases channel.timeLimit.number with
  | ok limit =>
    change Fails _ (.ok _) ↔ _
    simp
  | error fault =>
    change Fails _ (.error _) ↔ _
    simp

theorem fails_nextHandle_iff {came : Json} :
    Fails (fun _ => True) (nextHandle came handle) ↔ came.isFilled ∧ ∀ s, came ≠ .str s := by
  unfold nextHandle Json.filled?
  by_cases filled : came.isFilled
  · rw [if_pos filled]
    cases came <;> simp [filled]
  · rw [if_neg filled]
    simp [filled]

theorem fails_logged_iff {normalized : Normalized} :
    Fails (fun _ => True) (normalized.logged.mapError Fault.unrendered) ↔
      ∃ payload fault, normalized.outcome = .ok payload ∧
        payload.obstacle? .encoding = some fault := by
  unfold Normalized.logged
  cases normalized.outcome with
  | error reason =>
    change Fails _ (.ok _) ↔ _
    simp
  | ok payload =>
    dsimp only
    cases hobstacle : payload.obstacle? .encoding with
    | none =>
      change Fails _ (.ok _) ↔ _
      simp [hobstacle]
    | some fault =>
      change Fails _ (.error _) ↔ _
      simp [hobstacle]

theorem fails_exchangeOf_iff {reply came : Json} :
    Fails (fun _ => True) (exchangeOf came (normalize fields reply) >>= fun exchange =>
      channel.replyOf handle (some exchange)) ↔ Garbled fields reply came := by
  cases hnormalize : normalize fields reply with
  | error fault =>
    change Fails _ (.error _) ↔ _
    simp only [fails_error, true_iff]
    exact .unread hnormalize
  | ok normalized =>
    obtain ⟨shape, outcome⟩ := normalized
    change Fails _ (Except.mapError _ _ >>= fun _ => nextHandle came handle >>= _) ↔ _
    rw [fails_bind, fails_logged_iff]
    simp only [fails_bind, fails_nextHandle_iff]
    constructor
    · rintro (⟨payload, fault, rfl, obstacle⟩ | ⟨_, _, ⟨filled, noText⟩ | ⟨_, _, _, ⟨⟩, _⟩⟩)
      · exact .unlogged hnormalize obstacle
      · exact .handle filled noText
    · rintro (unread | ⟨given, obstacle⟩ | ⟨filled, noText⟩)
      · rw [hnormalize] at unread
        cases unread
      · rw [hnormalize] at given
        cases given
        exact .inl ⟨_, _, rfl, obstacle⟩
      · -- The handle is looked at only if the log has not failed before.
        by_cases obstacle : ∃ payload fault, outcome = .ok payload ∧
            payload.obstacle? .encoding = some fault
        · exact .inl obstacle
        · have written : ¬ Fails (fun _ => True)
              ((Normalized.mk shape outcome).logged.mapError Fault.unrendered) :=
            mt fails_logged_iff.1 obstacle
          obtain ⟨_, logged⟩ := exists_ok_iff.2 written
          exact .inr ⟨_, logged, .inl ⟨filled, noText⟩⟩

/-- There is nothing in an empty text that could not be dealt with. -/
theorem not_garbled_empty : ¬ Garbled fields (.str "") .null := by
  rintro (⟨⟨⟩⟩ | ⟨⟨⟩, _⟩ | ⟨⟨⟩, _⟩)

theorem garbledOutput_iff {status : Int} {stdout : String} {cs : List Char}
    (h : Text.trim stdout.toList = cs) : GarbledOutput fields status stdout ↔
      (∃ place, Json.decode cs = .error (.tooDeep place)) ∨
      (status = 0 ∧ (∃ cause offset line column,
        Json.decode cs = .error (.malformed cause offset line column)) ∧
        Garbled fields (.str (String.ofList cs)) .null) ∨
      ∃ reply, Json.decode cs = .ok reply ∧ Garbled fields reply (reply.field "session_id") := by
  subst h
  constructor
  · rintro (deep | ⟨decoded, well, garbled⟩ | ⟨decoded, garbled⟩)
    · exact .inl ⟨_, deep⟩
    · exact .inr (.inl ⟨well, ⟨_, _, _, _, decoded⟩, garbled⟩)
    · exact .inr (.inr ⟨_, decoded, garbled⟩)
  · rintro (⟨_, deep⟩ | ⟨well, ⟨_, _, _, _, decoded⟩, garbled⟩ | ⟨_, decoded, garbled⟩)
    · exact .deep deep
    · exact .prose decoded well garbled
    · exact .reply decoded garbled

theorem fails_readAgent_iff {program stdout stderr : String} {status : Int} :
    Fails (fun _ => True) (readAgent fields program status stdout stderr >>= fun exchange =>
      channel.replyOf handle (some exchange)) ↔ GarbledOutput fields status stdout := by
  generalize hcs : Text.trim stdout.toList = cs
  rw [garbledOutput_iff hcs]
  unfold readAgent
  rw [hcs]
  cases cs with
  | nil =>
    have malformed : Json.decode [] = .error (.malformed .noValue 0 1 1) := rfl
    change Fails _ (.ok _) ↔ _
    simp [malformed, not_garbled_empty]
  | cons c cs =>
    dsimp only
    cases Json.decode (c :: cs) with
    | ok reply =>
      dsimp only
      rw [fails_exchangeOf_iff]
      simp
    | error fault =>
      cases fault with
      | tooDeep place =>
        change Fails _ (.error _) ↔ _
        simp
      | tooManyDigits count =>
        change Fails _ (.ok _) ↔ _
        simp
      | malformed cause offset line column =>
        dsimp only
        by_cases well : status = 0
        · rw [if_pos well]
          change Fails _ (exchangeOf .null (normalize fields (.str (String.ofList (c :: cs))))
            >>= _) ↔ _
          rw [fails_exchangeOf_iff]
          simp [well]
        · rw [if_neg well]
          change Fails _ (.ok _) ↔ _
          simp [well]

theorem fails_agentExchange_iff {schema : Schema} {outcome : OracleOutcome} :
    Fails (fun _ => True) (channel.agentExchange schema outcome >>= channel.replyOf handle) ↔
      ((outcome = .timedOut ∨ outcome = .silent) ∧
        ∃ fault, channel.timeLimit.number = .error fault) ∨
      ∃ status stdout stderr, outcome = .finished status stdout stderr ∧
        GarbledOutput schema.fields status stdout.lenient := by
  cases outcome with
  | finished status stdout stderr =>
    change Fails _ (some <$> readAgent _ _ _ _ _ >>= _) ↔ _
    rw [bind_map_left, fails_readAgent_iff]
    simp
  | notStarted reason =>
    change Fails _ (.ok _) ↔ _
    simp
  | timedOut | silent =>
    change Fails _ (channel.replyOf handle none) ↔ _
    rw [fails_replyOf_none_iff]
    simp
  | responded | spoken | unreachable =>
    -- An agent that has printed nothing has failed, whatever its status is.
    change Fails _ (.ok _) ↔ _
    simp

theorem fails_resultReply_iff {text : Json} :
    Fails (fun _ => True) (resultReply fields text >>= fun exchange =>
      channel.replyOf handle (some exchange)) ↔
      ((∀ s, text ≠ .str s) ∧ ∀ items, text ≠ .arr items) ∨
        Garbled fields (.obj [("result", text)]) .null := by
  cases text with
  | str | arr =>
    unfold resultReply
    rw [fails_exchangeOf_iff]
    simp
  | _ =>
    change Fails _ (.error _) ↔ _
    simp

variable {transport : Transport} {address : Address} {status : Nat}

theorem GarbledResponse.isSuccess {outcome : OracleOutcome}
    (h : GarbledResponse fields transport address outcome)
    (ended : (∃ content, outcome = .responded status content) ∨
      ∃ text, outcome = .spoken status text) : StatusLine.isSuccess status := by
  rcases ended with ⟨_, rfl⟩ | ⟨_, rfl⟩
  · rcases h with ⟨⟨⟩, success, _⟩ | ⟨⟨⟩, success, _⟩ | ⟨⟨success, _, _⟩, _⟩ | ⟨⟨success, _, _⟩, _⟩
    all_goals exact ‹StatusLine.isSuccess status›
  · rcases h with ⟨⟨⟩, _⟩ | ⟨⟨⟩, _⟩ | ⟨⟨success⟩, _⟩ | ⟨⟨success⟩, _⟩
    all_goals exact ‹StatusLine.isSuccess status›

theorem fails_readSpoken_iff {text : Json} :
    Fails (fun _ => True) (readSpoken fields transport status address text >>= fun exchange =>
      channel.replyOf handle (some exchange)) ↔
      GarbledResponse fields transport address (.spoken status text) := by
  unfold readSpoken
  by_cases success : StatusLine.isSuccess status
  · rw [if_neg (not_not_intro success), fails_resultReply_iff]
    constructor
    · rintro (noText | garbled)
      · exact .noText (.spoken success) noText
      · exact .prose (.spoken success) garbled
    · rintro (⟨⟨⟩, _⟩ | ⟨⟨⟩, _⟩ | ⟨⟨⟩, noText⟩ | ⟨⟨⟩, garbled⟩)
      · exact .inl noText
      · exact .inr garbled
  · rw [if_pos success]
    change Fails _ (.ok _) ↔ _
    rw [fails_ok, false_iff]
    exact fun garbled => success (garbled.isSuccess (.inr ⟨_, rfl⟩))

theorem fails_spokenValue_iff {response : Json} :
    Fails (fun _ => True) (spokenValue transport response) ↔
      ∃ carrier, carrier? transport response = some carrier ∧
        ∀ members, carrier ≠ .obj members := by
  unfold spokenValue
  cases carrier? transport response with
  | none => simp
  | some carrier => cases carrier <;> simp

theorem garbledResponse_iff_of_decoded {content : Content} {response : Json}
    (success : StatusLine.isSuccess status)
    (hdecode : Json.decodeBytes content.bytes = .ok response) :
    GarbledResponse fields transport address (.responded status content) ↔
      (∃ carrier, carrier? transport response = some carrier ∧
        ∀ members, carrier ≠ .obj members) ∨
      ∃ text, spokenValue transport response = .ok text ∧
        (((∀ s, text ≠ .str s) ∧ ∀ items, text ≠ .arr items) ∨
          Garbled fields (.obj [("result", text)]) .null) := by
  constructor
  · rintro (⟨⟨⟩, _, decoded⟩ | ⟨⟨⟩, _, decoded, carried, noObject⟩ |
      ⟨⟨_, decoded, value⟩, noText⟩ | ⟨⟨_, decoded, value⟩, garbled⟩)
    all_goals
      rw [hdecode] at decoded
      cases decoded
    · exact .inl ⟨_, carried, noObject⟩
    · exact .inr ⟨_, value, .inl noText⟩
    · exact .inr ⟨_, value, .inr garbled⟩
  · rintro (⟨carrier, carried, noObject⟩ | ⟨text, value, noText | garbled⟩)
    · exact .noObject rfl success hdecode carried noObject
    · exact .noText (.responded success hdecode value) noText
    · exact .prose (.responded success hdecode value) garbled

theorem garbledResponse_iff_of_undecoded {content : Content} {fault : Json.BytesDecodeFault}
    (success : StatusLine.isSuccess status)
    (hdecode : Json.decodeBytes content.bytes = .error fault) :
    GarbledResponse fields transport address (.responded status content) ↔
      ∃ place, fault = .notJson (.tooDeep place) := by
  constructor
  · rintro (⟨⟨⟩, _, decoded⟩ | ⟨⟨⟩, _, decoded, _⟩ | ⟨⟨_, decoded, _⟩, _⟩ | ⟨⟨_, decoded, _⟩, _⟩)
    all_goals
      rw [hdecode] at decoded
      cases decoded
    exact ⟨_, rfl⟩
  · rintro ⟨place, rfl⟩
    exact .deep rfl success hdecode

theorem fails_readResponse_iff {content : Content} :
    Fails (fun _ => True) (readResponse fields transport status address content >>= fun exchange =>
      channel.replyOf handle (some exchange)) ↔
      GarbledResponse fields transport address (.responded status content) := by
  unfold readResponse
  by_cases success : StatusLine.isSuccess status
  · rw [if_neg (not_not_intro success)]
    cases hdecode : Json.decodeBytes content.bytes with
    | ok response =>
      rw [garbledResponse_iff_of_decoded success hdecode]
      dsimp only
      rw [bind_assoc, fails_bind, fails_spokenValue_iff]
      simp only [fails_resultReply_iff]
    | error fault =>
      rw [garbledResponse_iff_of_undecoded success hdecode]
      split
      · next decoded => cases decoded
      · next decoded =>
        cases decoded
        change Fails _ (.error _) ↔ _
        simp
      · next notDeep decoded =>
        cases decoded
        change Fails _ (.ok _) ↔ _
        simpa using notDeep
  · rw [if_pos success]
    change Fails _ (.ok _) ↔ _
    rw [fails_ok, false_iff]
    exact fun garbled => success (garbled.isSuccess (.inl ⟨_, rfl⟩))

theorem GarbledResponse.responds {outcome : OracleOutcome}
    (h : GarbledResponse fields transport address outcome) :
    (∃ status content, outcome = .responded status content) ∨
      ∃ status text, outcome = .spoken status text := by
  rcases h with ⟨rfl⟩ | ⟨rfl⟩ | ⟨⟨⟩⟩ | ⟨⟨⟩⟩
  all_goals
    first
    | exact .inl ⟨_, _, rfl⟩
    | exact .inr ⟨_, _, rfl⟩

/-- A service that has responded with nothing has failed. -/
theorem readResponse_empty :
    ∃ reason, readResponse fields transport 200 address (.text "") = .ok (.failed reason) := by
  have decoded : Json.decodeBytes (Content.text "").bytes =
    .error (.notJson (.malformed .noValue 0 1 1)) := by decide +kernel
  unfold readResponse
  rw [if_neg (by decide), decoded]
  exact ⟨_, rfl⟩

theorem fails_serviceExchange_iff {schema : Schema} {outcome : OracleOutcome} :
    Fails (fun _ => True)
        (channel.serviceExchange schema address outcome >>= channel.replyOf handle) ↔
      ((outcome = .timedOut ∨ outcome = .silent) ∧
        ∃ fault, channel.timeLimit.number = .error fault) ∨
      GarbledResponse schema.fields channel.provider.transport address outcome := by
  cases outcome with
  | responded status content =>
    change Fails _ (some <$> readResponse _ _ _ _ _ >>= _) ↔ _
    rw [bind_map_left, fails_readResponse_iff]
    simp
  | spoken status text =>
    change Fails _ (some <$> readSpoken _ _ _ _ _ >>= _) ↔ _
    rw [bind_map_left, fails_readSpoken_iff]
    simp
  | timedOut | silent =>
    change Fails _ (channel.replyOf handle none) ↔ _
    rw [fails_replyOf_none_iff, or_iff_left fun garbled => by simpa using garbled.responds]
    simp
  | unreachable reason =>
    change Fails _ (.ok _) ↔ _
    rw [or_iff_left fun garbled => by simpa using garbled.responds]
    simp
  | finished | notStarted =>
    change Fails _ (some <$> readResponse _ _ _ _ _ >>= _) ↔ _
    obtain ⟨reason, hempty⟩ := readResponse_empty
    rw [bind_map_left, hempty, or_iff_left fun garbled => by simpa using garbled.responds]
    change Fails _ (.ok _) ↔ _
    simp

variable {prompt : String} {schema : Schema} {world : World}

theorem request_succeeds_iff :
    (∃ reply after, channel.request prompt schema handle world = .ok reply after) ↔
      ¬ Fails (fun _ => True)
        (channel.exchange prompt schema handle world >>= channel.replyOf handle) := by
  rw [channel.request_eq, ← exists_ok_iff]
  simp only [Act.ofExcept_eq_ok]
  constructor
  · rintro ⟨reply, _, h, _⟩
    exact ⟨reply, h⟩
  · rintro ⟨reply, h⟩
    exact ⟨reply, _, h, rfl⟩

theorem fails_exchange_iff :
    Fails (fun _ => True)
        (channel.exchange prompt schema handle world >>= channel.replyOf handle) ↔
      channel.Disturbed prompt schema handle world := by
  unfold exchange Disturbed
  cases channel.approach prompt schema handle world with
  | ended outcome =>
    cases outcome with
    | error fault =>
      change Fails _ (.error _) ↔ _
      rw [fails_error, true_iff]
      exact .unsent
    | ok reason? =>
      cases reason? with
      | none =>
        change Fails _ (channel.replyOf handle none) ↔ _
        rw [fails_replyOf_none_iff]
        constructor
        · rintro ⟨_, untold⟩
          exact .overtime untold
        · rintro (_ | untold)
          exact ⟨_, untold⟩
      | some reason =>
        change Fails _ (.ok _) ↔ _
        rw [fails_ok, false_iff]
        nofun
  | mute fault =>
    -- Whatever becomes of an agent that was started in vain, there is a reason to report.
    have failed : ∃ reason, muteExchange fault (dueOutcome channel.provider world) =
        .failed reason := by
      unfold muteExchange
      split <;> exact ⟨_, rfl⟩
    obtain ⟨reason, hreason⟩ := failed
    dsimp only
    rw [hreason]
    change Fails _ (.ok _) ↔ _
    rw [fails_ok, false_iff]
    nofun
  | agent =>
    dsimp only
    rw [fails_agentExchange_iff]
    constructor
    · rintro (⟨late, _, untold⟩ | ⟨_, _, _, finished, garbled⟩)
      · exact .agentLate late untold
      · exact .agent finished garbled
    · rintro (_ | _ | ⟨late, untold⟩ | _ | ⟨finished, garbled⟩)
      · exact .inl ⟨late, _, untold⟩
      · exact .inr ⟨_, _, _, finished, garbled⟩
  | service address authorization =>
    dsimp only
    rw [fails_serviceExchange_iff]
    constructor
    · rintro (⟨late, _, untold⟩ | garbled)
      · exact .serviceLate late untold
      · exact .service garbled
    · rintro (_ | _ | _ | ⟨late, untold⟩ | _ | ⟨garbled⟩)
      · exact .inl ⟨late, _, untold⟩
      · exact .inr garbled

/-- A request is answered by a reply exactly if nothing disturbs it. -/
theorem requests_answered (channel : Channel) (query : Query) (handle : Option String)
    (world : World) :
    (∃ reply after, channel.ask query handle world = .ok reply after) ↔
      ¬ channel.Disturbed query.prompt query.schema handle world := by
  rw [← fails_exchange_iff]
  cases query with
  | explanation | replacement | configChange | answer => exact request_succeeds_iff

/-- A reply that comes with a number as its handle. -/
def numberedReply : Content :=
  .text "\x7b\"session_id\":123,\"result\":\"\x7b\\\"problem_description\\\":\\\"p\\\"\x7d\"\x7d"

theorem numberedReply_unanswered :
    let agent : Provider := ⟨"claude-code", .schemaAgent, "haiku", [], "", "claude"⟩
    let channel : Channel := ⟨agent, "haiku", .seconds (.finite false 60 0)⟩
    let world := { World.empty with replies := [⟨.finished 0 numberedReply (.text ""), []⟩] }
    ¬ ∃ reply after, channel.ask (.explanation "r" "s" "m") none world = .ok reply after := by
  intro agent channel world answered
  have decoded : Json.decode (Text.trim numberedReply.lenient.toList) =
      .ok (.obj [("session_id", .int 123),
        ("result", .str "\x7b\"problem_description\":\"p\"\x7d")]) := by
    decide +kernel
  have asks : channel.approach (Prompt.explain "r" "s" "m") .explain none world = .agent :=
    approach_eq_agent (by decide +kernel) rfl (by decide +kernel) rfl
  have disturbed : channel.Disturbed (Prompt.explain "r" "s" "m") .explain none world := by
    unfold Disturbed
    rw [asks]
    exact .agent rfl (.reply decoded (.handle rfl nofun))
  exact request_succeeds_iff.1 answered (fails_exchange_iff.2 disturbed)

end Channel
end Oracle
end LintRemedy
