import LintRemedy.Proofs.Oracle.Disturbance
import LintRemedy.Proofs.Oracle.Provenance

/-!
This module contains what a reported success rests on: an answer of the provider that gives the
payload. A hosted service has responded with success then, but an agent may have ended badly, as
nobody looks at its status where its output is JSON.
-/

namespace LintRemedy
namespace Oracle
namespace Channel

/-- A provider has ended well: an agent with status zero, a service with a status of success. -/
inductive EndsWell : Approach → OracleOutcome → Prop where
  | finished {stdout stderr} : EndsWell .agent (.finished 0 stdout stderr)
  | responded {address authorization status content} (success : StatusLine.isSuccess status) :
      EndsWell (.service address authorization) (.responded status content)
  | spoken {address authorization status text} (success : StatusLine.isSuccess status) :
      EndsWell (.service address authorization) (.spoken status text)

/-- The reply that an answer of a provider delivers. -/
inductive Delivers (channel : Channel) (due : OracleOutcome) : Approach → Json → Prop where
  /-- The status does not matter. -/
  | json {status stdout stderr reply} (finished : due = .finished status stdout stderr)
      (decoded : Json.decode (Text.trim stdout.lenient.toList) = .ok reply) :
      Delivers channel due .agent reply
  | prose {stdout stderr cause offset line column} (finished : due = .finished 0 stdout stderr)
      (decoded : Json.decode (Text.trim stdout.lenient.toList) =
        .error (.malformed cause offset line column)) :
      Delivers channel due .agent (.str (Text.trimmed stdout.lenient))
  | service {address authorization text}
      (speaks : Speaks channel.provider.transport address due (.str text)) :
      Delivers channel due (.service address authorization) (.obj [("result", .str text)])

abbrev approachTo (channel : Channel) (query : Query) (handle : Option String) (world : World) :
    Approach :=
  channel.approach query.prompt query.schema handle world

/-- What the reply to a query rests on. -/
structure Genuine (channel : Channel) (query : Query) (handle : Option String) (world : World)
    (reply : Reply) : Prop where
  /-- A success is reported exactly where the answer that is due delivers a reply that gives the
  payload. -/
  delivered : ∀ payload, reply.outcome = .ok payload ↔
    ∃ sent, channel.Delivers (dueOutcome channel.provider world)
      (channel.approachTo query handle world) sent ∧ Gives query.schema.fields sent payload
  ended : ∀ payload, reply.outcome = .ok payload →
    EndsWell (channel.approachTo query handle world) (dueOutcome channel.provider world) ∨
      ∃ status stdout stderr sent, channel.approachTo query handle world = .agent ∧
        dueOutcome channel.provider world = .finished status stdout stderr ∧
        Json.decode (Text.trim stdout.lenient.toList) = .ok sent
  silent : ∀ payload, reply.outcome = .ok payload →
    ∃ sent envelope,
      channel.Delivers (dueOutcome channel.provider world)
        (channel.approachTo query handle world) sent ∧
        LookedAtAs sent envelope ∧ ¬ ReportsError envelope ∧
        Supplies query.schema.fields envelope payload
  expected : ∀ payload, reply.outcome = .ok payload →
    ∃ members name value, payload = .obj members ∧ name ∈ query.schema.fields ∧
      (name, value) ∈ members

def Brings (exchange : Exchange) (payload : Json) : Prop :=
  ∃ shape came, exchange = .replied ⟨shape, .ok payload⟩ came

variable {channel : Channel} {fields : List String} {payload : Json} {handle : Option String}

open Outcome

theorem replyOf_outcome {exchange? : Option Exchange} {reply : Reply}
    (h : channel.replyOf handle exchange? = .ok reply) :
    reply.outcome = .ok payload ↔
      ∃ exchange, exchange? = some exchange ∧ Brings exchange payload := by
  cases exchange? with
  | none =>
    obtain ⟨limit, _, ⟨⟩⟩ := bind_eq_ok.1 h
    simp
  | some exchange =>
    cases exchange with
    | failed reason =>
      cases h
      simp [Brings]
    | replied normalized came =>
      obtain ⟨_, _, h⟩ := bind_eq_ok.1 h
      obtain ⟨next, _, ⟨⟩⟩ := bind_eq_ok.1 h
      obtain ⟨shape, outcome⟩ := normalized
      simp [Brings]

theorem exchangeOf_brings_iff {came reply : Json} :
    (∃ exchange, exchangeOf came (normalize fields reply) = .ok exchange ∧
      Brings exchange payload) ↔ Gives fields reply payload := by
  unfold exchangeOf Brings Gives
  cases normalize fields reply with
  | error place => simp
  | ok normalized =>
    obtain ⟨shape, outcome⟩ := normalized
    simp

theorem not_brings_failed {reason : String} : ¬ Brings (.failed reason) payload := by
  rintro ⟨_, _, ⟨⟩⟩

theorem readAgent_brings_iff {program stdout stderr : String} {status : Int} :
    (∃ exchange, readAgent fields program status stdout stderr = .ok exchange ∧
      Brings exchange payload) ↔
      (∃ reply, Json.decode (Text.trim stdout.toList) = .ok reply ∧ Gives fields reply payload) ∨
      (status = 0 ∧ (∃ cause offset line column, Json.decode (Text.trim stdout.toList) =
        .error (.malformed cause offset line column)) ∧
        Gives fields (.str (Text.trimmed stdout)) payload) := by
  unfold readAgent Text.trimmed
  cases Text.trim stdout.toList with
  | nil =>
    have malformed : Json.decode [] = .error (.malformed .noValue 0 1 1) := rfl
    have nothing : ¬ Gives fields (.str (String.ofList [])) payload := by
      rintro ⟨_, ⟨⟩⟩
    simp [malformed, nothing, not_brings_failed]
  | cons c cs =>
    dsimp only
    cases Json.decode (c :: cs) with
    | ok reply => simp [exchangeOf_brings_iff]
    | error fault =>
      cases fault with
      | tooDeep place => simp
      | tooManyDigits count => simp [not_brings_failed]
      | malformed cause offset line column =>
        dsimp only
        by_cases well : status = 0
        · rw [if_pos well]
          change (∃ exchange, exchangeOf .null (normalize fields (.str (String.ofList (c :: cs)))) =
            .ok exchange ∧ _) ↔ _
          rw [exchangeOf_brings_iff]
          simp [well]
        · rw [if_neg well]
          simp [well, not_brings_failed]

theorem not_gives_list {items : List Json} (h : "result" ∉ fields) :
    ¬ Gives fields (.obj [("result", .arr items)]) payload := by
  intro hgives
  have hlist : exposes fields (.arr items) = false :=
    List.any_eq_false.2 fun _ _ => Bool.false_ne_true
  obtain ⟨_, presents | ⟨content, searched, _⟩⟩ := LookedAtAs.object.gives_iff.1 hgives
  · have hfind := presents_iff.1 presents
    rw [places_result] at hfind
    simp [exposes_null, exposes_result, hlist, h] at hfind
  · have hfind := (searched_iff.1 searched).2
    rw [slotValues_result] at hfind
    cases hfind

theorem resultReply_brings_iff {text : Json} (h : "result" ∉ fields) :
    (∃ exchange, resultReply fields text = .ok exchange ∧ Brings exchange payload) ↔
      ∃ s, text = .str s ∧ Gives fields (.obj [("result", .str s)]) payload := by
  cases text with
  | str s =>
    unfold resultReply
    rw [exchangeOf_brings_iff]
    simp
  | arr items =>
    unfold resultReply
    rw [exchangeOf_brings_iff]
    simp [not_gives_list h]
  | _ => simp [resultReply]

variable {transport : Transport} {address : Address} {status : Nat}

theorem speaks_spoken_iff {text value : Json} :
    Speaks transport address (.spoken status text) value ↔ StatusLine.isSuccess status ∧
      value = carriedText transport (if Text.occurs contentVerb.toList address.plainPath.toList ==
        (transport == .contentService) then some text else none) := by
  constructor
  · generalize houtcome : OracleOutcome.spoken status text = outcome
    rintro (_ | success)
    · cases houtcome
    · cases houtcome
      exact ⟨success, rfl⟩
  · rintro ⟨success, rfl⟩
    exact .spoken success

theorem speaks_responded_iff {content : Content} {value : Json} :
    Speaks transport address (.responded status content) value ↔ StatusLine.isSuccess status ∧
      ∃ response, Json.decodeBytes content.bytes = .ok response ∧
        spokenValue transport response = .ok value := by
  constructor
  · rintro ⟨success, decoded, spoken⟩
    exact ⟨success, _, decoded, spoken⟩
  · rintro ⟨success, _, decoded, spoken⟩
    exact .responded success decoded spoken

theorem readSpoken_brings_iff {text : Json} (h : "result" ∉ fields) :
    (∃ exchange, readSpoken fields transport status address text = .ok exchange ∧
      Brings exchange payload) ↔
      ∃ s, Speaks transport address (.spoken status text) (.str s) ∧
        Gives fields (.obj [("result", .str s)]) payload := by
  simp only [speaks_spoken_iff]
  unfold readSpoken
  by_cases success : StatusLine.isSuccess status
  · rw [if_neg (not_not_intro success), resultReply_brings_iff h]
    simp only [success, true_and, eq_comm]
  · rw [if_pos success]
    simp [success, not_brings_failed]

theorem readResponse_brings_iff {content : Content} (h : "result" ∉ fields) :
    (∃ exchange, readResponse fields transport status address content = .ok exchange ∧
      Brings exchange payload) ↔
      ∃ s, Speaks transport address (.responded status content) (.str s) ∧
        Gives fields (.obj [("result", .str s)]) payload := by
  simp only [speaks_responded_iff]
  unfold readResponse
  by_cases success : StatusLine.isSuccess status
  · rw [if_neg (not_not_intro success)]
    simp only [success, true_and]
    split
    · next response decoded =>
      simp only [bind_eq_ok, decoded, Except.ok.injEq, exists_eq_left']
      constructor
      · rintro ⟨exchange, ⟨text, value, read⟩, brings⟩
        obtain ⟨s, rfl, gives⟩ := (resultReply_brings_iff h).1 ⟨exchange, read, brings⟩
        exact ⟨s, value, gives⟩
      · rintro ⟨s, value, gives⟩
        obtain ⟨exchange, read, brings⟩ := (resultReply_brings_iff h).2 ⟨s, rfl, gives⟩
        exact ⟨exchange, ⟨_, value, read⟩, brings⟩
    · next decoded => simp [decoded]
    · next decoded => simp [decoded, not_brings_failed]
  · rw [if_pos success]
    simp [success, not_brings_failed]

theorem agentExchange_brings_iff {schema : Schema} {due : OracleOutcome} :
    (∃ exchange, channel.agentExchange schema due = .ok (some exchange) ∧
      Brings exchange payload) ↔
      ∃ sent, channel.Delivers due .agent sent ∧ Gives schema.fields sent payload := by
  cases due with
  | finished status stdout stderr =>
    simp only [agentExchange, map_eq_ok, Option.some.injEq, exists_eq_right]
    rw [readAgent_brings_iff]
    constructor
    · rintro (⟨reply, decoded, gives⟩ | ⟨rfl, ⟨_, _, _, _, decoded⟩, gives⟩)
      · exact ⟨reply, .json rfl decoded, gives⟩
      · exact ⟨_, .prose rfl decoded, gives⟩
    · rintro ⟨_, ⟨⟨⟩, decoded⟩ | ⟨⟨⟩, decoded⟩, gives⟩
      · exact .inl ⟨_, decoded, gives⟩
      · exact .inr ⟨rfl, ⟨_, _, _, _, decoded⟩, gives⟩
  | notStarted | timedOut | silent | responded | spoken | unreachable =>
    -- Nothing is printed, and nothing can be delivered.
    constructor
    · rintro ⟨_, ⟨⟩, ⟨_, _, ⟨⟩⟩⟩
    · rintro ⟨_, ⟨⟨⟩, _⟩ | ⟨⟨⟩, _⟩, _⟩

theorem serviceExchange_brings_iff {schema : Schema} {due : OracleOutcome}
    {authorization : Option String} (h : "result" ∉ schema.fields) :
    (∃ exchange, channel.serviceExchange schema address due = .ok (some exchange) ∧
      Brings exchange payload) ↔
      ∃ sent, channel.Delivers due (.service address authorization) sent ∧
        Gives schema.fields sent payload := by
  have hdelivers : (∃ sent, channel.Delivers due (.service address authorization) sent ∧
      Gives schema.fields sent payload) ↔
      ∃ s, Speaks channel.provider.transport address due (.str s) ∧
        Gives schema.fields (.obj [("result", .str s)]) payload := by
    constructor
    · rintro ⟨_, delivers, gives⟩
      cases delivers with
      | service speaks => exact ⟨_, speaks, gives⟩
    · rintro ⟨s, speaks, gives⟩
      exact ⟨_, .service speaks, gives⟩
  rw [hdelivers]
  cases due with
  | responded status content =>
    simp only [serviceExchange, map_eq_ok, Option.some.injEq, exists_eq_right]
    exact readResponse_brings_iff h
  | spoken status text =>
    simp only [serviceExchange, map_eq_ok, Option.some.injEq, exists_eq_right]
    exact readSpoken_brings_iff h
  | timedOut | silent | unreachable =>
    constructor
    · rintro ⟨_, ⟨⟩, ⟨_, _, ⟨⟩⟩⟩
    · rintro ⟨_, ⟨⟩, _⟩
  | finished | notStarted =>
    obtain ⟨reason, hempty⟩ : ∃ reason, readResponse schema.fields channel.provider.transport 200
        address (.text "") = .ok (.failed reason) := readResponse_empty
    constructor
    · rintro ⟨_, hexchange, brings⟩
      simp only [serviceExchange, hempty] at hexchange
      cases hexchange
      exact absurd brings not_brings_failed
    · rintro ⟨_, ⟨⟩, _⟩

theorem exchange_brings_iff {prompt : String} {schema : Schema} {world : World}
    (h : "result" ∉ schema.fields) :
    (∃ exchange, channel.exchange prompt schema handle world = .ok (some exchange) ∧
      Brings exchange payload) ↔
      ∃ sent, channel.Delivers (dueOutcome channel.provider world)
        (channel.approach prompt schema handle world) sent ∧ Gives schema.fields sent payload := by
  unfold exchange
  cases channel.approach prompt schema handle world with
  | ended outcome =>
    constructor
    · rintro ⟨exchange, hexchange, brings⟩
      obtain ⟨reason?, _, hreason⟩ := map_eq_ok.1 hexchange
      obtain ⟨reason, _, rfl⟩ := Option.map_eq_some_iff.1 hreason
      exact absurd brings not_brings_failed
    · rintro ⟨_, ⟨⟩, _⟩
  | mute fault =>
    constructor
    · rintro ⟨exchange, ⟨⟩, brings⟩
      unfold muteExchange at brings
      split at brings <;> exact absurd brings not_brings_failed
    · rintro ⟨_, ⟨⟩, _⟩
  | agent => exact agentExchange_brings_iff
  | service address authorization => exact serviceExchange_brings_iff h

theorem ask_eq (query : Query) (handle : Option String) :
    channel.ask query handle = channel.request query.prompt query.schema handle := by
  cases query <;> rfl

theorem ask_outcome {query : Query} {world after : World} {reply : Reply}
    (h : channel.ask query handle world = .ok reply after) :
    reply.outcome = .ok payload ↔
      ∃ sent, channel.Delivers (dueOutcome channel.provider world)
        (channel.approachTo query handle world) sent ∧
        Gives query.schema.fields sent payload := by
  have hfields : "result" ∉ query.schema.fields := by
    have hschema : query.schema ∈
        [Schema.explain, Schema.fix, Schema.disable, Schema.question] := by
      cases query <;> simp [Query.schema]
    intro hmem
    exact unmistaken_fields hschema _ hmem (by decide)
  rw [ask_eq, request_eq, Act.ofExcept_eq_ok] at h
  obtain ⟨exchange?, hexchange, hreply⟩ := bind_eq_ok.1 h.1
  rw [replyOf_outcome hreply, ← exchange_brings_iff hfields, hexchange]
  simp

theorem Speaks.endsWell {authorization : Option String} {due : OracleOutcome} {text : Json}
    (h : Speaks transport address due text) : EndsWell (.service address authorization) due := by
  cases h with
  | responded success _ _ => exact .responded success
  | spoken success => exact .spoken success

theorem Delivers.ends {due : OracleOutcome} {approach : Approach} {sent : Json}
    (h : channel.Delivers due approach sent) : EndsWell approach due ∨
      ∃ status stdout stderr, approach = .agent ∧ due = .finished status stdout stderr ∧
        Json.decode (Text.trim stdout.lenient.toList) = .ok sent := by
  cases h with
  | json finished decoded => exact .inr ⟨_, _, _, rfl, finished, decoded⟩
  | prose finished decoded =>
    rw [finished]
    exact .inl .finished
  | service speaks => exact .inl speaks.endsWell

/-- A success that is reported is a payload that the provider has delivered. -/
theorem successes_genuine {channel : Channel} {query : Query} {handle : Option String}
    {world after : World} {reply : Reply}
    (h : channel.ask query handle world = .ok reply after) :
    channel.Genuine query handle world reply where
  delivered _ := ask_outcome h
  ended := by
    intro payload success
    obtain ⟨sent, delivers, _⟩ := (ask_outcome h).1 success
    rcases delivers.ends with well | ⟨status, stdout, stderr, agent, finished, decoded⟩
    · exact .inl well
    · exact .inr ⟨status, stdout, stderr, sent, agent, finished, decoded⟩
  silent := by
    intro payload success
    obtain ⟨sent, delivers, gives⟩ := (ask_outcome h).1 success
    obtain ⟨_, envelope, looked, silent, supplies⟩ := gives_iff_supplies.1 gives
    exact ⟨sent, envelope, delivers, looked, silent, supplies⟩
  expected := by
    intro payload success
    obtain ⟨sent, delivers, gives⟩ := (ask_outcome h).1 success
    obtain ⟨_, _, _, _, supplies⟩ := gives_iff_supplies.1 gives
    exact exists_member_of_exposes supplies.exposes

def printedAnswer : Content :=
  .text "\x7b\"result\":\x7b\"answer\":\"x\"\x7d\x7d"

def agentChannel : Channel :=
  ⟨⟨"claude-code", .schemaAgent, "haiku", [], "", "claude"⟩, "haiku", .seconds (.finite false 60 0)⟩

/-- A world in which an agent prints an answer and exits with a status. -/
def printingWorld (status : Int) : World :=
  { World.empty with replies := [⟨.finished status printedAnswer (.text ""), []⟩] }

theorem readAgent_printedAnswer (status : Int) :
    readAgent Schema.question.fields "claude" status printedAnswer.lenient "" =
      .ok (.replied ⟨.object, .ok (.obj [("answer", .str "x")])⟩ .null) := by
  have hdecode : Json.decode (Text.trim printedAnswer.lenient.toList) =
      .ok (.obj [("result", .obj [("answer", .str "x")])]) :=
    decode_eq_ok_of_toOption (by decide +kernel)
  unfold readAgent
  split
  · next hnil =>
    rw [hnil] at hdecode
    cases hdecode
  · next hcons =>
    rw [hdecode]
    rfl

/-- The answer is a success, whatever the status. -/
theorem ask_printedAnswer (status : Int) :
    ∃ after, agentChannel.ask (.answer "q" "c") none (printingWorld status) =
      .ok ⟨.ok (.obj [("answer", .str "x")]), none⟩ after := by
  let query : Query := .answer "q" "c"
  have launched : World.empty.launchFault? (agentChannel.agentCommand .question none) = none := by
    decide +kernel
  have hasks : agentChannel.approach query.prompt .question none (printingWorld status) = .agent :=
    approach_eq_agent (by decide +kernel) rfl launched rfl
  have hexchange : agentChannel.exchange query.prompt .question none (printingWorld status) =
      .ok (some (.replied ⟨.object, .ok (.obj [("answer", .str "x")])⟩ .null)) := by
    unfold exchange
    rw [hasks]
    change some <$> readAgent Schema.question.fields "claude" status printedAnswer.lenient "" = _
    rw [readAgent_printedAnswer]
    rfl
  refine ⟨agentChannel.sentWorld query.prompt .question none (printingWorld status), ?_⟩
  rw [ask_eq, request_eq, Act.ofExcept_eq_ok]
  exact ⟨bind_eq_ok.2 ⟨_, hexchange, rfl⟩, rfl⟩

theorem successes_genuine_printedAnswer :
    ∃ reply after, agentChannel.ask (.answer "q" "c") none (printingWorld 0) = .ok reply after ∧
      agentChannel.Genuine (.answer "q" "c") none (printingWorld 0) reply := by
  obtain ⟨after, hask⟩ := ask_printedAnswer 0
  exact ⟨_, after, hask, successes_genuine hask⟩

theorem success_after_bad_end :
    ¬ ∀ (channel : Channel) (query : Query) (handle : Option String) (world after : World)
      (reply : Reply) (payload : Json), channel.ask query handle world = .ok reply after →
      reply.outcome = .ok payload →
      EndsWell (channel.approachTo query handle world) (dueOutcome channel.provider world) := by
  intro hall
  obtain ⟨after, hask⟩ := ask_printedAnswer 1
  have hends := hall _ _ _ _ _ _ _ hask rfl
  revert hends
  generalize agentChannel.approachTo _ _ _ = approach
  rintro ⟨⟩

end Channel
end Oracle
end LintRemedy
