import LintRemedy.Oracle.Schema
import LintRemedy.Proofs.Oracle.Envelope
import LintRemedy.Proofs.Oracle.Search
import LintRemedy.Proofs.Outcome

/-!
This module contains that every way of delivering a payload gives back the same payload: in a slot
as it is, in a slot as text with or without prose around it, and as raw text.
-/

namespace LintRemedy
namespace Oracle

open Json

/-- A text that does not go too deep for the decoder. -/
def Shallow (cs : List Char) : Prop :=
  ∀ place, decode cs ≠ .error (.tooDeep place)

def Gives (fields : List String) (reply payload : Json) : Prop :=
  ∃ shape, normalize fields reply = .ok ⟨shape, .ok payload⟩

/-- The reason why there is no payload where a text has been searched. -/
def unfound (fields : List String) : String :=
  "No JSON object with fields " ++ ", ".intercalate fields ++ " found in response"

/-- The ways in which a payload, or a text of it, is given back. Between prose it is unless the
text around it goes too deep. -/
structure RoundTrips (fields : List String) (payload : Json) (text : List Char) : Prop where
  structured : ∀ reply, Envelope fields "structured_output" payload reply →
    Gives fields reply payload
  object : ∀ slot ∈ resultSlots, ∀ reply, Envelope fields slot payload reply →
    Gives fields reply payload
  slotText : ∀ slot ∈ resultSlots, ∀ reply,
    Envelope fields slot (.str (String.ofList text)) reply → Gives fields reply payload
  slotProse : ∀ slot ∈ resultSlots, ∀ before after reply, '{' ∉ before →
    Envelope fields slot (.str (String.ofList (before ++ (text ++ after)))) reply →
      (Gives fields reply payload ↔ Shallow (stripFence (before ++ (text ++ after))))
  rawText : Gives fields (.str (String.ofList text)) payload
  rawProse : ∀ before after, '{' ∉ before →
    (Gives fields (.str (String.ofList (before ++ (text ++ after)))) payload ↔
      Shallow (Text.trim (before ++ (text ++ after))) ∧
        Shallow (stripFence (Text.trim (before ++ (text ++ after)))))
  /-- Prose goes too deep only where more lists and objects open than may be open at once. -/
  shallow : ∀ before after, opened (before ++ (text ++ after)) ≤ maxDepth →
    Shallow (Text.trim (before ++ (text ++ after))) ∧
      Shallow (stripFence (before ++ (text ++ after))) ∧
      Shallow (stripFence (Text.trim (before ++ (text ++ after))))

/-- A text with a payload in it, and no object before that. -/
def Holds (fields : List String) (payload : Json) (cs : List Char) : Prop :=
  ∃ before piece after, cs = before ++ (piece ++ after) ∧ '{' ∉ before ∧
    PayloadText fields piece payload

section Holding

variable {fields : List String} {payload : Json} {cs cleaned : List Char}

theorem Holds.of_strips (h : Holds fields payload cs) (hstrips : Strips cs cleaned) :
    Holds fields payload cleaned := by
  obtain ⟨before, piece, after, hsplit, hbefore, hpiece⟩ := h
  obtain ⟨a, b, rfl, ha, hb⟩ := hstrips
  obtain ⟨inner, rfl⟩ := hpiece.braces
  obtain ⟨before', after', rfl, rfl, rfl⟩ := exists_inside ha hb hsplit
  refine ⟨before', _, after', rfl, ?_, hpiece⟩
  intro hmem
  exact hbefore (List.mem_append_right a hmem)

theorem Holds.ne_nil (h : Holds fields payload cs) : cs ≠ [] := by
  obtain ⟨before, piece, after, rfl, _, hpiece⟩ := h
  obtain ⟨inner, rfl⟩ := hpiece.braces
  simp

theorem Holds.rightAnswer (h : Holds fields payload cs) :
    RightAnswer fields cs (some payload) := by
  obtain ⟨before, piece, after, rfl, hbefore, hpiece⟩ := h
  apply (Strips.of_append_left hbefore).rightAnswer
  refine ⟨0, ⟨[], piece, after, rfl, rfl, hpiece⟩, ?_⟩
  intro other value hother
  exact Nat.zero_le other

theorem balancedObjects_append {before rest : List Char} (h : '{' ∉ before) :
    balancedObjects (before ++ rest) = balancedObjects rest := by
  induction before with
  | nil => rfl
  | cons c before ih =>
    rw [List.mem_cons, not_or] at h
    rw [List.cons_append, balancedObjects, if_neg (Ne.symm h.1)]
    exact ih h.2

theorem Holds.balancedObjects_eq (h : Holds fields payload cs) :
    ∃ piece others, balancedObjects cs = piece :: others ∧ PayloadText fields piece payload := by
  obtain ⟨before, piece, after, rfl, hbefore, hpiece⟩ := h
  obtain ⟨inner, rfl⟩ := hpiece.braces
  refine ⟨_, balancedObjects (inner ++ '}' :: after), ?_, hpiece⟩
  rw [balancedObjects_append hbefore]
  have hclose := hpiece.closeBrace?_eq_some after
  rw [List.cons_append, List.append_assoc, List.singleton_append, balancedObjects, if_pos rfl,
    hclose]

/-- The search of a text that holds a payload gives it, unless the text goes too deep. -/
theorem Holds.findPayload?_eq_ok (h : Holds fields payload cs) (hshallow : Shallow (stripFence cs)) :
    findPayload? fields cs = .ok (some payload) := by
  apply findPayload?_eq_ok_iff.2
  refine ⟨h.rightAnswer, ?_⟩
  obtain ⟨piece, others, hpieces, hpiece⟩ :=
    (h.of_strips (Strips.stripFence cs)).balancedObjects_eq
  -- The search tries the text and then the payload, and ends there.
  rintro place ⟨before, text, after, hsplit, hbefore, htext⟩
  unfold attempts at hsplit
  rw [hpieces] at hsplit
  cases before with
  | nil =>
    cases hsplit
    exact hshallow place htext
  | cons first before =>
    cases before with
    | nil =>
      cases hsplit
      rw [hpiece.reads] at htext
      cases htext
    | cons second before =>
      simp only [List.cons_append, List.cons.injEq] at hsplit
      have hnone := hbefore second (by simp)
      rw [← hsplit.2.1, payloadOf?_eq_ok_some_iff.2 ⟨hpiece.reads, hpiece.exposes⟩] at hnone
      cases hnone

theorem findPayload?_eq_error {place : TooDeep} (h : decode (stripFence cs) = .error (.tooDeep place)) :
    findPayload? fields cs = .error place :=
  findPayload?_eq_error_iff.2 ⟨[], _, _, rfl, by simp, h⟩

theorem Holds.findPayload?_iff (h : Holds fields payload cs) :
    findPayload? fields cs = .ok (some payload) ↔ Shallow (stripFence cs) := by
  constructor
  · intro hfind place hdeep
    rw [findPayload?_eq_error hdeep] at hfind
    cases hfind
  · exact h.findPayload?_eq_ok

theorem Holds.eq_of_decode {members : List (String × Json)} (h : Holds fields payload cs)
    (hreads : decode cs = .ok (.obj members)) : .obj members = payload := by
  obtain ⟨before, piece, after, hsplit, hbefore, hpiece⟩ := h
  obtain ⟨a, piece', b, rfl, ha, _, htext⟩ := decode_eq_ok_iff.1 hreads
  obtain ⟨inner, rfl⟩ := hpiece.braces
  obtain ⟨tail, rfl⟩ := exists_tail htext
  obtain ⟨inner', rfl, _⟩ := exists_inner htext
  have hobject : ObjectText ('{' :: (inner' ++ ['}'])) (.obj members) :=
    ⟨⟨inner', rfl⟩,
      decode_eq_ok_iff.2 ⟨[], _, [], by simp, by simp [Blanks], by simp [Blanks], htext⟩⟩
  rw [List.cons_append, List.cons_append] at hsplit
  have hrest := eq_of_first (not_mem_blanks rfl ha) hbefore hsplit
  have hpieces : '{' :: (inner' ++ ['}']) ++ b = '{' :: (inner ++ ['}']) ++ after := by
    rw [List.cons_append, List.cons_append, hrest]
  exact (hobject.eq_of_append hpiece.toObjectText hpieces).2

end Holding

section Whole

variable {fields : List String} {payload : Json} {text cleaned : List Char}

theorem holds_of_decode (hreads : decode text = .ok payload) (hexposes : exposes fields payload) :
    Holds fields payload text := by
  obtain ⟨a, piece, b, rfl, ha, _, hpiece⟩ := exists_payloadText hreads hexposes
  exact ⟨a, piece, b, rfl, not_mem_blanks rfl ha, hpiece⟩

theorem Holds.between {before after : List Char} (h : Holds fields payload text)
    (hbefore : '{' ∉ before) : Holds fields payload (before ++ (text ++ after)) := by
  obtain ⟨a, piece, b, rfl, ha, hpiece⟩ := h
  refine ⟨before ++ a, piece, b ++ after, by simp, ?_, hpiece⟩
  rw [List.mem_append, not_or]
  exact ⟨hbefore, ha⟩

theorem decode_of_strips (hreads : decode text = .ok payload) (hexposes : exposes fields payload)
    (hstrips : Strips text cleaned) : decode cleaned = .ok payload := by
  obtain ⟨a, piece, b, rfl, ha, hb, hpiece⟩ := exists_payloadText hreads hexposes
  obtain ⟨c, d, hsplit, hc, hd⟩ := hstrips
  obtain ⟨inner, rfl⟩ := hpiece.braces
  obtain ⟨a', b', rfl, rfl, rfl⟩ := exists_inside hc hd hsplit.symm
  have ha' : Blanks a' := fun e he => ha e (List.mem_append_right c he)
  have hb' : Blanks b' := fun e he => hb e (List.mem_append_left d he)
  exact decode_eq_ok_iff.2 ⟨a', _, b', rfl, ha', hb', hpiece.text⟩

theorem shallow_of_decode {cs : List Char} {v : Json} (h : decode cs = .ok v) : Shallow cs := by
  intro place hdeep
  rw [h] at hdeep
  cases hdeep

theorem shallow_of_opened {cs : List Char} (h : opened cs ≤ maxDepth) : Shallow cs := by
  intro place hdeep
  exact absurd (maxDepth_lt_opened hdeep) (Nat.not_lt.2 h)

end Whole

section Replies

variable {fields : List String} {payload reply : Json}

theorem Normalized.ofValue_eq (fields : List String) (reply : Json) :
    Normalized.ofValue fields reply =
      ((Delivery.ofReply fields reply).resolve fields).map
        (⟨(Delivery.ofReply fields reply).shape, ·⟩) := by
  unfold Normalized.ofValue
  dsimp only
  cases (Delivery.ofReply fields reply).resolve fields with
  | error place => rfl
  | ok outcome => rfl

theorem normalize_envelope {slot : String} {value : Json} (h : Envelope fields slot value reply) :
    normalize fields reply = Normalized.ofValue fields reply := by
  obtain ⟨before, after, rfl, _⟩ := h
  rfl

theorem ofValue_outcome (fields : List String) (reply : Json) :
    (Normalized.ofValue fields reply).map (·.outcome) =
      (Delivery.ofReply fields reply).resolve fields := by
  rw [Normalized.ofValue_eq]
  cases (Delivery.ofReply fields reply).resolve fields <;> rfl

theorem outcome_eq_ok_iff {result : Except ReplyFault Normalized}
    {outcome : Except String Json} :
    result.map (·.outcome) = .ok outcome ↔ ∃ shape, result = .ok ⟨shape, outcome⟩ := by
  cases result with
  | error fault => simp [Except.map]
  | ok normalized =>
    obtain ⟨shape, outcome'⟩ := normalized
    simp [Except.map]

theorem ofValue_gives_iff :
    (∃ shape, Normalized.ofValue fields reply = .ok ⟨shape, .ok payload⟩) ↔
      (Delivery.ofReply fields reply).resolve fields = .ok (.ok payload) := by
  rw [← outcome_eq_ok_iff, ofValue_outcome]

/-- The search of a text gives a payload, or the reason that there is none. -/
theorem resolve_text_eq (fields : List String) (content : String) :
    (Delivery.text content).resolve fields =
      ((findPayload? fields content.toList).mapError .tooDeep).map
        (·.elim (.error (unfound fields)) .ok) := by
  unfold Delivery.resolve
  dsimp only
  cases findPayload? fields content.toList with
  | error place => rfl
  | ok found => cases found <;> rfl

theorem resolve_text_iff {content : String} :
    (Delivery.text content).resolve fields = .ok (.ok payload) ↔
      findPayload? fields content.toList = .ok (some payload) := by
  rw [resolve_text_eq]
  cases findPayload? fields content.toList with
  | error place => simp [Except.map]
  | ok found => cases found <;> simp [Except.map]

theorem resolve_text_error_iff {content : String} {fault : ReplyFault} :
    (Delivery.text content).resolve fields = .error fault ↔
      ∃ place, findPayload? fields content.toList = .error place ∧ .tooDeep place = fault := by
  rw [resolve_text_eq]
  cases findPayload? fields content.toList <;> simp [Except.map]

theorem resolve_text_unfound_iff {content reason : String} :
    (Delivery.text content).resolve fields = .ok (.error reason) ↔
      findPayload? fields content.toList = .ok none ∧ unfound fields = reason := by
  rw [resolve_text_eq]
  cases findPayload? fields content.toList with
  | error place => simp [Except.map]
  | ok found => cases found <;> simp [Except.map]

/-- A text in a slot gives the payload that it holds, unless it goes too deep. -/
theorem gives_slotText_iff {slot : String} {cs : List Char} (hfields : Unmistaken fields)
    (hslot : slot ∈ resultSlots) (hcs : Holds fields payload cs)
    (h : Envelope fields slot (.str (String.ofList cs)) reply) :
    (∃ shape, Normalized.ofValue fields reply = .ok ⟨shape, .ok payload⟩) ↔
      Shallow (stripFence cs) := by
  have hspoken : Text.trim (String.ofList cs).toList ≠ [] := by
    rw [String.toList_ofList]
    exact (hcs.of_strips (Strips.trim cs)).ne_nil
  rw [ofValue_gives_iff, Delivery.ofReply_text hfields hslot hspoken h, resolve_text_iff,
    String.toList_ofList]
  exact hcs.findPayload?_iff

theorem replyOfText_eq (cs : List Char) :
    (∃ members, decode cs = .ok (.obj members) ∧ replyOfText cs = .ok (.obj members)) ∨
      (∃ place, decode cs = .error (.tooDeep place) ∧ replyOfText cs = .error (.tooDeep place)) ∨
      (Shallow cs ∧ replyOfText cs = .ok (.obj [("result", .str (String.ofList cs))])) := by
  unfold replyOfText
  split
  · next members heq => exact .inl ⟨members, heq, rfl⟩
  · next place heq => exact .inr (.inl ⟨place, heq, rfl⟩)
  all_goals
    next heq =>
    refine .inr (.inr ⟨?_, rfl⟩)
    intro place hdeep
    rw [heq] at hdeep
    cases hdeep

theorem normalize_text {cs : List Char} (h : Text.trim cs ≠ []) :
    normalize fields (.str (String.ofList cs)) =
      replyOfText (Text.trim cs) >>= Normalized.ofValue fields := by
  change Normalized.ofText fields (String.ofList cs) = _
  unfold Normalized.ofText
  rw [String.toList_ofList]
  split
  · next heq => exact absurd heq h
  · rfl

theorem envelope_result (fields : List String) (value : Json) :
    Envelope fields "result" value (.obj [("result", value)]) :=
  ⟨[], [], rfl, by simp⟩

/-- A raw text gives the payload that it holds, unless it goes too deep. -/
theorem gives_rawText_iff {cs : List Char} (hfields : Unmistaken fields)
    (hpayload : IsPayload fields payload) (hcs : Holds fields payload cs) :
    Gives fields (.str (String.ofList cs)) payload ↔
      Shallow (Text.trim cs) ∧ Shallow (stripFence (Text.trim cs)) := by
  have htrim := hcs.of_strips (Strips.trim cs)
  unfold Gives
  rw [normalize_text htrim.ne_nil]
  rcases replyOfText_eq (Text.trim cs) with
    ⟨members, hreads, hreply⟩ | ⟨place, hdeep, hreply⟩ | ⟨hshallow, hreply⟩
  · -- The text is the payload with blanks around it, and becomes the reply itself.
    rw [hreply, htrim.eq_of_decode hreads]
    constructor
    · intro _
      have hexposes := exposes_of_isPayload hpayload
      rw [htrim.eq_of_decode hreads] at hreads
      exact ⟨shallow_of_decode hreads,
        shallow_of_decode (decode_of_strips hreads hexposes (Strips.stripFence _))⟩
    · intro _
      apply ofValue_gives_iff.2
      rw [Delivery.ofReply_payload hfields hpayload]
      rfl
  · rw [hreply]
    constructor
    · rintro ⟨shape, h⟩
      cases h
    · rintro ⟨hshallow, _⟩
      exact absurd hdeep (hshallow place)
  · -- The text becomes the result of a reply, and is searched like any other.
    rw [hreply]
    have hgives := gives_slotText_iff hfields (by decide) htrim (envelope_result fields _)
    constructor
    · intro h
      exact ⟨hshallow, hgives.1 h⟩
    · rintro ⟨_, h⟩
      exact hgives.2 h

end Replies

section Schemas

variable {schema : Schema} {payload : Json} {text : List Char}

theorem unmistaken_fields
    (h : schema ∈ [Schema.explain, Schema.fix, Schema.disable, Schema.question]) :
    Unmistaken schema.fields := by
  revert schema
  unfold Unmistaken
  decide

/-- Every way of delivering a payload of a request gives that payload back. -/
theorem deliveries_round_trip
    (hschema : schema ∈ [Schema.explain, Schema.fix, Schema.disable, Schema.question])
    (hpayload : IsPayload schema.fields payload) (htext : decode text = .ok payload) :
    RoundTrips schema.fields payload text := by
  have hfields := unmistaken_fields hschema
  have hexposes := exposes_of_isPayload hpayload
  have hwhole := holds_of_decode htext hexposes
  constructor
  case structured =>
    intro reply h
    unfold Gives
    rw [normalize_envelope h, ofValue_gives_iff, Delivery.ofReply_structured hexposes h]
    rfl
  case object =>
    intro slot hslot reply h
    unfold Gives
    rw [normalize_envelope h, ofValue_gives_iff, Delivery.ofReply_object hslot hexposes h]
    rfl
  case slotText =>
    intro slot hslot reply h
    unfold Gives
    rw [normalize_envelope h, gives_slotText_iff hfields hslot hwhole h]
    exact shallow_of_decode (decode_of_strips htext hexposes (Strips.stripFence text))
  case slotProse =>
    intro slot hslot before after reply hbefore h
    unfold Gives
    rw [normalize_envelope h]
    exact gives_slotText_iff hfields hslot (hwhole.between hbefore) h
  case rawText =>
    have htrim := decode_of_strips htext hexposes (Strips.trim text)
    apply (gives_rawText_iff hfields hpayload hwhole).2
    exact ⟨shallow_of_decode htrim,
      shallow_of_decode (decode_of_strips htrim hexposes (Strips.stripFence _))⟩
  case rawProse =>
    intro before after hbefore
    exact gives_rawText_iff hfields hpayload (hwhole.between hbefore)
  case shallow =>
    intro before after hfew
    have htrim := opened_le_of_strips (Strips.trim (before ++ (text ++ after)))
    have hfence := opened_le_of_strips (Strips.stripFence (before ++ (text ++ after)))
    have hboth := opened_le_of_strips (Strips.stripFence (Text.trim (before ++ (text ++ after))))
    refine ⟨shallow_of_opened ?_, shallow_of_opened ?_, shallow_of_opened ?_⟩
    all_goals omega

theorem isPayload_shortAnswer :
    IsPayload Schema.question.fields (.obj [("answer", .str "x")]) :=
  ⟨_, rfl, by decide, by decide⟩

/-- An answer with a brace between escaped quotes, and with blanks around it. -/
def quotedAnswer : List Char :=
  " \x7b\"answer\": \"a \\\"\x7d\\\" b\"\x7d\n".toList

theorem deliveries_round_trip_quotedAnswer :
    IsPayload Schema.question.fields (.obj [("answer", .str "a \"\x7d\" b")]) ∧
      decode quotedAnswer = .ok (.obj [("answer", .str "a \"\x7d\" b")]) ∧
      RoundTrips Schema.question.fields (.obj [("answer", .str "a \"\x7d\" b")])
        quotedAnswer := by
  have hpayload : IsPayload Schema.question.fields (.obj [("answer", .str "a \"\x7d\" b")]) :=
    ⟨_, rfl, by decide, by decide⟩
  have hreads : decode quotedAnswer = .ok (.obj [("answer", .str "a \"\x7d\" b")]) :=
    decode_eq_ok_of_toOption (by decide +kernel)
  exact ⟨hpayload, hreads, deliveries_round_trip (by decide) hpayload hreads⟩

theorem deliveries_lose_deep_prose :
    ¬ ∀ schema ∈ [Schema.explain, Schema.fix, Schema.disable, Schema.question],
      ∀ payload text before after, IsPayload schema.fields payload →
        decode text = .ok payload → '{' ∉ before →
        Gives schema.fields
          (.obj [("result", .str (String.ofList (before ++ (text ++ after))))]) payload := by
  intro hall
  have hbefore : '{' ∉ List.replicate (maxDepth + 1) '[' := by
    intro hmem
    cases List.eq_of_mem_replicate hmem
  have hpayload := isPayload_shortAnswer
  have hreads := payloadText_shortAnswer.reads
  have hexposes := exposes_of_isPayload hpayload
  have hholds : Holds Schema.question.fields (.obj [("answer", .str "x")])
      (List.replicate (maxDepth + 1) '[' ++ (shortAnswer ++ [])) :=
    (holds_of_decode hreads hexposes).between hbefore
  have hgives := hall .question (by decide) _ shortAnswer _ [] hpayload hreads hbefore
  unfold Gives at hgives
  rw [normalize_envelope (envelope_result Schema.question.fields _),
    gives_slotText_iff (unmistaken_fields (by decide)) (by decide) hholds
      (envelope_result Schema.question.fields _), ← hholds.findPayload?_iff, List.append_nil,
    findPayload?_brackets _ payloadText_shortAnswer.toObjectText] at hgives
  cases hgives

end Schemas

end Oracle
end LintRemedy
