import LintRemedy.Proofs.Json.Rendering
import LintRemedy.Proofs.Oracle.RoundTrip

/-!
This module contains where the payload of a reply comes from. It stands in the reply itself, as an
object or in a text, and nowhere in a reply that reports an error. There is always an outcome,
unless a text goes too deep or the reason for an error cannot be shown.
-/

namespace LintRemedy
namespace Oracle

open Json

inductive ReportsError (reply : Json) : Prop where
  | flag (flagged : reply.field? "is_error" = some (.bool true))
  | subtype {name} (named : reply.field? "subtype" = some (.str name))
      (error : "error".toList <+: name.toList)
  | text {reason} (given : reply.field? "error" = some (.str reason)) (filled : reason ≠ "")
  | object {members} (given : reply.field? "error" = some (.obj members)) (filled : members ≠ [])

/-- The object as which a reply is looked at: the reply itself, the object that a text spells, or
one with the text as its result. -/
inductive LookedAtAs : Json → Json → Prop where
  | object {members} : LookedAtAs (.obj members) (.obj members)
  | spelled {s members} (reads : decode (Text.trim s.toList) = .ok (.obj members)) :
      LookedAtAs (.str s) (.obj members)
  | prose {s} (filled : Text.trim s.toList ≠ []) (shallow : Shallow (Text.trim s.toList))
      (noObject : ∀ members, decode (Text.trim s.toList) ≠ .ok (.obj members)) :
      LookedAtAs (.str s) (.obj [("result", .str (Text.trimmed s))])

/-- The values of the result slots of a reply, in their order. -/
def slotValues (reply : Json) : List Json :=
  resultSlots.map reply.field

/-- The places of a reply where its payload may stand as an object, in their order: the slot for
structured output, the result slots, and the reply itself. -/
def places (reply : Json) : List Json :=
  reply.field "structured_output" :: (slotValues reply ++ [reply])

/-- A reply presents an object in the first place where one has an expected field. -/
structure Presents (fields : List String) (reply payload : Json) : Prop where
  expected : exposes fields payload
  first : ∃ before after, places reply = before ++ payload :: after ∧
    ∀ value ∈ before, ¬ exposes fields value

/-- The text of a reply that is searched: the first one in a result slot that is more than blanks,
where no place has an object with an expected field. -/
structure Searched (fields : List String) (reply : Json) (content : String) : Prop where
  nowhere : ∀ value ∈ places reply, ¬ exposes fields value
  first : ∃ before after, slotValues reply = before ++ .str content :: after ∧
    ∀ s, .str s ∈ before → Text.trim s.toList = []
  filled : Text.trim content.toList ≠ []

/-- A reply from which there is no outcome: it goes too deep as a text, or on the way to the payload
in the text that is searched. -/
inductive GoesTooDeep (fields : List String) : Json → TooDeep → Prop where
  | whole {s place} (deep : decode (Text.trim s.toList) = .error (.tooDeep place)) :
      GoesTooDeep fields (.str s) place
  | content {reply envelope content place} (looked : LookedAtAs reply envelope)
      (silent : ¬ ReportsError envelope) (searched : Searched fields envelope content)
      (deep : MeetsTooDeep fields (attempts content.toList) place) : GoesTooDeep fields reply place

/-- A reply with an error that cannot be told: the reason is no text, and something in it keeps it
from having a display form. -/
inductive IsUnshown : Json → RenderFault → Prop where
  | mk {reply envelope reason fault} (looked : LookedAtAs reply envelope)
      (given : failureOf? envelope = some reason) (noText : ∀ s, reason ≠ .str s)
      (obstacle : reason.obstacle? .display = some fault) : IsUnshown reply fault

/-- A payload that a reply supplies: it is presented, or it starts first in the text that is
searched. -/
inductive Supplies (fields : List String) (reply payload : Json) : Prop where
  | presented (presents : Presents fields reply payload)
  | found {content} (searched : Searched fields reply content)
      (starts : RightAnswer fields content.toList (some payload))

/-- What becomes of a reply. Its payload is always its own. -/
structure NeverInvents (fields : List String) (reply : Json) : Prop where
  stops : ∀ place, normalize fields reply = .error (.tooDeep place) ↔
    GoesTooDeep fields reply place
  unshown : ∀ fault, normalize fields reply = .error (.unshown fault) ↔ IsUnshown reply fault
  reported : ∀ envelope, LookedAtAs reply envelope → ReportsError envelope →
    (∀ fault, ¬ IsUnshown reply fault) →
      ∃ shape reason, normalize fields reply = .ok ⟨shape, .error reason⟩
  gives : ∀ payload, Gives fields reply payload ↔ (∀ place, ¬ GoesTooDeep fields reply place) ∧
    ∃ envelope, LookedAtAs reply envelope ∧ ¬ ReportsError envelope ∧
      Supplies fields envelope payload
  expected : ∀ payload, Gives fields reply payload →
    ∃ members name value, payload = .obj members ∧ name ∈ fields ∧ (name, value) ∈ members
  reasons : ∀ shape reason, normalize fields reply = .ok ⟨shape, .error reason⟩ → reason ≠ ""

section Errors

variable {reply reason : Json}

theorem errorField?_isSome_iff : (failureOf?.errorField? reply).isSome ↔
    (∃ s, reply.field? "error" = some (.str s) ∧ s ≠ "") ∨
      ∃ members, reply.field? "error" = some (.obj members) ∧ members ≠ [] := by
  unfold failureOf?.errorField?
  split
  · next s heq => split <;> simp_all
  · next heq => simp [heq]
  · next hstr hobj =>
    constructor
    · nofun
    · rintro (⟨s, heq, _⟩ | ⟨members, heq, hne⟩)
      · exact (hstr s heq).elim
      · obtain ⟨field, fields, rfl⟩ := List.exists_cons_of_ne_nil hne
        exact (hobj field fields heq).elim

theorem reportsError_iff : ReportsError reply ↔ reply.field? "is_error" = some (.bool true) ∨
    (∃ name, reply.field? "subtype" = some (.str name) ∧ "error".toList <+: name.toList) ∨
      (failureOf?.errorField? reply).isSome := by
  rw [errorField?_isSome_iff]
  constructor
  · rintro (flagged | ⟨named, error⟩ | ⟨given, filled⟩ | ⟨given, filled⟩)
    · exact .inl flagged
    · exact .inr (.inl ⟨_, named, error⟩)
    · exact .inr (.inr (.inl ⟨_, given, filled⟩))
    · exact .inr (.inr (.inr ⟨_, given, filled⟩))
  · rintro (flagged | ⟨_, named, error⟩ | ⟨_, given, filled⟩ | ⟨_, given, filled⟩)
    · exact .flag flagged
    · exact .subtype named error
    · exact .text given filled
    · exact .object given filled

theorem failureOf?_isSome_iff : (failureOf? reply).isSome ↔ ReportsError reply := by
  rw [reportsError_iff]
  unfold failureOf?
  split
  · next flagged =>
    apply iff_of_true _ (.inl flagged)
    split <;> rfl
  · next notFlagged =>
    split
    · next name named =>
      split
      · next error =>
        obtain ⟨rest, hrest⟩ := Option.isSome_iff_exists.1 error
        apply iff_of_true rfl
        exact .inr (.inl ⟨name, named, rest, (Text.after?_eq_some_iff.1 hrest).symm⟩)
      · next noError =>
        have unnamed : ¬ ∃ name, reply.field? "subtype" = some (.str name) ∧
            "error".toList <+: name.toList := by
          rintro ⟨name', named', rest, hrest⟩
          rw [named] at named'
          cases named'
          rw [Text.after?_eq_some_iff.2 hrest.symm] at noError
          exact noError rfl
        simp only [notFlagged, unnamed, false_or]
    · next noText =>
      have unnamed : ¬ ∃ name, reply.field? "subtype" = some (.str name) ∧
          "error".toList <+: name.toList := by
        rintro ⟨name, named, _⟩
        exact noText name named
      simp only [notFlagged, unnamed, false_or]

theorem isFilled_of_failureOf? (h : failureOf? reply = some reason) : reason.isFilled := by
  have herrorField : failureOf?.errorField? reply = some reason → reason.isFilled := by
    intro h
    unfold failureOf?.errorField? at h
    split at h
    · split at h
      · cases h
      · next filled =>
        cases h
        exact decide_eq_true filled
    · cases h
      rfl
    · cases h
  unfold failureOf? at h
  split at h
  · split at h
    · next hfilled =>
      cases h
      exact filled?_eq_some hfilled
    · next hfilled =>
      cases h
      exact filled?_eq_some hfilled
    · cases h
      rfl
  · split at h
    · split at h
      · cases h
        simp [isFilled]
      · exact herrorField h
    · exact herrorField h

end Errors

section Deliveries

variable {fields : List String} {members : List (String × Json)} {reply payload : Json}
  {content : String}

theorem spokenText?_eq_some_iff {value : Json} :
    spokenText? value = some content ↔ value = .str content ∧ Text.trim content.toList ≠ [] := by
  unfold spokenText?
  split
  · next s =>
    split
    · next blank =>
      constructor
      · nofun
      · rintro ⟨heq, filled⟩
        cases heq
        exact absurd blank filled
    · next filled =>
      rw [Option.some.injEq, Json.str.injEq]
      constructor
      · rintro rfl
        exact ⟨rfl, filled⟩
      · rintro ⟨rfl, _⟩
        rfl
  · next noText =>
    constructor
    · nofun
    · rintro ⟨heq, _⟩
      exact (noText content heq).elim

theorem spokenText?_eq_none_iff {value : Json} :
    spokenText? value = none ↔ ∀ s, value = .str s → Text.trim s.toList = [] := by
  rw [Option.eq_none_iff_forall_ne_some]
  constructor
  · intro h s hs
    apply Decidable.byContradiction
    intro filled
    exact h s (spokenText?_eq_some_iff.2 ⟨hs, filled⟩)
  · intro h s hs
    obtain ⟨rfl, filled⟩ := spokenText?_eq_some_iff.1 hs
    exact filled (h s rfl)

theorem unfound_ne_empty (fields : List String) : unfound fields ≠ "" := by
  intro heq
  unfold unfound at heq
  exact absurd (String.append_eq_empty_iff.1 heq).2 (by decide)

theorem presents_iff :
    Presents fields reply payload ↔ (places reply).find? (exposes fields) = some payload := by
  rw [List.find?_eq_some_iff_append]
  simp only [Bool.not_eq_true', ← Bool.not_eq_true]
  constructor
  · rintro ⟨expected, first⟩
    exact ⟨expected, first⟩
  · rintro ⟨expected, first⟩
    exact ⟨expected, first⟩

theorem searched_iff :
    Searched fields reply content ↔ (places reply).find? (exposes fields) = none ∧
      (slotValues reply).findSome? spokenText? = some content := by
  rw [List.find?_eq_none, List.findSome?_eq_some_iff]
  simp only [spokenText?_eq_some_iff, spokenText?_eq_none_iff]
  constructor
  · rintro ⟨nowhere, ⟨before, after, slots, blank⟩, filled⟩
    refine ⟨nowhere, before, _, after, slots, ⟨rfl, filled⟩, ?_⟩
    rintro _ hmem s rfl
    exact blank s hmem
  · rintro ⟨nowhere, before, _, after, slots, ⟨rfl, filled⟩, blank⟩
    exact ⟨nowhere, ⟨before, after, slots, fun s hmem => blank _ hmem s rfl⟩, filled⟩

variable (silent : ¬ ReportsError (.obj members))

include silent

theorem ofReply_of_presents (h : Presents fields (.obj members) payload) :
    Delivery.ofReply fields (.obj members) = .structured payload ∨
      Delivery.ofReply fields (.obj members) = .object payload := by
  have hfind := presents_iff.1 h
  rw [← failureOf?_isSome_iff, Option.not_isSome_iff_eq_none] at silent
  unfold places slotValues at hfind
  rw [List.find?_cons, List.find?_append] at hfind
  unfold Delivery.ofReply
  dsimp only
  rw [silent]
  dsimp only
  split at hfind
  · next hexposes =>
    cases hfind
    rw [if_pos hexposes]
    exact .inl rfl
  · next hexposes =>
    right
    rw [if_neg (Bool.not_eq_true _ ▸ hexposes)]
    cases hslot : (resultSlots.map (Json.obj members).field).find? (exposes fields) with
    | some slot =>
      rw [hslot] at hfind
      cases hfind
      rfl
    | none =>
      rw [hslot, Option.none_or, List.find?_singleton] at hfind
      split at hfind
      · next hitself =>
        cases hfind
        exact if_pos hitself
      · cases hfind

theorem ofReply_of_find?_none (h : (places (.obj members)).find? (exposes fields) = none) :
    Delivery.ofReply fields (.obj members) =
      match (slotValues (.obj members)).findSome? spokenText? with
      | some content => .text content
      | none => .nothing := by
  rw [← failureOf?_isSome_iff, Option.not_isSome_iff_eq_none] at silent
  rw [List.find?_eq_none] at h
  have hslots : (resultSlots.map (Json.obj members).field).find? (exposes fields) = none := by
    rw [List.find?_eq_none]
    intro value hvalue
    exact h value (List.mem_cons_of_mem _ (List.mem_append_left _ hvalue))
  have hstructured := h _ (List.mem_cons_self ..)
  have hitself := h (.obj members) (by simp [places])
  unfold Delivery.ofReply
  dsimp only
  rw [silent]
  dsimp only
  rw [if_neg hstructured, hslots]
  dsimp only
  rw [if_neg hitself]
  rfl

theorem resolve_eq : (Delivery.ofReply fields (.obj members)).resolve fields =
    match (places (.obj members)).find? (exposes fields) with
    | some payload => .ok (.ok payload)
    | none =>
      match (slotValues (.obj members)).findSome? spokenText? with
      | some content => (Delivery.text content).resolve fields
      | none => Delivery.nothing.resolve fields := by
  cases hfind : (places (.obj members)).find? (exposes fields) with
  | some payload =>
    rcases ofReply_of_presents silent (presents_iff.2 hfind) with heq | heq
    all_goals
      rw [heq]
      rfl
  | none =>
    rw [ofReply_of_find?_none silent hfind]
    dsimp only
    cases (slotValues (.obj members)).findSome? spokenText? <;> rfl

theorem resolve_eq_ok_iff :
    (Delivery.ofReply fields (.obj members)).resolve fields = .ok (.ok payload) ↔
      Presents fields (.obj members) payload ∨ ∃ content, Searched fields (.obj members) content ∧
        findPayload? fields content.toList = .ok (some payload) := by
  rw [resolve_eq silent]
  simp only [presents_iff, searched_iff]
  cases (places (.obj members)).find? (exposes fields) with
  | some presented => simp
  | none =>
    cases (slotValues (.obj members)).findSome? spokenText? with
    | none => simp [Delivery.resolve]
    | some content => simp [resolve_text_iff]

theorem resolve_eq_error_iff {fault : ReplyFault} :
    (Delivery.ofReply fields (.obj members)).resolve fields = .error fault ↔
      ∃ content, Searched fields (.obj members) content ∧
        ∃ place, findPayload? fields content.toList = .error place ∧ .tooDeep place = fault := by
  rw [resolve_eq silent]
  simp only [searched_iff]
  cases (places (.obj members)).find? (exposes fields) with
  | some presented => simp
  | none =>
    cases (slotValues (.obj members)).findSome? spokenText? with
    | none => simp [Delivery.resolve]
    | some content => simp [resolve_text_error_iff]

end Deliveries

/-- A reply with nothing but a result reports no error. -/
theorem not_reportsError_result (value : Json) : ¬ ReportsError (.obj [("result", value)]) := by
  rintro (⟨⟨⟩⟩ | ⟨⟨⟩, _⟩ | ⟨⟨⟩, _⟩ | ⟨⟨⟩, _⟩)

theorem slotValues_result (value : Json) :
    slotValues (.obj [("result", value)]) = [value, .null, .null] := rfl

theorem places_result (value : Json) : places (.obj [("result", value)]) =
    [.null, value, .null, .null, .obj [("result", value)]] := rfl

theorem exposes_result {fields : List String} {value : Json} :
    exposes fields (.obj [("result", value)]) ↔ "result" ∈ fields := by
  unfold exposes
  rw [List.any_eq_true]
  constructor
  · rintro ⟨name, hname, hfield⟩
    by_cases heq : "result" = name
    · rw [heq]
      exact hname
    · simp [hasField, field?, lookup?, heq] at hfield
  · intro hname
    exact ⟨"result", hname, rfl⟩

section Replies

variable {fields : List String} {reply envelope envelope' payload : Json} {place : TooDeep}

theorem LookedAtAs.isObject (h : LookedAtAs reply envelope) :
    ∃ members, envelope = .obj members := by
  cases h with
  | object | spelled | prose => exact ⟨_, rfl⟩

theorem normalize_str {s : String} (h : Text.trim s.toList ≠ []) :
    normalize fields (.str s) =
      replyOfText (Text.trim s.toList) >>= Normalized.ofValue fields := by
  have hofList : normalize fields (.str (String.ofList s.toList)) = _ := normalize_text h
  rw [String.ofList_toList] at hofList
  exact hofList

theorem replyOfText_eq_ok {cs : List Char} {members : List (String × Json)}
    (h : decode cs = .ok (.obj members)) : replyOfText cs = .ok (.obj members) := by
  unfold replyOfText
  rw [h]

theorem LookedAtAs.normalize_eq (h : LookedAtAs reply envelope) :
    normalize fields reply = Normalized.ofValue fields envelope := by
  cases h with
  | object => rfl
  | @spelled s members reads =>
    have hfilled : Text.trim s.toList ≠ [] := by
      intro hnil
      rw [hnil] at reads
      cases reads
    rw [normalize_str hfilled, replyOfText_eq_ok reads]
    rfl
  | @prose s filled shallow noObject =>
    rw [normalize_str filled]
    rcases replyOfText_eq (Text.trim s.toList) with
      ⟨members, reads, _⟩ | ⟨place, deep, _⟩ | ⟨_, heq⟩
    · exact absurd reads (noObject members)
    · exact absurd deep (shallow place)
    · rw [heq]
      rfl

theorem LookedAtAs.unique (h : LookedAtAs reply envelope) (h' : LookedAtAs reply envelope') :
    envelope = envelope' := by
  cases h with
  | object =>
    cases h'
    rfl
  | spelled reads =>
    cases h' with
    | spelled reads' =>
      rw [reads, Except.ok.injEq] at reads'
      exact reads'
    | prose _ _ noObject => exact absurd reads (noObject _)
  | prose _ _ noObject =>
    cases h' with
    | spelled reads => exact absurd reads (noObject _)
    | prose => rfl

theorem LookedAtAs.shallow {s : String} (h : LookedAtAs (.str s) envelope) :
    Shallow (Text.trim s.toList) := by
  cases h with
  | spelled reads => exact shallow_of_decode reads
  | prose _ shallow _ => exact shallow

/-- A reply is looked at as an object, or it goes too deep for that, or there is nothing in it. -/
theorem lookedAtAs_cases (fields : List String) (reply : Json) :
    (∃ envelope, LookedAtAs reply envelope) ∨
      (∃ s place, reply = .str s ∧ decode (Text.trim s.toList) = .error (.tooDeep place)) ∨
      ((∀ envelope, ¬ LookedAtAs reply envelope) ∧ (∀ s, reply = .str s → Text.trim s.toList = []) ∧
        ∃ reason ≠ "", normalize fields reply = .ok ⟨.nothing, .error reason⟩) := by
  cases reply with
  | obj members => exact .inl ⟨_, .object⟩
  | str s =>
    by_cases filled : Text.trim s.toList = []
    · refine .inr (.inr ⟨?_, ?_, "Empty response from oracle", by decide, ?_⟩)
      · rintro envelope (⟨⟩ | reads | ⟨filled', _⟩)
        · rw [filled] at reads
          cases reads
        · exact filled' filled
      · rintro _ ⟨⟩
        exact filled
      · change Normalized.ofText fields s = _
        unfold Normalized.ofText
        rw [filled]
    · rcases replyOfText_eq (Text.trim s.toList) with
        ⟨members, reads, _⟩ | ⟨place, deep, _⟩ | ⟨shallow, _⟩
      · exact .inl ⟨_, .spelled reads⟩
      · exact .inr (.inl ⟨s, place, rfl, deep⟩)
      · by_cases noObject : ∃ members, decode (Text.trim s.toList) = .ok (.obj members)
        · obtain ⟨members, reads⟩ := noObject
          exact .inl ⟨_, .spelled reads⟩
        · exact .inl ⟨_, .prose filled shallow fun members reads => noObject ⟨members, reads⟩⟩
  | _ =>
    refine .inr (.inr ⟨nofun, nofun, "No data found in response", by decide, rfl⟩)

theorem ofReply_of_failureOf? {members : List (String × Json)} {reason : Json}
    (h : failureOf? (.obj members) = some reason) :
    Delivery.ofReply fields (.obj members) = .failure reason := by
  unfold Delivery.ofReply
  dsimp only
  rw [h]

theorem resolve_failure_eq (fields : List String) (reason : Json) :
    (Delivery.failure reason).resolve fields = (reason.display.mapError .unshown).map .error := by
  unfold Delivery.resolve
  dsimp only
  cases reason.display <;> rfl

/-- What becomes of a reply with an error depends on whether the reason can be shown. -/
theorem ofValue_of_failureOf? {members : List (String × Json)} {reason : Json}
    (h : failureOf? (.obj members) = some reason) :
    Normalized.ofValue fields (.obj members) =
      (reason.display.mapError .unshown).map (⟨.failure, .error ·⟩) := by
  rw [Normalized.ofValue_eq, ofReply_of_failureOf? h, resolve_failure_eq]
  cases reason.display <;> rfl

theorem ofValue_eq_error_iff {fault : ReplyFault} :
    Normalized.ofValue fields reply = .error fault ↔
      (Delivery.ofReply fields reply).resolve fields = .error fault := by
  rw [Normalized.ofValue_eq]
  cases (Delivery.ofReply fields reply).resolve fields <;> simp [Except.map]

section Looked

variable (looked : LookedAtAs reply envelope)

include looked

theorem LookedAtAs.gives_iff : Gives fields reply payload ↔ ¬ ReportsError envelope ∧
    (Presents fields envelope payload ∨ ∃ content, Searched fields envelope content ∧
      findPayload? fields content.toList = .ok (some payload)) := by
  unfold Gives
  rw [looked.normalize_eq]
  obtain ⟨members, rfl⟩ := looked.isObject
  by_cases reports : ReportsError (.obj members)
  · obtain ⟨reason, hreason⟩ := Option.isSome_iff_exists.1 (failureOf?_isSome_iff.2 reports)
    rw [ofValue_of_failureOf? hreason]
    cases reason.display <;> simp [reports, Except.map]
  · rw [ofValue_gives_iff, resolve_eq_ok_iff reports]
    simp [reports]

theorem LookedAtAs.stops_iff : normalize fields reply = .error (.tooDeep place) ↔
    ¬ ReportsError envelope ∧ ∃ content, Searched fields envelope content ∧
      findPayload? fields content.toList = .error place := by
  rw [looked.normalize_eq]
  obtain ⟨members, rfl⟩ := looked.isObject
  by_cases reports : ReportsError (.obj members)
  · obtain ⟨reason, hreason⟩ := Option.isSome_iff_exists.1 (failureOf?_isSome_iff.2 reports)
    rw [ofValue_of_failureOf? hreason]
    cases reason.display <;> simp [reports, Except.map]
  · rw [ofValue_eq_error_iff, resolve_eq_error_iff reports]
    simp [reports]

theorem LookedAtAs.unshown_iff {fault : RenderFault} :
    normalize fields reply = .error (.unshown fault) ↔
      ∃ reason, failureOf? envelope = some reason ∧ reason.display = .error fault := by
  rw [looked.normalize_eq]
  obtain ⟨members, rfl⟩ := looked.isObject
  cases hfailure : failureOf? (.obj members) with
  | some reason =>
    rw [ofValue_of_failureOf? hfailure]
    cases hdisplay : reason.display <;> simp [hdisplay, Except.map]
  | none =>
    have silent : ¬ ReportsError (.obj members) := by
      rw [← failureOf?_isSome_iff, hfailure]
      decide
    rw [ofValue_eq_error_iff, resolve_eq_error_iff silent]
    simp

theorem LookedAtAs.goesTooDeep_iff : GoesTooDeep fields reply place ↔ ¬ ReportsError envelope ∧
    ∃ content, Searched fields envelope content ∧
      findPayload? fields content.toList = .error place := by
  constructor
  · rintro (deep | ⟨looked', silent, searched, deep⟩)
    · exact absurd deep (looked.shallow place)
    · rw [looked.unique looked']
      exact ⟨silent, _, searched, findPayload?_eq_error_iff.2 deep⟩
  · rintro ⟨silent, content, searched, deep⟩
    exact .content looked silent searched (findPayload?_eq_error_iff.1 deep)

end Looked

theorem normalize_of_tooDeep {s : String}
    (deep : decode (Text.trim s.toList) = .error (.tooDeep place)) :
    normalize fields (.str s) = .error (.tooDeep place) := by
  have hfilled : Text.trim s.toList ≠ [] := by
    intro hnil
    rw [hnil] at deep
    cases deep
  rw [normalize_str hfilled]
  unfold replyOfText
  rw [deep]
  rfl

theorem normalize_eq_tooDeep_iff :
    normalize fields reply = .error (.tooDeep place) ↔ GoesTooDeep fields reply place := by
  rcases lookedAtAs_cases fields reply with
    ⟨envelope, looked⟩ | ⟨s, place', rfl, deep⟩ | ⟨notLooked, blank, reason, _, heq⟩
  · rw [looked.stops_iff, looked.goesTooDeep_iff]
  · constructor
    · intro h
      rw [normalize_of_tooDeep deep] at h
      cases h
      exact .whole deep
    · rintro (deep' | ⟨looked, _⟩)
      · exact normalize_of_tooDeep deep'
      · exact absurd deep (looked.shallow place')
  · rw [heq]
    constructor
    · nofun
    · rintro (deep | ⟨looked, _⟩)
      · rw [blank _ rfl] at deep
        cases deep
      · exact absurd looked (notLooked _)

theorem normalize_eq_unshown_iff {fault : RenderFault} :
    normalize fields reply = .error (.unshown fault) ↔ IsUnshown reply fault := by
  constructor
  · intro h
    rcases lookedAtAs_cases fields reply with
      ⟨envelope, looked⟩ | ⟨s, place, rfl, deep⟩ | ⟨_, _, reason, _, heq⟩
    · obtain ⟨reason, given, unshown⟩ := looked.unshown_iff.1 h
      obtain ⟨noText, obstacle⟩ := display_eq_error_iff.1 unshown
      exact ⟨looked, given, noText, obstacle⟩
    · rw [normalize_of_tooDeep deep] at h
      cases h
    · rw [heq] at h
      cases h
  · rintro ⟨looked, given, noText, obstacle⟩
    exact looked.unshown_iff.2 ⟨_, given, display_eq_error_iff.2 ⟨noText, obstacle⟩⟩

/-- Whatever is given stands in a reply without an error. -/
theorem gives_iff_supplies : Gives fields reply payload ↔
    (∀ place, ¬ GoesTooDeep fields reply place) ∧
      ∃ envelope, LookedAtAs reply envelope ∧ ¬ ReportsError envelope ∧
        Supplies fields envelope payload := by
  constructor
  · intro h
    refine ⟨?_, ?_⟩
    · intro place deep
      obtain ⟨shape, heq⟩ := h
      rw [normalize_eq_tooDeep_iff.2 deep] at heq
      cases heq
    · rcases lookedAtAs_cases fields reply with
        ⟨envelope, looked⟩ | ⟨s, place, rfl, deep⟩ | ⟨_, _, reason, _, heq⟩
      · obtain ⟨silent, presents | ⟨content, searched, hfind⟩⟩ := looked.gives_iff.1 h
        · exact ⟨envelope, looked, silent, .presented presents⟩
        · exact ⟨envelope, looked, silent, .found searched (rightAnswer_of_findPayload? hfind)⟩
      · obtain ⟨shape, heq⟩ := h
        rw [normalize_of_tooDeep deep] at heq
        cases heq
      · obtain ⟨shape, heq'⟩ := h
        rw [heq] at heq'
        cases heq'
  · rintro ⟨notDeep, envelope, looked, silent, presents | ⟨searched, starts⟩⟩
    · exact looked.gives_iff.2 ⟨silent, .inl presents⟩
    · refine looked.gives_iff.2 ⟨silent, .inr ⟨_, searched, findPayload?_eq_ok_iff.2 ⟨starts, ?_⟩⟩⟩
      intro place deep
      exact notDeep place (.content looked silent searched deep)

theorem exists_mem_of_lookup? {name : String} {members : List (String × Json)}
    (h : (lookup? name members).isSome) : ∃ value, (name, value) ∈ members := by
  induction members with
  | nil => cases h
  | cons member members ih =>
    obtain ⟨key, value⟩ := member
    unfold lookup? at h
    split at h
    · next heq =>
      subst heq
      exact ⟨value, List.mem_cons_self ..⟩
    · obtain ⟨value', hvalue'⟩ := ih h
      exact ⟨value', List.mem_cons_of_mem _ hvalue'⟩

theorem exists_member_of_exposes (h : exposes fields payload) :
    ∃ members name value, payload = .obj members ∧ name ∈ fields ∧ (name, value) ∈ members := by
  obtain ⟨members, rfl⟩ := eq_obj_of_exposes h
  obtain ⟨name, hname, hfield⟩ := List.any_eq_true.1 h
  obtain ⟨value, hvalue⟩ := exists_mem_of_lookup? hfield
  exact ⟨members, name, value, rfl, hname, hvalue⟩

theorem Supplies.exposes (h : Supplies fields envelope payload) : exposes fields payload := by
  rcases h with presents | ⟨_, _, ⟨_, _, _, _, _, hpiece⟩, _⟩
  · exact presents.expected
  · exact hpiece.exposes

theorem resolve_error_ne_empty {members : List (String × Json)} {reason : String}
    (h : (Delivery.ofReply fields (.obj members)).resolve fields = .ok (.error reason)) :
    reason ≠ "" := by
  cases hfailure : failureOf? (.obj members) with
  | some reason' =>
    rw [ofReply_of_failureOf? hfailure, resolve_failure_eq] at h
    cases hdisplay : reason'.display with
    | ok shown =>
      rw [hdisplay] at h
      cases h
      exact display_ne_empty (isFilled_of_failureOf? hfailure) hdisplay
    | error fault =>
      rw [hdisplay] at h
      cases h
  | none =>
    rw [resolve_eq (by rw [← failureOf?_isSome_iff, hfailure]; decide)] at h
    split at h
    · cases h
    · split at h
      · obtain ⟨_, rfl⟩ := resolve_text_unfound_iff.1 h
        exact unfound_ne_empty fields
      · cases h
        decide

theorem normalize_error_ne_empty {shape : Shape} {reason : String}
    (h : normalize fields reply = .ok ⟨shape, .error reason⟩) : reason ≠ "" := by
  rcases lookedAtAs_cases fields reply with
    ⟨envelope, looked⟩ | ⟨s, place, rfl, deep⟩ | ⟨_, _, reason, hreason, heq⟩
  · obtain ⟨members, rfl⟩ := looked.isObject
    have houtcome := outcome_eq_ok_iff.2 ⟨shape, h⟩
    rw [looked.normalize_eq, ofValue_outcome] at houtcome
    exact resolve_error_ne_empty houtcome
  · rw [normalize_of_tooDeep deep] at h
    cases h
  · rw [heq] at h
    cases h
    exact hreason

/-- A payload is never invented, and there is none where a reply reports an error. -/
theorem payloads_never_invented (fields : List String) (reply : Json) :
    NeverInvents fields reply where
  stops _ := normalize_eq_tooDeep_iff
  unshown _ := normalize_eq_unshown_iff
  reported := by
    intro envelope looked reports shown
    obtain ⟨members, rfl⟩ := looked.isObject
    obtain ⟨reason, hreason⟩ := Option.isSome_iff_exists.1 (failureOf?_isSome_iff.2 reports)
    have hvalue : Normalized.ofValue fields (.obj members) = _ := ofValue_of_failureOf? hreason
    have heq := looked.normalize_eq.trans hvalue
    cases hdisplay : reason.display with
    | ok text =>
      rw [hdisplay] at heq
      exact ⟨.failure, text, heq⟩
    | error fault =>
      rw [hdisplay] at heq
      exact absurd (normalize_eq_unshown_iff.1 heq) (shown fault)
  gives _ := gives_iff_supplies
  expected := by
    intro payload h
    obtain ⟨_, _, _, _, supplies⟩ := gives_iff_supplies.1 h
    exact exists_member_of_exposes supplies.exposes
  reasons _ _ := normalize_error_ne_empty

theorem normalize_too_deep :
    ¬ ∀ fields reply, ∃ normalized, normalize fields reply = .ok normalized := by
  intro hall
  have hdeep : decode (Text.trim (String.ofList
      ('[' :: (List.replicate maxDepth '[' ++ [']']))).toList) = .error (.tooDeep .list) := by
    rw [String.toList_ofList, trim_of_ends (by decide) (by decide), ← List.cons_append,
      ← List.replicate_succ]
    exact decode_brackets [']']
  obtain ⟨normalized, heq⟩ := hall ["answer"] (.str (String.ofList _))
  rw [normalize_of_tooDeep hdeep] at heq
  cases heq

end Replies

end Oracle
end LintRemedy
