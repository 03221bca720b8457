import LintRemedy.Oracle.Delivery

/-!
This module contains how a reply is sorted when it carries one value in one of its slots: whatever
else stands in the reply, the value is what it delivers.
-/

namespace LintRemedy
namespace Oracle

open Json

def replyFields : List String :=
  ["is_error", "subtype", "error", "structured_output"] ++ resultSlots

/-- Expected fields that cannot be taken for fields of a reply. -/
def Unmistaken (fields : List String) : Prop :=
  ∀ name ∈ fields, name ∉ replyFields

/-- An object with at least one field, and with expected fields only. -/
def IsPayload (fields : List String) (payload : Json) : Prop :=
  ∃ members, payload = .obj members ∧ members ≠ [] ∧ ∀ member ∈ members, member.1 ∈ fields

/-- A reply with a value in a slot, and anything in fields that are not looked at. -/
def Envelope (fields : List String) (slot : String) (value reply : Json) : Prop :=
  ∃ before after, reply = .obj (before ++ (slot, value) :: after) ∧
    ∀ extra ∈ before ++ after, extra.1 ∉ replyFields ∧ extra.1 ∉ fields

theorem lookup?_append_of_not_mem {name : String} {before rest : List (String × Json)}
    (h : ∀ member ∈ before, member.1 ≠ name) :
    lookup? name (before ++ rest) = lookup? name rest := by
  induction before with
  | nil => rfl
  | cons member before ih =>
    rw [List.forall_mem_cons] at h
    rw [List.cons_append, lookup?, if_neg h.1]
    exact ih h.2

theorem lookup?_eq_none {name : String} {members : List (String × Json)}
    (h : ∀ member ∈ members, member.1 ≠ name) : lookup? name members = none := by
  have hlookup : lookup? name (members ++ []) = lookup? name [] := lookup?_append_of_not_mem h
  rw [List.append_nil] at hlookup
  exact hlookup

theorem exposes_of_isPayload {fields : List String} {payload : Json} (h : IsPayload fields payload) :
    exposes fields payload := by
  obtain ⟨members, rfl, hne, hfields⟩ := h
  cases members with
  | nil => exact absurd rfl hne
  | cons member members =>
    apply List.any_eq_true.2
    refine ⟨member.1, hfields member (List.mem_cons_self ..), ?_⟩
    simp [hasField, field?, lookup?]

theorem failureOf?_eq_none {reply : Json} (his : reply.field? "is_error" = none)
    (hsubtype : reply.field? "subtype" = none) (herror : reply.field? "error" = none) :
    failureOf? reply = none := by
  unfold failureOf?
  rw [his, if_neg (by decide), hsubtype]
  unfold failureOf?.errorField?
  rw [herror]

theorem exposes_null (fields : List String) : exposes fields .null = false := by
  unfold exposes hasField field?
  simp

theorem exposes_str (fields : List String) (content : String) :
    exposes fields (.str content) = false := by
  unfold exposes hasField field?
  simp

theorem field_eq_null {name : String} {value : Json} (h : value.field? name = none) :
    value.field name = .null := by
  unfold field
  rw [h]
  rfl

theorem Delivery.ofReply_payload {fields : List String} {payload : Json}
    (hfields : Unmistaken fields) (h : IsPayload fields payload) :
    Delivery.ofReply fields payload = .object payload := by
  have hexposes := exposes_of_isPayload h
  obtain ⟨members, rfl, _, hmembers⟩ := h
  have hnone : ∀ name ∈ replyFields, (Json.obj members).field? name = none := by
    intro name hname
    apply lookup?_eq_none
    rintro member hmember rfl
    exact hfields _ (hmembers member hmember) hname
  have hslots : (resultSlots.map (Json.obj members).field).find? (exposes fields) = none := by
    rw [List.find?_eq_none]
    intro value hvalue
    obtain ⟨slot, hslot, rfl⟩ := List.mem_map.1 hvalue
    rw [field_eq_null (hnone slot (List.mem_append_right _ hslot)), exposes_null]
    decide
  unfold Delivery.ofReply
  dsimp only
  rw [failureOf?_eq_none (hnone _ (by decide)) (hnone _ (by decide)) (hnone _ (by decide))]
  dsimp only
  rw [field_eq_null (hnone _ (by decide)), exposes_null, if_neg (by decide), hslots]
  dsimp only
  rw [if_pos hexposes]

section Envelopes

variable {fields : List String} {slot : String} {value reply : Json}

theorem Envelope.field_slot (h : Envelope fields slot value reply) (hslot : slot ∈ replyFields) :
    reply.field slot = value := by
  obtain ⟨before, after, rfl, hextras⟩ := h
  change (lookup? slot (before ++ (slot, value) :: after)).getD .null = value
  rw [lookup?_append_of_not_mem]
  · simp [lookup?]
  · rintro member hmember rfl
    exact (hextras member (List.mem_append_left after hmember)).1 hslot

theorem Envelope.field?_other {name : String} (h : Envelope fields slot value reply)
    (hname : name ∈ replyFields ∨ name ∈ fields) (hne : name ≠ slot) :
    reply.field? name = none := by
  obtain ⟨before, after, rfl, hextras⟩ := h
  apply lookup?_eq_none
  rintro member hmember rfl
  have hextra : member ∈ before ++ after := by
    rcases List.mem_append.1 hmember with hbefore | hafter
    · exact List.mem_append_left after hbefore
    · rcases List.mem_cons.1 hafter with rfl | hafter
      · exact absurd rfl hne
      · exact List.mem_append_right before hafter
  rcases hname with hname | hname
  · exact (hextras member hextra).1 hname
  · exact (hextras member hextra).2 hname

theorem Envelope.failureOf?_eq_none (h : Envelope fields slot value reply)
    (hslot : slot ∈ "structured_output" :: resultSlots) : failureOf? reply = none := by
  have hapart : ∀ name ∈ ["is_error", "subtype", "error"],
      name ∈ replyFields ∧ name ∉ "structured_output" :: resultSlots := by
    decide
  have hnone : ∀ name ∈ ["is_error", "subtype", "error"], reply.field? name = none := by
    intro name hname
    apply h.field?_other (.inl (hapart name hname).1)
    rintro rfl
    exact (hapart _ hname).2 hslot
  exact Oracle.failureOf?_eq_none (hnone _ (by simp)) (hnone _ (by simp)) (hnone _ (by simp))

theorem Delivery.ofReply_structured (hexposes : exposes fields value)
    (h : Envelope fields "structured_output" value reply) :
    Delivery.ofReply fields reply = .structured value := by
  have hfailure := h.failureOf?_eq_none (by simp)
  have hslot := h.field_slot (by decide)
  obtain ⟨before, after, rfl, _⟩ := h
  unfold Delivery.ofReply
  dsimp only
  rw [hfailure]
  dsimp only
  rw [hslot, if_pos hexposes]

theorem Envelope.slots_eq (h : Envelope fields slot value reply) :
    resultSlots.map reply.field =
      resultSlots.map fun name => if name = slot then value else .null := by
  apply List.map_congr_left
  intro name hname
  have hreply : name ∈ replyFields := List.mem_append_right _ hname
  split
  · next heq =>
    rw [heq] at hreply ⊢
    exact h.field_slot hreply
  · next hne => exact field_eq_null (h.field?_other (.inl hreply) hne)

theorem Envelope.structured_eq_null (h : Envelope fields slot value reply)
    (hslot : slot ∈ resultSlots) : reply.field "structured_output" = .null := by
  apply field_eq_null
  apply h.field?_other (.inl (by decide))
  rintro rfl
  revert hslot
  decide

theorem Delivery.ofReply_object (hslot : slot ∈ resultSlots) (hexposes : exposes fields value)
    (h : Envelope fields slot value reply) : Delivery.ofReply fields reply = .object value := by
  have hfailure := h.failureOf?_eq_none (List.mem_cons_of_mem _ hslot)
  have hslots := h.slots_eq
  have hstructured := h.structured_eq_null hslot
  have hfind : (resultSlots.map fun name => if name = slot then value else Json.null).find?
      (exposes fields) = some value := by
    have hnull := exposes_null fields
    unfold resultSlots at hslot ⊢
    simp only [List.mem_cons, List.not_mem_nil, or_false] at hslot
    rcases hslot with rfl | rfl | rfl <;> simp [hnull, hexposes]
  obtain ⟨before, after, rfl, _⟩ := h
  unfold Delivery.ofReply
  dsimp only
  rw [hfailure]
  dsimp only
  rw [hstructured, exposes_null, if_neg (by decide), hslots, hfind]

theorem Delivery.ofReply_text {content : String} (hfields : Unmistaken fields)
    (hslot : slot ∈ resultSlots) (hspoken : Text.trim content.toList ≠ [])
    (h : Envelope fields slot (.str content) reply) :
    Delivery.ofReply fields reply = .text content := by
  have hfailure := h.failureOf?_eq_none (List.mem_cons_of_mem _ hslot)
  have hslots := h.slots_eq
  have hstructured := h.structured_eq_null hslot
  -- The reply itself is no payload: its slot is no expected field, and neither are the extras.
  have hexposes : exposes fields reply = false := by
    unfold exposes
    rw [List.any_eq_false]
    intro name hname
    unfold hasField
    rw [h.field?_other (.inr hname)]
    · decide
    · rintro rfl
      exact hfields _ hname (List.mem_append_right _ hslot)
  have hfind : (resultSlots.map fun name => if name = slot then Json.str content
      else Json.null).find? (exposes fields) = none := by
    rw [List.find?_eq_none]
    intro value hvalue
    obtain ⟨name, _, rfl⟩ := List.mem_map.1 hvalue
    split
    · rw [exposes_str]
      decide
    · rw [exposes_null]
      decide
  have hsome : (resultSlots.map fun name => if name = slot then Json.str content
      else Json.null).findSome? spokenText? = some content := by
    have htext : spokenText? (.str content) = some content := if_neg hspoken
    have hnull : spokenText? .null = none := rfl
    unfold resultSlots at hslot ⊢
    simp only [List.mem_cons, List.not_mem_nil, or_false] at hslot
    rcases hslot with rfl | rfl | rfl <;> simp [hnull, htext]
  obtain ⟨before, after, rfl, _⟩ := h
  unfold Delivery.ofReply
  dsimp only
  rw [hfailure]
  dsimp only
  rw [hstructured, exposes_null, if_neg (by decide), hslots, hfind]
  dsimp only
  rw [hexposes, if_neg (by decide), hsome]

end Envelopes

end Oracle
end LintRemedy
