import LintRemedy.Proofs.Json.Longest
import LintRemedy.Proofs.Oracle.Provenance

/-!
This module contains whether it matters who decodes the text of a reply: whether the text comes to
the same as its value. It does for objects, but hardly ever for other values: their text becomes the
result of a reply, and they are nothing on their own.
-/

namespace LintRemedy
namespace Oracle

open Json

/-- Two replies come to the same: the same payload, the same reason or the same fault. -/
def SameOutcome (one other : Except ReplyFault Normalized) : Prop :=
  one.map (·.outcome) = other.map (·.outcome)

section Quotes

variable {fields : List String} {body cs : List Char}

theorem exists_front {text rest : List Char} {unit : Nat} (h : StartsWithUnit text unit rest) :
    ∃ front, text = front ++ rest ∧ '"' ∉ front := by
  obtain ⟨a, b, c, d, rfl, hvalue⟩ := h
  refine ⟨['\\', 'u', a, b, c, d], rfl, ?_⟩
  intro hmem
  have hdigits : '"' ∈ [a, b, c, d] := by simpa using hmem
  exact (hexValue4?_ne hvalue '"' hdigits).1 rfl

/-- A quote behind characters without one stands in the rest of a text. -/
theorem escapes_append {front rest before after : List Char} (hfront : '"' ∉ front)
    (hrest : ∀ {between}, rest = between ++ '"' :: after → ∃ start, between = start ++ ['\\'])
    (hsplit : front ++ rest = before ++ '"' :: after) : ∃ start, before = start ++ ['\\'] := by
  obtain ⟨between, rfl, hbetween⟩ := exists_of_not_mem_left hfront hsplit
  obtain ⟨start, rfl⟩ := hrest hbetween
  exact ⟨front ++ start, (List.append_assoc ..).symm⟩

/-- A quote in the text of a string is escaped, except for the one at the end. -/
theorem stringText_escapes {before after : List Char} (h : StringText body cs)
    (hsplit : body = before ++ '"' :: after) (hafter : after ≠ []) :
    ∃ start, before = start ++ ['\\'] := by
  induction h generalizing before with
  | close =>
    cases before with
    | nil =>
      cases hsplit
      exact absurd rfl hafter
    | cons c before => simp at hsplit
  | @plain c _ _ quote _ _ _ ih =>
    have hfront : '"' ∉ [c] := by simpa using quote.symm
    exact escapes_append hfront ih hsplit
  | escape _ _ ih =>
    cases before with
    | nil => cases hsplit
    | cons b before =>
      obtain ⟨rfl, hrest⟩ := List.cons.inj hsplit
      cases before with
      | nil => exact ⟨[], rfl⟩
      | cons d before =>
        obtain ⟨start, rfl⟩ := ih (List.cons.inj hrest).2
        exact ⟨'\\' :: d :: start, rfl⟩
  | unit escaped _ _ ih =>
    obtain ⟨front, rfl, hfront⟩ := exists_front escaped
    exact escapes_append hfront ih hsplit
  | pair first second _ _ _ ih =>
    obtain ⟨front, rfl, hfront⟩ := exists_front first
    obtain ⟨front', rfl, hfront'⟩ := exists_front second
    exact escapes_append hfront (escapes_append hfront' ih) hsplit

/-- An opening brace in the text of a string is not followed by the name of a field: its quote would
be the one that ends the string. -/
theorem stringText_no_name {before inner after : List Char} (h : StringText body cs)
    (hsplit : body = before ++ ('{' :: (inner ++ ['}']) ++ after)) (rest : List Char) :
    skipSpace (inner ++ ['}']) ≠ '"' :: rest := by
  intro hskip
  obtain ⟨blanks, hblanks, hall⟩ := exists_blanks (inner ++ ['}'])
  rw [hskip] at hblanks
  have hrest : rest ≠ [] := by
    rintro rfl
    have hlast := congrArg List.getLast? hblanks
    simp at hlast
  have hquote : body = (before ++ '{' :: blanks) ++ '"' :: (rest ++ after) := by
    rw [hsplit, hblanks]
    simp
  obtain ⟨start, hstart⟩ := stringText_escapes h hquote (List.append_ne_nil_of_left_ne_nil hrest _)
  -- In front of the quote there are blanks and the brace, but no backslash.
  have hlast := congrArg List.getLast? hstart
  rw [List.getLast?_append, List.getLast?_concat, List.getLast?_cons] at hlast
  cases hend : blanks.getLast? with
  | none =>
    rw [hend] at hlast
    cases hlast
  | some c =>
    rw [hend] at hlast
    cases hlast
    have hspace := hall '\\' (List.mem_of_getLast? hend)
    cases hspace

theorem decodeStart_brace {inner : List Char} (h : ∀ rest, skipSpace inner ≠ '"' :: rest) :
    (∃ rest, decodeStart ('{' :: inner) = .ok (.obj [], rest)) ∨
      ∃ rest, decodeStart ('{' :: inner) = stopAt .noName rest := by
  obtain ⟨depth, hdepth⟩ : ∃ depth, maxDepth = depth + 1 := ⟨maxDepth - 1, rfl⟩
  unfold decodeStart
  rw [hdepth, List.length_cons, Nat.mul_succ, value]
  split
  · next rest _ => exact .inl ⟨rest, rfl⟩
  · rw [members]
    · exact .inr ⟨_, rfl⟩
    · exact h

/-- A brace that no name of a field follows starts no payload, and nothing that goes too deep. -/
theorem payloadOf?_brace {inner : List Char} (h : ∀ rest, skipSpace inner ≠ '"' :: rest) :
    payloadOf? fields ('{' :: inner) = .ok none := by
  have hnone : exposes fields (.obj []) = false :=
    List.any_eq_false.2 fun _ _ => Bool.false_ne_true
  have hskip : skipSpace ('{' :: inner) = '{' :: inner := rfl
  have hdecode : decode ('{' :: inner) = decodeMarkless ('{' :: inner) := by
    unfold decode
    split
    · next heq => cases heq
    · rfl
  unfold payloadOf?
  rw [hdecode]
  unfold decodeMarkless
  rw [hskip]
  rcases decodeStart_brace h with ⟨rest, heq⟩ | ⟨rest, heq⟩
  · rw [heq]
    dsimp only
    cases skipSpace rest with
    | nil => simp [hnone]
    | cons c rest => rfl
  · rw [heq]
    rfl

/-- There is no payload in the text of a string, and nothing in it goes too deep. -/
theorem payloadOf?_of_mem_balancedObjects {piece : List Char} (h : StringText body cs)
    (hpiece : piece ∈ balancedObjects ('"' :: body)) : payloadOf? fields piece = .ok none := by
  obtain ⟨before, inner, after, hsplit, rfl⟩ := exists_of_mem_balancedObjects hpiece
  cases before with
  | nil => cases hsplit
  | cons c before =>
    apply payloadOf?_brace
    exact stringText_no_name h (List.cons.inj hsplit).2

theorem firstPayload?_eq_none {texts : List (List Char)}
    (h : ∀ text ∈ texts, payloadOf? fields text = .ok none) :
    firstPayload? fields texts = .ok none := by
  induction texts with
  | nil => rfl
  | cons text texts ih =>
    rw [List.forall_mem_cons] at h
    rw [firstPayload?_cons_none h.1]
    exact ih h.2

/-- The search finds nothing in the text of a string, with the quotes around it. -/
theorem findPayload?_string {s : String} (h : StringText body s.toList) :
    findPayload? fields ('"' :: body) = .ok none := by
  obtain ⟨inner, rfl⟩ := List.getLast?_eq_some_iff.1 h.getLast?
  have hfence : stripFence ('"' :: (inner ++ ['"'])) = '"' :: (inner ++ ['"']) :=
    stripFence_of_ends (by decide) (by decide) (by decide) (by decide)
  have hreads : decode ('"' :: (inner ++ ['"'])) = .ok (.str s) := by
    rw [← String.ofList_toList (s := s)]
    exact decode_eq_ok_iff.2 ⟨[], _, [], by simp, by simp [Blanks], by simp [Blanks], .string h⟩
  rw [findPayload?_eq]
  unfold attempts
  rw [hfence]
  apply firstPayload?_eq_none
  rw [List.forall_mem_cons]
  constructor
  · unfold payloadOf?
    rw [hreads]
    simp [exposes_str]
  · intro piece hpiece
    exact payloadOf?_of_mem_balancedObjects h hpiece

end Quotes

section Lengths

variable {fields : List String} {reply envelope payload : Json}

theorem length_trim_le (cs : List Char) : (Text.trim cs).length ≤ cs.length := by
  obtain ⟨a, b, hsplit, _⟩ := Strips.trim cs
  have hlength := congrArg List.length hsplit
  simp only [List.length_append] at hlength
  omega

theorem LookedAtAs.longest_le (h : LookedAtAs reply envelope) :
    envelope.longest ≤ reply.longest := by
  cases h with
  | object => exact Nat.le_refl _
  | @spelled s members reads =>
    have hreads := longest_lt_of_decode reads
    have htrim := length_trim_le s.toList
    rw [String.length_toList] at htrim
    change _ ≤ s.length
    omega
  | @prose s =>
    have htrim := length_trim_le s.toList
    rw [String.length_toList] at htrim
    simpa [longest, longest.longestField, Text.trimmed] using htrim

theorem longest_le_of_mem_slotValues {value : Json} (h : value ∈ slotValues envelope) :
    value.longest ≤ envelope.longest := by
  obtain ⟨slot, _, rfl⟩ := List.mem_map.1 h
  exact longest_field_le slot envelope

theorem longest_le_of_mem_places {value : Json} (h : value ∈ places envelope) :
    value.longest ≤ envelope.longest := by
  rcases List.mem_cons.1 h with rfl | h
  · exact longest_field_le _ envelope
  · rcases List.mem_append.1 h with h | h
    · exact longest_le_of_mem_slotValues h
    · obtain rfl := List.mem_singleton.1 h
      exact Nat.le_refl _

/-- No string of a payload is longer than all the strings of the reply that gives it. -/
theorem longest_le_of_gives (h : Gives fields reply payload) :
    payload.longest ≤ reply.longest := by
  obtain ⟨_, envelope, looked, _, supplies⟩ := gives_iff_supplies.1 h
  apply Nat.le_trans _ looked.longest_le
  rcases supplies with presents | @⟨content, searched, _, ⟨a, piece, b, hsplit, _, hpiece⟩, _⟩
  · obtain ⟨before, after, hplaces, _⟩ := presents.first
    apply longest_le_of_mem_places
    rw [hplaces]
    exact List.mem_append_right _ List.mem_cons_self
  · obtain ⟨before, after, hslots, _⟩ := searched.first
    have hcontent : (Json.str content).longest ≤ envelope.longest := by
      apply longest_le_of_mem_slotValues
      rw [hslots]
      exact List.mem_append_right _ List.mem_cons_self
    have hreads := longest_lt_of_decode hpiece.reads
    have hlength := congrArg List.length hsplit
    simp only [List.length_append, String.length_toList] at hlength
    change content.length ≤ _ at hcontent
    omega

end Lengths

section Readings

variable {fields : List String} {cs : List Char} {v : Json}

theorem exists_stringText {s : String} (htrim : Text.trim cs = cs)
    (hread : decode cs = .ok (.str s)) : ∃ body, cs = '"' :: body ∧ StringText body s.toList := by
  have hblank : ∀ {blanks : List Char}, Blanks blanks → ∀ c ∈ blanks, Text.isBlank c := by
    intro blanks h c hc
    have hspace := h c hc
    simp only [isSpace, Bool.or_eq_true, beq_iff_eq] at hspace
    rcases hspace with ((rfl | rfl) | rfl) | rfl <;> decide
  obtain ⟨a, piece, b, rfl, ha, hb, htext⟩ := decode_eq_ok_iff.1 hread
  generalize hv : Json.str s = v at htext
  cases htext with
  | @string _ body _ text =>
    cases hv
    obtain ⟨inner, rfl⟩ := List.getLast?_eq_some_iff.1 text.getLast?
    rw [trim_between (hblank ha) (hblank hb) (by decide) (by decide)] at htrim
    refine ⟨inner ++ ['"'], htrim.symm, ?_⟩
    rw [String.toList_ofList]
    exact text
  | number text =>
    rcases text.value with ⟨_, rfl⟩ | ⟨_, rfl⟩
    all_goals cases hv
  | word text =>
    rw [← hv] at text
    simp [words] at text
  | _ => cases hv

theorem normalize_obj {members : List (String × Json)} (htrim : Text.trim cs = cs)
    (hread : decode cs = .ok (.obj members)) :
    normalize fields (.str (String.ofList cs)) = normalize fields (.obj members) := by
  apply LookedAtAs.normalize_eq
  apply LookedAtAs.spelled
  rw [String.toList_ofList, htrim]
  exact hread

/-- A text that is no object is a result that holds the text. -/
theorem normalize_prose (htrim : Text.trim cs = cs) (hread : decode cs = .ok v)
    (hobj : ∀ members, v ≠ .obj members) :
    (normalize fields (.str (String.ofList cs))).map (·.outcome) =
      if "result" ∈ fields then .ok (.ok (.obj [("result", .str (String.ofList cs))]))
      else (Delivery.text (String.ofList cs)).resolve fields := by
  have hfilled : cs ≠ [] := by
    rintro rfl
    cases hread
  have hlooked : LookedAtAs (.str (String.ofList cs))
      (.obj [("result", .str (Text.trimmed (String.ofList cs)))]) := by
    apply LookedAtAs.prose
    all_goals rw [String.toList_ofList, htrim]
    · exact hfilled
    · exact shallow_of_decode hread
    · intro members hmembers
      rw [hread] at hmembers
      cases hmembers
      exact hobj members rfl
  have htrimmed : Text.trimmed (String.ofList cs) = String.ofList cs := by
    unfold Text.trimmed
    rw [String.toList_ofList, htrim]
  have hspoken : spokenText? (.str (String.ofList cs)) = some (String.ofList cs) := by
    rw [spokenText?_eq_some_iff, String.toList_ofList, htrim]
    exact ⟨rfl, hfilled⟩
  rw [hlooked.normalize_eq, htrimmed, ofValue_outcome, resolve_eq (not_reportsError_result _),
    places_result, slotValues_result]
  by_cases hresult : "result" ∈ fields
  · simp [exposes_null, exposes_str, exposes_result, hresult]
  · simp [exposes_null, exposes_str, exposes_result, hresult, hspoken]

theorem unfound_ne (fields : List String) : unfound fields ≠ "No data found in response" := by
  intro heq
  have hstart := congrArg (fun s => s.toList.take 4) heq
  unfold unfound at hstart
  rw [String.append_assoc, String.toList_append,
    List.take_append_of_le_length (by decide)] at hstart
  revert hstart
  decide

/-- A value that is neither an object nor a string never comes to the same as its text. -/
theorem not_sameOutcome (htrim : Text.trim cs = cs) (hread : decode cs = .ok v)
    (hobj : ∀ members, v ≠ .obj members) (hstr : ∀ s, v ≠ .str s) :
    ¬ SameOutcome (normalize fields v) (normalize fields (.str (String.ofList cs))) := by
  have hvalue : normalize fields v = .ok ⟨.nothing, .error "No data found in response"⟩ := by
    cases v with
    | str s => exact absurd rfl (hstr s)
    | obj members => exact absurd rfl (hobj members)
    | _ => rfl
  unfold SameOutcome
  rw [hvalue, normalize_prose htrim hread hobj]
  split
  · nofun
  · intro heq
    exact unfound_ne fields (resolve_text_unfound_iff.1 heq.symm).2

theorem sameOutcome_str_iff {s : String} (htrim : Text.trim cs = cs)
    (hread : decode cs = .ok (.str s)) :
    SameOutcome (normalize fields (.str s)) (normalize fields (.str (String.ofList cs))) ↔
      "result" ∉ fields ∧
        ∃ shape, normalize fields (.str s) = .ok ⟨shape, .error (unfound fields)⟩ := by
  obtain ⟨body, hbody, htext⟩ := exists_stringText htrim hread
  unfold SameOutcome
  rw [normalize_prose htrim hread nofun]
  by_cases hresult : "result" ∈ fields
  · rw [if_pos hresult, outcome_eq_ok_iff]
    apply iff_of_false
    · -- The payload would hold the whole text, but the string is shorter than that.
      intro hgives
      have hlongest := longest_le_of_gives hgives
      have hlength := longest_lt_of_decode hread
      simp only [longest, longest.longestField, String.length_ofList, Nat.max_zero]
        at hlongest hlength
      omega
    · rintro ⟨hnot, _⟩
      exact hnot hresult
  · have hfind : findPayload? fields (String.ofList cs).toList = .ok none := by
      rw [String.toList_ofList, hbody]
      exact findPayload?_string htext
    rw [if_neg hresult, resolve_text_unfound_iff.2 ⟨hfind, rfl⟩, outcome_eq_ok_iff]
    simp [hresult]

/-- A text comes to the same as its value exactly if the value is an object, or a string in which
the search for a payload finds nothing. -/
theorem text_as_value_iff (htrim : Text.trim cs = cs) (hread : decode cs = .ok v) :
    SameOutcome (normalize fields v) (normalize fields (.str (String.ofList cs))) ↔
      (∃ members, v = .obj members) ∨ ∃ s, v = .str s ∧ "result" ∉ fields ∧
        ∃ shape, normalize fields (.str s) = .ok ⟨shape, .error (unfound fields)⟩ := by
  cases v with
  | obj members =>
    apply iff_of_true _ (.inl ⟨members, rfl⟩)
    unfold SameOutcome
    rw [normalize_obj htrim hread]
  | str s =>
    rw [sameOutcome_str_iff htrim hread]
    simp
  | _ =>
    apply iff_of_false (not_sameOutcome htrim hread nofun nofun)
    rintro (⟨_, ⟨⟩⟩ | ⟨_, ⟨⟩, _⟩)

/-- Prose with quotes in it, as the text of a string. -/
def quotedProse : List Char :=
  "\"use \\\"const\\\" \x7bhere\x7d\"".toList

theorem text_as_value_quotedProse :
    Text.trim quotedProse = quotedProse ∧
      decode quotedProse = .ok (.str "use \"const\" \x7bhere\x7d") ∧
      (SameOutcome (normalize ["answer"] (.str "use \"const\" \x7bhere\x7d"))
          (normalize ["answer"] (.str (String.ofList quotedProse))) ↔
        (∃ members, Json.str "use \"const\" \x7bhere\x7d" = .obj members) ∨
          ∃ s, Json.str "use \"const\" \x7bhere\x7d" = .str s ∧ "result" ∉ ["answer"] ∧
            ∃ shape, normalize ["answer"] (.str s) = .ok ⟨shape, .error (unfound ["answer"])⟩) := by
  have htrim : Text.trim quotedProse = quotedProse := by decide +kernel
  have hread : decode quotedProse = .ok (.str "use \"const\" \x7bhere\x7d") :=
    decode_eq_ok_of_toOption (by decide +kernel)
  exact ⟨htrim, hread, text_as_value_iff htrim hread⟩

/-- A list with a payload is nothing as a value, but the payload is found in its text. -/
theorem list_of_answers_differs :
    ¬ ∀ fields cs v, Text.trim cs = cs → decode cs = .ok v →
      SameOutcome (normalize fields v) (normalize fields (.str (String.ofList cs))) := by
  intro hall
  have htrim : Text.trim ('[' :: (shortAnswer ++ [']'])) = '[' :: (shortAnswer ++ [']']) :=
    trim_of_ends (by decide) (by decide)
  have hread : decode ('[' :: (shortAnswer ++ [']'])) = .ok (.arr [.obj [("answer", .str "x")]]) :=
    decode_eq_ok_of_toOption (by decide +kernel)
  exact not_sameOutcome htrim hread nofun nofun (hall ["answer"] _ _ htrim hread)

end Readings

end Oracle
end LintRemedy
