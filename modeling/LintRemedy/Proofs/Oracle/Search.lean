import LintRemedy.Proofs.Json.Depth
import LintRemedy.Proofs.Oracle.Extent
import LintRemedy.Proofs.Oracle.Fence

/-!
This module contains that the search finds the payload that starts first in a text, and that there
is none where it finds nothing. Only a text that goes too deep to be read keeps it from doing so.
-/

namespace LintRemedy
namespace Oracle

open Json

/-- The text of an object, from its opening to its closing brace. -/
structure ObjectText (piece : List Char) (value : Json) : Prop where
  braces : ∃ inner, piece = '{' :: (inner ++ ['}'])
  reads : decode piece = .ok value

/-- The text of an object with an expected field. -/
structure PayloadText (fields : List String) (piece : List Char) (value : Json) : Prop
    extends ObjectText piece value where
  exposes : exposes fields value

/-- A text holds a payload from some place on. -/
def PayloadAt (fields : List String) (cs : List Char) (start : Nat) (value : Json) : Prop :=
  ∃ a piece b, cs = a ++ (piece ++ b) ∧ a.length = start ∧ PayloadText fields piece value

/-- What the right answer for a text is: the payload that starts first, or that there is none. -/
def RightAnswer (fields : List String) (cs : List Char) : Option Json → Prop
  | some value => ∃ start, PayloadAt fields cs start value ∧
      ∀ other value', PayloadAt fields cs other value' → start ≤ other
  | none => ∀ start value, ¬ PayloadAt fields cs start value

/-- The texts that the search tries to read, in their order. -/
def attempts (cs : List Char) : List (List Char) :=
  stripFence cs :: balancedObjects (stripFence cs)

/-- A search comes to a text that goes too deep before it comes to a payload. -/
def MeetsTooDeep (fields : List String) (texts : List (List Char)) (place : TooDeep) : Prop :=
  ∃ before text after, texts = before ++ text :: after ∧
    (∀ cs ∈ before, payloadOf? fields cs = .ok none) ∧ decode text = .error (.tooDeep place)

/-- The search of a text finds the payload that starts first, unless a text that it tries on the way
goes too deep. -/
structure FindsFirst (fields : List String) (cs : List Char) : Prop where
  answers : ∀ answer, findPayload? fields cs = .ok answer ↔
    RightAnswer fields cs answer ∧ ∀ place, ¬ MeetsTooDeep fields (attempts cs) place
  stops : ∀ place, findPayload? fields cs = .error place ↔
    MeetsTooDeep fields (attempts cs) place
  /-- No text goes too deep where few lists and objects open. -/
  shallow : opened cs ≤ maxDepth → ∀ place, ¬ MeetsTooDeep fields (attempts cs) place
  /-- At most one object starts at a place. -/
  atMostOne : ∀ a piece b value piece' b' value', cs = a ++ (piece ++ b) →
    cs = a ++ (piece' ++ b') → ObjectText piece value → ObjectText piece' value' →
    piece = piece' ∧ value = value'

section Objects

variable {fields : List String} {cs piece : List Char} {value : Json}

theorem eq_obj_of_exposes (h : exposes fields value) : ∃ members, value = .obj members := by
  obtain ⟨name, _, hname⟩ := List.any_eq_true.1 h
  cases value with
  | obj members => exact ⟨members, rfl⟩
  | _ => cases hname

theorem ObjectText.text (h : ObjectText piece value) : ValueText maxDepth piece value := by
  obtain ⟨⟨inner, rfl⟩, hreads⟩ := h
  obtain ⟨a, core, b, hsplit, ha, hb, htext⟩ := decode_eq_ok_iff.1 hreads
  -- The decoder allows blanks at both ends, but there are braces at these.
  have hleft : a = [] := by
    cases a with
    | nil => rfl
    | cons c a =>
      rw [List.cons_append, List.cons.injEq] at hsplit
      have hspace := ha c (List.mem_cons_self ..)
      rw [← hsplit.1] at hspace
      cases hspace
  have hright : b = [] := by
    rcases List.eq_nil_or_concat b with rfl | ⟨b, c, rfl⟩
    · rfl
    · have hlast := congrArg List.getLast? hsplit
      rw [← List.append_assoc, ← List.cons_append] at hlast
      simp only [List.concat_eq_append, ← List.append_assoc, List.getLast?_concat,
        Option.some.injEq] at hlast
      have hspace := hb c (by simp)
      rw [← hlast] at hspace
      cases hspace
  rw [hleft, hright, List.nil_append, List.append_nil] at hsplit
  rw [hsplit]
  exact htext

/-- The search for the closing brace of an object ends where the object ends. -/
theorem ObjectText.closeBrace?_eq_some {inner : List Char}
    (h : ObjectText ('{' :: (inner ++ ['}'])) value) (rest : List Char) :
    closeBrace? .outside 0 (inner ++ '}' :: rest) = some (inner ++ ['}']) := by
  obtain ⟨inner', hinner, hpasses⟩ := exists_inner h.text
  rw [List.append_left_inj] at hinner
  rw [hinner, hpasses, closeBrace?_close_zero]
  rfl

/-- No two objects start at the same place of a text. -/
theorem ObjectText.eq_of_append {piece' b b' : List Char} {value' : Json}
    (h : ObjectText piece value) (h' : ObjectText piece' value')
    (hsplit : piece ++ b = piece' ++ b') : piece = piece' ∧ value = value' := by
  have hpiece : piece = piece' := by
    obtain ⟨inner, rfl⟩ := h.braces
    obtain ⟨inner', rfl⟩ := h'.braces
    have hclose := h.closeBrace?_eq_some b
    have hclose' := h'.closeBrace?_eq_some b'
    simp only [List.cons_append, List.append_assoc, List.nil_append, List.cons.injEq,
      true_and] at hsplit
    rw [hsplit, hclose', Option.some.injEq] at hclose
    rw [hclose]
  refine ⟨hpiece, ?_⟩
  have hreads := h.reads
  rw [hpiece, h'.reads, Except.ok.injEq] at hreads
  exact hreads.symm

end Objects

section Attempts

variable {fields : List String} {cs : List Char} {value : Json} {place : TooDeep}

theorem payloadOf?_eq_ok_some_iff :
    payloadOf? fields cs = .ok (some value) ↔ decode cs = .ok value ∧ exposes fields value := by
  unfold payloadOf?
  split
  · next heq =>
    rw [heq]
    split
    · next hexposes =>
      constructor
      · intro h
        cases h
        exact ⟨rfl, hexposes⟩
      · rintro ⟨h, _⟩
        cases h
        rfl
    · next hexposes =>
      constructor
      · intro h
        cases h
      · rintro ⟨h, hvalue⟩
        cases h
        exact absurd hvalue hexposes
  all_goals
    next heq =>
    rw [heq]
    constructor
    · intro h
      cases h
    · rintro ⟨h, _⟩
      cases h

theorem payloadOf?_eq_error_iff :
    payloadOf? fields cs = .error place ↔ decode cs = .error (.tooDeep place) := by
  unfold payloadOf?
  split
  all_goals
    next heq =>
    rw [heq]
    simp

theorem firstPayload?_cons_none {texts : List (List Char)} (h : payloadOf? fields cs = .ok none) :
    firstPayload? fields (cs :: texts) = firstPayload? fields texts := by
  rw [firstPayload?, h]
  rfl

theorem firstPayload?_cons_some {texts : List (List Char)}
    (h : payloadOf? fields cs = .ok (some value)) :
    firstPayload? fields (cs :: texts) = .ok (some value) := by
  rw [firstPayload?, h]
  rfl

theorem firstPayload?_cons_error {texts : List (List Char)}
    (h : payloadOf? fields cs = .error place) :
    firstPayload? fields (cs :: texts) = .error place := by
  rw [firstPayload?, h]
  rfl

theorem firstPayload?_eq_error_iff {texts : List (List Char)} :
    firstPayload? fields texts = .error place ↔ MeetsTooDeep fields texts place := by
  constructor
  · intro h
    induction texts with
    | nil => cases h
    | cons cs texts ih =>
      cases hcs : payloadOf? fields cs with
      | error place' =>
        rw [firstPayload?_cons_error hcs] at h
        cases h
        exact ⟨[], cs, texts, rfl, by simp, payloadOf?_eq_error_iff.1 hcs⟩
      | ok found =>
        cases found with
        | some value =>
          rw [firstPayload?_cons_some hcs] at h
          cases h
        | none =>
          rw [firstPayload?_cons_none hcs] at h
          obtain ⟨before, text, after, rfl, hbefore, htext⟩ := ih h
          refine ⟨cs :: before, text, after, rfl, ?_, htext⟩
          rw [List.forall_mem_cons]
          exact ⟨hcs, hbefore⟩
  · rintro ⟨before, text, after, rfl, hbefore, htext⟩
    induction before with
    | nil => exact firstPayload?_cons_error (payloadOf?_eq_error_iff.2 htext)
    | cons cs before ih =>
      rw [List.forall_mem_cons] at hbefore
      rw [List.cons_append, firstPayload?_cons_none hbefore.1]
      exact ih hbefore.2

end Attempts

section Places

variable {fields : List String} {cs : List Char} {value : Json}

theorem not_payloadAt_nil {start : Nat} : ¬ PayloadAt fields [] start value := by
  rintro ⟨a, piece, b, hsplit, _, hpiece⟩
  obtain ⟨inner, rfl⟩ := hpiece.braces
  simp at hsplit

theorem payloadAt_succ_iff {c : Char} {start : Nat} :
    PayloadAt fields (c :: cs) (start + 1) value ↔ PayloadAt fields cs start value := by
  constructor
  · rintro ⟨a, piece, b, hsplit, hlength, hpiece⟩
    cases a with
    | nil => cases hlength
    | cons d a =>
      rw [List.cons_append, List.cons.injEq] at hsplit
      rw [List.length_cons, Nat.succ.injEq] at hlength
      exact ⟨a, piece, b, hsplit.2, hlength, hpiece⟩
  · rintro ⟨a, piece, b, rfl, rfl, hpiece⟩
    exact ⟨c :: a, piece, b, rfl, rfl, hpiece⟩

theorem PayloadAt.unique {start : Nat} {value' : Json} (h : PayloadAt fields cs start value)
    (h' : PayloadAt fields cs start value') : value = value' := by
  obtain ⟨a, piece, b, rfl, hlength, hpiece⟩ := h
  obtain ⟨a', piece', b', hsplit, hlength', hpiece'⟩ := h'
  obtain ⟨_, hsplit⟩ := List.append_inj hsplit (hlength.trans hlength'.symm)
  exact (hpiece.eq_of_append hpiece'.toObjectText hsplit).2

theorem closeBrace?_sound {scan : BraceScan} {depth : Nat} {body : List Char}
    (h : closeBrace? scan depth cs = some body) :
    ∃ inner rest, body = inner ++ ['}'] ∧ cs = body ++ rest := by
  induction cs generalizing scan depth body with
  | nil => cases h
  | cons c cs ih =>
    -- All steps but the last one keep the character and go on.
    have hstep : ∀ {scan depth}, (closeBrace? scan depth cs).map (c :: ·) = some body →
        ∃ inner rest, body = inner ++ ['}'] ∧ c :: cs = body ++ rest := by
      intro scan depth hmap
      obtain ⟨tail, htail, rfl⟩ := Option.map_eq_some_iff.1 hmap
      obtain ⟨inner, rest, rfl, hcs⟩ := ih htail
      exact ⟨c :: inner, rest, rfl, congrArg (c :: ·) hcs⟩
    unfold closeBrace? at h
    split at h
    · exact hstep h
    · split at h
      · exact hstep h
      · split at h <;> exact hstep h
    · split at h
      · exact hstep h
      · split at h
        · exact hstep h
        · split at h
          · next hclose =>
            split at h
            · cases h
              exact ⟨[], cs, by rw [hclose]; rfl, rfl⟩
            · exact hstep h
          · exact hstep h

theorem payloadAt_zero_iff {c : Char} :
    PayloadAt fields (c :: cs) 0 value ↔
      c = '{' ∧ ∃ body, closeBrace? .outside 0 cs = some body ∧
        payloadOf? fields ('{' :: body) = .ok (some value) := by
  constructor
  · rintro ⟨a, piece, b, hsplit, hlength, hpiece⟩
    rw [List.eq_nil_of_length_eq_zero hlength, List.nil_append] at hsplit
    obtain ⟨inner, rfl⟩ := hpiece.braces
    have hclose := hpiece.closeBrace?_eq_some b
    simp only [List.cons_append, List.append_assoc, List.nil_append, List.cons.injEq] at hsplit
    rw [← hsplit.2] at hclose
    exact ⟨hsplit.1, _, hclose, payloadOf?_eq_ok_some_iff.2 ⟨hpiece.reads, hpiece.exposes⟩⟩
  · rintro ⟨rfl, body, hclose, hpayload⟩
    obtain ⟨inner, rest, rfl, rfl⟩ := closeBrace?_sound hclose
    obtain ⟨hreads, hexposes⟩ := payloadOf?_eq_ok_some_iff.1 hpayload
    exact ⟨[], '{' :: (inner ++ ['}']), rest, rfl, rfl, ⟨⟨inner, rfl⟩, hreads⟩, hexposes⟩

end Places

section Answers

variable {fields : List String} {cs cleaned : List Char} {answer answer' : Option Json}

theorem RightAnswer.unique (h : RightAnswer fields cs answer) (h' : RightAnswer fields cs answer') :
    answer = answer' := by
  cases answer with
  | none =>
    cases answer' with
    | none => rfl
    | some value' =>
      obtain ⟨start, hat, _⟩ := h'
      exact absurd hat (h start value')
  | some value =>
    obtain ⟨start, hat, hfirst⟩ := h
    cases answer' with
    | none => exact absurd hat (h' start value)
    | some value' =>
      obtain ⟨start', hat', hfirst'⟩ := h'
      have hstart : start = start' :=
        Nat.le_antisymm (hfirst start' value' hat') (hfirst' start value hat)
      rw [← hstart] at hat'
      rw [hat.unique hat']

theorem RightAnswer.cons {c : Char} (h : RightAnswer fields cs answer)
    (hnone : ∀ value, ¬ PayloadAt fields (c :: cs) 0 value) :
    RightAnswer fields (c :: cs) answer := by
  cases answer with
  | none =>
    intro start value hat
    cases start with
    | zero => exact hnone value hat
    | succ start => exact h start value (payloadAt_succ_iff.1 hat)
  | some value =>
    obtain ⟨start, hat, hfirst⟩ := h
    refine ⟨start + 1, payloadAt_succ_iff.2 hat, ?_⟩
    intro other value' hother
    cases other with
    | zero => exact absurd hother (hnone value')
    | succ other => exact Nat.succ_le_succ (hfirst other value' (payloadAt_succ_iff.1 hother))

/-- The search through the brace-delimited pieces of a text gives the right answer. -/
theorem firstPayload?_balancedObjects
    (h : firstPayload? fields (balancedObjects cs) = .ok answer) : RightAnswer fields cs answer := by
  induction cs with
  | nil =>
    cases h
    intro start value
    exact not_payloadAt_nil
  | cons c cs ih =>
    unfold balancedObjects at h
    split at h
    · next hopen =>
      split at h
      · next body hclose =>
        rw [hopen] at h
        cases hbody : payloadOf? fields ('{' :: body) with
        | error place =>
          rw [firstPayload?_cons_error hbody] at h
          cases h
        | ok found =>
          cases found with
          | some value =>
            rw [firstPayload?_cons_some hbody] at h
            cases h
            exact ⟨0, payloadAt_zero_iff.2 ⟨hopen, body, hclose, hbody⟩, fun _ _ _ => Nat.zero_le _⟩
          | none =>
            -- A payload that starts here would end at the same brace, as no other one closes it.
            rw [firstPayload?_cons_none hbody] at h
            apply (ih h).cons
            intro value hat
            obtain ⟨_, body', hclose', hbody'⟩ := payloadAt_zero_iff.1 hat
            rw [hclose, Option.some.injEq] at hclose'
            rw [← hclose', hbody] at hbody'
            cases hbody'
      · next hclose =>
        apply (ih h).cons
        intro value hat
        obtain ⟨_, body, hbody, _⟩ := payloadAt_zero_iff.1 hat
        rw [hclose] at hbody
        cases hbody
    · next hopen =>
      apply (ih h).cons
      intro value hat
      exact absurd (payloadAt_zero_iff.1 hat).1 hopen

theorem Strips.payloadAt_iff (fields : List String) (h : Strips cs cleaned) :
    ∃ offset, ∀ start value, PayloadAt fields cs start value ↔
      ∃ inside, start = offset + inside ∧ PayloadAt fields cleaned inside value := by
  obtain ⟨a, b, rfl, ha, hb⟩ := h
  refine ⟨a.length, ?_⟩
  intro start value
  constructor
  · rintro ⟨before, piece, after, hsplit, rfl, hpiece⟩
    obtain ⟨inner, rfl⟩ := hpiece.braces
    obtain ⟨before, after, rfl, rfl, rfl⟩ := exists_inside ha hb hsplit
    exact ⟨before.length, List.length_append, before, _, after, rfl, rfl, hpiece⟩
  · rintro ⟨inside, rfl, before, piece, after, rfl, rfl, hpiece⟩
    exact ⟨a ++ before, piece, after ++ b, by simp, List.length_append, hpiece⟩

/-- The right answer for a stripped text is the right answer for the text itself. -/
theorem Strips.rightAnswer (h : Strips cs cleaned) (hright : RightAnswer fields cleaned answer) :
    RightAnswer fields cs answer := by
  obtain ⟨offset, hiff⟩ := h.payloadAt_iff fields
  cases answer with
  | none =>
    intro start value hat
    obtain ⟨inside, _, hinside⟩ := (hiff start value).1 hat
    exact hright inside value hinside
  | some value =>
    obtain ⟨start, hat, hfirst⟩ := hright
    refine ⟨offset + start, (hiff _ value).2 ⟨start, rfl, hat⟩, ?_⟩
    intro other value' hother
    obtain ⟨inside, rfl, hinside⟩ := (hiff other value').1 hother
    exact Nat.add_le_add_left (hfirst inside value' hinside) offset

theorem exists_payloadText {value : Json} (hreads : decode cs = .ok value)
    (hexposes : exposes fields value) :
    ∃ a piece b, cs = a ++ (piece ++ b) ∧ Blanks a ∧ Blanks b ∧ PayloadText fields piece value := by
  obtain ⟨a, piece, b, rfl, ha, hb, htext⟩ := decode_eq_ok_iff.1 hreads
  refine ⟨a, piece, b, rfl, ha, hb, ⟨?_, ?_⟩, hexposes⟩
  · obtain ⟨members, rfl⟩ := eq_obj_of_exposes hexposes
    obtain ⟨tail, rfl⟩ := exists_tail htext
    obtain ⟨inner, rfl, _⟩ := exists_inner htext
    exact ⟨inner, rfl⟩
  · exact decode_eq_ok_iff.2 ⟨[], piece, [], by simp, by simp [Blanks], by simp [Blanks], htext⟩

theorem not_mem_blanks {c : Char} {blanks : List Char} (hc : isSpace c = false)
    (h : Blanks blanks) : c ∉ blanks := by
  intro hmem
  have hspace := h c hmem
  rw [hc] at hspace
  cases hspace

theorem rightAnswer_of_whole {value : Json} (hreads : decode cs = .ok value)
    (hexposes : exposes fields value) : RightAnswer fields cs (some value) := by
  obtain ⟨a, piece, b, rfl, ha, hb, hpiece⟩ := exists_payloadText hreads hexposes
  have hstrips : Strips (a ++ (piece ++ b)) piece :=
    ⟨a, b, rfl, not_mem_blanks rfl ha, not_mem_blanks rfl hb⟩
  apply hstrips.rightAnswer
  exact ⟨0, ⟨[], piece, [], by simp, rfl, hpiece⟩, fun _ _ _ => Nat.zero_le _⟩

end Answers

section Search

variable {fields : List String} {cs : List Char} {answer : Option Json}

theorem findPayload?_eq (fields : List String) (cs : List Char) :
    findPayload? fields cs = firstPayload? fields (attempts cs) := by
  unfold findPayload? attempts
  cases stripFence cs with
  | nil => rfl
  | cons c cs => rfl

theorem rightAnswer_of_findPayload? (h : findPayload? fields cs = .ok answer) :
    RightAnswer fields cs answer := by
  rw [findPayload?_eq] at h
  apply (Strips.stripFence cs).rightAnswer
  unfold attempts at h
  cases hwhole : payloadOf? fields (stripFence cs) with
  | error place =>
    rw [firstPayload?_cons_error hwhole] at h
    cases h
  | ok found =>
    cases found with
    | some value =>
      rw [firstPayload?_cons_some hwhole] at h
      cases h
      obtain ⟨hreads, hexposes⟩ := payloadOf?_eq_ok_some_iff.1 hwhole
      exact rightAnswer_of_whole hreads hexposes
    | none =>
      rw [firstPayload?_cons_none hwhole] at h
      exact firstPayload?_balancedObjects h

theorem findPayload?_eq_error_iff {place : TooDeep} :
    findPayload? fields cs = .error place ↔ MeetsTooDeep fields (attempts cs) place := by
  rw [findPayload?_eq]
  exact firstPayload?_eq_error_iff

theorem findPayload?_eq_ok_iff :
    findPayload? fields cs = .ok answer ↔
      RightAnswer fields cs answer ∧ ∀ place, ¬ MeetsTooDeep fields (attempts cs) place := by
  constructor
  · intro h
    refine ⟨rightAnswer_of_findPayload? h, ?_⟩
    intro place hmeets
    rw [findPayload?_eq_error_iff.2 hmeets] at h
    cases h
  · rintro ⟨hright, hnot⟩
    cases hfind : findPayload? fields cs with
    | error place => exact absurd (findPayload?_eq_error_iff.1 hfind) (hnot place)
    | ok found => rw [hright.unique (rightAnswer_of_findPayload? hfind)]

theorem opened_le_of_strips {cleaned : List Char} (h : Strips cs cleaned) :
    opened cleaned ≤ opened cs := by
  obtain ⟨a, b, rfl, _, _⟩ := h
  rw [opened_append, opened_append]
  omega

theorem exists_of_mem_balancedObjects {piece : List Char} (h : piece ∈ balancedObjects cs) :
    ∃ a inner b, cs = a ++ (piece ++ b) ∧ piece = '{' :: (inner ++ ['}']) := by
  induction cs with
  | nil => cases h
  | cons c cs ih =>
    -- A piece that starts later stands behind one character more.
    have hlater : piece ∈ balancedObjects cs →
        ∃ a inner b, c :: cs = a ++ (piece ++ b) ∧ piece = '{' :: (inner ++ ['}']) := by
      intro hmem
      obtain ⟨a, inner, b, rfl, hpiece⟩ := ih hmem
      exact ⟨c :: a, inner, b, rfl, hpiece⟩
    unfold balancedObjects at h
    split at h
    · next hopen =>
      split at h
      · next body hclose =>
        rcases List.mem_cons.1 h with rfl | h
        · obtain ⟨inner, rest, rfl, rfl⟩ := closeBrace?_sound hclose
          exact ⟨[], inner, rest, rfl, by rw [hopen]⟩
        · exact hlater h
      · exact hlater h
    · exact hlater h

theorem opened_le_of_mem_balancedObjects {piece : List Char} (h : piece ∈ balancedObjects cs) :
    opened piece ≤ opened cs := by
  obtain ⟨a, _, b, rfl, _⟩ := exists_of_mem_balancedObjects h
  rw [opened_append, opened_append]
  omega

theorem opened_le_of_mem_attempts {text : List Char} (h : text ∈ attempts cs) :
    opened text ≤ opened cs := by
  have hstrips := opened_le_of_strips (Strips.stripFence cs)
  rcases List.mem_cons.1 h with rfl | h
  · exact hstrips
  · exact Nat.le_trans (opened_le_of_mem_balancedObjects h) hstrips

theorem search_finds_first (fields : List String) (cs : List Char) :
    FindsFirst fields cs where
  answers _ := findPayload?_eq_ok_iff
  stops _ := findPayload?_eq_error_iff
  shallow := by
    rintro hfew place ⟨before, text, after, hsplit, _, htext⟩
    have hmem : text ∈ attempts cs := by
      rw [hsplit]
      exact List.mem_append_right before (List.mem_cons_self ..)
    have hdeep := maxDepth_lt_opened htext
    have hle := opened_le_of_mem_attempts hmem
    omega
  atMostOne := by
    intro a piece b value piece' b' value' hsplit hsplit' hobject hobject'
    rw [hsplit, List.append_cancel_left_eq] at hsplit'
    exact hobject.eq_of_append hobject' hsplit'

/-- Brackets that open too many lists keep the search from an object behind them. -/
theorem findPayload?_brackets {piece : List Char} {value : Json} (fields : List String)
    (h : ObjectText piece value) :
    findPayload? fields (List.replicate (maxDepth + 1) '[' ++ piece) = .error .list := by
  apply findPayload?_eq_error_iff.2
  have hbrackets := decode_brackets piece
  refine ⟨[], _, _, rfl, by simp, ?_⟩
  obtain ⟨inner, rfl⟩ := h.braces
  have hends : List.replicate (maxDepth + 1) '[' ++ '{' :: (inner ++ ['}']) =
      '[' :: (List.replicate maxDepth '[' ++ '{' :: inner ++ ['}']) := by
    rw [List.replicate_succ]
    simp only [List.cons_append, List.append_assoc]
  rw [hends] at hbrackets ⊢
  rw [stripFence_of_ends (by decide) (by decide) (by decide) (by decide)]
  exact hbrackets

theorem decode_eq_ok_of_toOption {value : Json} (h : (decode cs).toOption = some value) :
    decode cs = .ok value := by
  cases hdecode : decode cs with
  | ok value =>
    rw [hdecode] at h
    cases h
    rfl
  | error fault =>
    rw [hdecode] at h
    cases h

/-- An answer to a question, as the oracle writes it. -/
def shortAnswer : List Char :=
  "\x7b\"answer\": \"x\"\x7d".toList

theorem payloadText_shortAnswer :
    PayloadText ["answer"] shortAnswer (.obj [("answer", .str "x")]) where
  braces := ⟨"\"answer\": \"x\"".toList, rfl⟩
  reads := decode_eq_ok_of_toOption (by decide +kernel)
  exposes := rfl

theorem search_misses_payload :
    ¬ ∀ fields cs answer, RightAnswer fields cs answer → findPayload? fields cs = .ok answer := by
  intro hall
  have hpayload := payloadText_shortAnswer
  have hright : RightAnswer ["answer"] (List.replicate (maxDepth + 1) '[' ++ shortAnswer)
      (some (.obj [("answer", .str "x")])) := by
    apply Strips.rightAnswer (Strips.of_append_left ?_)
    · exact rightAnswer_of_whole hpayload.reads hpayload.exposes
    · intro hmem
      cases List.eq_of_mem_replicate hmem
  have hfind := hall _ _ _ hright
  rw [findPayload?_brackets _ hpayload.toObjectText] at hfind
  cases hfind

end Search

end Oracle
end LintRemedy
