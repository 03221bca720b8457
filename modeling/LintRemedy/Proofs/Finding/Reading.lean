import LintRemedy.Finding.Report
import LintRemedy.Proofs.Outcome

/-!
This module contains what is read from a report: one finding for each message in the order of the
report, and the fault of the first message that cannot be read.
-/

namespace LintRemedy

namespace Checked

variable {α β : Type}

theorem map_eq_ok {f : α → β} {c : Checked α} {b : β} :
    f <$> c = .ok b ↔ ∃ a, c = .ok a ∧ f a = b := by
  cases c with
  | ok a =>
    constructor
    · rintro ⟨⟩
      exact ⟨a, rfl, rfl⟩
    · rintro ⟨_, ⟨⟩, rfl⟩
      rfl
  | faulty faults =>
    constructor
    · nofun
    · rintro ⟨_, ⟨⟩, _⟩

theorem seq_eq_ok {f : Checked (α → β)} {c : Checked α} {b : β} :
    f <*> c = .ok b ↔ ∃ g a, f = .ok g ∧ c = .ok a ∧ g a = b := by
  cases f with
  | ok g =>
    cases c with
    | ok a =>
      constructor
      · rintro ⟨⟩
        exact ⟨g, a, rfl, rfl, rfl⟩
      · rintro ⟨_, _, ⟨⟩, ⟨⟩, rfl⟩
        rfl
    | faulty faults =>
      constructor
      · nofun
      · rintro ⟨_, _, _, ⟨⟩, _⟩
  | faulty faults =>
    constructor
    · cases c <;> nofun
    · rintro ⟨_, _, ⟨⟩, _⟩

theorem under_eq_ok {step : Step} {c : Checked α} {a : α} :
    c.under step = .ok a ↔ c = .ok a := by
  cases c with
  | ok b => exact Iff.rfl
  | faulty faults => exact ⟨nofun, nofun⟩

end Checked

theorem Field.text_eq_ok {v : Json} {s : String} : Field.text v = .ok s ↔ v = .str s := by
  cases v with
  | str s' =>
    constructor
    · rintro ⟨⟩
      rfl
    · rintro ⟨⟩
      rfl
  | _ => exact ⟨nofun, nofun⟩

theorem Field.optional_text_eq_ok {v : Json} {s? : Option String} :
    Field.optional Field.text v = .ok s? ↔ v = Finding.textOrNull s? := by
  cases v with
  | null =>
    constructor
    · rintro ⟨⟩
      rfl
    · intro h
      cases s? with
      | none => rfl
      | some s => cases h
  | _ =>
    change some <$> Field.text _ = _ ↔ _
    rw [Checked.map_eq_ok]
    simp only [Field.text_eq_ok]
    constructor
    · rintro ⟨s, h, rfl⟩
      exact h
    · intro h
      cases s? with
      | none => cases h
      | some s => exact ⟨s, h, rfl⟩

namespace Report

def items : Json → List Json
  | .arr items => items
  | _ => []

/-- The path of the file that an entry is about. -/
def pathOf (entry : Json) : Json :=
  (entry.field? "filePath").getD (.str "")

/-- The messages of a report in its order, with the paths of their files. -/
def messages (entries : List Json) : List (Json × Json) :=
  entries.flatMap fun entry => (items (entry.field "messages")).map fun m => (pathOf entry, m)

/-- A finding says what a message about a file says. -/
structure Describes (path message : Json) (d : Finding) : Prop where
  fields : ∃ fields, message = .obj fields
  file : path = .str d.filePath
  rule : message.field "ruleId" = Finding.textOrNull d.ruleId
  severity : d.severity = if (message.field "severity").equalsInt 2 then .error else .warning
  line : position (message.field "line") = .ok d.line
  column : position (message.field "column") = .ok d.column
  text : (message.field? "message").getD (.str "") = .str d.message
  fix : d.hasFix = (message.field "fix").isFilled
  line_pos : 1 ≤ d.line
  column_pos : 1 ≤ d.column

/-- A line or column of a message is infinite, and there is nothing wrong before it. -/
def OutOfBounds (message : Json) : Prop :=
  (∃ negative, message.field "line" = .float (.infinite negative)) ∨
    (∃ n, position (message.field "line") = .ok n) ∧
      ∃ negative, message.field "column" = .float (.infinite negative)

/-- The first thing that is wrong in a report is an infinite line or column. -/
def MeetsInfinity (entries : List Json) : Prop :=
  ∃ before entry after first message rest, entries = before ++ entry :: after ∧
    (∀ e ∈ before, ∃ ds, ofFile e = .ok ds) ∧
    items (entry.field "messages") = first ++ message :: rest ∧
    (∀ m ∈ first, ∃ d, finding (pathOf entry) m = .ok d) ∧ OutOfBounds message

theorem position_pos {v : Json} {n : Int} (h : position v = .ok n) : 1 ≤ n := by
  unfold position at h
  split at h
  · cases h
    exact Int.le_refl 1
  · obtain ⟨m, _, rfl⟩ := Outcome.map_eq_ok.1 h
    exact Int.le_max_right m 1

theorem wholeOf_eq_infinite {v : Json} :
    wholeOf v = .error .infiniteNumber ↔ ∃ negative, v = .float (.infinite negative) := by
  constructor
  · intro h
    cases v with
    | float x =>
      cases x with
      | infinite negative => exact ⟨negative, rfl⟩
      | nan => cases h
      | finite => cases h
    | str s =>
      cases hnumber : Numeral.toInt s with
      | ok n =>
        simp only [wholeOf, hnumber, reduceCtorEq] at h
      | error fault =>
        simp only [wholeOf, hnumber, reduceCtorEq, Except.error.injEq] at h
    | _ => cases h
  · rintro ⟨negative, rfl⟩
    rfl

theorem position_eq_infinite {v : Json} :
    position v = .error .infiniteNumber ↔ ∃ negative, v = .float (.infinite negative) := by
  unfold position Json.filled?
  split
  · next unfilled =>
    constructor
    · nofun
    · rintro ⟨negative, rfl⟩
      cases unfilled
  · next w filled =>
    split at filled
    · cases filled
      rw [Outcome.map_eq_error, wholeOf_eq_infinite]
    · cases filled

variable {path message : Json} {d : Finding}

theorem describes_of_finding (h : finding path message = .ok d) : Describes path message d := by
  cases message with
  | obj fields =>
    unfold finding at h
    obtain ⟨_, ⟨⟩, h⟩ := Outcome.bind_eq_ok.1 h
    obtain ⟨line, hline, h⟩ := Outcome.bind_eq_ok.1 h
    obtain ⟨column, hcolumn, h⟩ := Outcome.bind_eq_ok.1 h
    -- The severity is a choice as well, but not one between two ways to go on.
    dsimp only at h
    generalize hseverity : (if Json.equalsInt 2 _ = true then Severity.error else Severity.warning)
      = severity at h
    split at h
    · next checked =>
      cases h
      simp only [Checked.seq_eq_ok, Checked.map_eq_ok, Checked.under_eq_ok, Field.text_eq_ok,
        Field.optional_text_eq_ok] at checked
      obtain ⟨_, _, ⟨_, _, ⟨_, _, ⟨rule, hrule, rfl⟩, hpath, rfl⟩, htext, rfl⟩, hsource, rfl⟩ :=
        checked
      exact ⟨⟨fields, rfl⟩, hpath, hrule, hseverity.symm, hline, hcolumn, htext, rfl, position_pos hline,
        position_pos hcolumn⟩
    · cases h
  | _ => cases h

theorem finding_eq_infinite :
    finding path message = .error .infiniteNumber ↔ OutOfBounds message := by
  unfold OutOfBounds
  cases message with
  | obj fields =>
    change (position ((Json.obj fields).field "line") >>= _) = _ ↔ _
    rw [Outcome.bind_eq_error, position_eq_infinite]
    apply or_congr Iff.rfl
    constructor
    · rintro ⟨line, hline, h⟩
      refine ⟨⟨line, hline⟩, ?_⟩
      rcases Outcome.bind_eq_error.1 h with h | ⟨column, _, h⟩
      · exact position_eq_infinite.1 h
      · dsimp only at h
        split at h <;> cases h
    · rintro ⟨⟨line, hline⟩, h⟩
      exact ⟨line, hline, Outcome.bind_eq_error.2 (.inl (position_eq_infinite.2 h))⟩
  | _ =>
    constructor
    · nofun
    · rintro (⟨_, ⟨⟩⟩ | ⟨_, _, ⟨⟩⟩)

/-- What a walk meets in a text or an object are texts. -/
theorem walk_eq_ok {v : Json} {ms : List Json} (h : walk v = .ok ms) :
    ms = items v ∨ items v = [] ∧ ∀ m ∈ ms, ∃ s, m = .str s := by
  cases v with
  | arr vs =>
    cases h
    exact .inl rfl
  | str s =>
    cases h
    refine .inr ⟨rfl, ?_⟩
    intro m hm
    obtain ⟨c, _, rfl⟩ := List.mem_map.1 hm
    exact ⟨_, rfl⟩
  | obj fields =>
    cases h
    refine .inr ⟨rfl, ?_⟩
    intro m hm
    obtain ⟨_, _, rfl⟩ := List.mem_map.1 hm
    exact ⟨_, rfl⟩
  | null | bool | int | float => cases h

theorem walk_ne_infinite {v : Json} : walk v ≠ .error .infiniteNumber := by
  cases v <;> nofun

theorem walk_of_items {v message : Json} {first rest : List Json}
    (h : items v = first ++ message :: rest) : walk v = .ok (first ++ message :: rest) := by
  cases v with
  | arr vs => exact congrArg Except.ok h
  | _ => cases first <;> cases h

theorem items_messages {fields : List (String × Json)} :
    items ((Json.lookup? "messages" fields).getD (.arr [])) =
      items ((Json.obj fields).field "messages") := by
  change _ = items ((Json.lookup? "messages" fields).getD .null)
  cases Json.lookup? "messages" fields with
  | none => rfl
  | some v => rfl

theorem describes_of_ofFile {entry : Json} {ds : List Finding} (h : ofFile entry = .ok ds) :
    List.Forall₂ (Describes (pathOf entry)) (items (entry.field "messages")) ds := by
  cases entry with
  | obj fields =>
    obtain ⟨_, ⟨⟩, h⟩ := Outcome.bind_eq_ok.1 h
    obtain ⟨ms, hwalk, h⟩ := Outcome.bind_eq_ok.1 h
    have hread := (Outcome.mapM_eq_ok.1 h).imp fun _ _ => describes_of_finding
    rcases walk_eq_ok hwalk with rfl | ⟨hitems, htexts⟩
    · rw [items_messages] at hread
      exact hread
    · -- A text is no message, so there is none.
      rw [← items_messages, hitems]
      cases hread with
      | nil => exact .nil
      | @cons m _ _ _ hm _ =>
        obtain ⟨_, rfl⟩ := htexts m List.mem_cons_self
        cases hm.fields.choose_spec
  | _ => cases h

theorem describes_of_findings {entries : List Json} {ds : List Finding}
    (h : findings (.arr entries) = .ok ds) :
    List.Forall₂ (fun m d => Describes m.1 m.2 d) (messages entries) ds := by
  obtain ⟨_, ⟨⟩, h⟩ := Outcome.bind_eq_ok.1 h
  obtain ⟨dss, hfiles, ⟨⟩⟩ := Outcome.bind_eq_ok.1 h
  unfold messages
  rw [List.flatMap_def]
  apply List.rel_flatten
  rw [List.forall₂_map_left_iff]
  refine (Outcome.mapM_eq_ok.1 hfiles).imp ?_
  intro entry ds hentry
  rw [List.forall₂_map_left_iff]
  exact describes_of_ofFile hentry

/-- Only an object can have an infinite line or column, and what is read before it has none. -/
theorem ofFile_eq_infinite {entry : Json} : ofFile entry = .error .infiniteNumber ↔
    ∃ first message rest, items (entry.field "messages") = first ++ message :: rest ∧
      (∀ m ∈ first, ∃ d, finding (pathOf entry) m = .ok d) ∧ OutOfBounds message := by
  cases entry with
  | obj fields =>
    rw [← items_messages]
    unfold ofFile pathOf fieldsOf
    simp only [Outcome.bind_eq_error, Outcome.mapM_eq_error, finding_eq_infinite, reduceCtorEq,
      Except.ok.injEq, false_or, exists_eq_left']
    constructor
    · rintro (hwalk | ⟨ms, hwalk, first, message, rest, rfl, hfirst, bounds⟩)
      · exact (walk_ne_infinite hwalk).elim
      · rcases walk_eq_ok hwalk with hitems | ⟨_, htexts⟩
        · exact ⟨first, message, rest, hitems.symm, hfirst, bounds⟩
        · obtain ⟨s, rfl⟩ := htexts message (List.mem_append_right _ List.mem_cons_self)
          rcases bounds with ⟨_, ⟨⟩⟩ | ⟨_, _, ⟨⟩⟩
    · rintro ⟨first, message, rest, hitems, hfirst, bounds⟩
      refine .inr ⟨_, walk_of_items hitems, first, message, rest, rfl, hfirst, bounds⟩
  | _ =>
    constructor
    · nofun
    · rintro ⟨first, _, _, h, _⟩
      cases first <;> cases h

theorem findings_eq_infinite {entries : List Json} :
    findings (.arr entries) = .error .infiniteNumber ↔ MeetsInfinity entries := by
  change (entries.mapM ofFile >>= _) = _ ↔ _
  rw [Outcome.bind_eq_error, Outcome.mapM_eq_error]
  unfold MeetsInfinity
  simp only [ofFile_eq_infinite]
  constructor
  · rintro (⟨before, entry, after, rfl, hbefore, first, message, rest, h⟩ | ⟨_, _, ⟨⟩⟩)
    exact ⟨before, entry, after, first, message, rest, rfl, hbefore, h⟩
  · rintro ⟨before, entry, after, first, message, rest, rfl, hbefore, h⟩
    exact .inl ⟨before, entry, after, rfl, hbefore, first, message, rest, h⟩

end Report
end LintRemedy
