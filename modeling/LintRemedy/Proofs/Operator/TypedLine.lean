import LintRemedy.Operator.Interactive
import LintRemedy.Proofs.Action
import LintRemedy.Proofs.Number.Numeral
import LintRemedy.Proofs.Outcome
import LintRemedy.Proofs.Text.Entries

/-!
This module contains what a person can type where positions of fixes or a rule group are asked for. Words
and decimal numerals that count something are understood, whatever their case and the blanks around them,
and all other entries are passed over. Only digit characters that spell no number are a fault.
-/

namespace LintRemedy

/-- The text is a word, whatever the case of its letters and the blanks around it. -/
def Text.Spells (word typed : String) : Prop :=
  (Text.trim typed.toList).map Char.toLower = word.toList

instance {word typed : String} : Decidable (Text.Spells word typed) :=
  inferInstanceAs (Decidable (_ = _))

/-- The number, counted from zero, of the one among `count` things that an entry stands for. -/
def Numeral.position? (count : Nat) (entry : List Char) : Option Nat :=
  if IsDecimal entry ∧ 1 ≤ amount entry ∧ amount entry ≤ count then some (amount entry - 1) else none

section Word

open Text

theorem Text.lowered_trimmed_toList (typed : String) :
    (lowered (trimmed typed)).toList = (trim typed.toList).flatMap lowerChar := by
  unfold lowered trimmed
  rw [String.toList_ofList, String.toList_ofList]

theorem Text.lowered_trimmed_eq_iff {word typed : String} (hword : word ∈ ["a", "all", "q"]) :
    lowered (trimmed typed) = word ↔ Spells word typed := by
  have hplain : ["a", "all", "q"].all (·.toList.all (IsPlain ·)) := by decide +kernel
  rw [← String.toList_inj, lowered_trimmed_toList]
  apply flatMap_eq_iff
  intro x hx
  exact of_decide_eq_true (List.all_eq_true.1 (List.all_eq_true.1 hplain word hword) x hx)

end Word

namespace Numeral

variable {cs : List Char} {count : Nat}

theorem lt_of_position? {i : Nat} (h : position? count cs = some i) : i < count := by
  unfold position? at h
  split at h
  · next hrange =>
    cases h
    omega
  · cases h

theorem not_isBroken_of_not_digits (h : ¬ IsDigits cs) : ¬ IsBroken cs :=
  fun hbroken => h hbroken.1

theorem position?_of_not_digits (h : ¬ IsDigits cs) : position? count cs = none :=
  if_neg fun hdecimal => h hdecimal.1.isDigits

/-- The change to lower case makes no difference to an entry. -/
theorem digits_or_flatMap (cs : List Char) :
    cs.flatMap Text.lowerChar = cs ∨
      ¬ IsDigits cs ∧ ¬ IsDigits (cs.flatMap Text.lowerChar) := by
  by_cases h : cs.all Text.isDigit
  · exact .inl (Text.caseless_isDigit.flatMap_eq_self h)
  · refine .inr ⟨fun hdigits => h hdigits.2, fun hdigits => h ?_⟩
    rw [← Text.caseless_isDigit.all_flatMap]
    exact hdigits.2

theorem isBroken_flatMap : IsBroken (cs.flatMap Text.lowerChar) ↔ IsBroken cs := by
  rcases digits_or_flatMap cs with same | ⟨h, h'⟩
  · rw [same]
  · exact iff_of_false (not_isBroken_of_not_digits h') (not_isBroken_of_not_digits h)

theorem position?_flatMap : position? count (cs.flatMap Text.lowerChar) = position? count cs := by
  rcases digits_or_flatMap cs with same | ⟨h, h'⟩
  · rw [same]
  · rw [position?_of_not_digits h', position?_of_not_digits h]

end Numeral

namespace Action

open Numeral

/-- Adds the position that an entry stands for, unless it is there already. -/
def addEntry (count : Nat) (done : List Nat) (entry : List Char) : List Nat :=
  match position? count entry with
  | some i => if i ∈ done then done else done ++ [i]
  | none => done

theorem addTyped_of_isBroken {count : Int} {done : List Int} {part : List Char}
    (h : IsBroken (Text.trim part)) : ∃ fault, addTyped count done part = .error fault := by
  obtain ⟨fault, hfault⟩ := toInt_of_isBroken h
  refine ⟨fault, ?_⟩
  unfold addTyped
  rw [if_neg, hfault]
  · rfl
  · rw [List.isEmpty_iff, not_or, not_not]
    exact h.1

/-- The position of a numeral is added if it is in range, and not there already. -/
theorem addEntry_of_isDecimal {count : Nat} {entry : List Char} (h : IsDecimal entry)
    (done : List Nat) : (addEntry count done entry).map Int.ofNat =
      let index := (amount entry : Int) - 1
      if 0 ≤ index ∧ index < count ∧ index ∉ done.map Int.ofNat then done.map Int.ofNat ++ [index]
      else done.map Int.ofNat := by
  unfold addEntry
  by_cases hrange : 1 ≤ amount entry ∧ amount entry ≤ count
  · have hindex : (amount entry : Int) - 1 = Int.ofNat (amount entry - 1) := by
      change _ = ((amount entry - 1 : Nat) : Int)
      omega
    have hposition : position? count entry = some (amount entry - 1) := if_pos ⟨h, hrange⟩
    have hmem := List.mem_map_of_injective @Int.ofNat.inj (a := amount entry - 1) (l := done)
    rw [hposition, hindex]
    dsimp only
    by_cases hdone : amount entry - 1 ∈ done
    · rw [if_pos hdone, if_neg fun hnew => hnew.2.2 (hmem.2 hdone)]
    · rw [if_neg hdone, if_pos ⟨by omega, by omega, mt hmem.1 hdone⟩, List.map_append,
        List.map_singleton]
  · have hposition : position? count entry = none := if_neg fun hall => hrange hall.2
    rw [hposition]
    dsimp only
    rw [if_neg (by omega)]

theorem addTyped_of_not_isBroken {count : Nat} {done : List Nat} {part : List Char}
    (h : ¬ IsBroken (Text.trim part)) :
    addTyped count (done.map Int.ofNat) part =
      .ok ((addEntry count done (Text.trim part)).map Int.ofNat) := by
  unfold addTyped
  generalize Text.trim part = entry at h
  dsimp only
  rcases cases_of_digits entry with hskip | hbroken | ⟨hdecimal, hlength⟩
  · unfold addEntry
    rw [position?_of_not_digits hskip, if_pos]
    · rfl
    · rw [List.isEmpty_iff]
      exact (not_and_or.1 hskip).imp_left not_not.1
  · exact absurd hbroken h
  · rw [if_neg (by simp [hdecimal.1, hdecimal.isDigits.2]), toInt_of_isDecimal hdecimal hlength,
      addEntry_of_isDecimal hdecimal]
    rfl

theorem foldlM_addTyped_of_isBroken {count : Nat} {parts : List (List Char)}
    (h : ∃ entry ∈ parts.map Text.trim, IsBroken entry) (done : List Nat) :
    ∃ fault, parts.foldlM (addTyped count) (done.map Int.ofNat) = .error fault := by
  obtain ⟨entry, hentry, hbroken⟩ := h
  induction parts generalizing done with
  | nil => cases hentry
  | cons first parts ih =>
    rw [List.foldlM_cons]
    by_cases hfirst : IsBroken (Text.trim first)
    · obtain ⟨fault, hfault⟩ := addTyped_of_isBroken hfirst
      exact ⟨fault, by rw [hfault]; rfl⟩
    · rw [addTyped_of_not_isBroken hfirst]
      rcases List.mem_cons.1 hentry with rfl | hentry
      · exact absurd hbroken hfirst
      · exact ih _ hentry

theorem foldlM_addTyped_of_forall {count : Nat} {parts : List (List Char)}
    (h : ∀ entry ∈ parts.map Text.trim, ¬ IsBroken entry) (done : List Nat) :
    parts.foldlM (addTyped count) (done.map Int.ofNat) =
      .ok (((parts.map Text.trim).foldl (addEntry count) done).map Int.ofNat) := by
  induction parts generalizing done with
  | nil => rfl
  | cons first parts ih =>
    rw [List.map_cons, List.forall_mem_cons] at h
    rw [List.foldlM_cons, addTyped_of_not_isBroken h.1]
    exact ih h.2 _

theorem foldl_addEntry (count : Nat) (entries : List (List Char)) :
    entries.foldl (addEntry count) [] = distinct (entries.filterMap (position? count)) := by
  unfold distinct
  rw [List.foldl_filterMap]
  refine congrArg (entries.foldl · []) (funext₂ fun done entry => ?_)
  unfold addEntry
  cases position? count entry with
  | none => rfl
  | some i => congr

def SpellsAll (typed : String) : Prop :=
  Text.Spells "a" typed ∨ Text.Spells "all" typed

instance {typed : String} : Decidable (SpellsAll typed) :=
  inferInstanceAs (Decidable (_ ∨ _))

/-- The positions among `count` that a text asks for, each one where it is named first. -/
def positions (count : Nat) (typed : String) : List Nat :=
  if SpellsAll typed then List.range count
  else distinct ((Text.entries typed.toList).filterMap (position? count))

theorem lt_of_mem_positions {count : Nat} {typed : String} {i : Nat}
    (h : i ∈ positions count typed) : i < count := by
  unfold positions at h
  split at h
  · exact List.mem_range.1 h
  · rw [mem_distinct_iff, List.mem_filterMap] at h
    obtain ⟨entry, _, hentry⟩ := h
    exact lt_of_position? hentry

theorem nodup_positions (count : Nat) (typed : String) : (positions count typed).Nodup := by
  unfold positions
  split
  · exact List.nodup_range
  · exact nodup_distinct _

/-- An entry of the text is made of digit characters and spells no number that is read. -/
def Misspells (typed : String) : Prop :=
  ¬ SpellsAll typed ∧ ∃ entry ∈ Text.entries typed.toList, IsBroken entry

instance {typed : String} : Decidable (Misspells typed) :=
  inferInstanceAs (Decidable (_ ∧ _))

theorem spellsAll_iff {typed : String} : SpellsAll typed ↔
    Text.lowered (Text.trimmed typed) = "a" ∨ Text.lowered (Text.trimmed typed) = "all" := by
  rw [Text.lowered_trimmed_eq_iff (by decide), Text.lowered_trimmed_eq_iff (by decide)]
  exact Iff.rfl

theorem typedIndices_of_spellsAll {typed : String} {count : Nat} (h : SpellsAll typed) :
    typedIndices typed count = .ok ((List.range count).map Int.ofNat) := by
  unfold typedIndices
  dsimp only
  rw [if_pos (spellsAll_iff.1 h), Int.toNat_natCast]

theorem typedIndices_of_not_spellsAll {typed : String} {count : Int} (h : ¬ SpellsAll typed) :
    typedIndices typed count =
      (Text.splitAt ',' ((Text.trim typed.toList).flatMap Text.lowerChar)).foldlM
        (addTyped count) [] := by
  unfold typedIndices
  dsimp only
  rw [if_neg (mt spellsAll_iff.2 h), Text.lowered_trimmed_toList]

theorem entries_lowered (typed : String) :
    Text.entries ((Text.trim typed.toList).flatMap Text.lowerChar) =
      (Text.entries typed.toList).map (·.flatMap Text.lowerChar) := by
  rw [Text.entries_flatMap, Text.entries_trim]

theorem exists_isBroken_lowered {typed : String} :
    (∃ entry ∈ Text.entries ((Text.trim typed.toList).flatMap Text.lowerChar), IsBroken entry) ↔
      ∃ entry ∈ Text.entries typed.toList, IsBroken entry := by
  simp only [entries_lowered, List.mem_map, exists_exists_and_eq_and, isBroken_flatMap]

theorem filterMap_lowered (count : Nat) (typed : String) :
    (Text.entries ((Text.trim typed.toList).flatMap Text.lowerChar)).filterMap (position? count) =
      (Text.entries typed.toList).filterMap (position? count) := by
  rw [entries_lowered, List.filterMap_map]
  exact congrArg (List.filterMap · _) (funext fun _ => position?_flatMap)

/-- A text is misspelt, or it is read. -/
theorem typedIndices_cases (typed : String) (count : Nat) :
    (Misspells typed ∧ ∃ fault, typedIndices typed count = .error fault) ∨
      (¬ Misspells typed ∧ typedIndices typed count = .ok ((positions count typed).map Int.ofNat)) := by
  unfold positions Misspells
  by_cases hall : SpellsAll typed
  · rw [if_pos hall]
    exact .inr ⟨fun h => h.1 hall, typedIndices_of_spellsAll hall⟩
  · rw [if_neg hall, typedIndices_of_not_spellsAll hall, ← exists_isBroken_lowered]
    by_cases hbroken : ∃ entry ∈ Text.entries ((Text.trim typed.toList).flatMap Text.lowerChar),
        IsBroken entry
    · exact .inl ⟨⟨hall, hbroken⟩, foldlM_addTyped_of_isBroken hbroken []⟩
    · refine .inr ⟨fun h => hbroken h.2, ?_⟩
      rw [← filterMap_lowered, ← foldl_addEntry]
      exact foldlM_addTyped_of_forall (fun entry hentry h => hbroken ⟨entry, hentry, h⟩) []

theorem typedIndices_eq_ok_iff {typed : String} {count : Nat} {indices : List Int} :
    typedIndices typed count = .ok indices ↔
      ¬ Misspells typed ∧ indices = (positions count typed).map Int.ofNat := by
  rcases typedIndices_cases typed count with ⟨h, fault, hfault⟩ | ⟨h, hok⟩
  · rw [hfault]
    exact ⟨nofun, fun hnot => absurd h hnot.1⟩
  · rw [hok, Except.ok.injEq, eq_comm]
    exact ⟨fun heq => ⟨h, heq⟩, And.right⟩

theorem exists_typedIndices_eq_error_iff {typed : String} {count : Nat} :
    (∃ fault, typedIndices typed count = .error fault) ↔ Misspells typed := by
  rcases typedIndices_cases typed count with ⟨h, hfault⟩ | ⟨h, hok⟩
  · exact iff_of_true hfault h
  · rw [hok]
    exact iff_of_false nofun h

end Action

@[simp]
theorem Terminal.keyboard_shown (quiet : Bool) (text : String) (terminal : Terminal) :
    (terminal.shown quiet text).keyboard = terminal.keyboard := by
  unfold Terminal.shown
  split <;> rfl

namespace Console

variable {question default line : String} {rest : List String} {terminal : Terminal}

theorem readLine_of_nil (h : terminal.keyboard = []) (prompt : String) :
    ∃ shown, readLine prompt terminal = .error .inputEnded shown ∧ shown.keyboard = [] := by
  refine ⟨{ terminal with stdout := terminal.stdout ++ Text.plain prompt }, ?_, h⟩
  unfold readLine print
  rw [Action.bind_of_ok (Action.modify_eq_ok (u := ⟨⟩).2 rfl),
    Action.bind_of_ok (Action.get_eq_ok.2 ⟨rfl, rfl⟩), h]
  rfl

theorem readLine_of_cons (h : terminal.keyboard = line :: rest) (prompt : String) :
    ∃ shown, readLine prompt terminal = .ok line shown ∧ shown.keyboard = rest := by
  unfold readLine print
  rw [Action.bind_of_ok (Action.modify_eq_ok (u := ⟨⟩).2 rfl),
    Action.bind_of_ok (Action.get_eq_ok.2 ⟨rfl, rfl⟩), h]
  exact ⟨_, rfl, rfl⟩

theorem ask_of_nil (h : terminal.keyboard = []) (question default : String) :
    ∃ shown, ask question default terminal = .error .inputEnded shown ∧ shown.keyboard = [] := by
  obtain ⟨shown, hread, hshown⟩ := readLine_of_nil h _
  exact ⟨shown, Action.bind_of_error hread, hshown⟩

theorem ask_of_cons (h : terminal.keyboard = line :: rest) (question default : String) :
    ∃ shown, ask question default terminal = .ok (if line = "" then default else line) shown ∧
      shown.keyboard = rest := by
  obtain ⟨shown, hread, hshown⟩ := readLine_of_cons h _
  exact ⟨shown, Action.bind_of_ok hread, hshown⟩

end Console

namespace Operator.Interactive

open Numeral

variable {quiet : Bool} {groups : List RuleGroup} {line : String}

/-- What a line comes to where a group is asked for. Every other line is asked for again. -/
inductive Decides (groups : List RuleGroup) (line : String) : Except Fault Choice → Prop
  | quit : Text.Spells "q" line → Decides groups line (.ok .quit)
  | group {i : Nat} {group : RuleGroup} :
    position? groups.length (Text.trim line.toList) = some i → groups[i]? = some group →
    Decides groups line (.ok (.chosen group group.leadFile?))
  | broken {fault : NumeralFault} :
    IsBroken (Text.trim line.toList) → Decides groups line (.error (.badNumeral fault))

theorem numberedGroup?_cases (groups : List RuleGroup) (cs : List Char) :
    (IsBroken cs ∧ ∃ fault, numberedGroup? groups (String.ofList cs) = .error fault) ∨
      (¬ IsBroken cs ∧ numberedGroup? groups (String.ofList cs) =
        .ok ((position? groups.length cs).bind (groups[·]?))) := by
  simp only [numberedGroup?, String.toList_ofList, String.ofList_eq_empty_iff]
  rcases cases_of_digits cs with hskip | hbroken | ⟨hdecimal, hlength⟩
  · refine .inr ⟨not_isBroken_of_not_digits hskip, ?_⟩
    rw [position?_of_not_digits hskip, if_pos ((not_and_or.1 hskip).imp_left not_not.1)]
    rfl
  · obtain ⟨fault, hfault⟩ := toInt_of_isBroken hbroken
    refine .inl ⟨hbroken, fault, ?_⟩
    rw [if_neg (by simp [hbroken.1.1, hbroken.1.2]), hfault]
    rfl
  · refine .inr ⟨fun hbroken => hbroken.2 ⟨hdecimal, hlength⟩, ?_⟩
    rw [if_neg (by simp [hdecimal.1, hdecimal.isDigits.2]), toInt_of_isDecimal hdecimal hlength]
    change Except.ok (if 1 ≤ (amount cs : Int) then groups[((amount cs : Int) - 1).toNat]?
      else none) = _
    have hindex : ((amount cs : Int) - 1).toNat = amount cs - 1 := by omega
    rw [hindex]
    unfold position?
    by_cases hone : 1 ≤ amount cs
    · by_cases hrange : amount cs ≤ groups.length
      · rw [if_pos (by omega), if_pos ⟨hdecimal, hone, hrange⟩]
        rfl
      · rw [if_pos (by omega), if_neg fun h => hrange h.2.2]
        exact congrArg _ (List.getElem?_eq_none (by omega))
    · rw [if_neg (by omega), if_neg fun h => hone h.2.1]
      rfl

theorem numberedGroup?_lowered (groups : List RuleGroup) (line : String) :
    (IsBroken (Text.trim line.toList) ∧ ∃ fault,
        numberedGroup? groups (Text.lowered (Text.trimmed line)) = .error fault) ∨
      (¬ IsBroken (Text.trim line.toList) ∧
        numberedGroup? groups (Text.lowered (Text.trimmed line)) =
          .ok ((position? groups.length (Text.trim line.toList)).bind (groups[·]?))) := by
  have hcases := numberedGroup?_cases groups ((Text.trim line.toList).flatMap Text.lowerChar)
  rwa [isBroken_flatMap, position?_flatMap, ← Text.lowered_trimmed_toList,
    String.ofList_toList] at hcases

/-- One line decides, or the next one is asked for. -/
theorem selectAmong_of_cons {terminal : Terminal} {rest : List String}
    (h : terminal.keyboard = line :: rest) : ∃ shown : Terminal, shown.keyboard = rest ∧
      ((∃ outcome, Decides groups line outcome ∧
          selectAmong quiet groups (line :: rest) terminal = Console.ofExcept outcome shown) ∨
        ((∀ outcome, ¬ Decides groups line outcome) ∧
          selectAmong quiet groups (line :: rest) terminal =
            selectAmong quiet groups rest shown)) := by
  obtain ⟨shown, hask, hshown⟩ :=
    Console.ask_of_cons h "Select rule number (or 'q' to quit)" ""
  have hline : (if line = "" then "" else line) = line := by
    split
    · next hempty => exact hempty.symm
    · rfl
  rw [hline] at hask
  rw [selectAmong, Action.bind_of_ok hask]
  by_cases hquit : Text.Spells "q" line
  · rw [if_pos ((Text.lowered_trimmed_eq_iff (by decide)).2 hquit)]
    exact ⟨shown, hshown, .inl ⟨_, .quit hquit, rfl⟩⟩
  rw [if_neg (mt (Text.lowered_trimmed_eq_iff (by decide)).1 hquit)]
  rcases numberedGroup?_lowered groups line with ⟨hbroken, fault, hfault⟩ | ⟨hread, hgroup⟩
  · rw [hfault]
    exact ⟨shown, hshown, .inl ⟨.error (.badNumeral fault), .broken hbroken, rfl⟩⟩
  rw [hgroup]
  cases hchosen : (position? groups.length (Text.trim line.toList)).bind (groups[·]?) with
  | some group =>
    obtain ⟨i, hposition, hget⟩ := Option.bind_eq_some_iff.1 hchosen
    exact ⟨shown, hshown, .inl ⟨_, .group hposition hget, rfl⟩⟩
  | none =>
    refine ⟨shown.shown quiet (Text.coloured .red "Invalid selection"), ?_, .inr ⟨?_, ?_⟩⟩
    · rw [Terminal.keyboard_shown, hshown]
    · rintro outcome (hword | ⟨hposition, hget⟩ | hbroken)
      · exact hquit hword
      · rw [hposition, Option.bind_some, hget] at hchosen
        cases hchosen
      · exact hread hbroken
    · exact Action.bind_of_ok (Console.announce_eq _ _ _)

/-- The first line that decides is the last one to be typed. -/
theorem selectAmong_eq (quiet : Bool) (groups : List RuleGroup) {keyboard : List String}
    {terminal : Terminal} (h : terminal.keyboard = keyboard) : ∃ shown : Terminal,
      (shown.keyboard = [] ∧ (∀ line ∈ keyboard, ∀ outcome, ¬ Decides groups line outcome) ∧
        selectAmong quiet groups keyboard terminal = .error .inputEnded shown) ∨
      ∃ before line outcome, keyboard = before ++ line :: shown.keyboard ∧
        (∀ above ∈ before, ∀ outcome, ¬ Decides groups above outcome) ∧
        Decides groups line outcome ∧
        selectAmong quiet groups keyboard terminal = Console.ofExcept outcome shown := by
  induction keyboard generalizing terminal with
  | nil =>
    obtain ⟨shown, hask, hshown⟩ :=
      Console.ask_of_nil h "Select rule number (or 'q' to quit)" ""
    exact ⟨shown, .inl ⟨hshown, List.forall_mem_nil _, Action.bind_of_error hask⟩⟩
  | cons line rest ih =>
    obtain ⟨shown, hshown, ⟨outcome, hdecides, hselect⟩ | ⟨hundecided, hselect⟩⟩ :=
      selectAmong_of_cons h
    · refine ⟨shown, .inr ⟨[], line, outcome, ?_, List.forall_mem_nil _, hdecides, hselect⟩⟩
      rw [hshown, List.nil_append]
    · rw [hselect]
      obtain ⟨shown', ⟨hshown', hrest, hended⟩ | ⟨before, last, outcome, hrest, hbefore, hlast⟩⟩ :=
        ih hshown
      · exact ⟨shown', .inl ⟨hshown', List.forall_mem_cons.2 ⟨hundecided, hrest⟩, hended⟩⟩
      · refine ⟨shown', .inr ⟨line :: before, last, outcome, ?_, ?_, hlast⟩⟩
        · rw [hrest, List.cons_append]
        · exact List.forall_mem_cons.2 ⟨hundecided, hbefore⟩

end Operator.Interactive

namespace Operator

open Interactive LintRemedy.Action

/-- What is typed is a fault only where digit characters spell no number that is read. Positions are else
those that the entries number, and of the lines that are typed for a group the first one with a number,
with the letter to quit or with such digit characters is the last one. -/
theorem typed_understood (typed : String) (count : Nat) (quiet : Bool) (groups : List RuleGroup)
    (terminal : Terminal) :
    ((∀ indices, typedIndices typed count = .ok indices ↔
        ¬ Misspells typed ∧ indices = (positions count typed).map Int.ofNat) ∧
      ((∃ fault, typedIndices typed count = .error fault) ↔ Misspells typed)) ∧
    ∃ shown : Terminal,
      (shown.keyboard = [] ∧
        (∀ line ∈ terminal.keyboard, ∀ outcome, ¬ Decides groups line outcome) ∧
        (interactive quiet).select groups () terminal = .error .inputEnded shown) ∨
      ∃ before line outcome, terminal.keyboard = before ++ line :: shown.keyboard ∧
        (∀ above ∈ before, ∀ outcome, ¬ Decides groups above outcome) ∧
        Decides groups line outcome ∧
        (interactive quiet).select groups () terminal =
          (Console.ofExcept outcome : Deciding Unit Choice) () shown := by
  refine ⟨⟨fun indices => typedIndices_eq_ok_iff, exists_typedIndices_eq_error_iff⟩, ?_⟩
  have hmenu : (terminal.shown quiet (View.rulesMenu groups)).keyboard = terminal.keyboard :=
    Terminal.keyboard_shown _ _ _
  have hselect : (interactive quiet).select groups () terminal =
      (selectAmong quiet groups terminal.keyboard : Deciding Unit Choice) ()
        (terminal.shown quiet (View.rulesMenu groups)) := by
    cases quiet <;> rfl
  rw [hselect]
  obtain ⟨shown, ⟨hshown, hrest, hended⟩ | ⟨before, line, outcome, hrest, hbefore, hline, hresult⟩⟩ :=
    selectAmong_eq quiet groups hmenu
  · exact ⟨shown, .inl ⟨hshown, hrest, Action.bind_of_error hended⟩⟩
  · refine ⟨shown, .inr ⟨before, line, outcome, hrest, hbefore, hline, ?_⟩⟩
    cases outcome with
    | ok choice => exact Action.bind_of_ok hresult
    | error fault => exact Action.bind_of_error hresult

/-- A superscript is a digit character, but no decimal digit. -/
theorem superscript_misspells : typedIndices "²" 3 = .error (.notWhole "²") ∧
    ∃ shown, (interactive true).select [] () (Terminal.fresh ["²"]) =
      .error (.badNumeral (.notWhole "²")) shown := by
  refine ⟨by decide +kernel, _, rfl⟩

end Operator

end LintRemedy
