import LintRemedy.Proofs.Aggregation.Selectable
import Mathlib.Data.List.Forall2
import Mathlib.Data.List.Perm.Subperm

/-!
This module contains what is reported of the files that could not be parsed: all of them, in their
order and with their places. The messages are taken from the samples of their group by position, and
samples do not repeat. So one of the messages can be that of another file, namely where the second of
the first three findings repeats the message of the first one and the third has a new one.
-/

namespace LintRemedy

section Distinct

variable {α : Type} [DecidableEq α]

theorem distinct_cons (x : α) (xs : List α) :
    distinct (x :: xs) = x :: distinct (xs.filter (· ≠ x)) := by
  -- What is kept first stays first, and whatever equals it is left out from then on.
  have hfold : ∀ done : List α,
      xs.foldl (fun done y => if y ∈ done then done else done ++ [y]) (x :: done) =
        x :: (xs.filter (· ≠ x)).foldl (fun done y => if y ∈ done then done else done ++ [y])
          done := by
    induction xs with
    | nil => exact fun _ => rfl
    | cons y ys ih =>
      intro done
      rw [List.foldl_cons]
      by_cases hx : y = x
      · rw [if_pos (by simp [hx]), List.filter_cons_of_neg (by simp [hx]), ih]
      · rw [List.filter_cons_of_pos (by simp [hx]), List.foldl_cons]
        by_cases hy : y ∈ done
        · rw [if_pos (List.mem_cons_of_mem x hy), if_pos hy, ih]
        · rw [if_neg (by simp [hx, hy]), if_neg hy, List.cons_append, ih]
  exact hfold []

@[simp]
theorem distinct_nil : distinct ([] : List α) = [] := rfl

theorem length_distinct_le (xs : List α) : (distinct xs).length ≤ xs.length := by
  have hsubset : distinct xs ⊆ xs := fun _ h => mem_distinct_iff.1 h
  exact ((nodup_distinct xs).subperm hsubset).length_le

end Distinct

/-- A parse error is about a finding: it has its place, and the message of the finding or the one that
fits any. -/
structure ParseError.IsOf (e : ParseError) (d : Finding) : Prop where
  file : e.file = d.filePath
  line : e.line = d.line
  message : e.message = d.message ∨ e.message = "Parsing error"

namespace Aggregation

/-- The findings of files that could not be parsed. -/
def unparsed (ds : List Finding) : List Finding :=
  ds.filter (·.ruleId = none)

def messageAt (messages : List String) (i : Nat) : String :=
  (distinct (messages.take sampleSize))[i]?.getD "Parsing error"

/-- The third message moves up to the place of the second one, which is left out as it repeats the
first. -/
def MovesUp : List String → Prop
  | first :: second :: third :: _ =>
    second = first ∧ third ≠ first ∧ third ≠ "Parsing error"
  | _ => False

section Messages

variable {messages : List String} {message : String} {i : Nat}

theorem messageAt_of_le (h : sampleSize ≤ i) : messageAt messages i = "Parsing error" := by
  have hlength := length_distinct_le (messages.take sampleSize)
  have htake := List.length_take_le sampleSize messages
  unfold messageAt
  rw [List.getElem?_eq_none (by omega), Option.getD_none]

theorem messageAt_zero (first : String) (rest : List String) :
    messageAt (first :: rest) 0 = first := by
  unfold messageAt sampleSize
  rw [List.take_succ_cons, distinct_cons]
  rfl

theorem messageAt_one_iff (first second : String) (rest : List String) :
    (messageAt (first :: second :: rest) 1 = second ∨
      messageAt (first :: second :: rest) 1 = "Parsing error") ↔
      ¬ MovesUp (first :: second :: rest) := by
  unfold messageAt sampleSize
  by_cases hsecond : second = first
  · cases rest with
    | nil => simp [distinct_cons, hsecond, MovesUp]
    | cons third rest =>
      by_cases hthird : third = first
      · simp [distinct_cons, hsecond, hthird, MovesUp]
      · simp [distinct_cons, hsecond, hthird, MovesUp]
  · cases rest with
    | nil => simp [distinct_cons, hsecond, MovesUp]
    | cons third rest => simp [distinct_cons, hsecond, MovesUp]

theorem messageAt_two (first second third : String) (rest : List String) :
    messageAt (first :: second :: third :: rest) 2 = third ∨
      messageAt (first :: second :: third :: rest) 2 = "Parsing error" := by
  unfold messageAt sampleSize
  by_cases hfirst : third = first
  · by_cases hsecond : second = first
    · simp [distinct_cons, hfirst, hsecond]
    · simp [distinct_cons, hfirst, hsecond]
  · by_cases hsecond : second = first
    · simp [distinct_cons, hfirst, hsecond]
    · by_cases hthird : third = second
      · simp [distinct_cons, hsecond, hthird]
      · simp [distinct_cons, hfirst, hsecond, hthird]

theorem MovesUp.one_lt_length (h : MovesUp messages) : 1 < messages.length := by
  match messages with
  | [] | [_] | [_, _] => exact h.elim
  | _ :: _ :: _ :: _ => exact Nat.succ_lt_succ (Nat.succ_pos _)

/-- Only the second of the messages can be wrong. -/
theorem messageAt_iff (h : messages[i]? = some message) :
    (messageAt messages i = message ∨ messageAt messages i = "Parsing error") ↔
      ¬ (i = 1 ∧ MovesUp messages) := by
  match messages, i with
  | [], _ => cases h
  | first :: rest, 0 =>
    cases h
    simp [messageAt_zero]
  | [_], 1 => cases h
  | first :: second :: rest, 1 =>
    cases h
    simp [messageAt_one_iff]
  | [_], 2 | [_, _], 2 => cases h
  | first :: second :: third :: rest, 2 =>
    cases h
    simp [messageAt_two]
  | _, i + 3 =>
    rw [messageAt_of_le (Nat.le_add_left 3 i)]
    simp

end Messages

/-- What is reported of the files that could not be parsed. -/
theorem parseErrors_eq (ds : List Finding) : (ofFindings ds).parseErrors =
    (unparsed ds).zipIdx.map fun (d, i) =>
      ⟨d.filePath, d.line, messageAt ((unparsed ds).map (·.message)) i⟩ := by
  unfold parseErrors
  cases hgroup : (ofFindings ds).rules.find? (·.ruleId = none) with
  | none =>
    have hnil : unparsed ds = [] := by
      apply List.filter_eq_nil_iff.2
      intro d hd hrule
      rw [decide_eq_true_eq] at hrule
      have hmem := mem_rules_iff.2 ⟨d, hd, rfl⟩
      exact List.find?_eq_none.1 hgroup _ hmem (decide_eq_true hrule)
    rw [hnil]
    rfl
  | some group =>
    obtain ⟨d, _, rfl⟩ := mem_rules_iff.1 (List.mem_of_find?_eq_some hgroup)
    have hrule := List.find?_some hgroup
    rw [decide_eq_true_eq] at hrule
    replace hrule : d.ruleId = none := hrule
    rw [hrule]
    unfold RuleGroup.ofFindings messageAt
    dsimp only
    rw [List.zipIdx_map, List.map_map, ← List.map_take]
    rfl

theorem forall₂_map_zipIdx_iff {α β : Type} {R : β → α → Prop} {f : α × Nat → β} {xs : List α} :
    List.Forall₂ R (xs.zipIdx.map f) xs ↔ ∀ i x, xs[i]? = some x → R (f (x, i)) x := by
  rw [List.forall₂_iff_get]
  simp only [List.length_map, List.length_zipIdx, true_and, List.get_eq_getElem,
    List.getElem_map, List.getElem_zipIdx, Nat.zero_add]
  constructor
  · intro h i x hx
    obtain ⟨hi, rfl⟩ := List.getElem?_eq_some_iff.1 hx
    exact h i hi hi
  · intro h i _ hi
    exact h i _ (List.getElem?_eq_getElem hi)

/-- The parse errors are about the findings of the files that could not be parsed, one after the other.
They all have messages that fit, exactly if none of these moves up to the place of another. -/
theorem parseErrors_isOf_iff (ds : List Finding) :
    ((ofFindings ds).parseErrors.map fun e => (e.file, e.line)) =
      ((unparsed ds).map fun d => (d.filePath, d.line)) ∧
    (List.Forall₂ ParseError.IsOf (ofFindings ds).parseErrors (unparsed ds) ↔
      ¬ MovesUp ((unparsed ds).map (·.message))) := by
  rw [parseErrors_eq]
  constructor
  · conv_rhs => rw [← List.zipIdx_map_fst 0 (unparsed ds)]
    rw [List.map_map, List.map_map]
    rfl
  · rw [forall₂_map_zipIdx_iff]
    have hmessage : ∀ (i : Nat) (d : Finding), (unparsed ds)[i]? = some d →
        ((unparsed ds).map (·.message))[i]? = some d.message := by
      intro i d hd
      rw [List.getElem?_map, hd]
      rfl
    constructor
    · intro h moves
      -- There is a second finding then, and the message that moves up to its place is not its own.
      have hlength := moves.one_lt_length
      rw [List.length_map] at hlength
      have hsecond := List.getElem?_eq_getElem hlength
      exact (messageAt_iff (hmessage 1 _ hsecond)).1 (h 1 _ hsecond).message ⟨rfl, moves⟩
    · intro fits i d hd
      refine ⟨rfl, rfl, ?_⟩
      rw [messageAt_iff (hmessage i d hd)]
      exact fun h => fits h.2

/-- Files that could not be parsed, the first two of them for the same reason. -/
def unparsedFindings : List Finding :=
  [⟨none, .error, "a.js", 1, 1, "Unexpected token", false, none⟩,
    ⟨none, .error, "b.js", 2, 1, "Unexpected token", false, none⟩,
    ⟨none, .error, "c.js", 3, 1, "Unterminated string", false, none⟩]

/-- The second file is reported with the message of the third one. -/
theorem parseErrors_movesUp :
    (ofFindings unparsedFindings).parseErrors[1]? = some ⟨"b.js", 2, "Unterminated string"⟩ ∧
      ¬ List.Forall₂ ParseError.IsOf (ofFindings unparsedFindings).parseErrors
        (unparsed unparsedFindings) := by
  constructor
  · decide +kernel
  · intro h
    rw [parseErrors_eq, forall₂_map_zipIdx_iff] at h
    have hmessage := (h 1 _ rfl).message
    exact absurd hmessage (by decide +kernel)

end Aggregation
end LintRemedy
