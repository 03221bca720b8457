import LintRemedy.Loop.Course
import LintRemedy.Proofs.Loop.Transition

/-!
This module contains the histories of runs: the moves that have led from one point of a run to
another one, the last move first. The course of a run is such a history.
-/

namespace LintRemedy
namespace Loop

variable {μ : Type}

/-- A passage with the runs before and after it. -/
structure Move (μ : Type) where
  before : Run μ
  event : Event
  after : Run μ

def Move.passage (move : Move μ) : Passage μ :=
  ⟨move.before.phase.state, move.event, move.after⟩

def Run.start (memory : μ) (world : World) : Run μ :=
  { talk := ⟨world, {}⟩, memory }

/-- The runs that are reached from one by moves. -/
inductive Reaches (setup : Setup μ) (start : Run μ) : List (Move μ) → Run μ → Prop where
  | here : Reaches setup start [] start
  | move {moves run event after} (earlier : Reaches setup start moves run)
      (last : step setup run = .ok (some event) after) :
      Reaches setup start (⟨run, event, after⟩ :: moves) after

namespace Reaches

variable {setup : Setup μ} {start middle run : Run μ} {earlier later moves : List (Move μ)}

theorem trans (hearlier : Reaches setup start earlier middle)
    (hlater : Reaches setup middle later run) : Reaches setup start (later ++ earlier) run := by
  induction hlater with
  | here => exact hearlier
  | move _ last ih => exact .move ih last

theorem split (h : Reaches setup start (later ++ earlier) run) :
    ∃ middle, Reaches setup start earlier middle ∧ Reaches setup middle later run := by
  induction later generalizing run with
  | nil => exact ⟨run, h, .here⟩
  | cons _ later ih =>
    cases h with
    | move reached last =>
      obtain ⟨middle, hearlier, hlater⟩ := ih reached
      exact ⟨middle, hearlier, .move hlater last⟩

theorem before (h : Reaches setup start moves run) {move : Move μ} (hmove : move ∈ moves) :
    ∃ earlier, Reaches setup start earlier move.before ∧
      step setup move.before = .ok (some move.event) move.after := by
  induction h with
  | here => cases hmove
  | move reached last ih =>
    rcases List.mem_cons.1 hmove with rfl | hmove
    · exact ⟨_, reached, last⟩
    · exact ih hmove

theorem transition (h : Reaches setup start moves run) {move : Move μ} (hmove : move ∈ moves) :
    Transition setup move.before move.event move.after := by
  obtain ⟨_, _, hstep⟩ := h.before hmove
  exact step_transition hstep

theorem first (h : Reaches setup start moves run) :
    (moves = [] ∧ run = start) ∨ ∃ event after later, step setup start = .ok (some event) after ∧
      Reaches setup after later run ∧ moves = later ++ [⟨start, event, after⟩] := by
  induction h with
  | here => exact .inl ⟨rfl, rfl⟩
  | move _ last ih =>
    rcases ih with ⟨rfl, rfl⟩ | ⟨event, after, later, hfirst, hlater, rfl⟩
    · exact .inr ⟨_, _, [], last, .here, rfl⟩
    · exact .inr ⟨event, after, _, hfirst, .move hlater last, rfl⟩

theorem eq_nil_of_isFinal (h : Reaches setup start moves run) (final : start.phase.state.isFinal) :
    moves = [] ∧ run = start := by
  rcases h.first with hnil | ⟨_, _, _, hfirst, _, _⟩
  · exact hnil
  · exact ((step_transition hfirst).not_isFinal final).elim

/-- Of two histories with the same start, one goes on where the other one ends. -/
theorem comparable (hmiddle : Reaches setup start earlier middle)
    (hrun : Reaches setup start moves run) :
    (∃ later, Reaches setup middle later run ∧ moves = later ++ earlier) ∨
      ∃ later, Reaches setup run later middle ∧ earlier = later ++ moves := by
  -- The induction is on one of them. Where it goes a move further, the other one either makes the
  -- same move, as a step has one outcome, or has ended already.
  induction hmiddle with
  | here => exact .inl ⟨moves, hrun, (List.append_nil _).symm⟩
  | move _ last ih =>
    rcases ih with ⟨later, hlater, rfl⟩ | ⟨later, hlater, rfl⟩
    · rcases hlater.first with ⟨rfl, rfl⟩ | ⟨_, _, rest, hfirst, hrest, rfl⟩
      · exact .inr ⟨_, .move .here last, rfl⟩
      · rw [last] at hfirst
        cases hfirst
        exact .inl ⟨rest, hrest, List.append_assoc _ _ _⟩
    · exact .inr ⟨_, .move hlater last, rfl⟩

/-- The history of a run that is over holds all others. -/
theorem suffix_of_isFinal {last : Run μ} (hlast : Reaches setup start moves last)
    (final : last.phase.state.isFinal) (hrun : Reaches setup start earlier run) :
    earlier <:+ moves := by
  rcases comparable hlast hrun with ⟨later, hlater, rfl⟩ | ⟨later, _, rfl⟩
  · obtain ⟨rfl, _⟩ := hlater.eq_nil_of_isFinal final
    exact List.suffix_refl moves
  · exact List.suffix_append later earlier

theorem eq_of_isFinal {last : Run μ} (hlast : Reaches setup start moves last)
    (final : last.phase.state.isFinal) (hrun : Reaches setup start earlier run)
    (final' : run.phase.state.isFinal) : earlier = moves := by
  have hlength := (hrun.suffix_of_isFinal final' hlast).length_le
  exact (hlast.suffix_of_isFinal final hrun).eq_of_length_le hlength

theorem head_after (h : Reaches setup start moves run) :
    ∀ move ∈ moves.head?, move.after = run := by
  intro move hmove
  cases h with
  | here => cases hmove
  | move _ _ =>
    cases hmove
    rfl

theorem before_of_after (P : Run μ → Prop) (h : Reaches setup start moves run) (hstart : P start)
    (hafter : ∀ move ∈ moves, P move.after) : ∀ move ∈ moves, P move.before := by
  intro move hmove
  induction h with
  | here => cases hmove
  | move reached last ih =>
    rw [List.forall_mem_cons] at hafter
    rcases List.mem_cons.1 hmove with rfl | hearlier
    · cases reached with
      | here => exact hstart
      | move _ _ => exact hafter.2 _ List.mem_cons_self
    · exact ih hafter.2 hearlier

/-- A run goes on for any number of moves, unless it stops or a move of some kind comes first. -/
theorem goes_on (setup : Setup μ) (start : Run μ) (kind : Move μ → Prop) (n : Nat) :
    ∃ moves last, Reaches setup start moves last ∧ (∀ move ∈ moves.tail, ¬ kind move) ∧
      ((∃ move ∈ moves, kind move) ∨ last.phase.state.isFinal ∨
        (∃ fault left, step setup last = .error fault left) ∨ moves.length = n) := by
  induction n with
  | zero =>
    refine ⟨[], start, .here, ?_, .inr (.inr (.inr rfl))⟩
    intro _ h
    cases h
  | succ n ih =>
    obtain ⟨moves, last, reached, hearlier, hstop⟩ := ih
    -- A run that has stopped for one of the other reasons stays as it is.
    by_cases hkind : ∃ move ∈ moves, kind move
    · exact ⟨moves, last, reached, hearlier, .inl hkind⟩
    rcases hstop with h | h | h | hlength
    · exact (hkind h).elim
    · exact ⟨moves, last, reached, hearlier, .inr (.inl h)⟩
    · exact ⟨moves, last, reached, hearlier, .inr (.inr (.inl h))⟩
    · cases hstep : step setup last with
      | error fault left =>
        exact ⟨moves, last, reached, hearlier, .inr (.inr (.inl ⟨fault, left, hstep⟩))⟩
      | ok event? after =>
        cases event? with
        | none =>
          refine ⟨moves, last, reached, hearlier, .inr (.inl ?_)⟩
          rcases step_eq_none hstep with h | h
          all_goals
            rw [h]
            rfl
        | some event =>
          refine ⟨_, after, .move reached hstep, ?_, .inr (.inr (.inr ?_))⟩
          · intro move hmove hbad
            exact hkind ⟨move, hmove, hbad⟩
          · rw [List.length_cons, hlength]

end Reaches

/-- The points of a run: where the moves have led, or where a fault has cut the next move short. -/
def Stands (setup : Setup μ) (start : Run μ) (moves : List (Move μ)) (point : Run μ) : Prop :=
  ∃ run, Reaches setup start moves run ∧
    (point = run ∨ ∃ fault, step setup run = .error fault point)

theorem follow_reaches (setup : Setup μ) (start : Run μ) (limit : Nat) :
    ∀ {run : Run μ} {moves : List (Move μ)}, Reaches setup start moves run →
      ∃ all last, Reaches setup start all last ∧
        (follow setup limit run (moves.map Move.passage)).passages =
          (all.map Move.passage).reverse := by
  induction limit with
  | zero =>
    intro run moves h
    exact ⟨moves, run, h, rfl⟩
  | succ limit ih =>
    intro run moves h
    unfold follow
    split
    · exact ⟨moves, run, h, rfl⟩
    · next last => exact ih (.move h last)
    · split
      · exact ⟨moves, run, h, rfl⟩
      · exact ⟨moves, run, h, rfl⟩

theorem course_reaches (setup : Setup μ) (memory : μ) (world : World) :
    ∃ moves last, Reaches setup (.start memory world) moves last ∧
      (course setup memory world).passages = (moves.map Move.passage).reverse := by
  exact follow_reaches setup _ _ .here

/-- What a run is like that is followed for a number of passages. -/
theorem follow_last {setup : Setup μ} {start : Run μ} (limit : Nat) (check : Run μ → Bool)
    (h : (follow setup limit start []).passages.getLast?.any fun passage => check passage.after) :
    ∃ moves last, Reaches setup start moves last ∧ check last ∧
      (follow setup limit start []).passages = (moves.map Move.passage).reverse := by
  obtain ⟨moves, last, reached, hpassages⟩ := follow_reaches setup start limit .here
  refine ⟨moves, last, reached, ?_, hpassages⟩
  change (follow setup limit start []).passages = _ at hpassages
  rw [hpassages, List.getLast?_reverse, List.head?_map, Option.any_map] at h
  obtain ⟨move, hmove, hcheck⟩ := (Option.any_eq_true _ _).1 h
  rw [← reached.head_after move hmove]
  exact hcheck

/-- The last run of a course is one that is reached. -/
theorem course_last {setup : Setup μ} {memory : μ} {world : World} (check : Run μ → Bool)
    (h : (course setup memory world).passages.getLast?.any fun passage => check passage.after) :
    ∃ moves last, Reaches setup (.start memory world) moves last ∧ check last ∧
      (course setup memory world).passages = (moves.map Move.passage).reverse :=
  follow_last _ check h

/-- A course to the end is the whole history of its run. -/
theorem course_history {setup : Setup μ} {memory : μ} {world : World}
    (ends : (course setup memory world).passages.getLast?.any (·.after.phase.state.isFinal)) :
    ∃ moves last, Reaches setup (.start memory world) moves last ∧ last.phase.state.isFinal ∧
      (course setup memory world).passages = (moves.map Move.passage).reverse :=
  course_last (·.phase.state.isFinal) ends

/-- A run before a passage of a course is one that is reached, and it makes this passage. -/
theorem course_before {setup : Setup μ} {memory : μ} {world : World} (check : Passage μ → Bool)
    (h : (course setup memory world).passages.any check) :
    ∃ moves run event after, Reaches setup (.start memory world) moves run ∧
      step setup run = .ok (some event) after ∧ check ⟨run.phase.state, event, after⟩ := by
  obtain ⟨moves, last, reached, hpassages⟩ := course_reaches setup memory world
  rw [hpassages, List.any_reverse, List.any_map, List.any_eq_true] at h
  obtain ⟨move, hmove, hcheck⟩ := h
  obtain ⟨earlier, hearlier, hstep⟩ := reached.before hmove
  exact ⟨earlier, move.before, move.event, move.after, hearlier, hstep, hcheck⟩

end Loop
end LintRemedy
