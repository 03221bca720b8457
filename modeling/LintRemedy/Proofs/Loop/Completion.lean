import LintRemedy.Proofs.Loop.Attended
import LintRemedy.Proofs.Loop.Patience
import LintRemedy.Proofs.Loop.Report

/-!
This module contains that a run is carried out to its end, by the operator that works unattended and
by a person at the terminal: the number of passages after which a course is cut off is never reached.
-/

namespace LintRemedy

/-! ### The amount of what others are going to answer -/

theorem AnalyzerAnswer.amount_pos (answer : AnalyzerAnswer) : 0 < answer.amount := by
  unfold amount
  split
  · exact Nat.succ_pos _
  · exact Nat.one_pos

theorem AnalyzerAnswer.length_le_total (answers : List AnalyzerAnswer) :
    answers.length ≤ total answers := by
  induction answers with
  | nil => exact Nat.le_refl 0
  | cons answer answers ih =>
    rw [List.length_cons, Nat.add_comm]
    exact Nat.add_le_add answer.amount_pos ih

namespace Analyzer

theorem total_dueToScans_le (analyzer : Analyzer) (target : String) (world : World) :
    AnalyzerAnswer.total (analyzer.dueToScans target world) ≤ world.amount := by
  unfold dueToScans World.amount
  split <;> omega

theorem scansAhead_le_amount (analyzer : Analyzer) (target : String) (world : World) :
    analyzer.scansAhead target world ≤ world.amount :=
  calc analyzer.scansAhead target world
    _ ≤ (analyzer.dueToScans target world).length := Nat.sub_le _ _
    _ ≤ AnalyzerAnswer.total (analyzer.dueToScans target world) := AnalyzerAnswer.length_le_total _
    _ ≤ world.amount := analyzer.total_dueToScans_le target world

theorem card_duePairs_le_amount (analyzer : Analyzer) (target : String) (world : World) :
    (analyzer.duePairs target world).card ≤ world.amount :=
  (analyzer.card_duePairs_le target world).trans (analyzer.total_dueToScans_le target world)

end Analyzer

namespace Loop

variable {μ : Type} {setup : Setup μ} {memory : μ} {world : World} {moves : List (Move μ)}
  {run : Run μ} {stock : Run μ → Nat} {report : RunRecord} {left : World}

/-! ### The limit -/

/-- The stock of a run is no more than what others are going to answer, each time as much as the
patience of the operator allows. -/
def Moderate (setup : Setup μ) (memory : μ) (world : World) (stock : Run μ → Nat) : Prop :=
  stock (.start memory world) ≤ world.amount * (2 * setup.operator.patience memory + 1)

theorem Reaches.length_lt (lasts : Lasts setup (.start memory world) stock)
    (moderate : Moderate setup memory world stock)
    (h : Reaches setup (.start memory world) moves run) :
    moves.length < passageLimit setup (.start memory world) := by
  have hmoves := h.length_add_movesLeft_le lasts
  have hstart := movesLeft_start_le setup stock memory world
  have hahead := setup.analyzer.scansAhead_le_amount setup.target world
  unfold Moderate at moderate
  have hlimit : passageLimit setup (.start memory world) =
      16 * (world.amount + 2) * (world.amount + 2) * (setup.operator.patience memory + 2) := rfl
  rw [hlimit]
  generalize world.amount = amount at *
  generalize setup.operator.patience memory = patience at *
  nlinarith

/-- A course that is not cut off ends as the run does. -/
theorem follow_of_returns {stopped ended last : Run μ} (hstop : step setup stopped = .ok none ended)
    (hfinish : finish setup ended = .ok report last) (limit : Nat) :
    ∀ {run : Run μ} {later : List (Move μ)} (passages : List (Passage μ)),
      Reaches setup run later stopped → later.length < limit →
        (follow setup limit run passages).outcome = .ok report ∧
          (follow setup limit run passages).last = last := by
  induction limit with
  | zero =>
    intro run later _ _ hlength
    cases hlength
  | succ limit ih =>
    intro run later passages h hlength
    unfold follow
    rcases h.first with ⟨rfl, rfl⟩ | ⟨event, after, rest, hfirst, hrest, rfl⟩
    · rw [hstop]
      dsimp only
      rw [hfinish]
      exact ⟨rfl, rfl⟩
    · rw [hfirst]
      rw [List.length_append, List.length_singleton] at hlength
      exact ih _ hrest (Nat.lt_of_succ_lt_succ hlength)

/-- What is carried out is the whole run, whenever the run lasts no longer than its limit. -/
theorem carryOut_eq_ok_iff (lasts : Lasts setup (.start memory world) stock)
    (moderate : Moderate setup memory world stock) :
    carryOut setup memory world = .ok report left ↔
      ∃ moves last, Returns setup (.start memory world) moves report last ∧ last.world = left := by
  let limit := passageLimit setup (.start memory world)
  have hcarry : carryOut setup memory world = .ok report left ↔
      (course setup memory world).outcome = .ok report ∧
        (course setup memory world).last.world = left := by
    unfold carryOut
    dsimp only
    cases (course setup memory world).outcome with
    | ok reported => simp
    | error fault => simp
  rw [hcarry]
  constructor
  · rintro ⟨houtcome, hleft⟩
    rcases follow_returns limit .here houtcome with ⟨moves, returned, _⟩ | cut
    · exact ⟨moves, _, returned, hleft⟩
    · -- A course that was cut off would have more passages than any history has moves.
      obtain ⟨moves, last, reached, hpassages⟩ := course_reaches setup memory world
      have hlength : moves.length < limit := reached.length_lt lasts moderate
      have hcut : (course setup memory world).passages.length = 0 + limit := cut
      rw [hpassages, List.length_reverse, List.length_map] at hcut
      omega
  · rintro ⟨moves, last, ⟨stopped, reached, ended, hstop, hfinish⟩, hleft⟩
    obtain ⟨houtcome, hlast⟩ := follow_of_returns hstop hfinish limit [] reached
      (reached.length_lt lasts moderate)
    exact ⟨houtcome, (congrArg Run.world hlast).trans hleft⟩

/-- A run by a person at the terminal is carried out to its end. -/
theorem carryOut_attended {setup : Setup Unit} {quiet : Bool}
    (attended : setup.operator = .interactive quiet) :
    carryOut setup () world = .ok report left ↔
      ∃ moves last, Returns setup (.start () world) moves report last ∧ last.world = left := by
  apply carryOut_eq_ok_iff (attended_lasts attended _)
  unfold Moderate
  rw [attended]
  have hlines : typedStock (.start () world) = world.terminal.keyboard.length := rfl
  have hpatience : (Operator.interactive quiet).patience () = 0 := rfl
  rw [hlines, hpatience]
  unfold World.amount
  omega

/-- An unattended run is carried out to its end. -/
theorem carryOut_unattended {setup : Setup SkipCounts} {budget : Int} {quiet : Bool}
    (unattended : setup.operator = .automatic budget quiet) :
    carryOut setup [] world = .ok report left ↔
      ∃ moves last, Returns setup (.start [] world) moves report last ∧ last.world = left := by
  apply carryOut_eq_ok_iff (unattended_lasts unattended world)
  let pairs := setup.analyzer.duePairs setup.target world
  have hreplies : world.repliesLeft ≤ world.amount := by
    unfold World.repliesLeft World.amount
    omega
  have hskips : (SkipCounts.remaining (max budget 0) pairs []).toNat ≤
      budget.toNat * world.amount := by
    have hremaining : SkipCounts.remaining (max budget 0) pairs [] ≤ max budget 0 * pairs.card :=
      SkipCounts.remaining_le fun _ => Int.le_refl 0
    rw [← Int.ofNat_toNat budget, ← Int.natCast_mul] at hremaining
    rw [← Int.ofNat_toNat budget]
    refine (Int.toNat_le.2 hremaining).trans (Nat.mul_le_mul_left _ ?_)
    exact setup.analyzer.card_duePairs_le_amount setup.target world
  have hpatience : setup.operator.patience [] = budget.toNat := by rw [unattended]; rfl
  unfold Moderate
  rw [hpatience]
  calc patientStock budget pairs (.start [] world)
    _ = world.repliesLeft * (budget.toNat + 1) +
        (SkipCounts.remaining (max budget 0) pairs []).toNat := rfl
    _ ≤ world.amount * (budget.toNat + 1) + budget.toNat * world.amount :=
      Nat.add_le_add (Nat.mul_le_mul_right _ hreplies) hskips
    _ = world.amount * (2 * budget.toNat + 1) := by ring

end Loop

end LintRemedy
