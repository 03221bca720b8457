import LintRemedy.Proofs.Analyzer.Supply
import LintRemedy.Proofs.Loop.Answer
import LintRemedy.Proofs.Loop.Keeping

/-!
This module contains a bound on the moves of a run under any operator. A run comes back to a scan
because an answer of the analyzer is used up, because one of the two guards against repetition lets it
pass, or because there was work on a selection. What bounds the work is the operator's own affair:
here it is a stock on which all work draws.
-/

namespace LintRemedy

open LintRemedy.Action

theorem Talk.Leads.usesUp {α : Type} {talk talk' : Talk} {act : Act α} {a : α}
    {analyzer : Analyzer} {target : String} (h : talk.Leads act a talk')
    (hact : ∀ world, analyzer.UsesUp target world (left (act world))) :
    analyzer.UsesUp target talk.world talk'.world := by
  obtain ⟨before, after, hbefore, heq, hafter, _⟩ := h
  have used := hact before
  rw [heq] at used
  apply Analyzer.UsesUp.trans _ (used.trans _)
  · rw [hbefore]
    exact .of_eq rfl rfl
  · rw [hafter]
    exact .of_eq rfl rfl

theorem Talk.Leads.usesUp_of_attempt {α : Type} {talk talk' : Talk} {act : Act α}
    {outcome : Except Fault α} {analyzer : Analyzer} {target : String}
    (h : talk.Leads (Act.attempt act) outcome talk')
    (hact : ∀ world, analyzer.UsesUp target world (left (act world))) :
    analyzer.UsesUp target talk.world talk'.world := by
  apply h.usesUp
  intro world
  rw [Act.attempt_eq]
  exact hact world

/-- What of a world is between the program and the analyzer: the answers that are due. -/
def World.awaited (world : World) : List AnalyzerAnswer × List AnalyzerAnswer :=
  (world.scans, world.repairs)

namespace World

theorem awaited_unshown : Unshown awaited :=
  fun _ _ => rfl

theorem awaited_unasked : Unasked awaited where
  record _ _ _ := rfl
  replies _ _ := rfl
  files _ _ := rfl

theorem awaited_unedited : Unedited awaited :=
  fun _ _ _ => rfl

end World

theorem Analyzer.UsesUp.of_awaited {analyzer : Analyzer} {target : String} {world world' : World}
    (h : world'.awaited = world.awaited) : analyzer.UsesUp target world world' :=
  .of_eq (congrArg Prod.fst h) (congrArg Prod.snd h)

namespace Loop

variable {μ : Type} {setup : Setup μ} {run after : Run μ} {event : Event}

/-- Only scans and repairs are answered by the analyzer. -/
theorem Transition.usesUp (h : Transition setup run event after) :
    setup.analyzer.UsesUp setup.target run.world after.world := by
  cases h with
  | scanFailed _ scanned =>
    exact scanned.usesUp_of_attempt (setup.analyzer.usesUp_scan setup.target)
  | parseErrorsFound _ scanned | noIssues _ scanned | issuesFound _ scanned =>
    exact scanned.usesUp (setup.analyzer.usesUp_scan setup.target)
  | repairApplied _ _ repaired => exact repaired.usesUp (setup.analyzer.usesUp_repair setup.target)
  | repairFailed _ _ repaired =>
    exact repaired.usesUp_of_attempt (setup.analyzer.usesUp_repair setup.target)
  | goOn _ _ alike | halt _ _ alike | repairDeclined _ _ alike | quitSelecting _ _ _ alike
  | ruleSelected _ _ _ alike | exhausted _ _ _ _ alike | quitPresenting _ _ _ alike =>
    exact .of_awaited (alike.1.seen_eq World.awaited_unshown)
  | finished | fixablePresent | noneFixable | stalled | nothingSelectable => exact .of_eq rfl rfl
  | bundleReady _ gathered | noBundle _ gathered =>
    exact .of_awaited (gathered.seen_eq World.awaited_unshown World.awaited_unasked)
  | followUp _ _ _ before answers after =>
    have kept := (Remedy.answerQuestion_keeps World.awaited_unasked _ _ _).eq_of_ok answers
    exact .of_awaited ((after.1.seen_eq World.awaited_unshown).trans
      (kept.trans (before.1.seen_eq World.awaited_unshown)))
  | actionDone _ _ _ performed =>
    exact .of_awaited (performed.seen_eq World.awaited_unshown
      (perform_keeps World.awaited_unedited _ _ _ _))

/-! ### The bound -/

/-- One if something else is remembered than the counts that all scans come to in the end. -/
def fresh (last remembered : Option Summary) : Nat :=
  if remembered = last then 0 else 1

/-- The number of scans that a phase can still lead to at most, without any work and without a new
answer from then on. A scan that has come to other counts than all of them do in the end pays for
those that its findings lead to. -/
def Phase.rescans (last repair idle : Option Summary) : Phase → Nat
  | scan => fresh last repair + fresh last idle
  | parseError found | hasFindings found =>
    fresh last repair + fresh last idle + 3 * fresh last (some found.summary)
  | repairOffered found => fresh last idle + 1 + 2 * fresh last (some found.summary)
  | selectRule found => fresh last repair + fresh last idle + 2 * fresh last (some found.summary)
  | gather .. | present .. => fresh last repair
  | clean | done | quit => 0

/-- The number of moves to the next scan at most, with the scan that comes first. -/
def Phase.rank : Phase → Nat
  | scan => 7
  | parseError _ => 6
  | hasFindings _ => 5
  | repairOffered _ => 4
  | selectRule _ => 3
  | gather .. => 2
  | present .. | clean => 1
  | done | quit => 0

/-- What an event draws on the stock: all work on a selection does. -/
def Event.cost : Event → Nat
  | noBundle | actionDone | followUp => 1
  | _ => 0

variable {stock : Run μ → Nat}

/-- The number of scans and questions that are still to come at most. -/
def reserve (setup : Setup μ) (stock : Run μ → Nat) (run : Run μ) : Nat :=
  3 * setup.analyzer.scansAhead setup.target run.world
    + run.phase.rescans (setup.analyzer.lastSummary? setup.target run.world) run.repairSummary
      run.idleSummary
    + 2 * stock run

/-- The number of moves that are still to come at most. -/
def movesLeft (setup : Setup μ) (stock : Run μ → Nat) (run : Run μ) : Nat :=
  8 * reserve setup stock run + run.phase.rank

/-- The operator's work draws on a stock, which nothing fills up. -/
def Lasts (setup : Setup μ) (start : Run μ) (stock : Run μ → Nat) : Prop :=
  ∀ {moves run event after}, Reaches setup start moves run →
    step setup run = .ok (some event) after → stock after + event.cost ≤ stock run

theorem fresh_le (last remembered : Option Summary) : fresh last remembered ≤ 1 := by
  unfold fresh
  split <;> omega

/-- Two different counts are not both those of all scans in the end. -/
theorem one_le_fresh_add (last : Option Summary) {a b : Option Summary} (h : a ≠ b) :
    1 ≤ fresh last a + fresh last b := by
  unfold fresh
  split
  · next ha =>
    rw [if_neg fun hb => h (ha.trans hb.symm)]
  · exact Nat.le_add_right 1 _

theorem Talk.Leads.scansAhead {talk talk' : Talk} {found : Aggregation}
    (h : talk.Leads (setup.analyzer.scan setup.target) found talk') :
    setup.analyzer.scansAhead setup.target talk'.world +
        fresh (setup.analyzer.lastSummary? setup.target talk.world) (some found.summary) ≤
      setup.analyzer.scansAhead setup.target talk.world := by
  obtain ⟨before, after, hbefore, hscan, hafter, _⟩ := h
  have hahead := Analyzer.scansAhead_scan hscan
  rw [hafter]
  rw [hbefore] at hahead
  exact hahead

/-- Every move is one of those that are still to come, if the work of the operator draws on its
stock. -/
theorem Transition.movesLeft_lt (h : Transition setup run event after)
    (hstock : stock after + event.cost ≤ stock run) :
    movesLeft setup stock after < movesLeft setup stock run := by
  have hahead := h.usesUp.scansAhead_le
  unfold movesLeft reserve
  rw [h.usesUp.lastSummary?_eq]
  let last := setup.analyzer.lastSummary? setup.target run.world
  have hrepair : fresh last run.repairSummary ≤ 1 := fresh_le last _
  have hidle : fresh last run.idleSummary ≤ 1 := fresh_le last _
  cases h with
  | scanFailed phase | goOn phase | halt phase | finished phase | noneFixable phase | stalled phase
  | quitSelecting phase | ruleSelected phase | exhausted phase | bundleReady phase | noBundle phase
  | quitPresenting phase | followUp phase | actionDone phase =>
    rw [phase]
    simp only [last, Run.world, Phase.rescans, Phase.rank, Event.cost] at *
    omega
  | parseErrorsFound phase scanned | noIssues phase scanned | issuesFound phase scanned =>
    -- Counts that are not the last ones are paid for by the answer that has brought them.
    have hpaid := Talk.Leads.scansAhead scanned
    rw [phase]
    simp only [last, Run.world, Phase.rescans, Phase.rank, Event.cost] at *
    omega
  | fixablePresent phase _ changed | nothingSelectable phase _ changed =>
    have hguard := one_le_fresh_add last changed
    rw [phase]
    simp only [last, Run.world, Phase.rescans, Phase.rank, Event.cost] at *
    omega
  | @repairDeclined found _ _ phase | @repairApplied found _ _ _ phase
  | @repairFailed found _ _ _ phase =>
    have hfound : fresh last (some found.summary) ≤ 1 := fresh_le last _
    rw [phase]
    simp only [last, Run.world, Phase.rescans, Phase.rank, Event.cost] at *
    omega

theorem Reaches.length_add_movesLeft_le {start : Run μ} {moves : List (Move μ)}
    (lasts : Lasts setup start stock) (h : Reaches setup start moves run) :
    moves.length + movesLeft setup stock run ≤ movesLeft setup stock start := by
  induction h with
  | here => rw [List.length_nil, Nat.zero_add]
  | move earlier last ih =>
    have hless := (step_transition last).movesLeft_lt (lasts earlier last)
    rw [List.length_cons]
    omega

/-- At the start nothing is remembered and no work has been done. -/
theorem movesLeft_start_le (setup : Setup μ) (stock : Run μ → Nat) (memory : μ) (world : World) :
    movesLeft setup stock (.start memory world) ≤
      24 * setup.analyzer.scansAhead setup.target world + 16 * stock (.start memory world) + 23 := by
  have hfresh := fresh_le (setup.analyzer.lastSummary? setup.target world) none
  simp only [movesLeft, reserve, Run.start, Run.world, Phase.rescans, Phase.rank] at *
  omega

end Loop

end LintRemedy
