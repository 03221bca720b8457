import LintRemedy.Proofs.Loop.Potential
import LintRemedy.Proofs.Operator.Menu
import LintRemedy.Proofs.World.Spending

/-!
This module contains what a run costs the person at the terminal: every selection and every question
takes a typed line, and nothing gives one back. So the lines that are going to be typed bound the work.
-/

namespace LintRemedy

open LintRemedy.Action

/-! ### Decisions -/

namespace Terminal

/-- The number of lines that are going to be typed. -/
def lines (terminal : Terminal) : Nat :=
  terminal.keyboard.length

theorem lines_shown (quiet : Bool) (text : String) (terminal : Terminal) :
    (terminal.shown quiet text).lines = terminal.lines :=
  congrArg List.length (keyboard_shown quiet text terminal)

end Terminal

namespace Console

theorem announce_spends (quiet : Bool) (text : String) :
    Spends Terminal.lines (fun _ => 0) (announce quiet text) := by
  intro terminal _ _ h
  rw [announce_eq] at h
  cases h
  exact Nat.le_of_eq (Terminal.lines_shown quiet text terminal)

theorem confirm_spends (question : String) (byDefault : Bool) :
    Spends Terminal.lines (fun _ => 1) (confirm question byDefault) := by
  intro terminal _ terminal' h
  obtain ⟨undecided, line, hkeyboard, _⟩ := confirm_eq_ok h
  unfold Terminal.lines
  rw [hkeyboard, List.length_append, List.length_cons]
  exact Nat.le_add_left _ _

end Console

theorem Deciding.ofConsole_eq_ok {μ α : Type} {act : Console α} {memory memory' : μ} {a : α}
    {terminal terminal' : Terminal} :
    (liftM act : Deciding μ α) memory terminal = .ok (a, memory') terminal' ↔
      act terminal = .ok a terminal' ∧ memory = memory' := by
  change (act >>= fun b => pure (b, memory)) terminal = _ ↔ _
  simp only [Action.bind_eq_ok, Action.pure_eq_ok, Prod.mk.injEq]
  constructor
  · rintro ⟨_, _, hact, ⟨rfl, rfl⟩, rfl⟩
    exact ⟨hact, rfl⟩
  · rintro ⟨hact, rfl⟩
    exact ⟨_, _, hact, ⟨rfl, rfl⟩, rfl⟩

namespace Operator

/-- A decision takes so many lines at least. -/
def Types {μ α : Type} (decision : Deciding μ α) (n : Nat) : Prop :=
  ∀ memory, Spends Terminal.lines (fun _ => n) (decision memory)

section Types

variable {μ α : Type} {n : Nat}

theorem Types.ofConsole {act : Console α} (h : Spends Terminal.lines (fun _ => n) act) :
    Types (liftM act : Deciding μ α) n := by
  rintro memory terminal ⟨a, memory'⟩ terminal' hdecision
  obtain ⟨hact, _⟩ := Deciding.ofConsole_eq_ok.1 hdecision
  exact h terminal a terminal' hact

theorem Types.after_announce {decision : Deciding μ α} (quiet : Bool) (text : String)
    (h : Types decision n) :
    Types (liftM (Console.announce quiet text) >>= fun _ => decision) n := by
  rintro memory terminal ⟨a, memory'⟩ terminal' hdecision
  obtain ⟨_, _, _, hshow, hrest⟩ := Deciding.bind_eq_ok.1 hdecision
  obtain ⟨rfl, rfl⟩ := Deciding.announce_eq_ok.1 hshow
  have hless := h memory _ _ _ hrest
  rw [Terminal.lines_shown] at hless
  exact hless

/-- A decision may look at what is going to be typed. -/
theorem Types.after_get {next : Terminal → Console α}
    (h : ∀ terminal a terminal', next terminal terminal = .ok a terminal' →
      terminal'.lines + n ≤ terminal.lines) :
    Types (do let terminal ← (get : Console Terminal); next terminal : Deciding μ α) n := by
  rintro memory terminal ⟨a, memory'⟩ terminal' hdecision
  obtain ⟨_, _, _, hget, hrest⟩ := Deciding.bind_eq_ok.1 hdecision
  cases hget
  obtain ⟨hact, _⟩ := Deciding.ofConsole_eq_ok.1 hrest
  exact h terminal a terminal' hact

end Types

theorem Interactive.Leads.ne_nil {bundle : Bundle} {lines : List String} {action : Action}
    (h : Leads bundle lines action) : lines ≠ [] := by
  cases h <;> exact List.cons_ne_nil _ _

variable (quiet : Bool)

theorem passParseErrors_types (errors : List ParseError) :
    Types ((interactive quiet).passParseErrors errors) 1 :=
  .after_announce quiet _ (.ofConsole (Console.confirm_spends _ _))

theorem allowRepair_types (summary : Summary) :
    Types ((interactive quiet).allowRepair summary) 1 :=
  .ofConsole (Console.confirm_spends _ _)

theorem select_types (groups : List RuleGroup) : Types ((interactive quiet).select groups) 1 := by
  apply Types.after_announce
  apply Types.after_get
  intro terminal choice terminal' h
  obtain ⟨shown, ⟨_, _, ended⟩ | ⟨before, line, outcome, hkeyboard, _, _, decided⟩⟩ :=
    Interactive.selectAmong_eq quiet groups (rfl : terminal.keyboard = _)
  · rw [ended] at h
    cases h
  · rw [decided] at h
    cases outcome with
    | error fault => cases h
    | ok chosen =>
      cases h
      unfold Terminal.lines
      rw [hkeyboard, List.length_append, List.length_cons]
      exact Nat.le_add_left _ _

theorem act_types (bundle : Bundle) : Types ((interactive quiet).act bundle) 1 := by
  apply Types.after_announce
  apply Types.after_get
  intro terminal action terminal' h
  obtain ⟨earlier, last, hkeyboard, leads⟩ := Interactive.actWithin_eq_ok h
  have hlast := List.length_pos_of_ne_nil leads.ne_nil
  unfold Terminal.lines
  rw [hkeyboard, List.length_append, List.length_append]
  omega

end Operator

/-! ### Steps -/

/-- The number of lines that are going to be typed in a world. -/
def World.lines (world : World) : Nat :=
  world.terminal.lines

namespace World

theorem lines_unscanned : Unscanned lines where
  record _ _ _ := rfl
  scans _ _ := rfl
  repairs _ _ := rfl
  files _ _ := rfl

theorem lines_unasked : Unasked lines where
  record _ _ _ := rfl
  replies _ _ := rfl
  files _ _ := rfl

theorem lines_unedited : Unedited lines :=
  fun _ _ _ => rfl

end World

theorem Act.ofConsole_spends {α : Type} {cost : α → Nat} {act : Console α}
    (h : Spends Terminal.lines cost act) : Spends World.lines cost (Act.ofConsole act) := by
  intro world a world' hact
  obtain ⟨terminal, hconsole, rfl⟩ := Act.ofConsole_eq_ok.1 hact
  exact h _ a _ hconsole

namespace Loop

variable {μ α : Type} {setup : Setup μ} {run after : Run μ} {event : Event}

/-- The number of lines that are going to be typed in a run. -/
def Run.lines (run : Run μ) : Nat :=
  run.world.lines

def Event.lines : Event → Nat
  | ruleSelected | followUp => 1
  | _ => 0

abbrev Occurrence.lines {state : State} (occurrence : Occurrence state) : Nat :=
  occurrence.event.lines

theorem announce_spends (text : String) : Spends Run.lines (fun _ => 0) (announce setup text) :=
  Step.ofAct_spends (Act.ofConsole_spends (Console.announce_spends _ _))

theorem report_spends (change : RunRecord → RunRecord) :
    Spends Run.lines (fun _ => 0) (Step.report change : Step μ Unit) :=
  .of_modify fun _ => rfl

theorem ofDecision_spends {decision : Deciding μ α} {n : Nat} (h : Operator.Types decision n) :
    Spends Run.lines (fun _ => n) (Step.ofDecision decision) := by
  unfold Step.ofDecision
  apply Spends.bind_of_free .of_get
  intro run
  apply Spends.bind_of_paid (Step.ofAct_spends (Act.ofConsole_spends (h run.memory)))
  rintro ⟨a, memory⟩
  exact .bind_of_modify (.of_pure rfl) fun _ => rfl

theorem scan_spends : Spends Run.lines (fun o => o.lines) (scan setup) := by
  unfold scan
  apply Spends.bind_of_free (report_spends _)
  intro _
  apply Spends.bind_of_free .of_get
  intro _
  apply Spends.bind_of_free (announce_spends _)
  intro _
  apply Spends.bind_of_free (Step.ofAct_spends (.of_keeps fun _ =>
    Act.attempt_keeps (setup.analyzer.scan_keeps World.lines_unscanned _ _)))
  intro outcome
  split
  · apply Spends.bind_of_free (report_spends _)
    intro _
    exact .of_pure rfl
  · exact .of_throw
  · apply Spends.bind_of_free (report_spends _)
    intro _
    apply Spends.bind_of_free (announce_spends _)
    intro _
    split
    · exact .of_pure rfl
    · split
      · exact .of_pure rfl
      · exact .of_pure rfl

theorem endClean_spends : Spends (Run.lines (μ := μ)) (fun o => o.lines) endClean := by
  unfold endClean
  apply Spends.bind_of_free (report_spends _)
  intro _
  exact .of_pure rfl

theorem meetFindings_spends (found : Aggregation) :
    Spends (Run.lines (μ := μ)) (fun o => o.lines) (meetFindings found) := by
  unfold meetFindings
  apply Spends.bind_of_free .of_get
  intro _
  split
  · exact .of_pure rfl
  · exact .of_pure rfl

theorem turnTo_spends (file : Option String) : Spends Run.lines (fun _ => 0) (turnTo setup file) := by
  unfold turnTo
  apply Spends.bind_of_free .of_get
  intro previous
  apply Spends.bind_of_free .of_get
  intro run
  obtain ⟨dropped, conversation⟩ := run.talk.conversation.turnTo file
  refine .bind_of_modify ?_ fun _ => rfl
  cases dropped with
  | true => exact announce_spends _
  | false => exact .of_pure rfl

theorem settle_spends (group : RuleGroup) (file : Option String) (fixed skipped : Int) :
    Spends Run.lines (fun _ => 0) (settle setup group file fixed skipped) :=
  .of_modify fun _ => rfl

theorem gather_spends (group : RuleGroup) (file : Option String) :
    Spends Run.lines (fun o => o.lines) (gather setup group file) := by
  unfold gather
  apply Spends.bind_of_free (turnTo_spends _)
  intro _
  apply Spends.bind_of_free (announce_spends _)
  intro _
  apply Spends.bind_of_free (Step.ofAct_spends (.of_keeps fun _ => ConfigFile.read_keeps _ _))
  intro _
  apply Spends.bind_of_free (Step.ofDialogue_spends (.of_keeps fun _ =>
    Remedy.gather_keeps World.lines_unasked _ _ _))
  intro bundle?
  cases bundle? with
  | some bundle => exact .of_pure rfl
  | none =>
    apply Spends.bind_of_free (announce_spends _)
    intro _
    apply Spends.bind_of_free (settle_spends _ _ _ _)
    intro _
    exact .of_pure rfl

theorem Event.lines_le (event : Event) : event.lines ≤ 1 := by
  cases event <;> decide

section Interactive

variable {setup : Setup Unit} {run after : Run Unit} {quiet : Bool}
  (attended : setup.operator = .interactive quiet)
include attended

theorem meetParseErrors_spends (found : Aggregation) :
    Spends Run.lines (fun o => o.lines) (meetParseErrors setup found) := by
  have types := Operator.passParseErrors_types quiet found.parseErrors
  rw [← attended] at types
  unfold meetParseErrors
  apply Spends.bind_of_free ((ofDecision_spends types).mono fun _ => Nat.zero_le _)
  intro passed
  split
  · exact .of_pure rfl
  · apply Spends.bind_of_free (report_spends _)
    intro _
    exact .of_pure rfl

theorem offerRepair_spends (found : Aggregation) :
    Spends Run.lines (fun o => o.lines) (offerRepair setup found) := by
  have types := Operator.allowRepair_types quiet found.summary
  rw [← attended] at types
  unfold offerRepair
  apply Spends.bind_of_free ((ofDecision_spends types).mono fun _ => Nat.zero_le _)
  intro allowed
  split
  · refine .bind_of_modify ?_ fun _ => rfl
    apply Spends.bind_of_free (Step.ofAct_spends (.of_keeps fun _ =>
      Act.attempt_keeps (setup.analyzer.repair_keeps World.lines_unscanned _ _)))
    intro outcome
    split
    · apply Spends.bind_of_free (announce_spends _)
      intro _
      exact .of_pure rfl
    · exact .of_throw
    · apply Spends.bind_of_free (announce_spends _)
      intro _
      exact .of_pure rfl
  · exact .of_pure rfl

theorem selectRule_spends (found : Aggregation) :
    Spends Run.lines (fun o => o.lines) (selectRule setup found) := by
  have types := Operator.select_types quiet found.selectable
  rw [← attended] at types
  unfold selectRule
  split
  · apply Spends.bind_of_free .of_get
    intro _
    split
    · apply Spends.bind_of_free (report_spends _)
      intro _
      exact .of_pure rfl
    · exact .bind_of_modify (.of_pure rfl) fun _ => rfl
  · refine .bind_of_modify ?_ fun _ => rfl
    -- The line that is typed pays for the selection.
    refine ((ofDecision_spends types).bind_of_paid ?_).mono fun o => o.event.lines_le
    intro choice
    cases choice with
    | quit => exact .of_pure rfl
    | chosen => exact .of_pure rfl
    | exhausted | nothing =>
      apply Spends.bind_of_free (report_spends _)
      intro _
      exact .of_pure rfl

theorem present_spends (group : RuleGroup) (file : Option String) (bundle : Bundle) :
    Spends Run.lines (fun o => o.lines) (present setup group file bundle) := by
  have types := Operator.act_types quiet bundle
  rw [← attended] at types
  unfold present
  -- The line that is typed pays for a question.
  refine ((ofDecision_spends types).bind_of_paid ?_).mono fun o => o.event.lines_le
  intro action
  split
  · exact .of_pure rfl
  · apply Spends.bind_of_free (Step.ofDialogue_spends (.of_keeps fun _ =>
      Remedy.answerQuestion_keeps World.lines_unasked _ _ _))
    intro _
    apply Spends.bind_of_free (announce_spends _)
    intro _
    exact .of_pure rfl
  · apply Spends.bind_of_free (Step.ofAct_spends (.of_keeps fun _ =>
      perform_keeps World.lines_unedited _ _ _ _ _))
    intro _
    apply Spends.bind_of_free (announce_spends _)
    intro _
    apply Spends.bind_of_free (settle_spends _ _ _ _)
    intro _
    exact .of_pure rfl

theorem handle_lines {phase : Phase} {occurrence : Occurrence phase.state}
    (h : handle setup phase run = .ok (some occurrence) after) :
    after.lines + occurrence.lines ≤ run.lines := by
  cases phase with
  | scan =>
    obtain ⟨_, h, ⟨⟩⟩ := map_eq_ok.1 h
    exact scan_spends _ _ _ h
  | parseError =>
    obtain ⟨_, h, ⟨⟩⟩ := map_eq_ok.1 h
    exact meetParseErrors_spends attended _ _ _ _ h
  | clean =>
    obtain ⟨_, h, ⟨⟩⟩ := map_eq_ok.1 h
    exact endClean_spends _ _ _ h
  | hasFindings =>
    obtain ⟨_, h, ⟨⟩⟩ := map_eq_ok.1 h
    exact meetFindings_spends _ _ _ _ h
  | repairOffered =>
    obtain ⟨_, h, ⟨⟩⟩ := map_eq_ok.1 h
    exact offerRepair_spends attended _ _ _ _ h
  | selectRule =>
    obtain ⟨_, h, ⟨⟩⟩ := map_eq_ok.1 h
    exact selectRule_spends attended _ _ _ _ h
  | gather =>
    obtain ⟨_, h, ⟨⟩⟩ := map_eq_ok.1 h
    exact gather_spends _ _ _ _ _ h
  | present =>
    obtain ⟨_, h, ⟨⟩⟩ := map_eq_ok.1 h
    exact present_spends attended _ _ _ _ _ _ h
  | done | quit => cases h

/-- Every selection and every question takes a line, and no step adds one. -/
theorem step_lines (h : step setup run = .ok (some event) after) :
    after.lines + event.lines ≤ run.lines := by
  obtain ⟨occurrence, run', hhandle, rfl, rfl⟩ := handle_of_step h rfl
  exact (handle_lines attended hhandle :)

/-! ### The stock of an attended run -/

/-- A phase in which there is work on a selection, for which a line was typed. -/
def Phase.isWork : Phase → Bool
  | gather .. | present .. => true
  | _ => false

/-- The lines that are going to be typed, with the one for the work that is under way. -/
def typedStock (run : Run Unit) : Nat :=
  run.lines + run.phase.isWork.toNat

theorem attended_lasts (start : Run Unit) : Lasts setup start typedStock := by
  intro moves run event after _ hstep
  have hlines := step_lines attended hstep
  unfold typedStock
  cases step_transition hstep
  all_goals
    rw [‹run.phase = _›]
    simp only [Phase.isWork, Bool.toNat, cond_true, cond_false, Event.cost, Event.lines] at *
    omega

end Interactive

end Loop

end LintRemedy
