import LintRemedy.Proofs.Loop.Footprint
import LintRemedy.Proofs.Loop.Performance
import LintRemedy.Proofs.World.OwnDeeds

/-!
This module contains what the analyzer and the operator answer in a run, read off the run as it is
before the answer: what a scan comes to, what is decided, and which action is performed in which
world. Every step goes by these answers, to the terminal.
-/

namespace LintRemedy

namespace Action

variable {ε σ α β : Type}

/-- What an action comes to, without the state that it leaves. -/
def came : EStateM.Result ε σ α → Except ε α
  | .ok a _ => .ok a
  | .error e _ => .error e

theorem came_map (g : α → β) (x : EStateM ε σ α) (s : σ) :
    came ((g <$> x) s) = g <$> came (x s) := by
  change came (EStateM.map g x s) = _
  unfold EStateM.map
  cases x s <;> rfl

end Action

open LintRemedy.Action

theorem Act.came_ofExcept {α : Type} (outcome : Except Fault α) (world : World) :
    came (Act.ofExcept id outcome world) = outcome := by
  cases outcome with
  | ok a => rfl
  | error fault => rfl

theorem Act.attempt_eq {α : Type} (act : Act α) (world : World) :
    Act.attempt act world = .ok (came (act world)) (left (act world)) := by
  unfold Act.attempt
  cases act world <;> rfl

theorem World.Alike.scanned {a b : World} (h : a.Alike b) (analyzer : Analyzer) (target : String) :
    came (analyzer.scan target b) = came (analyzer.scan target a) := by
  have due : analyzer.result (Analyzer.scanArguments target) b =
      analyzer.result (Analyzer.scanArguments target) a := by
    rw [h]
    rfl
  unfold Analyzer.scan
  rw [came_map, came_map, analyzer.findings_eq, analyzer.findings_eq, Act.came_ofExcept,
    Act.came_ofExcept, due]

theorem Talk.Leads.came_scan {talk talk' : Talk} {found : Aggregation} {analyzer : Analyzer}
    {target : String} (h : talk.Leads (analyzer.scan target) found talk') :
    came (analyzer.scan target talk.world) = .ok found := by
  obtain ⟨_, _, alike, hscan, _, _⟩ := h
  rw [← alike.scanned, hscan]
  rfl

theorem Talk.Leads.came_scan_of_attempt {talk talk' : Talk} {outcome : Except Fault Aggregation}
    {analyzer : Analyzer} {target : String}
    (h : talk.Leads (Act.attempt (analyzer.scan target)) outcome talk') :
    came (analyzer.scan target talk.world) = outcome := by
  obtain ⟨_, _, alike, hscan, _, _⟩ := h
  rw [Act.attempt_eq] at hscan
  cases hscan
  exact (alike.scanned analyzer target).symm

def Choice.event : Choice → Loop.Event
  | .quit => .quitRequested
  | .chosen .. => .ruleSelected
  | .exhausted | .nothing => .exhausted

namespace Loop

variable {μ α : Type}

def Run.scanned (setup : Setup μ) (run : Run μ) : Except Fault Aggregation :=
  came (setup.analyzer.scan setup.target run.world)

/-- What a decision comes to in a run, with the world as it is then. -/
def Run.decided? (run : Run μ) (decision : Deciding μ α) : Option (α × World) :=
  match decision run.memory run.world.terminal with
  | .ok (a, _) terminal => some (a, { run.world with terminal })
  | .error _ _ => none

/-- An action with what it is about, and the world in which it is carried out. -/
structure Performance where
  group : RuleGroup
  bundle : Bundle
  action : Action
  world : World

/-- The action that is carried out next in a run, if there is one. -/
def Run.performance? (setup : Setup μ) (run : Run μ) : Option Performance :=
  match run.phase with
  | .present group _ bundle =>
    match run.decided? (setup.operator.act bundle) with
    | some (action, world) =>
      if action.kind = .quit ∨ action.kind = .ask then none else some ⟨group, bundle, action, world⟩
    | none => none
  | _ => none

/-- The operations of a performance, with whether they have changed their files. -/
def Performance.results (config : String) (performance : Performance) : Patch.Results :=
  Patch.results (operations config performance.group performance.bundle performance.action)
    performance.world

variable {setup : Setup μ} {run after : Run μ} {event : Event}

/-- What a scan comes to decides where a step leads, and what is reported last. -/
theorem step_scanned (h : step setup run = .ok (some event) after) (phase : run.phase = .scan) :
    (∃ failure, run.scanned setup = .error (.scanFailed failure) ∧ event = .scanFailed ∧
      after.report.lastResult = run.report.lastResult) ∨
    ∃ found, run.scanned setup = .ok found ∧ event ≠ .scanFailed ∧
      after.report.lastResult = some found := by
  cases step_transition h with
  | @scanFailed failure _ _ scanned =>
    exact .inl ⟨failure, Talk.Leads.came_scan_of_attempt scanned, rfl, rfl⟩
  | parseErrorsFound _ scanned | noIssues _ scanned | issuesFound _ scanned =>
    exact .inr ⟨_, Talk.Leads.came_scan scanned, nofun, rfl⟩
  | _ =>
    rw [‹run.phase = _›] at phase
    cases phase

theorem Step.ofDecision_decided {decision : Deciding μ α} {a : α} {run' : Run μ}
    (h : Step.ofDecision decision run = .ok a run') :
    ∃ memory terminal, run.decided? decision = some (a, { run.world with terminal }) ∧
      { run with memory, talk.world.terminal := terminal } = run' := by
  unfold Step.ofDecision at h
  simp only [bind_eq_ok, get_eq_ok, ofAct_eq_ok, modify_eq_ok, pure_eq_ok,
    Act.ofConsole_eq_ok] at h
  obtain ⟨_, _, ⟨rfl, rfl⟩, ⟨b, memory⟩, _, ⟨_, ⟨terminal, hdecision, rfl⟩, rfl⟩, _, _, rfl, rfl,
    rfl⟩ := h
  refine ⟨memory, terminal, ?_, rfl⟩
  unfold Run.decided?
  rw [hdecision]

/-- A step is what is done in the phase. -/
theorem handle_of_step {phase : Phase} (h : step setup run = .ok (some event) after)
    (hphase : run.phase = phase) :
    ∃ (occurrence : Occurrence phase.state) (run' : Run μ),
      handle setup phase run = .ok (some occurrence) run' ∧ occurrence.event = event ∧
      { run' with phase := occurrence.phase } = after := by
  subst hphase
  unfold step at h
  simp only [bind_eq_ok, get_eq_ok] at h
  obtain ⟨_, _, ⟨rfl, rfl⟩, occurrence?, _, hhandle, h⟩ := h
  cases occurrence? with
  | none =>
    obtain ⟨h, _⟩ := pure_eq_ok.1 h
    cases h
  | some occurrence =>
    simp only [bind_eq_ok, modify_eq_ok, pure_eq_ok, Option.some.injEq] at h
    obtain ⟨_, _, rfl, rfl, rfl⟩ := h
    exact ⟨occurrence, _, hhandle, rfl, rfl⟩

theorem step_declined_iff {found : Aggregation} (h : step setup run = .ok (some event) after)
    (phase : run.phase = .parseError found) :
    event = .halt ↔
      ∃ world, run.decided? (setup.operator.passParseErrors found.parseErrors) =
        some (false, world) := by
  obtain ⟨occurrence, _, hhandle, rfl, _⟩ := handle_of_step h phase
  obtain ⟨_, hmeet, ⟨⟩⟩ := map_eq_ok.1 hhandle
  unfold meetParseErrors Step.report at hmeet
  obtain ⟨passed, _, hdecision, hmeet⟩ := bind_eq_ok.1 hmeet
  obtain ⟨_, _, decided, rfl⟩ := Step.ofDecision_decided hdecision
  rw [decided]
  cases passed with
  | true =>
    obtain ⟨rfl, _⟩ := pure_eq_ok.1 hmeet
    simp
  | false =>
    obtain ⟨_, rfl⟩ := record_eq_ok.1 hmeet
    simp

theorem step_selected {found : Aggregation} (h : step setup run = .ok (some event) after)
    (phase : run.phase = .selectRule found) (some : found.selectable ≠ []) :
    ∃ choice world,
      run.decided? (setup.operator.select found.selectable) = .some (choice, world) ∧
        event = choice.event := by
  obtain ⟨occurrence, _, hhandle, rfl, _⟩ := handle_of_step h phase
  obtain ⟨_, hselect, ⟨⟩⟩ := map_eq_ok.1 hhandle
  unfold selectRule Step.report at hselect
  rw [if_neg (by simpa using some)] at hselect
  obtain ⟨_, _, hidle, hselect⟩ := bind_eq_ok.1 hselect
  obtain ⟨choice, _, hdecision, hselect⟩ := bind_eq_ok.1 hselect
  cases modify_eq_ok.1 hidle
  obtain ⟨_, _, decided, rfl⟩ := Step.ofDecision_decided hdecision
  refine ⟨choice, _, decided, ?_⟩
  cases choice with
  | quit | chosen =>
    obtain ⟨rfl, _⟩ := pure_eq_ok.1 hselect
    rfl
  | exhausted | nothing =>
    obtain ⟨_, rfl⟩ := record_eq_ok.1 hselect
    rfl

/-- What a presented bundle comes to: the operator quits, or asks, or an action is performed. -/
inductive Presented (setup : Setup μ) (group : RuleGroup) (bundle : Bundle) (run : Run μ)
    (action : Action) (world : World) : Event → Run μ → Prop where
  | quit {after : Run μ} (kind : action.kind = .quit) :
      Presented setup group bundle run action world .quitRequested after
  | asked {after : Run μ} (kind : action.kind = .ask) :
      Presented setup group bundle run action world .followUp after
  | performed {outcome world'} {after : Run μ} (kind : action.kind ≠ .quit ∧ action.kind ≠ .ask)
      (performed : perform setup.config group bundle action world = .ok outcome world')
      (alike : world'.Alike after.world)
      (fixed : after.report.totalFixed = run.report.totalFixed + outcome.fixed)
      (skipped : after.report.totalSkipped = run.report.totalSkipped + outcome.skipped) :
      Presented setup group bundle run action world .actionDone after

theorem present_presented {group : RuleGroup} {file : Option String} {bundle : Bundle}
    {occurrence : Occurrence .present}
    (h : present setup group file bundle run = .ok occurrence after) :
    ∃ action world, run.decided? (setup.operator.act bundle) = some (action, world) ∧
      Presented setup group bundle run action world occurrence.event after := by
  unfold present settle at h
  obtain ⟨action, _, hdecision, h⟩ := bind_eq_ok.1 h
  obtain ⟨_, _, decided, rfl⟩ := Step.ofDecision_decided hdecision
  refine ⟨action, _, decided, ?_⟩
  generalize hkind : action.kind = kind at h
  cases kind with
  | quit =>
    obtain ⟨rfl, _⟩ := pure_eq_ok.1 h
    exact .quit hkind
  | ask =>
    simp only [bind_eq_ok, pure_eq_ok] at h
    obtain ⟨_, _, _, _, _, _, rfl, _⟩ := h
    exact .asked hkind
  | fix | disable | ignoreLine | ignoreFile | skip =>
    simp only [bind_eq_ok, Step.ofAct_eq_ok, Step.announce_eq_ok, modify_eq_ok, pure_eq_ok] at h
    obtain ⟨outcome, _, ⟨_, performed, rfl⟩, _, _, rfl, _, _, rfl, rfl, rfl⟩ := h
    exact .performed (by simp [hkind]) performed (.of_terminal _ _) rfl rfl

theorem Presented.goTo {group : RuleGroup} {bundle : Bundle} {action : Action} {world : World}
    (h : Presented setup group bundle run action world event after) (phase : Phase) :
    Presented setup group bundle run action world event { after with phase } := by
  cases h with
  | quit kind => exact .quit kind
  | asked kind => exact .asked kind
  | performed kind performed alike fixed skipped =>
    exact .performed kind performed alike fixed skipped

theorem step_presented {group : RuleGroup} {file : Option String} {bundle : Bundle}
    (h : step setup run = .ok (some event) after) (phase : run.phase = .present group file bundle) :
    ∃ action world, run.decided? (setup.operator.act bundle) = some (action, world) ∧
      Presented setup group bundle run action world event after := by
  obtain ⟨occurrence, _, hhandle, rfl, rfl⟩ := handle_of_step h phase
  obtain ⟨_, hpresent, ⟨⟩⟩ := map_eq_ok.1 hhandle
  obtain ⟨action, world, decided, presented⟩ := present_presented hpresent
  exact ⟨action, world, decided, presented.goTo _⟩

end Loop
end LintRemedy
