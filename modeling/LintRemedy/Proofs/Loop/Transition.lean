import LintRemedy.Proofs.Action

/-!
This module contains the transitions of the repair loop: everything that a passage from one phase to
the next can do to a run, under any operator. Every step of a run that is not cut short by a fault is
one of them, and a fault leaves the books of a run as they were.
-/

namespace LintRemedy

/-- Two worlds that differ in nothing but the terminal. -/
def World.Alike (a b : World) : Prop :=
  b = { a with terminal := b.terminal }

namespace World.Alike

theorem refl (a : World) : a.Alike a := rfl

theorem of_terminal (a : World) (terminal : Terminal) : a.Alike { a with terminal } := rfl

theorem files_eq {a b : World} (h : a.Alike b) : b.files = a.files := by
  rw [h]

theorem workDir_eq {a b : World} (h : a.Alike b) : b.workDir = a.workDir := by
  rw [h]
  rfl

end World.Alike

namespace Talk

/-- Two talks that differ in nothing but the terminal. -/
def Alike (a b : Talk) : Prop :=
  a.world.Alike b.world ∧ b.conversation = a.conversation

/-- An action of the world leads from one talk to another, up to what is shown around it. -/
def Leads {α : Type} (talk : Talk) (act : Act α) (a : α) (talk' : Talk) : Prop :=
  ∃ before after, talk.world.Alike before ∧ act before = .ok a after ∧ after.Alike talk'.world ∧
    talk'.conversation = talk.conversation

end Talk

namespace Loop

variable {μ : Type}

/-- What the oracle makes of a selection. -/
def Gathers (setup : Setup μ) (group : RuleGroup) (file : Option String) (talk : Talk)
    (bundle? : Option Bundle) (talk' : Talk) : Prop :=
  ∃ (turned : Talk) (config : String) (asked answered : Talk),
    talk.world.Alike turned.world ∧
    turned.conversation = (talk.conversation.turnTo (workFile? group file)).2 ∧
    turned.Leads (ConfigFile.read setup.config) config asked ∧
    Remedy.gather setup.channel setup.window group config asked = .ok bundle? answered ∧
    answered.Alike talk'

/-- The passages of the loop from a run to the one after an event. -/
inductive Transition (setup : Setup μ) (run : Run μ) : Event → Run μ → Prop where
  | scanFailed {failure talk} (phase : run.phase = .scan)
      (scanned : run.talk.Leads (Act.attempt (setup.analyzer.scan setup.target))
        (.error (.scanFailed failure)) talk) :
      Transition setup run .scanFailed { run with
        talk
        phase := .quit
        report.iterations := run.report.iterations + 1
        report.status := .scanFailed
        report.message := failure.message }
  | parseErrorsFound {found talk} (phase : run.phase = .scan)
      (scanned : run.talk.Leads (setup.analyzer.scan setup.target) found talk)
      (unparsed : found.hasUnparsed) :
      Transition setup run .parseErrorsFound { run with
        talk
        phase := .parseError found
        report.iterations := run.report.iterations + 1
        report.lastResult := some found }
  | noIssues {found talk} (phase : run.phase = .scan)
      (scanned : run.talk.Leads (setup.analyzer.scan setup.target) found talk)
      (parsed : ¬ found.hasUnparsed) (clean : found.summary.totalIssues = 0) :
      Transition setup run .noIssues { run with
        talk
        phase := .clean
        report.iterations := run.report.iterations + 1
        report.lastResult := some found }
  | issuesFound {found talk} (phase : run.phase = .scan)
      (scanned : run.talk.Leads (setup.analyzer.scan setup.target) found talk)
      (parsed : ¬ found.hasUnparsed) (unclean : found.summary.totalIssues ≠ 0) :
      Transition setup run .issuesFound { run with
        talk
        phase := .hasFindings found
        report.iterations := run.report.iterations + 1
        report.lastResult := some found }
  | goOn {found memory talk} (phase : run.phase = .parseError found)
      (decided : (setup.operator.passParseErrors found.parseErrors).Yields run.memory true memory)
      (alike : run.talk.Alike talk) :
      Transition setup run .goOn { run with talk, memory, phase := .hasFindings found }
  | halt {found memory talk message} (phase : run.phase = .parseError found)
      (decided : (setup.operator.passParseErrors found.parseErrors).Yields run.memory false memory)
      (alike : run.talk.Alike talk) :
      Transition setup run .halt { run with
        talk
        memory
        phase := .quit
        report.status := .parseError
        report.message := message }
  | finished {message} (phase : run.phase = .clean) :
      Transition setup run .finished { run with phase := .done, report.message := message }
  | fixablePresent {found} (phase : run.phase = .hasFindings found)
      (fixable : 0 < found.summary.fixable) (changed : run.repairSummary ≠ some found.summary) :
      Transition setup run .fixablePresent { run with phase := .repairOffered found }
  | noneFixable {found} (phase : run.phase = .hasFindings found)
      (unfixable : found.summary.fixable ≤ 0 ∨ run.repairSummary = some found.summary) :
      Transition setup run .noneFixable { run with phase := .selectRule found }
  | repairDeclined {found memory talk} (phase : run.phase = .repairOffered found)
      (decided : (setup.operator.allowRepair found.summary).Yields run.memory false memory)
      (alike : run.talk.Alike talk) :
      Transition setup run .repairDeclined { run with talk, memory, phase := .selectRule found }
  | repairApplied {found memory status talk} (phase : run.phase = .repairOffered found)
      (decided : (setup.operator.allowRepair found.summary).Yields run.memory true memory)
      (repaired : run.talk.Leads (setup.analyzer.repair setup.target) status talk) :
      Transition setup run .repairApplied { run with
        talk
        memory
        phase := .scan
        repairSummary := some found.summary }
  | repairFailed {found memory failure talk} (phase : run.phase = .repairOffered found)
      (decided : (setup.operator.allowRepair found.summary).Yields run.memory true memory)
      (repaired : run.talk.Leads (Act.attempt (setup.analyzer.repair setup.target))
        (.error (.scanFailed failure)) talk) :
      Transition setup run .repairFailed { run with
        talk
        memory
        phase := .selectRule found
        repairSummary := some found.summary }
  | stalled {found message} (phase : run.phase = .selectRule found)
      (none : found.selectable = []) (idle : run.idleSummary = some found.summary) :
      Transition setup run .stalled { run with phase := .done, report.message := message }
  | nothingSelectable {found} (phase : run.phase = .selectRule found)
      (none : found.selectable = []) (idle : run.idleSummary ≠ some found.summary) :
      Transition setup run .nothingSelectable { run with
        phase := .scan
        idleSummary := some found.summary }
  | quitSelecting {found memory talk} (phase : run.phase = .selectRule found)
      (some : found.selectable ≠ [])
      (decided : (setup.operator.select found.selectable).Yields run.memory .quit memory)
      (alike : run.talk.Alike talk) :
      Transition setup run .quitRequested { run with
        talk
        memory
        phase := .quit
        idleSummary := .none }
  | ruleSelected {found memory group file talk} (phase : run.phase = .selectRule found)
      (some : found.selectable ≠ [])
      (decided : (setup.operator.select found.selectable).Yields run.memory (.chosen group file)
        memory)
      (alike : run.talk.Alike talk) :
      Transition setup run .ruleSelected { run with
        talk
        memory
        phase := .gather group file
        idleSummary := .none }
  | exhausted {found memory choice talk message} (phase : run.phase = .selectRule found)
      (some : found.selectable ≠ [])
      (decided : (setup.operator.select found.selectable).Yields run.memory choice memory)
      (nothing : choice = .exhausted ∨ choice = .nothing) (alike : run.talk.Alike talk) :
      Transition setup run .exhausted { run with
        talk
        memory
        phase := .quit
        idleSummary := .none
        report.status := .exhausted
        report.message := message }
  | bundleReady {group file bundle talk} (phase : run.phase = .gather group file)
      (gathered : Gathers setup group file run.talk (some bundle) talk) :
      Transition setup run .bundleReady { run with talk, phase := .present group file bundle }
  | noBundle {group file talk} (phase : run.phase = .gather group file)
      (gathered : Gathers setup group file run.talk none talk) :
      Transition setup run .noBundle { run with
        talk
        phase := .scan
        memory := setup.operator.settle (.chosen group file) 0 1 run.memory
        report.totalSkipped := run.report.totalSkipped + 1 }
  | quitPresenting {group file bundle memory action talk}
      (phase : run.phase = .present group file bundle)
      (decided : (setup.operator.act bundle).Yields run.memory action memory)
      (kind : action.kind = .quit) (alike : run.talk.Alike talk) :
      Transition setup run .quitRequested { run with talk, memory, phase := .quit }
  | followUp {group file bundle memory action answer asked answered talk}
      (phase : run.phase = .present group file bundle)
      (decided : (setup.operator.act bundle).Yields run.memory action memory)
      (kind : action.kind = .ask) (before : run.talk.Alike asked)
      (answers : Remedy.answerQuestion setup.channel bundle action.question asked
        = .ok answer answered)
      (after : answered.Alike talk) :
      Transition setup run .followUp { run with
        talk
        memory
        phase := .present group file bundle }
  | actionDone {group file bundle memory action outcome talk}
      (phase : run.phase = .present group file bundle)
      (decided : (setup.operator.act bundle).Yields run.memory action memory)
      (kind : action.kind ≠ .quit ∧ action.kind ≠ .ask)
      (performed : run.talk.Leads (perform setup.config group bundle action) outcome talk) :
      Transition setup run .actionDone { run with
        talk
        phase := .scan
        memory := setup.operator.settle (.chosen group file) outcome.fixed outcome.skipped memory
        report.totalFixed := run.report.totalFixed + outcome.fixed
        report.totalSkipped := run.report.totalSkipped + outcome.skipped }

variable {setup : Setup μ} {run after : Run μ}

open LintRemedy.Action Act Loop.Step

theorem scan_transition {occurrence : Occurrence .scan} (phase : run.phase = .scan)
    (h : scan setup run = .ok occurrence after) :
    Transition setup run occurrence.event { after with phase := occurrence.phase } := by
  cases run
  unfold scan Step.report at h
  simp only [bind_eq_ok, modify_eq_ok, get_eq_ok, announce_eq_ok, ofAct_eq_ok] at h
  obtain ⟨_, _, rfl, _, _, ⟨rfl, rfl⟩, _, _, rfl, outcome, _, ⟨_, hscan, rfl⟩, h⟩ := h
  split at h
  · obtain ⟨rfl, rfl⟩ := record_eq_ok.1 h
    exact .scanFailed phase ⟨_, _, .of_terminal _ _, hscan, .refl _, rfl⟩
  · rw [throw_eq_ok] at h
    exact h.elim
  · next found =>
    -- The scan has not failed, so the attempt at it was the scan itself.
    rw [attempt_eq_ok] at hscan
    simp only [bind_eq_ok, modify_eq_ok, announce_eq_ok] at h
    obtain ⟨_, _, rfl, _, _, rfl, h⟩ := h
    split at h
    · next unparsed =>
      obtain ⟨rfl, rfl⟩ := pure_eq_ok.1 h
      exact .parseErrorsFound phase ⟨_, _, .of_terminal _ _, hscan, .of_terminal _ _, rfl⟩ unparsed
    · next parsed =>
      split at h
      · next clean =>
        obtain ⟨rfl, rfl⟩ := pure_eq_ok.1 h
        exact .noIssues phase ⟨_, _, .of_terminal _ _, hscan, .of_terminal _ _, rfl⟩ parsed clean
      · next unclean =>
        obtain ⟨rfl, rfl⟩ := pure_eq_ok.1 h
        exact .issuesFound phase ⟨_, _, .of_terminal _ _, hscan, .of_terminal _ _, rfl⟩ parsed
          unclean

theorem meetParseErrors_transition {found : Aggregation} {occurrence : Occurrence .parseError}
    (phase : run.phase = .parseError found)
    (h : meetParseErrors setup found run = .ok occurrence after) :
    Transition setup run occurrence.event { after with phase := occurrence.phase } := by
  unfold meetParseErrors Step.report at h
  obtain ⟨passed, _, hdecision, h⟩ := bind_eq_ok.1 h
  obtain ⟨_, _, decided, rfl⟩ := ofDecision_eq_ok hdecision
  cases passed with
  | true =>
    obtain ⟨rfl, rfl⟩ := pure_eq_ok.1 h
    exact .goOn phase decided ⟨.of_terminal _ _, rfl⟩
  | false =>
    simp only [Bool.false_eq_true, if_false, bind_eq_ok, modify_eq_ok, pure_eq_ok] at h
    obtain ⟨_, _, rfl, rfl, rfl⟩ := h
    exact .halt phase decided ⟨.of_terminal _ _, rfl⟩

theorem endClean_transition {occurrence : Occurrence .clean} (phase : run.phase = .clean)
    (h : endClean run = .ok occurrence after) :
    Transition setup run occurrence.event { after with phase := occurrence.phase } := by
  unfold endClean Step.report at h
  obtain ⟨rfl, rfl⟩ := record_eq_ok.1 h
  exact .finished phase

theorem meetFindings_transition {found : Aggregation} {occurrence : Occurrence .hasFindings}
    (phase : run.phase = .hasFindings found) (h : meetFindings found run = .ok occurrence after) :
    Transition setup run occurrence.event { after with phase := occurrence.phase } := by
  unfold meetFindings at h
  simp only [bind_eq_ok, get_eq_ok] at h
  obtain ⟨_, _, ⟨rfl, rfl⟩, h⟩ := h
  split at h
  · next offered =>
    obtain ⟨rfl, rfl⟩ := pure_eq_ok.1 h
    exact .fixablePresent phase offered.1 offered.2
  · next skipped =>
    obtain ⟨rfl, rfl⟩ := pure_eq_ok.1 h
    apply Transition.noneFixable phase
    -- The guard is a conjunction, of which one part fails.
    rw [Classical.not_and_iff_not_or_not, Int.not_lt, Classical.not_not] at skipped
    exact skipped

theorem offerRepair_transition {found : Aggregation} {occurrence : Occurrence .repairOffered}
    (phase : run.phase = .repairOffered found)
    (h : offerRepair setup found run = .ok occurrence after) :
    Transition setup run occurrence.event { after with phase := occurrence.phase } := by
  unfold offerRepair at h
  obtain ⟨allowed, _, hdecision, h⟩ := bind_eq_ok.1 h
  obtain ⟨_, _, decided, rfl⟩ := ofDecision_eq_ok hdecision
  cases allowed with
  | false =>
    obtain ⟨rfl, rfl⟩ := pure_eq_ok.1 h
    exact .repairDeclined phase decided ⟨.of_terminal _ _, rfl⟩
  | true =>
    simp only [if_true, bind_eq_ok, modify_eq_ok, ofAct_eq_ok] at h
    obtain ⟨_, _, rfl, outcome, _, ⟨_, hrepair, rfl⟩, h⟩ := h
    split at h
    · simp only [bind_eq_ok, announce_eq_ok, pure_eq_ok] at h
      obtain ⟨_, _, rfl, rfl, rfl⟩ := h
      exact .repairFailed phase decided
        ⟨_, _, .of_terminal _ _, hrepair, .of_terminal _ _, rfl⟩
    · rw [throw_eq_ok] at h
      exact h.elim
    · rw [attempt_eq_ok] at hrepair
      simp only [bind_eq_ok, announce_eq_ok, pure_eq_ok] at h
      obtain ⟨_, _, rfl, rfl, rfl⟩ := h
      exact .repairApplied phase decided
        ⟨_, _, .of_terminal _ _, hrepair, .of_terminal _ _, rfl⟩

theorem selectRule_transition {found : Aggregation} {occurrence : Occurrence .selectRule}
    (phase : run.phase = .selectRule found)
    (h : selectRule setup found run = .ok occurrence after) :
    Transition setup run occurrence.event { after with phase := occurrence.phase } := by
  unfold selectRule Step.report at h
  split at h
  · next none =>
    rw [List.isEmpty_iff] at none
    simp only [bind_eq_ok, get_eq_ok] at h
    obtain ⟨_, _, ⟨rfl, rfl⟩, h⟩ := h
    split at h
    · next idle =>
      obtain ⟨rfl, rfl⟩ := record_eq_ok.1 h
      exact .stalled phase none idle
    · next idle =>
      obtain ⟨rfl, rfl⟩ := record_eq_ok.1 h
      exact .nothingSelectable phase none idle
  · next some =>
    rw [List.isEmpty_iff] at some
    simp only [bind_eq_ok, modify_eq_ok] at h
    obtain ⟨_, _, rfl, choice, _, hdecision, h⟩ := h
    obtain ⟨_, _, decided, rfl⟩ := ofDecision_eq_ok hdecision
    cases choice with
    | quit =>
      obtain ⟨rfl, rfl⟩ := pure_eq_ok.1 h
      exact .quitSelecting phase some decided ⟨.of_terminal _ _, rfl⟩
    | chosen group file =>
      obtain ⟨rfl, rfl⟩ := pure_eq_ok.1 h
      exact .ruleSelected phase some decided ⟨.of_terminal _ _, rfl⟩
    | exhausted =>
      obtain ⟨rfl, rfl⟩ := record_eq_ok.1 h
      exact .exhausted phase some decided (.inl rfl) ⟨.of_terminal _ _, rfl⟩
    | nothing =>
      obtain ⟨rfl, rfl⟩ := record_eq_ok.1 h
      exact .exhausted phase some decided (.inr rfl) ⟨.of_terminal _ _, rfl⟩

theorem turnTo_eq_ok {file : Option String} {u : Unit} (h : turnTo setup file run = .ok u after) :
    ∃ terminal, { run with
      talk := ⟨{ run.talk.world with terminal }, (run.talk.conversation.turnTo file).2⟩ } =
        after := by
  unfold turnTo at h
  simp only [bind_eq_ok, get_eq_ok, modify_eq_ok] at h
  obtain ⟨_, _, ⟨rfl, rfl⟩, _, _, ⟨rfl, rfl⟩, _, _, rfl, h⟩ := h
  split at h
  · exact ⟨_, announce_eq_ok.1 h⟩
  · obtain ⟨_, rfl⟩ := pure_eq_ok.1 h
    exact ⟨run.talk.world.terminal, rfl⟩

theorem turnTo_eq_error {file : Option String} {fault : Fault} :
    turnTo setup file run = .error fault after ↔ False := by
  rw [iff_false]
  intro h
  unfold turnTo at h
  simp only [bind_eq_error, get_eq_error, modify_eq_error, false_or] at h
  obtain ⟨_, _, _, _, _, _, _, _, _, h⟩ := h
  split at h
  · exact (announce_eq_error.1 h).elim
  · exact (pure_eq_error.1 h).elim

theorem gather_transition {group : RuleGroup} {file : Option String}
    {occurrence : Occurrence .gather} (phase : run.phase = .gather group file)
    (h : gather setup group file run = .ok occurrence after) :
    Transition setup run occurrence.event { after with phase := occurrence.phase } := by
  unfold gather settle at h
  simp only [bind_eq_ok, announce_eq_ok, ofAct_eq_ok, ofDialogue_eq_ok] at h
  obtain ⟨_, _, hturn, _, _, rfl, config, _, ⟨_, hconfig, rfl⟩, bundle?, _, ⟨answered, hgather, rfl⟩,
    h⟩ := h
  obtain ⟨terminal, rfl⟩ := turnTo_eq_ok hturn
  -- Both ways out have gathered the same, and differ in what is shown after it.
  have gathered : ∀ talk, answered.Alike talk → Gathers setup group file run.talk bundle? talk := by
    intro talk alike
    refine ⟨⟨{ run.talk.world with terminal }, _⟩, config, _, answered, .of_terminal _ _, rfl, ?_,
      hgather, alike⟩
    exact ⟨_, _, .of_terminal _ _, hconfig, .refl _, rfl⟩
  cases bundle? with
  | some bundle =>
    obtain ⟨rfl, rfl⟩ := pure_eq_ok.1 h
    exact .bundleReady phase (gathered _ ⟨.refl _, rfl⟩)
  | none =>
    simp only [bind_eq_ok, announce_eq_ok, modify_eq_ok, pure_eq_ok, Int.add_zero] at h
    obtain ⟨_, _, rfl, _, _, rfl, rfl, rfl⟩ := h
    exact .noBundle phase (gathered _ ⟨.of_terminal _ _, rfl⟩)

theorem present_transition {group : RuleGroup} {file : Option String} {bundle : Bundle}
    {occurrence : Occurrence .present} (phase : run.phase = .present group file bundle)
    (h : present setup group file bundle run = .ok occurrence after) :
    Transition setup run occurrence.event { after with phase := occurrence.phase } := by
  unfold present settle at h
  obtain ⟨action, _, hdecision, h⟩ := bind_eq_ok.1 h
  obtain ⟨_, _, decided, rfl⟩ := ofDecision_eq_ok hdecision
  -- The action goes by its kind alone, and five of the kinds are performed the same way.
  generalize hkind : action.kind = kind at h
  cases kind with
  | quit =>
    obtain ⟨rfl, rfl⟩ := pure_eq_ok.1 h
    exact .quitPresenting phase decided hkind ⟨.of_terminal _ _, rfl⟩
  | ask =>
    simp only [bind_eq_ok, ofDialogue_eq_ok, announce_eq_ok, pure_eq_ok] at h
    obtain ⟨answer, _, ⟨_, answers, rfl⟩, _, _, rfl, rfl, rfl⟩ := h
    refine .followUp phase decided hkind ?_ answers ?_
    · exact ⟨.of_terminal _ _, rfl⟩
    · exact ⟨.of_terminal _ _, rfl⟩
  | fix | disable | ignoreLine | ignoreFile | skip =>
    simp only [bind_eq_ok, ofAct_eq_ok, announce_eq_ok, modify_eq_ok, pure_eq_ok] at h
    obtain ⟨outcome, _, ⟨_, performed, rfl⟩, _, _, rfl, _, _, rfl, rfl, rfl⟩ := h
    exact .actionDone phase decided (by simp [hkind])
      ⟨_, _, .of_terminal _ _, performed, .of_terminal _ _, rfl⟩

theorem handle_transition {occurrence : Occurrence run.phase.state}
    (h : handle setup run.phase run = .ok (some occurrence) after) :
    Transition setup run occurrence.event { after with phase := occurrence.phase } := by
  -- The type of the occurrence speaks of the phase, so both are generalized together.
  generalize phase : run.phase = current at occurrence h
  cases current
  case scan =>
    obtain ⟨_, h, ⟨⟩⟩ := map_eq_ok.1 h
    exact scan_transition phase h
  case parseError =>
    obtain ⟨_, h, ⟨⟩⟩ := map_eq_ok.1 h
    exact meetParseErrors_transition phase h
  case clean =>
    obtain ⟨_, h, ⟨⟩⟩ := map_eq_ok.1 h
    exact endClean_transition phase h
  case hasFindings =>
    obtain ⟨_, h, ⟨⟩⟩ := map_eq_ok.1 h
    exact meetFindings_transition phase h
  case repairOffered =>
    obtain ⟨_, h, ⟨⟩⟩ := map_eq_ok.1 h
    exact offerRepair_transition phase h
  case selectRule =>
    obtain ⟨_, h, ⟨⟩⟩ := map_eq_ok.1 h
    exact selectRule_transition phase h
  case gather =>
    obtain ⟨_, h, ⟨⟩⟩ := map_eq_ok.1 h
    exact gather_transition phase h
  case present =>
    obtain ⟨_, h, ⟨⟩⟩ := map_eq_ok.1 h
    exact present_transition phase h
  case done => cases h
  case quit => cases h

theorem step_transition {event : Event} (h : step setup run = .ok (some event) after) :
    Transition setup run event after := by
  unfold step at h
  simp only [bind_eq_ok, get_eq_ok] at h
  obtain ⟨_, _, ⟨rfl, rfl⟩, occurrence?, _, hhandle, h⟩ := h
  cases occurrence? with
  | none =>
    obtain ⟨h, _⟩ := pure_eq_ok.1 h
    cases h
  | some occurrence =>
    simp only [bind_eq_ok, modify_eq_ok, pure_eq_ok, Option.some.injEq] at h
    obtain ⟨_, _, rfl, rfl, rfl⟩ := h
    exact handle_transition hhandle

theorem Transition.not_isFinal {event : Event} (h : Transition setup run event after) :
    ¬ run.phase.state.isFinal := by
  intro final
  cases h
  all_goals
    rw [‹run.phase = _›] at final
    cases final

/-- The memories that an operator can have when a step is cut short. -/
inductive MidStep (operator : Operator μ) (memory : μ) : μ → Prop where
  | undecided : MidStep operator memory memory
  | repairing {summary memory'}
      (decided : (operator.allowRepair summary).Yields memory true memory') :
      MidStep operator memory memory'
  | acting {bundle action memory'} (decided : (operator.act bundle).Yields memory action memory') :
      MidStep operator memory memory'

/-- What a fault leaves of a run: whatever has been counted and found out stands. -/
def Interrupted (setup : Setup μ) (run last : Run μ) : Prop :=
  ∃ talk memory iterations repairSummary idleSummary,
    MidStep setup.operator run.memory memory ∧
    last = { run with talk, memory, report.iterations := iterations, repairSummary, idleSummary }

variable {fault : Fault}

theorem scan_fault (h : scan setup run = .error fault after) : Interrupted setup run after := by
  unfold scan Step.report at h
  simp only [bind_eq_error, modify_eq_error, modify_eq_ok, get_eq_error, get_eq_ok,
    announce_eq_error, announce_eq_ok, ofAct_eq_error, attempt_eq_error, ofAct_eq_ok, false_or,
    false_and, exists_false] at h
  obtain ⟨_, _, rfl, _, _, ⟨rfl, rfl⟩, _, _, rfl, outcome, _, ⟨_, _, rfl⟩, h⟩ := h
  split at h
  · exact (record_eq_error.1 h).elim
  · obtain ⟨rfl, rfl⟩ := throw_eq_error.1 h
    exact ⟨_, _, _, _, _, .undecided, rfl⟩
  · simp only [bind_eq_error, modify_eq_error, announce_eq_error, false_or] at h
    obtain ⟨_, _, _, _, _, _, h⟩ := h
    split at h
    · exact (pure_eq_error.1 h).elim
    · split at h <;> exact (pure_eq_error.1 h).elim

theorem meetParseErrors_fault {found : Aggregation}
    (h : meetParseErrors setup found run = .error fault after) : Interrupted setup run after := by
  unfold meetParseErrors Step.report at h
  rcases bind_eq_error.1 h with hdecision | ⟨passed, _, _, h⟩
  · obtain ⟨_, rfl⟩ := ofDecision_eq_error hdecision
    exact ⟨_, _, _, _, _, .undecided, rfl⟩
  · split at h
    · exact (pure_eq_error.1 h).elim
    · exact (record_eq_error.1 h).elim

theorem endClean_fault (h : endClean run = .error fault after) : Interrupted setup run after := by
  unfold endClean Step.report at h
  exact (record_eq_error.1 h).elim

theorem meetFindings_fault {found : Aggregation} (h : meetFindings found run = .error fault after) :
    Interrupted setup run after := by
  unfold meetFindings at h
  simp only [bind_eq_error, get_eq_error, false_or] at h
  obtain ⟨_, _, _, h⟩ := h
  split at h <;> exact (pure_eq_error.1 h).elim

theorem offerRepair_fault {found : Aggregation}
    (h : offerRepair setup found run = .error fault after) : Interrupted setup run after := by
  unfold offerRepair at h
  rcases bind_eq_error.1 h with hdecision | ⟨allowed, _, hdecision, h⟩
  · obtain ⟨_, rfl⟩ := ofDecision_eq_error hdecision
    exact ⟨_, _, _, _, _, .undecided, rfl⟩
  · obtain ⟨_, _, decided, rfl⟩ := ofDecision_eq_ok hdecision
    cases allowed with
    | false => exact (pure_eq_error.1 h).elim
    | true =>
      simp only [if_true, bind_eq_error, modify_eq_error, modify_eq_ok, ofAct_eq_error,
        attempt_eq_error, ofAct_eq_ok, false_or, false_and, exists_false] at h
      obtain ⟨_, _, rfl, outcome, _, ⟨_, _, rfl⟩, h⟩ := h
      split at h
      · simp only [bind_eq_error, announce_eq_error, pure_eq_error, and_false, exists_false,
          or_false] at h
      · obtain ⟨rfl, rfl⟩ := throw_eq_error.1 h
        exact ⟨_, _, _, _, _, .repairing decided, rfl⟩
      · simp only [bind_eq_error, announce_eq_error, pure_eq_error, and_false, exists_false,
          or_false] at h

theorem selectRule_fault {found : Aggregation}
    (h : selectRule setup found run = .error fault after) : Interrupted setup run after := by
  unfold selectRule Step.report at h
  split at h
  -- Only the decision can fail here. What is recorded before and after it cannot.
  · simp only [bind_eq_error, get_eq_error, false_or] at h
    obtain ⟨_, _, _, h⟩ := h
    split at h
    all_goals
      exact (record_eq_error.1 h).elim
  · simp only [bind_eq_error, modify_eq_error, modify_eq_ok, false_or] at h
    obtain ⟨_, _, rfl, hdecision | ⟨choice, _, _, h⟩⟩ := h
    · obtain ⟨_, rfl⟩ := ofDecision_eq_error hdecision
      exact ⟨_, _, _, _, _, .undecided, rfl⟩
    · cases choice with
      | quit => exact (pure_eq_error.1 h).elim
      | chosen => exact (pure_eq_error.1 h).elim
      | exhausted | nothing =>
        exact (record_eq_error.1 h).elim

theorem gather_fault {group : RuleGroup} {file : Option String}
    (h : gather setup group file run = .error fault after) : Interrupted setup run after := by
  unfold gather settle at h
  rcases bind_eq_error.1 h with hturn | ⟨_, _, hturn, h⟩
  · exact (turnTo_eq_error.1 hturn).elim
  · obtain ⟨_, rfl⟩ := turnTo_eq_ok hturn
    simp only [bind_eq_error, announce_eq_error, announce_eq_ok, ofAct_eq_error, ofAct_eq_ok,
      ofDialogue_eq_error, ofDialogue_eq_ok, false_or] at h
    -- The config cannot be read, or the oracle cannot be asked, or the bundle is settled.
    obtain ⟨_, _, rfl, ⟨_, _, rfl⟩ | ⟨_, _, ⟨_, _, rfl⟩, ⟨_, _, rfl⟩ | ⟨bundle?, _, _, h⟩⟩⟩ := h
    · exact ⟨_, _, _, _, _, .undecided, rfl⟩
    · exact ⟨_, _, _, _, _, .undecided, rfl⟩
    · cases bundle? with
      | some bundle => exact (pure_eq_error.1 h).elim
      | none =>
        simp only [bind_eq_error, announce_eq_error, modify_eq_error, pure_eq_error, and_false,
          exists_false, or_false] at h

theorem present_fault {group : RuleGroup} {file : Option String} {bundle : Bundle}
    (h : present setup group file bundle run = .error fault after) :
    Interrupted setup run after := by
  unfold present settle at h
  rcases bind_eq_error.1 h with hdecision | ⟨action, _, hdecision, h⟩
  · obtain ⟨_, rfl⟩ := ofDecision_eq_error hdecision
    exact ⟨_, _, _, _, _, .undecided, rfl⟩
  · obtain ⟨_, _, decided, rfl⟩ := ofDecision_eq_ok hdecision
    generalize action.kind = kind at h
    cases kind with
    | quit => exact (pure_eq_error.1 h).elim
    | ask =>
      simp only [bind_eq_error, ofDialogue_eq_error, announce_eq_error, pure_eq_error, and_false,
        exists_false, or_false] at h
      obtain ⟨_, _, rfl⟩ := h
      exact ⟨_, _, _, _, _, .acting decided, rfl⟩
    | fix | disable | ignoreLine | ignoreFile | skip =>
      simp only [bind_eq_error, ofAct_eq_error, announce_eq_error, modify_eq_error, pure_eq_error,
        and_false, exists_false, or_false] at h
      obtain ⟨_, _, rfl⟩ := h
      exact ⟨_, _, _, _, _, .acting decided, rfl⟩

theorem handle_fault (h : handle setup run.phase run = .error fault after) :
    Interrupted setup run after := by
  generalize run.phase = current at h
  cases current
  case scan => exact scan_fault (map_eq_error.1 h)
  case parseError => exact meetParseErrors_fault (map_eq_error.1 h)
  case clean => exact endClean_fault (map_eq_error.1 h)
  case hasFindings => exact meetFindings_fault (map_eq_error.1 h)
  case repairOffered => exact offerRepair_fault (map_eq_error.1 h)
  case selectRule => exact selectRule_fault (map_eq_error.1 h)
  case gather => exact gather_fault (map_eq_error.1 h)
  case present => exact present_fault (map_eq_error.1 h)
  case done => cases h
  case quit => cases h

theorem step_fault (h : step setup run = .error fault after) : Interrupted setup run after := by
  unfold step at h
  simp only [bind_eq_error, get_eq_error, get_eq_ok, false_or] at h
  obtain ⟨_, _, ⟨rfl, rfl⟩, hhandle | ⟨occurrence?, _, _, h⟩⟩ := h
  · exact handle_fault hhandle
  · cases occurrence? with
    | none => exact (pure_eq_error.1 h).elim
    | some occurrence =>
      exact (record_eq_error.1 h).elim

theorem step_eq_none (h : step setup run = .ok none after) :
    run.phase = .done ∨ run.phase = .quit := by
  unfold step at h
  simp only [bind_eq_ok, get_eq_ok] at h
  obtain ⟨_, _, ⟨rfl, rfl⟩, occurrence?, _, hhandle, h⟩ := h
  cases occurrence? with
  | some occurrence =>
    simp only [bind_eq_ok, modify_eq_ok, pure_eq_ok, reduceCtorEq, false_and, and_false,
      exists_false] at h
  | none =>
    generalize run.phase = current at hhandle
    cases current
    case done => exact .inl rfl
    case quit => exact .inr rfl
    all_goals
      obtain ⟨_, _, hnone⟩ := map_eq_ok.1 hhandle
      cases hnone

end Loop
end LintRemedy
