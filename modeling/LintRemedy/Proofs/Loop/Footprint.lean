import LintRemedy.Proofs.Loop.Transition
import LintRemedy.Proofs.World.Footprint

/-!
This module contains what the loop does to files: nothing in any phase but that in which a bundle is
presented. What is written there, the action accounts for that the operator has decided on, and it
writes at most once for each place that it is about.
-/

namespace LintRemedy
namespace Loop

variable {μ α : Type} {allowed : String → String → Prop} {n : Nat}

open LintRemedy.Action

abbrev Run.world (run : Run μ) : World :=
  run.talk.world

namespace Step

variable {run : Run μ}

theorem ofDialogue_confined {dialogue : Dialogue α}
    (h : Confined Talk.world allowed n dialogue run.talk) :
    Confined Run.world allowed n (Step.ofDialogue dialogue) run := by
  obtain ⟨account, unfolds, within⟩ := h
  refine ⟨account, ?_, within⟩
  unfold Step.ofDialogue
  cases hdialogue : dialogue run.talk with
  | ok a talk =>
    rw [hdialogue] at unfolds
    exact unfolds
  | error e talk =>
    rw [hdialogue] at unfolds
    exact unfolds

theorem ofAct_confined {act : Act α} (h : Confined id allowed n act run.world) :
    Confined Run.world allowed n (Step.ofAct act) run :=
  ofDialogue_confined (Dialogue.ofAct_confined h)

theorem ofDecision_confined (decision : Deciding μ α) :
    Confined Run.world allowed n (Step.ofDecision decision) run := by
  unfold Step.ofDecision
  apply Confined.bind_of_silent Confined.of_get
  intro _ _ _
  apply Confined.bind_of_silent (ofAct_confined (Act.ofConsole_confined _ _))
  intro _ _ _
  apply Confined.bind_of_silent (Confined.of_modify rfl rfl)
  intro _ _ _
  exact Confined.of_pure

theorem announce_confined {setup : Setup μ} (text : String) :
    Confined Run.world allowed n (announce setup text) run :=
  ofAct_confined (Act.ofConsole_confined _ _)

theorem report_confined (change : RunRecord → RunRecord) :
    Confined Run.world allowed n (Step.report change : Step μ Unit) run :=
  Confined.of_modify rfl rfl

end Step

theorem countSuccess_confined {β : Type} {act : β → Act Bool} {xs : List β}
    (h : ∀ x ∈ xs, ∀ world, Confined id allowed 1 (act x) world) (world : World) :
    Confined id allowed xs.length (countSuccess act xs) world := by
  induction xs generalizing world with
  | nil => exact Confined.of_pure
  | cons x xs ih =>
    rw [List.forall_mem_cons] at h
    rw [List.length_cons, Nat.add_comm]
    unfold countSuccess
    apply (h.1 world).bind
    intro success world' _
    apply (ih h.2 world').bind (n := 0)
    intro _ _ _
    exact Confined.of_pure

/-- The number of places that an action is about. -/
def places (group : RuleGroup) (bundle : Bundle) (action : Action) : Nat :=
  match action.kind with
  | .fix => (chosenFixes bundle.fixes action.indices).length
  | .disable => 1
  | .ignoreLine => (suppressionTargets group.locations).length
  | .ignoreFile => (distinct (group.locations.map (·.fileFull))).length
  | .skip | .ask | .quit => 0

/-- An action covers that a text is written to a file. -/
inductive Covers (config : String) (group : RuleGroup) (bundle : Bundle) (action : Action)
    (name text : String) : Prop where
  /-- Code is fixed and comments are added in the files of the group. -/
  | source (kind : action.kind = .fix ∨ action.kind = .ignoreLine ∨ action.kind = .ignoreFile)
      (located : ∃ l ∈ group.locations, l.fileFull = name)
  /-- A rule is disabled in the lint config by the text that the bundle has for it. -/
  | config (kind : action.kind = .disable) (name_eq : name = config)
      (text_eq : text = bundle.disable.modifiedConfig)

theorem mem_of_mem_chosenFixes {fixes : List Replacement} {indices : List Int} {fix : Replacement}
    (h : fix ∈ chosenFixes fixes indices) : fix ∈ fixes := by
  unfold chosenFixes at h
  obtain ⟨i, _, hi⟩ := List.mem_filterMap.1 h
  split at hi
  · exact List.mem_of_getElem? hi
  · cases hi

theorem located_of_mem_suppressionTargets {locations : List Location} {file : String} {line : Int}
    (h : (file, line) ∈ suppressionTargets locations) : ∃ l ∈ locations, l.fileFull = file := by
  unfold suppressionTargets at h
  rw [List.mem_mergeSort, mem_distinct_iff, List.mem_map] at h
  obtain ⟨l, hl, heq⟩ := h
  exact ⟨l, hl, congrArg Prod.fst heq⟩

theorem perform_confined {config : String} {group : RuleGroup} {bundle : Bundle}
    {action : Action}
    (located : ∀ fix ∈ bundle.fixes, ∃ l ∈ group.locations, l.fileFull = fix.file)
    (world : World) :
    Confined id (Covers config group bundle action) (places group bundle action)
      (perform config group bundle action) world := by
  unfold perform places
  cases hkind : action.kind with
  | fix =>
    apply Confined.bind (n := 0)
    · apply Patch.replaceAll_confined
      intro fix hfix text
      exact .source (.inl hkind) (located fix (mem_of_mem_chosenFixes hfix))
    · intro _ _ _
      exact Confined.of_pure
  | disable =>
    apply Confined.bind (n := 0) (Patch.overwrite_confined (.config hkind rfl rfl) world)
    intro done _ _
    cases done with
    | true => exact Confined.of_pure
    | false => exact Confined.of_pure
  | ignoreLine =>
    apply Confined.bind (n := 0)
    · apply countSuccess_confined
      rintro ⟨file, line⟩ htarget world
      apply Patch.revise_confined
      intro text
      exact .source (.inr (.inl hkind)) (located_of_mem_suppressionTargets htarget)
    · intro _ _ _
      exact Confined.of_pure
  | ignoreFile =>
    apply Confined.bind (n := 0)
    · apply countSuccess_confined
      intro file hfile world
      apply Patch.revise_confined
      intro text
      rw [mem_distinct_iff, List.mem_map] at hfile
      exact .source (.inr (.inr hkind)) hfile
    · intro _ _ _
      exact Confined.of_pure
  | skip | ask | quit => exact Confined.of_pure

section Handlers

variable {setup : Setup μ} {run : Run μ}

theorem scan_confined : Confined Run.world allowed 0 (scan setup) run := by
  unfold scan
  apply Confined.bind_of_silent (Step.report_confined _)
  intro _ _ _
  apply Confined.bind_of_silent Confined.of_get
  intro _ _ _
  apply Confined.bind_of_silent (Step.announce_confined _)
  intro _ _ _
  apply Confined.bind_of_silent
    (Step.ofAct_confined (Act.attempt_confined (setup.analyzer.scan_confined _ _)))
  intro outcome _ _
  split
  · apply Confined.bind_of_silent (Step.report_confined _)
    intro _ _ _
    exact Confined.of_pure
  · exact Confined.of_throw
  · apply Confined.bind_of_silent (Step.report_confined _)
    intro _ _ _
    apply Confined.bind_of_silent (Step.announce_confined _)
    intro _ _ _
    split
    · exact Confined.of_pure
    · split
      · exact Confined.of_pure
      · exact Confined.of_pure

theorem meetParseErrors_confined (found : Aggregation) :
    Confined Run.world allowed 0 (meetParseErrors setup found) run := by
  unfold meetParseErrors
  apply Confined.bind_of_silent (Step.ofDecision_confined _)
  intro passed _ _
  split
  · exact Confined.of_pure
  · apply Confined.bind_of_silent (Step.report_confined _)
    intro _ _ _
    exact Confined.of_pure

theorem endClean_confined : Confined Run.world allowed 0 (endClean : Step μ _) run := by
  unfold endClean
  apply Confined.bind_of_silent (Step.report_confined _)
  intro _ _ _
  exact Confined.of_pure

theorem meetFindings_confined (found : Aggregation) :
    Confined Run.world allowed 0 (meetFindings found : Step μ _) run := by
  unfold meetFindings
  apply Confined.bind_of_silent Confined.of_get
  intro _ _ _
  split
  · exact Confined.of_pure
  · exact Confined.of_pure

theorem offerRepair_confined (found : Aggregation) :
    Confined Run.world allowed 0 (offerRepair setup found) run := by
  unfold offerRepair
  apply Confined.bind_of_silent (Step.ofDecision_confined _)
  intro accepted _ _
  split
  · apply Confined.bind_of_silent (Confined.of_modify rfl rfl)
    intro _ _ _
    apply Confined.bind_of_silent
      (Step.ofAct_confined (Act.attempt_confined (setup.analyzer.repair_confined _ _)))
    intro outcome _ _
    split
    · apply Confined.bind_of_silent (Step.announce_confined _)
      intro _ _ _
      exact Confined.of_pure
    · exact Confined.of_throw
    · apply Confined.bind_of_silent (Step.announce_confined _)
      intro _ _ _
      exact Confined.of_pure
  · exact Confined.of_pure

theorem selectRule_confined (found : Aggregation) :
    Confined Run.world allowed 0 (selectRule setup found) run := by
  unfold selectRule
  split
  · apply Confined.bind_of_silent Confined.of_get
    intro _ _ _
    split
    · apply Confined.bind_of_silent (Step.report_confined _)
      intro _ _ _
      exact Confined.of_pure
    · apply Confined.bind_of_silent (Confined.of_modify rfl rfl)
      intro _ _ _
      exact Confined.of_pure
  · apply Confined.bind_of_silent (Confined.of_modify rfl rfl)
    intro _ _ _
    apply Confined.bind_of_silent (Step.ofDecision_confined _)
    intro choice _ _
    cases choice with
    | quit => exact Confined.of_pure
    | chosen => exact Confined.of_pure
    | exhausted | nothing =>
      apply Confined.bind_of_silent (Step.report_confined _)
      intro _ _ _
      exact Confined.of_pure

theorem turnTo_confined (file : Option String) :
    Confined Run.world allowed 0 (turnTo setup file) run := by
  unfold turnTo
  apply Confined.bind_of_silent Confined.of_get
  intro _ _ _
  apply Confined.bind_of_silent Confined.of_get
  intro _ _ _
  apply Confined.bind_of_silent (Confined.of_modify rfl rfl)
  intro _ _ _
  exact Confined.of_ite (Step.announce_confined _) Confined.of_pure

theorem settle_confined (group : RuleGroup) (file : Option String) (fixed skipped : Int) :
    Confined Run.world allowed 0 (settle setup group file fixed skipped) run :=
  Confined.of_modify rfl rfl

theorem gather_confined (group : RuleGroup) (file : Option String) :
    Confined Run.world allowed 0 (gather setup group file) run := by
  unfold gather
  apply Confined.bind_of_silent (turnTo_confined _)
  intro _ _ _
  apply Confined.bind_of_silent (Step.announce_confined _)
  intro _ _ _
  apply Confined.bind_of_silent (Step.ofAct_confined (ConfigFile.read_confined _ _))
  intro config _ _
  apply Confined.bind_of_silent (Step.ofDialogue_confined (Remedy.gather_confined _ _ _))
  intro bundle? _ _
  cases bundle? with
  | some bundle => exact Confined.of_pure
  | none =>
    apply Confined.bind_of_silent (Step.announce_confined _)
    intro _ _ _
    apply Confined.bind_of_silent (settle_confined _ _ _ _)
    intro _ _ _
    exact Confined.of_pure

/-- Everything that is written before a bundle is settled, one decided action accounts for. -/
theorem present_confined {group : RuleGroup} (file : Option String) {bundle : Bundle}
    (located : ∀ fix ∈ bundle.fixes, ∃ l ∈ group.locations, l.fileFull = fix.file) :
    Confined Run.world allowed 0 (present setup group file bundle) run ∨
      ∃ action memory, (setup.operator.act bundle).Yields run.memory action memory ∧
        Confined Run.world (Covers setup.config group bundle action)
          (places group bundle action) (present setup group file bundle) run := by
  unfold present
  cases hdecision : Step.ofDecision (setup.operator.act bundle) run with
  | error fault after =>
    -- Without a decision nothing is done.
    refine .inl (Confined.bind_of_silent (Step.ofDecision_confined _) ?_)
    intro action after hok
    rw [hdecision] at hok
    cases hok
  | ok action after =>
    obtain ⟨memory, _, decided, _⟩ := Step.ofDecision_eq_ok hdecision
    refine .inr ⟨action, memory, decided, Confined.bind_of_silent (Step.ofDecision_confined _) ?_⟩
    intro action' after' hok
    rw [hdecision] at hok
    cases hok
    split
    · exact Confined.of_pure
    · apply Confined.bind_of_silent
        (Step.ofDialogue_confined (Remedy.answerQuestion_confined _ _ _))
      intro _ _ _
      apply Confined.bind_of_silent (Step.announce_confined _)
      intro _ _ _
      exact Confined.of_pure
    · apply Confined.bind (n := 0) (Step.ofAct_confined (perform_confined located _))
      intro _ _ _
      apply Confined.bind_of_silent (Step.announce_confined _)
      intro _ _ _
      apply Confined.bind_of_silent (settle_confined _ _ _ _)
      intro _ _ _
      exact Confined.of_pure

end Handlers

theorem handle_confined {setup : Setup μ} {run : Run μ} {phase : Phase}
    (h : ∀ group file bundle, phase ≠ .present group file bundle) :
    Confined Run.world allowed 0 (handle setup phase) run := by
  cases phase with
  | scan => exact scan_confined.map
  | parseError found => exact (meetParseErrors_confined found).map
  | clean => exact endClean_confined.map
  | hasFindings found => exact (meetFindings_confined found).map
  | repairOffered found => exact (offerRepair_confined found).map
  | selectRule found => exact (selectRule_confined found).map
  | gather group file => exact (gather_confined group file).map
  | present group file bundle => exact (h group file bundle rfl).elim
  | done => exact Confined.of_pure
  | quit => exact Confined.of_pure

theorem step_confined_of_handle {setup : Setup μ} {run : Run μ}
    (h : Confined Run.world allowed n (handle setup run.phase) run) :
    Confined Run.world allowed n (step setup) run := by
  unfold step
  apply Confined.bind_of_silent Confined.of_get
  intro _ _ hget
  obtain ⟨rfl, rfl⟩ := get_eq_ok.1 hget
  apply h.bind (n := 0)
  intro occurrence? _ _
  cases occurrence? with
  | none => exact Confined.of_pure
  | some occurrence =>
    apply Confined.bind_of_silent (Confined.of_modify rfl rfl)
    intro _ _ _
    exact Confined.of_pure

/-- Every fix that is presented is for the file of a location of the group. -/
def Phase.Located : Phase → Prop
  | present group _ bundle => ∀ fix ∈ bundle.fixes, ∃ l ∈ group.locations, l.fileFull = fix.file
  | _ => True

/-- All that a step writes, one decided action accounts for. -/
theorem step_confined {setup : Setup μ} {run : Run μ} (located : run.phase.Located) :
    Confined Run.world allowed 0 (step setup) run ∨
      ∃ group file bundle action memory, run.phase = .present group file bundle ∧
        (setup.operator.act bundle).Yields run.memory action memory ∧
        Confined Run.world (Covers setup.config group bundle action)
          (places group bundle action) (step setup) run := by
  by_cases hphase : ∃ group file bundle, run.phase = .present group file bundle
  · obtain ⟨group, file, bundle, hphase⟩ := hphase
    rw [hphase] at located
    -- The type of an occurrence speaks of the phase, so the phase is rewritten in the end only.
    rcases present_confined file located with h | ⟨action, memory, decided, h⟩
    · refine .inl (step_confined_of_handle ?_)
      rw [hphase]
      exact h.map
    · refine .inr ⟨group, file, bundle, action, memory, hphase, decided, step_confined_of_handle ?_⟩
      rw [hphase]
      exact h.map
  · refine .inl (step_confined_of_handle (handle_confined ?_))
    intro group file bundle h
    exact hphase ⟨group, file, bundle, h⟩

theorem announceAll_confined {setup : Setup μ} (texts : List String) (run : Run μ) :
    Confined Run.world allowed 0 (texts.forM (announce setup)) run := by
  induction texts generalizing run with
  | nil => exact Confined.of_pure
  | cons text texts ih =>
    apply Confined.bind_of_silent (Step.announce_confined text)
    intro _ run _
    exact ih run

theorem finish_confined {setup : Setup μ} {run : Run μ} :
    Confined Run.world allowed 0 (finish setup) run := by
  unfold finish
  apply Confined.bind_of_silent Confined.of_get
  intro _ _ _
  apply Confined.bind_of_silent (Step.report_confined _)
  intro _ run _
  apply Confined.bind_of_silent (announceAll_confined _ run)
  intro _ _ _
  exact Confined.of_pure

end Loop
end LintRemedy
