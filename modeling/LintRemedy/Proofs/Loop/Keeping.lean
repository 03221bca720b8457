import LintRemedy.Proofs.Loop.Confinement
import LintRemedy.Proofs.World.Keeping

/-!
This module contains what the parts of a run keep: nothing but the terminal changes where something is
shown or decided, and the oracle has a part in two of the phases only.
-/

namespace LintRemedy

open LintRemedy.Action

variable {α ν : Type} {view : World → ν}

namespace Loop

variable {μ : Type} {setup : Setup μ} {run : Run μ}

def Run.seen (view : World → ν) (run : Run μ) : Conversation × ν :=
  run.talk.seen view

namespace Step

theorem ofDialogue_keeps {dialogue : Dialogue α} (h : Keeps (Talk.seen view) dialogue run.talk) :
    Keeps (Run.seen view) (Step.ofDialogue dialogue) run := by
  unfold Keeps at h ⊢
  unfold Step.ofDialogue
  cases hdialogue : dialogue run.talk with
  | ok a talk =>
    rw [hdialogue] at h
    exact h
  | error fault talk =>
    rw [hdialogue] at h
    exact h

theorem ofAct_keeps {act : Act α} (h : Keeps view act run.world) :
    Keeps (Run.seen view) (Step.ofAct act) run :=
  ofDialogue_keeps (Dialogue.ofAct_keeps h)

theorem ofDecision_keeps (unshown : World.Unshown view) (decision : Deciding μ α) (run : Run μ) :
    Keeps (Run.seen view) (Step.ofDecision decision) run := by
  unfold Step.ofDecision
  apply Keeps.bind Keeps.of_get
  intro _ _ _
  apply Keeps.bind (ofAct_keeps (Act.ofConsole_keeps unshown _ _))
  intro _ _ _
  apply Keeps.bind (Keeps.of_modify rfl)
  intro _ _ _
  exact Keeps.of_pure

theorem announce_keeps (unshown : World.Unshown view) (text : String) (run : Run μ) :
    Keeps (Run.seen view) (announce setup text) run :=
  ofAct_keeps (Act.ofConsole_keeps unshown _ _)

theorem report_keeps (change : RunRecord → RunRecord) (run : Run μ) :
    Keeps (Run.seen view) (Step.report change : Step μ Unit) run :=
  Keeps.of_modify rfl

end Step

theorem meetParseErrors_keeps (unshown : World.Unshown view) (found : Aggregation) (run : Run μ) :
    Keeps (Run.seen view) (meetParseErrors setup found) run := by
  unfold meetParseErrors
  apply Keeps.bind (Step.ofDecision_keeps unshown _ run)
  intro passed _ _
  split
  · exact Keeps.of_pure
  · apply Keeps.bind (Step.report_keeps _ _)
    intro _ _ _
    exact Keeps.of_pure

theorem announceAll_keeps (unshown : World.Unshown view) (texts : List String) (run : Run μ) :
    Keeps (Run.seen view) (texts.forM (announce setup)) run := by
  induction texts generalizing run with
  | nil => exact Keeps.of_pure
  | cons text texts ih =>
    apply Keeps.bind (Step.announce_keeps unshown text run)
    intro _ run _
    exact ih run

theorem finish_keeps (unshown : World.Unshown view) (run : Run μ) :
    Keeps (Run.seen view) (finish setup) run := by
  unfold finish
  apply Keeps.bind Keeps.of_get
  intro _ _ _
  apply Keeps.bind (Step.report_keeps _ _)
  intro _ run _
  apply Keeps.bind (announceAll_keeps unshown _ run)
  intro _ _ _
  exact Keeps.of_pure

/-- A step keeps what its handler does. -/
theorem step_keeps (h : Keeps (Run.seen view) (handle setup run.phase) run) :
    Keeps (Run.seen view) (step setup) run := by
  unfold step
  apply Keeps.bind Keeps.of_get
  intro _ _ hget
  obtain ⟨rfl, rfl⟩ := get_eq_ok.1 hget
  apply h.bind
  intro occurrence? _ _
  cases occurrence? with
  | none => exact Keeps.of_pure
  | some occurrence =>
    apply Keeps.bind (Keeps.of_modify rfl)
    intro _ _ _
    exact Keeps.of_pure

theorem advance_keeps (unshown : World.Unshown view)
    (h : Keeps (Run.seen view) (step setup) run) : Keeps (Run.seen view) (advance setup) run := by
  unfold advance
  apply h.bind
  intro event? run _
  cases event? with
  | some event => exact Keeps.of_pure
  | none =>
    apply Keeps.bind (finish_keeps unshown run)
    intro _ _ _
    exact Keeps.of_pure

/-! ### What the oracle has no part in -/

theorem countSuccess_keeps {β : Type} {act : β → Act Bool}
    (h : ∀ x world, Keeps view (act x) world) (xs : List β) (world : World) :
    Keeps view (countSuccess act xs) world := by
  induction xs generalizing world with
  | nil => exact Keeps.of_pure
  | cons x xs ih =>
    unfold countSuccess
    apply Keeps.bind (h x world)
    intro _ world _
    apply Keeps.bind (ih world)
    intro _ _ _
    exact Keeps.of_pure

theorem perform_keeps (unedited : World.Unedited view) (config : String) (group : RuleGroup)
    (bundle : Bundle) (action : Action) (world : World) :
    Keeps view (perform config group bundle action) world := by
  unfold perform
  cases action.kind with
  | fix =>
    apply Keeps.bind (Patch.replaceAll_keeps unedited _ world)
    intro _ _ _
    exact Keeps.of_pure
  | disable =>
    apply Keeps.bind (Patch.overwrite_keeps unedited _ _ world)
    intro done _ _
    cases done with
    | true => exact Keeps.of_pure
    | false => exact Keeps.of_pure
  | ignoreLine | ignoreFile =>
    apply Keeps.bind (countSuccess_keeps (fun _ _ => Patch.commit_keeps unedited _ _ _) _ world)
    intro _ _ _
    exact Keeps.of_pure
  | skip | ask | quit => exact Keeps.of_pure

theorem settle_keeps (group : RuleGroup) (file : Option String) (fixed skipped : Int)
    (run : Run μ) : Keeps (Run.seen view) (settle setup group file fixed skipped) run :=
  Keeps.of_modify rfl

theorem scan_keeps (run : Run μ) : Keeps (Run.seen World.heard) (scan setup) run := by
  unfold scan
  apply Keeps.bind (Step.report_keeps _ _)
  intro _ _ _
  apply Keeps.bind Keeps.of_get
  intro _ _ _
  apply Keeps.bind (Step.announce_keeps World.heard_unshown _ _)
  intro _ _ _
  apply Keeps.bind (Step.ofAct_keeps (Act.attempt_keeps
    (setup.analyzer.scan_keeps World.heard_unscanned _ _)))
  intro outcome _ _
  split
  · apply Keeps.bind (Step.report_keeps _ _)
    intro _ _ _
    exact Keeps.of_pure
  · exact Keeps.of_throw
  · apply Keeps.bind (Step.report_keeps _ _)
    intro _ _ _
    apply Keeps.bind (Step.announce_keeps World.heard_unshown _ _)
    intro _ _ _
    split
    · exact Keeps.of_pure
    · split
      · exact Keeps.of_pure
      · exact Keeps.of_pure

theorem endClean_keeps (run : Run μ) : Keeps (Run.seen view) endClean run := by
  unfold endClean
  apply Keeps.bind (Step.report_keeps _ _)
  intro _ _ _
  exact Keeps.of_pure

theorem meetFindings_keeps (found : Aggregation) (run : Run μ) :
    Keeps (Run.seen view) (meetFindings found) run := by
  unfold meetFindings
  apply Keeps.bind Keeps.of_get
  intro _ _ _
  split
  · exact Keeps.of_pure
  · exact Keeps.of_pure

theorem offerRepair_keeps (found : Aggregation) (run : Run μ) :
    Keeps (Run.seen World.heard) (offerRepair setup found) run := by
  unfold offerRepair
  apply Keeps.bind (Step.ofDecision_keeps World.heard_unshown _ run)
  intro allowed _ _
  split
  · apply Keeps.bind (Keeps.of_modify rfl)
    intro _ _ _
    apply Keeps.bind (Step.ofAct_keeps (Act.attempt_keeps
      (setup.analyzer.repair_keeps World.heard_unscanned _ _)))
    intro outcome _ _
    split
    · apply Keeps.bind (Step.announce_keeps World.heard_unshown _ _)
      intro _ _ _
      exact Keeps.of_pure
    · exact Keeps.of_throw
    · apply Keeps.bind (Step.announce_keeps World.heard_unshown _ _)
      intro _ _ _
      exact Keeps.of_pure
  · exact Keeps.of_pure

theorem selectRule_keeps (unshown : World.Unshown view) (found : Aggregation) (run : Run μ) :
    Keeps (Run.seen view) (selectRule setup found) run := by
  unfold selectRule
  split
  · apply Keeps.bind Keeps.of_get
    intro _ _ _
    split
    · apply Keeps.bind (Step.report_keeps _ _)
      intro _ _ _
      exact Keeps.of_pure
    · apply Keeps.bind (Keeps.of_modify rfl)
      intro _ _ _
      exact Keeps.of_pure
  · apply Keeps.bind (Keeps.of_modify rfl)
    intro _ _ _
    apply Keeps.bind (Step.ofDecision_keeps unshown _ _)
    intro choice _ _
    cases choice with
    | quit => exact Keeps.of_pure
    | chosen => exact Keeps.of_pure
    | exhausted | nothing =>
      apply Keeps.bind (Step.report_keeps _ _)
      intro _ _ _
      exact Keeps.of_pure

end Loop
end LintRemedy
