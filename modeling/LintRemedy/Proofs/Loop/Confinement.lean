import LintRemedy.Proofs.Loop.Ending
import LintRemedy.Proofs.Loop.Footprint
import LintRemedy.Proofs.Loop.Iteration
import LintRemedy.Proofs.Remedy.Capture

/-!
This module contains where a run writes: to the files of the findings that it works on, and to the
lint config when a rule is to be disabled there. The config is a file like any other, and it is
written in the other way too if there are such findings in it.
-/

namespace LintRemedy

/-- The group that is chosen unattended lies in one file. -/
theorem Operator.select_narrow {budget : Int} {quiet : Bool} {groups : List RuleGroup}
    {counts counts' : SkipCounts} {group : RuleGroup} {file : Option String}
    (h : ((automatic budget quiet).select groups).Yields counts (.chosen group file) counts') :
    ∃ name, file = some name ∧ ∀ l ∈ group.locations, l.fileFull = name := by
  obtain ⟨name, whole, _, rfl, rfl⟩ := select_chosen h
  refine ⟨name, rfl, ?_⟩
  intro l hl
  exact of_decide_eq_true (List.mem_filter.1 hl).2

namespace Loop

variable {μ : Type}

open LintRemedy.Action

/-- Goes one step on, or closes a run that is over. -/
def advance (setup : Setup μ) : Step μ Unit := do
  match ← step setup with
  | some _ => return ()
  | none =>
    let _ ← finish setup
    return ()

/-- The run that is left when another one has gone on, be it that a fault has cut this short. -/
def Run.next (setup : Setup μ) (run : Run μ) : Run μ :=
  left (advance setup run)

/-- The world right after the last scan, or else the one at the start of a run. -/
def scannedWorld (start : World) (moves : List (Move μ)) : World :=
  ((lastScan? moves).map (·.after.world)).getD start

section Runs

variable {setup : Setup μ} {run after : Run μ} {event : Event} {memory : μ} {world : World}
  {moves : List (Move μ)}

theorem Run.next_eq (h : step setup run = .ok (some event) after) : run.next setup = after := by
  unfold Run.next advance
  rw [bind_of_ok h]
  rfl

theorem advance_confined {allowed : String → String → Prop} {n : Nat}
    (h : Confined Run.world allowed n (step setup) run) :
    Confined Run.world allowed n (advance setup) run := by
  unfold advance
  apply h.bind (n := 0)
  intro event? _ _
  cases event? with
  | some event => exact Confined.of_pure
  | none =>
    apply Confined.bind_of_silent finish_confined
    intro _ _ _
    exact Confined.of_pure

theorem Transition.located (h : Transition setup run event after) (located : run.phase.Located) :
    after.phase.Located := by
  cases h with
  | bundleReady phase gathered =>
    obtain ⟨_, _, _, _, _, _, _, hgather, _⟩ := gathered
    exact Remedy.gather_located hgather
  | followUp phase =>
    rw [phase] at located
    exact located
  | _ => trivial

theorem Reaches.located (h : Reaches setup (.start memory world) moves run) :
    run.phase.Located := by
  induction h with
  | here => trivial
  | move _ last ih => exact (step_transition last).located ih

/-- What a run may write next: what an action may that the operator decides on, in the files of the
group that was chosen last. -/
def MayWrite (setup : Setup μ) (moves : List (Move μ)) (run : Run μ) (name text : String) : Prop :=
  ∃ group file bundle action memory, run.phase = .present group file bundle ∧
    lastWork? moves = some (group, file) ∧
    (setup.operator.act bundle).Yields run.memory action memory ∧
    Covers setup.config group bundle action name text

theorem next_mayWrite (h : Reaches setup (.start memory world) moves run) :
    ∃ account, run.world.Unfolds account (run.next setup).world ∧
      ∀ name text, .wrote name text ∈ account → MayWrite setup moves run name text := by
  rcases step_confined h.located with silent | ⟨group, file, bundle, action, _, phase, decided, acts⟩
  · exact (advance_confined silent).imp fun account h => ⟨h.1, h.2.allowed⟩
  · obtain ⟨account, unfolds, within⟩ := advance_confined acts
    refine ⟨account, unfolds, ?_⟩
    intro name text hmem
    have chosen := (Current.of_reaches h).work group file (congrArg Phase.work? phase)
    exact ⟨group, file, bundle, action, _, phase, chosen.1, decided, within.allowed name text hmem⟩

theorem Reaches.workDir_eq (h : Reaches setup (.start memory world) moves run) :
    run.world.workDir = world.workDir := by
  induction h with
  | here => rfl
  | move reached hstep ih =>
    obtain ⟨_, unfolds, _⟩ := next_mayWrite reached
    rw [Run.next_eq hstep] at unfolds
    exact unfolds.workDir_eq.trans ih

end Runs

section Unattended

variable {budget : Int} {quiet : Bool} {setup : Setup SkipCounts} {run after : Run SkipCounts}
  {event : Event} {memory : SkipCounts} {world : World} {moves : List (Move SkipCounts)}

/-- An unattended operator acts in one place at most, and never disables a rule. -/
theorem places_le_of_unattended {bundle : Bundle} {action : Action} {counts counts' : SkipCounts}
    (h : ((Operator.automatic budget quiet).act bundle).Yields counts action counts')
    (group : RuleGroup) : places group bundle action ≤ 1 ∧ action.kind ≠ .disable := by
  obtain ⟨_, ⟨_, rfl⟩ | ⟨_, rfl⟩⟩ := Operator.act_yields h
  · exact ⟨Nat.zero_le 1, nofun⟩
  · exact ⟨List.length_filterMap_le _ _, nofun⟩

theorem Transition.acted (unattended : setup.operator = .automatic budget quiet)
    (h : Transition setup run event after) (phase : run.phase.state = .present) :
    event = .actionDone ∧ after.phase = .scan := by
  cases h with
  | actionDone => exact ⟨rfl, rfl⟩
  | quitPresenting _ decided kind | followUp _ decided kind =>
    rw [unattended] at decided
    rcases (Operator.act_yields decided).2 with ⟨_, rfl⟩ | ⟨_, rfl⟩
    · cases kind
    · cases kind
  | _ =>
    rw [‹run.phase = _›] at phase
    cases phase

/-- An unattended run writes in one step at most to the file that it works on. -/
theorem next_writes (unattended : setup.operator = .automatic budget quiet)
    (h : Reaches setup (.start memory world) moves run) :
    ∃ names, run.world.Writes names (run.next setup).world ∧
      (names = [] ∨ run.phase.state = .present ∧ ∃ group name,
        lastWork? moves = some (group, some name) ∧ names = [name]) := by
  rcases step_confined h.located with silent | ⟨group, file, bundle, action, _, phase, decided, acts⟩
  · have h : Confined Run.world (fun _ _ => False) 0 (advance setup) run := advance_confined silent
    exact ⟨[], h.writes_nil, .inl rfl⟩
  · obtain ⟨account, unfolds, within⟩ := advance_confined acts
    obtain ⟨chosen, _, _, _, _, selected⟩ :=
      (Current.of_reaches h).work group file (congrArg Phase.work? phase)
    rw [unattended] at decided selected
    obtain ⟨hplaces, hkind⟩ := places_le_of_unattended decided group
    obtain ⟨name, rfl, narrow⟩ := Operator.select_narrow selected
    refine ⟨_, unfolds.writes, ?_⟩
    have hlimit := Nat.le_trans within.limit hplaces
    have hnames : ∀ other ∈ written (account.map Happening.deed), other = name := by
      intro other hother
      obtain ⟨text, hmem⟩ := mem_written_iff.1 hother
      cases within.allowed other text hmem with
      | source _ located =>
        obtain ⟨l, hl, rfl⟩ := located
        exact narrow l hl
      | config kind => exact (hkind kind).elim
    -- There is at most one name, and it is that of the selected file.
    cases hwritten : written (account.map Happening.deed) with
    | nil => exact .inl rfl
    | cons other others =>
      rw [hwritten, List.length_cons] at hlimit
      rw [hwritten, List.forall_mem_cons] at hnames
      have hothers : others = [] := List.eq_nil_of_length_eq_zero (by omega)
      refine .inr ⟨by rw [phase]; rfl, group, name, chosen, ?_⟩
      rw [hnames.1, hothers]

/-- Since the last scan an unattended run has written to the selected file at most, and then the next
scan is due. -/
theorem writes_since_scan (unattended : setup.operator = .automatic budget quiet)
    (h : Reaches setup (.start memory world) moves run) :
    ∃ names, (scannedWorld world moves).Writes names run.world ∧
      (names = [] ∨ run.phase = .scan ∧ ∃ group name,
        lastWork? moves = some (group, some name) ∧ names = [name]) := by
  induction h with
  | here => exact ⟨[], .refl world, .inl rfl⟩
  | @move moves run event after reached last ih =>
    by_cases scanning : run.phase = .scan
    · refine ⟨[], ?_, .inl rfl⟩
      unfold scannedWorld
      rw [lastScan?_cons scanning]
      exact .refl after.world
    · obtain ⟨names, earlier, rfl | ⟨h, _⟩⟩ := ih
      · obtain ⟨names, later, hnames⟩ := next_writes unattended reached
        rw [Run.next_eq last] at later
        refine ⟨names, ?_, ?_⟩
        · unfold scannedWorld
          rw [lastScan?_cons_of_ne (fun h => scanning (Phase.eq_scan h))]
          exact earlier.append later
        · refine hnames.imp_right ?_
          rintro ⟨phase, group, name, chosen, rfl⟩
          obtain ⟨hevent, hafter⟩ := (step_transition last).acted unattended phase
          refine ⟨hafter, group, name, ?_, rfl⟩
          rw [hevent, lastWork?_cons_of_ne (by decide)]
          exact chosen
      · exact (scanning h).elim

end Unattended

/-- A run writes only what an action covers that its operator has decided on. When it is unattended,
it writes between two scans to the file of the selected pair at most. -/
theorem writes_confined :
    (∀ {μ : Type} (setup : Setup μ) (memory : μ) (world : World) (moves : List (Move μ))
      (run : Run μ), Reaches setup (.start memory world) moves run →
      ∃ account, run.world.Unfolds account (run.next setup).world ∧
        ∀ name text, .wrote name text ∈ account → MayWrite setup moves run name text) ∧
    ∀ (budget : Int) (quiet : Bool) (setup : Setup SkipCounts) (memory : SkipCounts)
      (world : World) (moves : List (Move SkipCounts)) (run : Run SkipCounts),
      setup.operator = .automatic budget quiet → Reaches setup (.start memory world) moves run →
      ∃ names, (scannedWorld world moves).Writes names (run.next setup).world ∧
        (names = [] ∨ ∃ group name, lastWork? moves = some (group, some name) ∧ names = [name]) := by
  refine ⟨fun _ _ _ _ _ h => next_mayWrite h, ?_⟩
  intro budget quiet setup memory world moves run unattended h
  obtain ⟨names, later, hnames⟩ := next_writes unattended h
  obtain ⟨earlierNames, earlier, rfl | ⟨scanning, hearlier⟩⟩ := writes_since_scan unattended h
  · exact ⟨names, earlier.append later, hnames.imp_right fun h => h.2⟩
  · rcases hnames with rfl | ⟨presenting, _⟩
    · refine ⟨earlierNames, ?_, .inr hearlier⟩
      rw [← List.append_nil earlierNames]
      exact earlier.append later
    · rw [scanning] at presenting
      cases presenting

/-- A project with a finding in the lint config, and an oracle that can fix it. -/
def selfLintWorld : World :=
  let report := "[\x7b\"filePath\":\"/w/eslint.config.js\",\"messages\":[\x7b\"ruleId\":\"no-var\"\x7d]\x7d]"
  let said := fun (answer : String) => OracleAnswer.mk (.finished 0 (.text answer) (.text "")) []
  { World.empty with
    files := (Files.empty ["w"]).set ["w", "eslint.config.js"] (.text "var a;\n")
    scans := [⟨.finished 1 report "", []⟩, ⟨.finished 0 "[]" "", []⟩]
    replies := [said "\x7b\"problem_description\":\"p\"\x7d",
      said "\x7b\"modified_config\":\"c\"\x7d",
      said "\x7b\"start_line\":1,\"end_line\":1,\"fixed_code\":\"let a;\"\x7d"] }

/-- An unattended setup with the lint config of that project. -/
def selfLintSetup : Setup SkipCounts :=
  { patientSetup with config := "/w/eslint.config.js" }

theorem writes_confined_selfLint :
    ∃ moves run, Reaches selfLintSetup (.start [] selfLintWorld) moves run ∧
      run.phase.state = .present ∧
      (∃ account, run.world.Unfolds account (run.next selfLintSetup).world ∧
        ∀ name text, .wrote name text ∈ account → MayWrite selfLintSetup moves run name text) ∧
      ∃ names, (scannedWorld selfLintWorld moves).Writes names (run.next selfLintSetup).world ∧
        (names = [] ∨ ∃ group name, lastWork? moves = some (group, some name) ∧
          names = [name]) := by
  have presents : (course selfLintSetup [] selfLintWorld).passages.any (·.state = .present) := by
    decide +kernel
  obtain ⟨moves, run, _, _, reached, _, hpresent⟩ := course_before (·.state = .present) presents
  refine ⟨moves, run, reached, of_decide_eq_true hpresent, ?_, ?_⟩
  · exact writes_confined.1 selfLintSetup [] selfLintWorld moves run reached
  · exact writes_confined.2 1 true selfLintSetup [] selfLintWorld moves run rfl reached

/-- The lint config is written unattended, although an unattended operator never disables a rule. -/
theorem selfLint_writes_config :
    (∃ moves run, Reaches selfLintSetup (.start [] selfLintWorld) moves run ∧
      selfLintWorld.Writes [selfLintSetup.config] run.world ∧
      selfLintWorld.files.readText selfLintSetup.config = .ok "var a;\n" ∧
      run.world.files.readText selfLintSetup.config = .ok "let a;\n") ∧
    ∀ bundle counts action counts',
      (selfLintSetup.operator.act bundle).Yields counts action counts' →
        action.kind ≠ .disable := by
  constructor
  · let check := fun run : Run SkipCounts => decide (
      written run.world.deeds = [selfLintSetup.config] ∧
        run.world.files.readText selfLintSetup.config = .ok "let a;\n")
    have changed : (course selfLintSetup [] selfLintWorld).passages.getLast?.any fun passage =>
        check passage.after := by decide +kernel
    obtain ⟨moves, run, reached, hcheck, _⟩ := course_last check changed
    obtain ⟨hwritten, hcontent⟩ := of_decide_eq_true hcheck
    refine ⟨moves, run, reached, ⟨_, (List.nil_append _).symm, hwritten⟩, ?_, hcontent⟩
    decide +kernel
  · intro bundle counts action counts' decided
    exact (places_le_of_unattended decided ⟨none, .warning, 0, false, 0, [], [], []⟩).2

end Loop
end LintRemedy
