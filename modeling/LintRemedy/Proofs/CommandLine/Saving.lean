import LintRemedy.CommandLine.Execution
import LintRemedy.Proofs.Loop.Completion

/-!
This module contains what a clean exit of the command `analyze` says about the file for the results.
A single scan never ends with status zero unless its results are in the file. A repair loop does so
whatever becomes of its report: just where there can be a file of the name, it holds the report.
-/

namespace LintRemedy

open LintRemedy.Action

/-! ### Saving -/

namespace Results

variable {path : String} {value : Json} {world after : World} {saved : Bool}

/-- What an attempt to save a value under a name has come to. -/
structure Saves (name : String) (value : Json) (before after : Files) (saved : Bool) : Prop where
  proper : before.nameFault? name = none
  saved_iff : saved = true ↔ after.Accepts name
  holds : saved = true → after.readText name = .ok value.encodeIndented
  kept : saved = false → after = before

theorem saves_of_save (h : save path value world = .ok saved after) :
    Saves (Path.absolute world.workDir path) value world.files after.files saved := by
  unfold save at h
  rw [bind_of_ok (get_eq_ok.2 ⟨rfl, rfl⟩)] at h
  generalize Path.absolute world.workDir path = name at *
  cases hedit : world.files.editText name value.encodeIndented with
  | ok files =>
    rw [hedit] at h
    obtain ⟨rfl, rfl⟩ := record_eq_ok.1 h
    have accepts := (Files.exists_editText_iff.1 ⟨files, hedit⟩).2
    exact {
      proper := accepts.1
      saved_iff := iff_of_true rfl ((Files.accepts_of_editText hedit name).2 accepts)
      holds := fun _ => Files.readText_of_editText hedit
      kept := nofun }
  | error stop =>
    rw [hedit] at h
    cases stop with
    | cutShort fault files =>
      obtain ⟨_, _, _, h⟩ := bind_eq_ok.1 h
      exact (throw_eq_ok.1 h).elim
    | unopened fault =>
      have hopen := Files.editText_eq_unopened_iff.1 hedit
      have refused : ¬ world.files.Accepts name := by
        intro accepts
        obtain ⟨_, opened⟩ := Files.exists_openForWriting_iff.2 accepts
        rw [hopen] at opened
        cases opened
      cases fault with
      | badName => exact (throw_eq_ok.1 h).elim
      | unavailable | notText =>
        obtain ⟨rfl, rfl⟩ := pure_eq_ok.1 h
        refine ⟨?_, iff_of_false Bool.false_ne_true refused, nofun, fun _ => rfl⟩
        rw [Option.eq_none_iff_forall_ne_some]
        intro cause bad
        rw [← Files.openForWriting_eq_badName_iff, hopen] at bad
        cases bad

end Results

/-! ### Preparation -/

theorem Act.report_eq_ok {text : String} {world after : World} {u : Unit}
    (h : Act.report text world = .ok u after) : ∃ terminal, { world with terminal } = after := by
  obtain ⟨terminal, _, shown⟩ := Act.ofConsole_eq_ok.1 h
  exact ⟨terminal, shown⟩

theorem Loop.prepare_keeps {μ ν : Type} {view : World → ν} (settings : Settings)
    (operator : Operator μ) (request : Loop.Request) (world : World) :
    Keeps view (Loop.prepare settings operator request) world := by
  unfold Loop.prepare
  apply Keeps.bind (ConfigFile.find_keeps _ _ _)
  intro _ world _
  apply Keeps.bind (Act.ofExcept_keeps _ _ world)
  intro _ world _
  apply Keeps.bind (Act.ofExcept_keeps _ _ world)
  intro _ _ _
  exact Keeps.of_pure

theorem Loop.operator_of_prepare {μ : Type} {settings : Settings} {operator : Operator μ}
    {request : Loop.Request} {setup : Loop.Setup μ} {world after : World}
    (h : Loop.prepare settings operator request world = .ok setup after) :
    setup.operator = operator := by
  unfold Loop.prepare at h
  simp only [bind_eq_ok, pure_eq_ok] at h
  obtain ⟨_, _, _, _, _, _, _, _, _, rfl, _⟩ := h
  rfl

namespace CommandLine

/-! ### Values to save -/

def target (request : AnalysisRequest) (world : World) : String :=
  Path.inProject world.workDir world.workDir request.path

/-- What a repair loop is asked to do by a request. -/
def loopRequest (settings : Settings) (request : AnalysisRequest) (world : World) :
    Loop.Request where
  root := world.workDir
  target := target request world
  provider := request.provider
  model := some ((request.model.filter (· ≠ "")).getD settings.model)
  config := request.config

/-- A repair loop has come to its end without failure, and has returned a report then. -/
inductive Repairs {μ : Type} (settings : Settings) (request : AnalysisRequest) (world : World)
    (operator : Operator μ) (memory : μ) : RunRecord → World → Prop where
  | intro {start setup moves report last} (alike : world.Alike start)
      (prepared : Loop.prepare settings operator (loopRequest settings request world) start =
        .ok setup start)
      (returned : Loop.Returns setup (.start memory start) moves report last)
      (succeeded : report.hasFailed = false) :
      Repairs settings request world operator memory report last.world

/-- What a request comes to without failure: a value that is to be saved, and the world by then. -/
inductive Yields (settings : Settings) (request : AnalysisRequest) (world : World) :
    Json → World → Prop where
  | once {analyzer found left} (asked : request.once = true)
      (command : Analyzer.ofCommandLine world.workDir settings.analyzerCommand
        (.seconds settings.analyzerTimeLimit) = .ok analyzer)
      (scanned : analyzer.scan (target request world) world = .ok found left)
      (parsed : found.hasUnparsed = false) :
      Yields settings request world found.toJson left
  | unattended {report left} (asked : request.once = false ∧ request.unattended = true)
      (repairs : Repairs settings request world (.automatic settings.skipBudget false) [] report
        left) :
      Yields settings request world report.toJson left
  | attended {report left} (asked : request.once = false ∧ request.unattended = false)
      (repairs : Repairs settings request world (.interactive false) () report left) :
      Yields settings request world report.toJson left

/-- What becomes of the file for a value. An empty path names no file. -/
structure Stores (workDir path : String) (value : Json) (before after : Files) : Prop where
  proper : path ≠ "" → before.nameFault? (Path.absolute workDir path) = none
  holds : path ≠ "" ∧ after.Accepts (Path.absolute workDir path) →
    after.readText (Path.absolute workDir path) = .ok value.encodeIndented
  kept : path = "" ∨ ¬ after.Accepts (Path.absolute workDir path) → after = before

section Commands

variable {settings : Settings} {request : AnalysisRequest} {world after : World}
  {status : ExitStatus} {path : String}

namespace Stores

variable {workDir : String} {value : Json} {before files : Files} {saved : Bool}

theorem of_saves (named : path ≠ "")
    (h : Results.Saves (Path.absolute workDir path) value before files saved) :
    Stores workDir path value before files where
  proper _ := h.proper
  holds := fun ⟨_, accepts⟩ => h.holds (h.saved_iff.2 accepts)
  kept := by
    rintro (unnamed | refused)
    · exact (named unnamed).elim
    · exact h.kept (Bool.eq_false_iff.2 fun saved => refused (h.saved_iff.1 saved))

theorem of_unnamed (unnamed : path = "") : Stores workDir path value before before where
  proper named := (named unnamed).elim
  holds := fun ⟨named, _⟩ => (named unnamed).elim
  kept _ := rfl

end Stores

theorem status_of_fail {message hint : String} (h : fail message hint world = .ok status after) :
    status = 1 := by
  unfold fail at h
  obtain ⟨_, _, _, h⟩ := bind_eq_ok.1 h
  split at h
  · obtain ⟨_, _, _, h⟩ := bind_eq_ok.1 h
    exact (pure_eq_ok.1 h).1.symm
  · exact (pure_eq_ok.1 h).1.symm

/-- A clean exit after an action means that the action has not failed. -/
theorem withScan_clean {α : Type} {act : Act α} {context : String} {next : α → Act ExitStatus}
    (h : withScan act context next world = .ok 0 after) :
    ∃ a left, act world = .ok a left ∧ next a left = .ok 0 after := by
  unfold withScan at h
  obtain ⟨outcome, left, hattempt, h⟩ := bind_eq_ok.1 h
  split at h
  · exact ⟨_, left, Act.attempt_eq_ok.1 hattempt, h⟩
  · cases status_of_fail h
  · exact (throw_eq_ok.1 h).elim

theorem filter_some_cases (path : String) :
    path = "" ∧ (some path).filter (· ≠ "") = none ∨
      path ≠ "" ∧ (some path).filter (· ≠ "") = some path := by
  by_cases named : path = ""
  · exact .inl ⟨named, Option.filter_some_neg (by simpa using named)⟩
  · exact .inr ⟨named, Option.filter_some_pos (by simpa using named)⟩

theorem showFindings_clean {found : Aggregation} (output : request.output = some path)
    (h : showFindings request.output found world = .ok 0 after) :
    found.hasUnparsed = false ∧ Stores world.workDir path found.toJson world.files after.files ∧
      (path ≠ "" → after.files.Accepts (Path.absolute world.workDir path)) := by
  unfold showFindings at h
  split at h
  · obtain ⟨_, _, _, h⟩ := bind_eq_ok.1 h
    cases (pure_eq_ok.1 h).1
  · next parsed =>
    refine ⟨Bool.eq_false_iff.2 parsed, ?_⟩
    obtain ⟨_, _, hreport, h⟩ := bind_eq_ok.1 h
    obtain ⟨_, rfl⟩ := Act.report_eq_ok hreport
    rw [output] at h
    rcases filter_some_cases path with ⟨unnamed, hfilter⟩ | ⟨named, hfilter⟩
    · rw [hfilter] at h
      obtain ⟨_, rfl⟩ := pure_eq_ok.1 h
      exact ⟨.of_unnamed unnamed, fun named => (named unnamed).elim⟩
    · rw [hfilter] at h
      obtain ⟨saved, left, hsave, h⟩ := bind_eq_ok.1 h
      have saves := Results.saves_of_save hsave
      cases saved with
      | true =>
        obtain ⟨_, _, hreport, h⟩ := bind_eq_ok.1 h
        obtain ⟨_, rfl⟩ := Act.report_eq_ok hreport
        obtain ⟨_, rfl⟩ := pure_eq_ok.1 h
        exact ⟨.of_saves named saves, fun _ => saves.saved_iff.1 rfl⟩
      | false => cases status_of_fail h

/-- Every way out of a loop that has failed tells about it. -/
theorem succeeded_of_clean {report : RunRecord} {message : String}
    (h : (if ¬ report.hasFailed then return 0
      else if report.message ≠ "" then fail report.message ""
      else fail message "" : Act ExitStatus) world = .ok 0 after) :
    report.hasFailed = false ∧ world = after := by
  split at h
  · next succeeded => exact ⟨Bool.eq_false_iff.2 succeeded, (pure_eq_ok.1 h).2⟩
  · split at h
    · cases status_of_fail h
    · cases status_of_fail h

theorem repair_clean {μ : Type} {run : Loop.Request} {operator : Operator μ} {memory : μ}
    (output : request.output = some path)
    (h : repair settings request run operator memory world = .ok 0 after) :
    ∃ setup report left, Loop.prepare settings operator run world = .ok setup world ∧
      Loop.carryOut setup memory world = .ok report left ∧ report.hasFailed = false ∧
      Stores left.workDir path report.toJson left.files after.files := by
  unfold repair at h
  obtain ⟨setup, prepared, hprepare, h⟩ := bind_eq_ok.1 h
  have prepares : Keeps id (Loop.prepare settings operator run) world := Loop.prepare_keeps _ _ _ _
  cases prepares.eq_of_ok hprepare
  obtain ⟨usable, _, husable, h⟩ := bind_eq_ok.1 h
  have looks : Keeps id setup.channel.isUsable world := setup.channel.isUsable_keeps world
  cases looks.eq_of_ok husable
  split at h
  · cases status_of_fail h
  · obtain ⟨report, left, hcarry, h⟩ := bind_eq_ok.1 h
    refine ⟨setup, report, left, hprepare, hcarry, ?_⟩
    rw [output] at h
    rcases filter_some_cases path with ⟨unnamed, hfilter⟩ | ⟨named, hfilter⟩
    · rw [hfilter] at h
      obtain ⟨succeeded, rfl⟩ := succeeded_of_clean h
      exact ⟨succeeded, .of_unnamed unnamed⟩
    · rw [hfilter] at h
      -- Whether the report was saved, the loop does not ask.
      obtain ⟨saved, _, hsave, h⟩ := bind_eq_ok.1 h
      obtain ⟨succeeded, rfl⟩ := succeeded_of_clean h
      exact ⟨succeeded, .of_saves named (Results.saves_of_save hsave)⟩

/-- After a clean exit of a repair loop that is carried out to its end. -/
theorem repair_yields {μ : Type} {operator : Operator μ} {memory : μ} {start : World}
    (completes : ∀ {setup : Loop.Setup μ} {report left}, setup.operator = operator →
      Loop.carryOut setup memory start = .ok report left →
      ∃ moves last, Loop.Returns setup (.start memory start) moves report last ∧
        last.world = left)
    (alike : world.Alike start) (output : request.output = some path)
    (h : repair settings request (loopRequest settings request world) operator memory start =
      .ok 0 after) :
    ∃ report left, Repairs settings request world operator memory report left ∧
      Stores world.workDir path report.toJson left.files after.files := by
  obtain ⟨setup, report, left, hprepare, hcarry, succeeded, stores⟩ := repair_clean output h
  obtain ⟨moves, last, returned, rfl⟩ := completes (Loop.operator_of_prepare hprepare) hcarry
  refine ⟨report, _, ⟨alike, hprepare, returned, succeeded⟩, ?_⟩
  have hdir : last.world.workDir = world.workDir := returned.workDir_eq.trans alike.workDir_eq
  rw [← hdir]
  exact stores

theorem analyzeTarget_clean (output : request.output = some path) (cooked : request.raw = false)
    (h : analyzeTarget settings request world = .ok 0 after) :
    ∃ value left, Yields settings request world value left ∧
      Stores world.workDir path value left.files after.files ∧
      (request.once = true → path ≠ "" →
        after.files.Accepts (Path.absolute world.workDir path)) := by
  unfold analyzeTarget at h
  rw [bind_of_ok (get_eq_ok.2 ⟨rfl, rfl⟩)] at h
  obtain ⟨analyzer, _, hanalyzer, h⟩ := bind_eq_ok.1 h
  obtain ⟨command, rfl⟩ := Act.ofExcept_eq_ok.1 hanalyzer
  rw [cooked, if_neg Bool.false_ne_true] at h
  cases once : request.once with
  | true =>
    rw [once, if_pos rfl] at h
    obtain ⟨found, left, scanned, hshow⟩ := withScan_clean h
    obtain ⟨parsed, stores, accepts⟩ := showFindings_clean output hshow
    have confined : Confined id (fun _ _ => True) 0 (analyzer.scan (target request world)) world :=
      analyzer.scan_confined _ world
    have hdir : left.workDir = world.workDir := confined.workDir_eq scanned
    rw [hdir] at stores accepts
    exact ⟨_, left, .once once command scanned parsed, stores, fun _ => accepts⟩
  | false =>
    rw [once, if_neg Bool.false_ne_true] at h
    cases unattended : request.unattended with
    | true =>
      rw [unattended, if_pos rfl] at h
      obtain ⟨_, _, hreport, h⟩ := bind_eq_ok.1 h
      obtain ⟨_, rfl⟩ := Act.report_eq_ok hreport
      obtain ⟨report, left, repairs, stores⟩ := repair_yields
        (fun unattended => (Loop.carryOut_unattended unattended).1) (.of_terminal world _) output h
      exact ⟨_, left, .unattended ⟨once, unattended⟩ repairs, stores, nofun⟩
    | false =>
      rw [unattended, if_neg Bool.false_ne_true] at h
      obtain ⟨report, left, repairs, stores⟩ := repair_yields
        (fun attended => (Loop.carryOut_attended attended).1) (.refl world) output h
      exact ⟨_, left, .attended ⟨once, unattended⟩ repairs, stores, nofun⟩

theorem analyze_clean (h : analyze settings request world = .ok 0 after) :
    analyzeTarget settings request world = .ok 0 after := by
  unfold analyze at h
  split at h
  · cases status_of_fail h
  · rw [bind_of_ok (get_eq_ok.2 ⟨rfl, rfl⟩)] at h
    obtain ⟨outcome, found, hattempt, h⟩ := bind_eq_ok.1 h
    have finds : Keeps id (Act.attempt (ConfigFile.find world.workDir request.config)) world :=
      Act.attempt_keeps (ConfigFile.find_keeps _ _ _)
    cases finds.eq_of_ok hattempt
    split at h
    · exact h
    · cases status_of_fail h
    · exact (throw_eq_ok.1 h).elim

/-- After a clean exit of `analyze` the file for the results holds what the request has come to, if
there can be a file of its name; and if not, nothing was saved. A single scan does not end so
unless its results were saved. -/
theorem clean_exit_saves {arguments : List String}
    (command : Command.ofArguments settings arguments = .ok (.analyze request))
    (output : request.output = some path) (cooked : request.raw = false)
    (clean : run settings arguments world = .ok 0 after) :
    ∃ value left, Yields settings request world value left ∧
      Stores world.workDir path value left.files after.files ∧
      (request.once = true → path ≠ "" →
        after.files.Accepts (Path.absolute world.workDir path)) := by
  unfold run at clean
  rw [command] at clean
  exact analyzeTarget_clean output cooked (analyze_clean clean)

end Commands

/-- A project in which the analyzer finds nothing. -/
def tidyWorld : World :=
  { World.empty with
    files := (Files.empty ["w"]).set ["w", "eslint.config.js"] (.text "")
    programs := ["claude"]
    scans := [⟨.finished 0 "[]" "", []⟩] }

/-- The request for an unattended repair loop whose report is saved under a path. -/
def unattendedRequest (path : String) : AnalysisRequest :=
  ⟨".", "claude-code", none, some path, false, false, true, none⟩

theorem clean_exit_saves_tidyWorld :
    ∃ after value left,
      run .standard ["analyze", "--auto-fix", "-o", "out.json"] tidyWorld = .ok 0 after ∧
      Yields .standard (unattendedRequest "out.json") tidyWorld value left ∧
      after.files.readText "/w/out.json" = .ok value.encodeIndented := by
  let check := fun (status : ExitStatus) (after : World) =>
    decide (status = 0 ∧ after.files.Accepts "/w/out.json")
  have passes : Action.passes check (run .standard ["analyze", "--auto-fix", "-o", "out.json"])
      tidyWorld := by decide +kernel
  obtain ⟨_, after, clean, hcheck⟩ := exists_of_passes passes
  obtain ⟨rfl, accepts⟩ := of_decide_eq_true hcheck
  have command : Command.ofArguments .standard ["analyze", "--auto-fix", "-o", "out.json"] =
      .ok (.analyze (unattendedRequest "out.json")) := by decide +kernel
  have name : Path.absolute tidyWorld.workDir "out.json" = "/w/out.json" := by decide +kernel
  obtain ⟨value, left, yields, stores, _⟩ := clean_exit_saves command rfl rfl clean
  rw [← name] at accepts ⊢
  exact ⟨after, value, left, clean, yields, stores.holds ⟨by decide, accepts⟩⟩

/-- A repair loop that has failed to save its report ends with status zero all the same. -/
theorem clean_exit_without_file :
    Command.ofArguments .standard ["analyze", "--auto-fix", "-o", "missing/out.json"] =
        .ok (.analyze (unattendedRequest "missing/out.json")) ∧
      ∃ after, run .standard ["analyze", "--auto-fix", "-o", "missing/out.json"] tidyWorld =
          .ok 0 after ∧
        after.files = tidyWorld.files ∧
        after.files.readText (Path.absolute tidyWorld.workDir "missing/out.json") =
          .error .unavailable := by
  constructor
  · decide +kernel
  · let check := fun (status : ExitStatus) (after : World) =>
      decide (status = 0 ∧ after.files = tidyWorld.files)
    have passes : Action.passes check
        (run .standard ["analyze", "--auto-fix", "-o", "missing/out.json"]) tidyWorld := by
      decide +kernel
    obtain ⟨_, after, clean, hcheck⟩ := exists_of_passes passes
    obtain ⟨rfl, kept⟩ := of_decide_eq_true hcheck
    refine ⟨after, clean, kept, ?_⟩
    rw [kept]
    decide +kernel

end CommandLine

end LintRemedy
