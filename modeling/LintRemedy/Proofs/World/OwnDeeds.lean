import LintRemedy.Proofs.Analyzer.Failure
import LintRemedy.Proofs.Loop.Transition
import LintRemedy.Proofs.Oracle.Session

/-!
This module contains the record of what the program has done by itself: the processes of the
analyzer that it has started, and the files that it has edited. A conversation with the oracle
leaves this record as it is, as it does everything else that has no part in it, and every run of the
analyzer adds one entry to the record, whatever comes of the run.
-/

namespace LintRemedy

open LintRemedy.Action

/-- The deeds of a world in which the oracle has no part. -/
def World.own (world : World) : List Deed :=
  world.deeds.filter (!·.isAsked)

theorem World.own_unshown : World.Unshown World.own :=
  fun _ _ => rfl

theorem World.Alike.own_eq {a b : World} (h : a.Alike b) : b.own = a.own := by
  rw [h]
  rfl

/-- Deeds in which the oracle has no part are added to the record as they are. -/
theorem World.own_of_deeds {world world' : World} {deeds : List Deed}
    (h : world'.deeds = world.deeds ++ deeds) (unasked : ∀ deed ∈ deeds, deed.isAsked = false) :
    world'.own = world.own ++ deeds := by
  unfold World.own
  have all : deeds.filter (!·.isAsked) = deeds := by
    rw [List.filter_eq_self]
    intro deed hdeed
    rw [unasked deed hdeed]
    rfl
  rw [h, List.filter_append, all]

theorem World.own_record {deed : Deed} (h : deed.isAsked = true) (world : World) :
    (world.record deed).own = world.own := by
  unfold World.own World.record
  rw [List.filter_append, List.filter_cons_of_neg (by rw [h]; nofun), List.filter_nil,
    List.append_nil]

/-! ### The oracle -/

/-- A view of a world in which requests to the oracle are not seen: their record, the answers that are
due to them, and the changes that come with these. -/
structure World.Unasked {ν : Type} (view : World → ν) : Prop where
  record : ∀ world {deed : Deed}, deed.isAsked = true → view (world.record deed) = view world
  replies : ∀ world replies, view { world with replies } = view world
  files : ∀ world files, view { world with files } = view world

theorem World.own_unasked : World.Unasked World.own where
  record world _ h := World.own_record h world
  replies _ _ := rfl
  files _ _ := rfl

variable {ν : Type} {view : World → ν}

namespace Oracle.Channel

theorem answered_seen (unasked : World.Unasked view) (world : World) :
    view (answered world) = view world := by
  unfold answered
  split
  · rfl
  · exact (unasked.files _ _).trans (unasked.replies world _)

theorem sentWorld_seen (unasked : World.Unasked view) (channel : Channel) (prompt : String)
    (schema : Schema) (handle : Option String) (world : World) :
    view (channel.sentWorld prompt schema handle world) = view world := by
  unfold sentWorld
  split
  · rfl
  all_goals exact (unasked.record _ rfl).trans (answered_seen unasked world)

theorem request_keeps (unasked : World.Unasked view) (channel : Channel) (prompt : String)
    (schema : Schema) (handle : Option String) (world : World) :
    Keeps view (channel.request prompt schema handle) world := by
  unfold Keeps
  rw [request_eq, Act.left_ofExcept]
  exact sentWorld_seen unasked channel prompt schema handle world

end Oracle.Channel

/-- The deeds of a talk in which the oracle has no part. -/
abbrev Talk.own (talk : Talk) : List Deed :=
  talk.world.own

theorem Dialogue.ofAct_keeps_world {α : Type} {act : Act α} {talk : Talk}
    (h : Keeps view act talk.world) : Keeps (fun talk => view talk.world) (Dialogue.ofAct act) talk :=
  congrArg Prod.snd (Dialogue.ofAct_keeps h)

namespace Remedy

variable {channel : Oracle.Channel} {window : Int} (unasked : World.Unasked view)
include unasked

theorem converse_keeps (prompt : String) (schema : Schema) (talk : Talk) :
    Keeps (fun talk => view talk.world) (converse (channel.request prompt schema)) talk := by
  unfold converse
  apply Keeps.bind Keeps.of_get
  intro _ _ hget
  obtain ⟨rfl, rfl⟩ := get_eq_ok.1 hget
  apply Keeps.bind (Dialogue.ofAct_keeps_world
    (channel.request_keeps unasked prompt schema _ talk.world))
  intro _ _ _
  apply Keeps.bind (Keeps.of_modify rfl)
  intro _ _ _
  exact Keeps.of_pure

theorem inquire_keeps {α : Type} (read : Json → Except Json.RenderFault (Option α))
    (prompt : String) (schema : Schema) (talk : Talk) :
    Keeps (fun talk => view talk.world) (inquire read (channel.request prompt schema)) talk := by
  apply Keeps.bind (converse_keeps unasked prompt schema talk)
  intro _ _ _
  exact Dialogue.ofAct_keeps_world (Act.ofExcept_keeps _ _ _)

theorem replacementAt_keeps (rule message : String) (location : Location) (talk : Talk) :
    Keeps (fun talk => view talk.world) (replacementAt channel window rule message location)
      talk := by
  unfold replacementAt
  apply Keeps.bind (Dialogue.ofAct_keeps_world (currentLines_keeps _ _))
  intro lines? talk _
  cases lines? with
  | none => exact Keeps.of_pure
  | some lines =>
    apply Keeps.bind (converse_keeps unasked _ _ talk)
    intro reply _ _
    split
    · exact Keeps.of_pure
    · apply Keeps.bind (Dialogue.ofAct_keeps_world (currentLines_keeps _ _))
      intro lines? _ _
      cases lines? with
      | none => exact Keeps.of_pure
      | some lines => exact Keeps.of_pure

theorem replacementsAt_keeps (rule message : String) (locations : List Location) (talk : Talk) :
    Keeps (fun talk => view talk.world) (replacementsAt channel window rule message locations)
      talk := by
  induction locations generalizing talk with
  | nil => exact Keeps.of_pure
  | cons location locations ih =>
    unfold replacementsAt
    apply Keeps.bind (replacementAt_keeps unasked rule message location talk)
    intro _ talk _
    apply Keeps.bind (ih talk)
    intro _ _ _
    exact Keeps.of_pure

theorem gather_keeps (group : RuleGroup) (config : String) (talk : Talk) :
    Keeps (fun talk => view talk.world) (gather channel window group config) talk := by
  unfold gather
  split
  · exact Keeps.of_pure
  · apply Keeps.bind (inquire_keeps unasked explanation? _ _ talk)
    intro _ talk _
    apply Keeps.bind (inquire_keeps unasked configChange? _ _ talk)
    intro _ talk _
    apply Keeps.bind (replacementsAt_keeps unasked _ _ _ talk)
    intro _ _ _
    dsimp only
    split
    · exact Keeps.of_pure
    · exact Keeps.of_pure

theorem answerQuestion_keeps (bundle : Bundle) (question : String) (talk : Talk) :
    Keeps (fun talk => view talk.world) (answerQuestion channel bundle question) talk := by
  unfold answerQuestion
  apply Keeps.bind (converse_keeps unasked _ _ talk)
  intro _ _ _
  exact Keeps.of_pure

end Remedy

/-! ### What a run leads to -/

theorem World.Alike.seen_eq (unshown : World.Unshown view) {a b : World} (h : a.Alike b) :
    view b = view a := by
  rw [h]
  exact unshown a _

theorem Talk.Leads.seen_eq {α : Type} {talk talk' : Talk} {act : Act α} {a : α}
    (unshown : World.Unshown view) (h : talk.Leads act a talk')
    (hact : ∀ world, Keeps view act world) : view talk'.world = view talk.world := by
  obtain ⟨before, after, hbefore, heq, hafter, _⟩ := h
  calc view talk'.world
    _ = view after := hafter.seen_eq unshown
    _ = view before := (hact before).eq_of_ok heq
    _ = view talk.world := hbefore.seen_eq unshown

theorem Loop.Gathers.seen_eq {μ : Type} {setup : Loop.Setup μ} {group : RuleGroup}
    {file : Option String} {talk talk' : Talk} {bundle? : Option Bundle}
    (unshown : World.Unshown view) (unasked : World.Unasked view)
    (h : Loop.Gathers setup group file talk bundle? talk') : view talk'.world = view talk.world := by
  obtain ⟨turned, config, asked, answered, alike, _, read, gathered, after⟩ := h
  calc view talk'.world
    _ = view answered.world := after.1.seen_eq unshown
    _ = view asked.world := (Remedy.gather_keeps unasked group config asked).eq_of_ok gathered
    _ = view turned.world := read.seen_eq unshown (ConfigFile.read_keeps setup.config)
    _ = view talk.world := alike.seen_eq unshown

/-! ### The analyzer -/

namespace Analyzer

/-- The deed that a run of the analyzer is on record with. -/
def deed (analyzer : Analyzer) (arguments : List String) : Deed :=
  .ranAnalyzer (analyzer.command ++ arguments) analyzer.root

variable (analyzer : Analyzer) (target : String) (world : World)

/-- A scan and a repair cannot be taken for each other. -/
theorem deed_repair_ne_scan :
    analyzer.deed (repairArguments target) ≠ analyzer.deed (scanArguments target) := by
  intro h
  unfold deed at h
  rw [Deed.ranAnalyzer.injEq, List.append_cancel_left_eq] at h
  exact absurd (congrArg List.length h.1) (by simp [repairArguments, scanArguments])

theorem run_own (arguments : List String) :
    (left (analyzer.run arguments world)).own = world.own ++ [analyzer.deed arguments] := by
  rw [left_run]
  apply World.own_of_deeds (analyzer.ranWorld_deeds arguments world)
  simp [Deed.isAsked]

/-- What is read from the output of a scan leaves the world alone. -/
theorem left_scan :
    left (analyzer.scan target world) = left (analyzer.run (scanArguments target) world) := by
  refine Keeps.left_map.trans ((Keeps.left_bind id ?_).trans (Keeps.left_bind id ?_))
  · intro _ _ _
    exact Act.ofExcept_keeps _ _ _
  · rintro ⟨status, stdout, stderr⟩ _ _
    exact Act.ofExcept_keeps _ _ _

theorem left_repair :
    left (analyzer.repair target world) = left (analyzer.run (repairArguments target) world) := by
  refine Keeps.left_bind id ?_
  rintro ⟨status, _, stderr⟩ _ _
  dsimp only
  split
  · exact Keeps.of_pure
  · exact Keeps.of_throw

theorem scan_own :
    (left (analyzer.scan target world)).own =
      world.own ++ [analyzer.deed (scanArguments target)] := by
  rw [left_scan]
  exact analyzer.run_own world _

theorem repair_own :
    (left (analyzer.repair target world)).own =
      world.own ++ [analyzer.deed (repairArguments target)] := by
  rw [left_repair]
  exact analyzer.run_own world _

end Analyzer

end LintRemedy
