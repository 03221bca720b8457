import LintRemedy.Proofs.World.Footprint

/-!
This module contains what actions keep: a view of the state that is the same before and after them,
whatever they end with. Nothing but the terminal changes where something is shown, and whatever is
done to files or by the analyzer, the oracle has no part in.
-/

namespace LintRemedy

namespace Action

variable {ε σ α β ν : Type} {view : σ → ν}

/-- Whatever an action ends with, a view of the state stays as it was. -/
def Keeps (view : σ → ν) (act : EStateM ε σ α) (s : σ) : Prop :=
  view (left (act s)) = view s

namespace Keeps

variable {x : EStateM ε σ α} {f : α → EStateM ε σ β} {s : σ}

theorem of_pure {a : α} : Keeps view (pure a : EStateM ε σ α) s :=
  rfl

theorem of_throw {e : ε} : Keeps view (throw e : EStateM ε σ α) s :=
  rfl

theorem of_get : Keeps view (get : EStateM ε σ σ) s :=
  rfl

theorem of_modify {g : σ → σ} (h : view (g s) = view s) :
    Keeps view (modify g : EStateM ε σ PUnit) s :=
  h

theorem bind (hx : Keeps view x s) (hf : ∀ a s', x s = .ok a s' → Keeps view (f a) s') :
    Keeps view (x >>= f) s := by
  unfold Keeps at hx ⊢
  cases h : x s with
  | ok a s' =>
    rw [h] at hx
    rw [bind_of_ok h]
    exact (hf a s' h).trans hx
  | error e s' =>
    rw [h] at hx
    rw [bind_of_error h]
    exact hx

theorem map {g : α → β} (hx : Keeps view x s) : Keeps view (g <$> x) s := by
  unfold Keeps at hx ⊢
  change view (left (EStateM.map g x s)) = view s
  unfold EStateM.map
  cases h : x s with
  | ok a s' =>
    rw [h] at hx
    exact hx
  | error e s' =>
    rw [h] at hx
    exact hx

theorem eq_of_ok {a : α} {s' : σ} (hx : Keeps view x s) (h : x s = .ok a s') :
    view s' = view s := by
  unfold Keeps at hx
  rw [h] at hx
  exact hx

/-- What is done first decides about a view that the rest keeps. -/
theorem left_bind (view : σ → ν) (hf : ∀ a s', x s = .ok a s' → Keeps view (f a) s') :
    view (left ((x >>= f) s)) = view (left (x s)) := by
  cases h : x s with
  | ok a s' =>
    rw [bind_of_ok h]
    exact hf a s' h
  | error e s' =>
    rw [bind_of_error h]
    rfl

theorem left_map {g : α → β} : left ((g <$> x) s) = left (x s) := by
  change left (EStateM.map g x s) = left (x s)
  unfold EStateM.map
  cases x s <;> rfl

end Keeps

end Action

open LintRemedy.Action

variable {α ν : Type}

/-- A view of a world in which the terminal is not seen. -/
def World.Unshown (view : World → ν) : Prop :=
  ∀ world terminal, view { world with terminal } = view world

/-- A view of a world in which the processes of the analyzer are not seen: their record, the answers
that are due to them, and the changes that they make. -/
structure World.Unscanned (view : World → ν) : Prop where
  record : ∀ world command workDir,
    view (world.record (.ranAnalyzer command workDir)) = view world
  scans : ∀ world scans, view { world with scans } = view world
  repairs : ∀ world repairs, view { world with repairs } = view world
  files : ∀ world files, view { world with files } = view world

/-- A view of a world in which the edits of the program are not seen. -/
def World.Unedited (view : World → ν) : Prop :=
  ∀ world files name, view (World.record (.editedFile name) { world with files }) = view world

/-- A view of a talk: the conversation, and what is seen of the world. -/
def Talk.seen (view : World → ν) (talk : Talk) : Conversation × ν :=
  (talk.conversation, view talk.world)

variable {view : World → ν}

namespace Act

theorem ofConsole_keeps (unshown : World.Unshown view) (act : Console α) (world : World) :
    Keeps view (Act.ofConsole act) world := by
  unfold Keeps Act.ofConsole
  cases act world.terminal with
  | ok a terminal => exact unshown world terminal
  | error fault terminal => exact unshown world terminal

theorem ofExcept_keeps {ε : Type} (toFault : ε → Fault) (outcome : Except ε α) (world : World) :
    Keeps view (Act.ofExcept toFault outcome) world := by
  cases outcome with
  | ok a => exact Keeps.of_pure
  | error e => exact Keeps.of_throw

theorem attempt_keeps {act : Act α} {world : World} (h : Keeps view act world) :
    Keeps view (Act.attempt act) world := by
  unfold Keeps at h ⊢
  unfold Act.attempt
  cases hact : act world with
  | ok a world' =>
    rw [hact] at h
    exact h
  | error fault world' =>
    rw [hact] at h
    exact h

end Act

theorem Dialogue.ofAct_keeps {act : Act α} {talk : Talk} (h : Keeps view act talk.world) :
    Keeps (Talk.seen view) (Dialogue.ofAct act) talk := by
  unfold Keeps at h ⊢
  unfold Dialogue.ofAct
  cases hact : act talk.world with
  | ok a world =>
    rw [hact] at h
    exact congrArg (Prod.mk talk.conversation) h
  | error fault world =>
    rw [hact] at h
    exact congrArg (Prod.mk talk.conversation) h

/-- A deed in which the oracle is asked. -/
def Deed.isAsked : Deed → Bool
  | ranAgent .. | posted .. => true
  | _ => false

/-- What of a world is between the program and the oracle: the answers that are due, and what was
asked. -/
def World.heard (world : World) : List OracleAnswer × List Deed :=
  (world.replies, world.deeds.filter Deed.isAsked)

theorem World.heard_unshown : World.Unshown World.heard :=
  fun _ _ => rfl

theorem World.heard_record {deed : Deed} (h : deed.isAsked = false) (world : World) :
    (world.record deed).heard = world.heard := by
  unfold World.heard World.record
  rw [List.filter_append, List.filter_cons_of_neg (by rw [h]; nofun), List.filter_nil,
    List.append_nil]

theorem World.heard_unscanned : World.Unscanned World.heard where
  record world _ _ := World.heard_record rfl world
  scans _ _ := rfl
  repairs _ _ := rfl
  files _ _ := rfl

theorem World.heard_unedited : World.Unedited World.heard :=
  fun world files _ => World.heard_record rfl { world with files }

theorem Analyzer.withoutAnswer_seen (unscanned : World.Unscanned view) (world : World)
    (command : List String) : view (withoutAnswer world command) = view world := by
  unfold withoutAnswer
  split
  · exact unscanned.repairs world _
  · exact unscanned.scans world _

theorem Analyzer.run_keeps (unscanned : World.Unscanned view) (analyzer : Analyzer)
    (arguments : List String) (world : World) : Keeps view (analyzer.run arguments) world := by
  unfold Keeps
  rw [left_run]
  unfold ranWorld
  have recorded := unscanned.record world (analyzer.command ++ arguments) analyzer.root
  cases analyzer.launchFault? arguments world with
  | some fault => exact recorded
  | none =>
    exact (unscanned.files _ _).trans ((withoutAnswer_seen unscanned _ _).trans recorded)

theorem Analyzer.scan_keeps (unscanned : World.Unscanned view) (analyzer : Analyzer)
    (target : String) (world : World) : Keeps view (analyzer.scan target) world := by
  apply Keeps.map
  apply Keeps.bind
  · apply Keeps.bind (analyzer.run_keeps unscanned _ world)
    intro _ _ _
    exact Act.ofExcept_keeps _ _ _
  · intro _ _ _
    exact Act.ofExcept_keeps _ _ _

theorem Analyzer.repair_keeps (unscanned : World.Unscanned view) (analyzer : Analyzer)
    (target : String) (world : World) : Keeps view (analyzer.repair target) world := by
  unfold Analyzer.repair
  apply Keeps.bind (analyzer.run_keeps unscanned _ world)
  rintro ⟨status, _, stderr⟩ _ _
  dsimp only
  split
  · exact Keeps.of_pure
  · exact Keeps.of_throw

theorem ConfigFile.find_keeps (root : String) (named : Option String) (world : World) :
    Keeps view (ConfigFile.find root named) world := by
  unfold ConfigFile.find
  apply Keeps.bind Keeps.of_get
  intro _ _ _
  split
  · dsimp only
    split
    · exact Keeps.of_pure
    · exact Keeps.of_throw
  · split
    · exact Keeps.of_pure
    · exact Keeps.of_throw

theorem Oracle.Channel.isUsable_keeps (channel : Oracle.Channel) (world : World) :
    Keeps view channel.isUsable world := by
  unfold isUsable
  split
  · exact Keeps.bind Keeps.of_get fun _ _ _ => Keeps.of_pure
  · exact Keeps.bind (Keeps.bind Keeps.of_get fun _ _ _ => Keeps.of_pure) fun _ _ _ => Keeps.of_pure

theorem ConfigFile.read_keeps (path : String) (world : World) :
    Keeps view (ConfigFile.read path) world := by
  unfold ConfigFile.read
  apply Keeps.bind Keeps.of_get
  intro _ _ _
  split
  · exact Keeps.of_pure
  · exact Keeps.of_throw
  · exact Keeps.of_pure

theorem Remedy.currentLines_keeps (file : String) (world : World) :
    Keeps view (Remedy.currentLines file) world := by
  unfold Remedy.currentLines
  apply Keeps.bind Keeps.of_get
  intro _ _ _
  split
  · exact Keeps.of_pure
  · exact Keeps.of_throw
  · exact Keeps.of_pure

namespace Patch

theorem commit_keeps (unedited : World.Unedited view) (name : String)
    (outcome : Files → Except Files.EditFault (Option Files)) (world : World) :
    Keeps view (commit name outcome) world := by
  unfold commit
  apply Keeps.bind Keeps.of_get
  intro _ _ hget
  obtain ⟨rfl, rfl⟩ := get_eq_ok.1 hget
  split
  · next files _ => exact unedited world files name
  · exact Keeps.of_pure
  · exact Keeps.of_throw
  · exact Keeps.of_pure
  · next fault files _ => exact unedited world files name

theorem overwrite_keeps (unedited : World.Unedited view) (name text : String) (world : World) :
    Keeps view (overwrite name text) world := by
  unfold overwrite
  split
  · exact Keeps.of_pure
  · exact commit_keeps unedited _ _ _

theorem replaceAll_keeps (unedited : World.Unedited view) (fixes : List Replacement)
    (world : World) : Keeps view (replaceAll fixes) world := by
  unfold replaceAll
  generalize PatchCounts.mk 0 0 0 = counts
  induction fixes generalizing counts world with
  | nil => exact Keeps.of_pure
  | cons fix fixes ih =>
    rw [List.foldlM_cons]
    apply Keeps.bind
    · unfold countFix
      split
      · exact Keeps.of_pure
      · apply Keeps.bind (commit_keeps unedited _ _ world)
        intro success _ _
        cases success with
        | true => exact Keeps.of_pure
        | false => exact Keeps.of_pure
    · intro counts world _
      exact ih world counts

end Patch

end LintRemedy
