import LintRemedy.Proofs.Analyzer.Process
import LintRemedy.Proofs.Patch.Replacement

/-!
This module contains what the parts of the program do to files: the patching of a file writes to that
file and at most once, and no other part writes at all. The analyzer and the oracle change files only
while they are asked.
-/

namespace LintRemedy

variable {allowed : String → String → Prop} {n : Nat} {α : Type} {world : World}

open LintRemedy.Action

theorem Within.of_others {happening : Happening}
    (h : ∀ name text, happening ≠ .wrote name text) : Within allowed 0 [happening] where
  allowed name text hmem := (h name text (List.mem_singleton.1 hmem).symm).elim
  limit := by
    cases happening with
    | wrote name text => exact (h name text rfl).elim
    | _ => exact Nat.le_refl 0

/-- The account of what comes first is put before that of what follows. -/
theorem Action.Confined.of_unfolds {σ : Type} {view : σ → World} {act act' : EStateM Fault σ α}
    {s : σ} (happening : Happening) (s' : σ) (unfolds : (view s).Unfolds [happening] (view s'))
    (others : ∀ name text, happening ≠ .wrote name text) (hact : act s = act' s')
    (rest : Confined view allowed n act' s') : Confined view allowed n act s := by
  obtain ⟨account, hrest, within⟩ := rest
  refine ⟨happening :: account, ?_, ?_⟩
  · rw [hact]
    exact unfolds.append hrest
  · have hall := (Within.of_others others).append within
    rw [Nat.zero_add] at hall
    exact hall

namespace Act

theorem ofConsole_confined (act : Console α) (world : World) :
    Confined id allowed n (Act.ofConsole act) world := by
  apply Confined.idle
  all_goals
    unfold Act.ofConsole
    cases act world.terminal <;> rfl

theorem ofExcept_confined {ε : Type} (toFault : ε → Fault) (outcome : Except ε α) :
    Confined id allowed n (Act.ofExcept toFault outcome) world := by
  cases outcome with
  | ok a => exact Confined.of_pure
  | error e => exact Confined.of_throw

theorem attempt_confined {act : Act α} (h : Confined id allowed n act world) :
    Confined id allowed n (Act.attempt act) world := by
  obtain ⟨account, unfolds, within⟩ := h
  refine ⟨account, ?_, within⟩
  unfold Act.attempt
  cases hact : act world with
  | ok a world' =>
    rw [hact] at unfolds
    exact unfolds
  | error e world' =>
    rw [hact] at unfolds
    exact unfolds

end Act

theorem Dialogue.ofAct_confined {act : Act α} {talk : Talk}
    (h : Confined id allowed n act talk.world) :
    Confined Talk.world allowed n (Dialogue.ofAct act) talk := by
  obtain ⟨account, unfolds, within⟩ := h
  refine ⟨account, ?_, within⟩
  unfold Dialogue.ofAct
  cases hact : act talk.world with
  | ok a world =>
    rw [hact] at unfolds
    exact unfolds
  | error e world =>
    rw [hact] at unfolds
    exact unfolds

namespace Patch

variable {name : String} {outcome : Files → Except Files.EditFault (Option Files)}

/-- A file operation writes to its file if it changes anything. -/
theorem commit_confined
    (h : ∀ files files', (outcome files = .ok (some files') ∨
      ∃ fault, outcome files = .error (.cutShort fault files')) →
      ∃ text, files.Writes name text files' ∧ allowed name text) (world : World) :
    Confined id allowed 1 (commit name outcome) world := by
  have within : ∀ text, allowed name text → Within allowed 1 [.wrote name text] := by
    intro text hallowed
    refine ⟨?_, Nat.le_refl 1⟩
    intro name' text' hmem
    cases List.mem_singleton.1 hmem
    exact hallowed
  unfold commit
  apply Confined.bind_of_silent Confined.of_get
  intro current _ hget
  obtain ⟨rfl, rfl⟩ := get_eq_ok.1 hget
  split
  · next files houtcome =>
    obtain ⟨text, hwrite, hallowed⟩ := h _ _ (.inl houtcome)
    exact ⟨[.wrote name text], ⟨.cons hwrite .nil, rfl⟩, within text hallowed⟩
  · exact Confined.of_pure
  · exact Confined.of_throw
  · exact Confined.of_pure
  · next fault files houtcome =>
    obtain ⟨text, hwrite, hallowed⟩ := h _ _ (.inr ⟨fault, houtcome⟩)
    exact ⟨[.wrote name text], ⟨.cons hwrite .nil, rfl⟩, within text hallowed⟩

theorem revise_confined (edit : List Char → Option (List Char)) (h : ∀ text, allowed name text)
    (world : World) : Confined id allowed 1 (commit name (revised name edit)) world := by
  apply commit_confined
  intro files files' hrevised
  obtain ⟨text, hwrite⟩ := revised_writes hrevised
  exact ⟨text, hwrite, h text⟩

theorem overwrite_confined {text : String} (h : allowed name text) (world : World) :
    Confined id allowed 1 (overwrite name text) world := by
  unfold overwrite
  split
  · exact Confined.of_pure
  · apply commit_confined
    intro files files' hedit
    exact ⟨text, writes_of_map hedit, h⟩

theorem countFix_confined {fix : Replacement} (h : ∀ text, allowed fix.file text)
    (counts : PatchCounts) (world : World) :
    Confined id allowed 1 (countFix counts fix) world := by
  unfold countFix
  split
  · exact Confined.of_pure
  · apply (revise_confined _ h world).bind (n := 0)
    intro success _ _
    cases success with
    | true => exact Confined.of_pure
    | false => exact Confined.of_pure

theorem replaceAll_confined {fixes : List Replacement}
    (h : ∀ fix ∈ fixes, ∀ text, allowed fix.file text) (world : World) :
    Confined id allowed fixes.length (replaceAll fixes) world := by
  unfold replaceAll
  generalize PatchCounts.mk 0 0 0 = counts
  induction fixes generalizing counts world with
  | nil => exact Confined.of_pure
  | cons fix fixes ih =>
    rw [List.foldlM_cons, List.length_cons, Nat.add_comm]
    rw [List.forall_mem_cons] at h
    apply (countFix_confined h.1 counts world).bind
    intro counts world' _
    exact ih h.2 world' counts

end Patch

namespace Analyzer

theorem run_confined (analyzer : Analyzer) (arguments : List String) (world : World) :
    Confined id allowed n (analyzer.run arguments) world := by
  apply Confined.of_unfolds (.analyzed (analyzer.command ++ arguments) analyzer.root
    (analyzer.changes arguments world)) (analyzer.ranWorld arguments world)
  · constructor
    · exact .cons (analyzer.ranWorld_files arguments world).symm .nil
    · exact analyzer.ranWorld_deeds arguments world
  · nofun
  · exact analyzer.run_eq arguments world
  · -- What is made of the answer changes nothing more.
    exact Act.ofExcept_confined _ _

theorem findings_confined (analyzer : Analyzer) (target : String) (world : World) :
    Confined id allowed n (analyzer.findings target) world := by
  unfold findings report
  apply Confined.bind_of_silent
  · apply Confined.bind_of_silent (analyzer.run_confined _ world)
    intro _ _ _
    exact Act.ofExcept_confined _ _
  · intro _ _ _
    exact Act.ofExcept_confined _ _

theorem scan_confined (analyzer : Analyzer) (target : String) (world : World) :
    Confined id allowed n (analyzer.scan target) world :=
  (analyzer.findings_confined target world).map

theorem repair_confined (analyzer : Analyzer) (target : String) (world : World) :
    Confined id allowed n (analyzer.repair target) world := by
  unfold repair
  apply Confined.bind_of_silent (analyzer.run_confined _ world)
  rintro ⟨status, _, stderr⟩ _ _
  dsimp only
  split
  · exact Confined.of_pure
  · exact Confined.of_throw

end Analyzer

namespace Oracle.Channel

theorem takeAnswer_eq (provider : Provider) (world : World) :
    ∃ outcome changes world', takeAnswer provider world = .ok outcome world' ∧
      world'.files = world.files.afterChanges changes ∧ world'.deeds = world.deeds := by
  unfold takeAnswer
  cases h : world.replies with
  | nil =>
    refine ⟨exhausted provider, [], world, bind_eq_ok.2 ⟨world, world, rfl, ?_⟩, rfl, rfl⟩
    rw [h]
    rfl
  | cons answer replies =>
    refine ⟨answer.outcome, answer.changes, { world with replies }.afterChanges answer.changes,
      bind_eq_ok.2 ⟨world, world, rfl, ?_⟩, rfl, rfl⟩
    rw [h]
    rfl

/-- A request is one happening: the answer is taken, it is put on record, and then it is read. -/
theorem answer_confined {provider : Provider} {deed : OracleOutcome → Deed}
    {read : OracleOutcome → Act α} (happening : OracleOutcome → FileChanges → Happening)
    (hdeed : ∀ outcome changes, (happening outcome changes).deed = deed outcome)
    (leads : ∀ outcome changes files,
      Happening.Leads files (happening outcome changes) (files.afterChanges changes))
    (others : ∀ outcome changes name text, happening outcome changes ≠ .wrote name text)
    (hread : ∀ outcome world, Confined id allowed n (read outcome) world) (world : World) :
    Confined id allowed n (do
      let outcome ← takeAnswer provider
      Act.record (deed outcome)
      read outcome) world := by
  obtain ⟨outcome, changes, answered, htake, hfiles, hdeeds⟩ := takeAnswer_eq provider world
  apply Confined.of_unfolds (happening outcome changes) (answered.record (deed outcome))
  · constructor
    · apply Files.Follows.cons _ .nil
      change Happening.Leads world.files _ answered.files
      rw [hfiles]
      exact leads outcome changes world.files
    · change answered.deeds ++ _ = world.deeds ++ _
      rw [hdeeds, ← hdeed outcome changes]
      rfl
  · exact others outcome changes
  · exact (bind_of_ok htake).trans (bind_of_ok rfl)
  · exact hread outcome _

variable (channel : Channel) (prompt : String) (schema : Schema)

theorem startMute_confined (command : List String) (fault : Text.EncodeFault) (world : World) :
    Confined id allowed n (channel.startMute command fault) world := by
  apply answer_confined fun _ => .prompted command none false
  · exact fun _ _ => rfl
  · exact fun _ _ _ => rfl
  · exact fun _ _ => nofun
  · intro outcome _
    cases outcome <;> exact Confined.of_pure

theorem startAgent_confined (command : List String) (world : World) :
    Confined id allowed n (channel.startAgent command prompt schema) world := by
  apply answer_confined fun outcome => .prompted command (sentTo prompt outcome) (outcome = .silent)
  · exact fun _ _ => rfl
  · exact fun _ _ _ => rfl
  · exact fun _ _ => nofun
  · intro outcome _
    cases outcome with
    | notStarted | timedOut | silent => exact Confined.of_pure
    | finished | responded | spoken | unreachable => exact (Act.ofExcept_confined _ _).map

theorem askAgent_confined (handle : Option String) (world : World) :
    Confined id allowed n (channel.askAgent prompt schema handle) world := by
  unfold askAgent
  apply Confined.bind_of_silent Confined.of_get
  intro _ _ _
  split
  · exact Confined.of_pure
  · exact channel.startMute_confined _ _ _
  · exact channel.startAgent_confined prompt schema _ _

theorem post_confined (address : Address) (authorization : Option String) (world : World) :
    Confined id allowed n (channel.post prompt schema address authorization) world := by
  apply answer_confined fun _ => .posted address.text authorization (channel.body prompt)
  · exact fun _ _ => rfl
  · exact fun _ _ _ => rfl
  · exact fun _ _ => nofun
  · intro outcome _
    cases outcome with
    | unreachable | timedOut | silent => exact Confined.of_pure
    | finished | notStarted | responded | spoken => exact (Act.ofExcept_confined _ _).map

theorem askService_confined (world : World) :
    Confined id allowed n (channel.askService prompt schema) world := by
  unfold askService key
  apply Confined.bind_of_silent
  · apply Confined.bind_of_silent Confined.of_get
    intro _ _ _
    exact Confined.of_pure
  · intro key _ _
    split
    · exact Confined.of_pure
    · split
      · exact Confined.of_pure
      · apply Confined.bind_of_silent (Act.ofExcept_confined _ _)
        intro _ _ _
        exact channel.post_confined prompt schema _ _ _

theorem send_confined (handle : Option String) (world : World) :
    Confined id allowed n (channel.send prompt schema handle) world := by
  unfold send
  apply Confined.bind_of_silent (Act.ofExcept_confined _ _)
  intro isOver _ _
  split
  · exact Confined.of_pure
  · split
    · exact channel.askAgent_confined prompt schema handle _
    · exact channel.askService_confined prompt schema _

theorem request_confined (handle : Option String) (world : World) :
    Confined id allowed n (channel.request prompt schema handle) world := by
  unfold request
  apply Confined.bind_of_silent (channel.send_confined _ schema handle world)
  intro exchange _ _
  split
  · apply Confined.bind_of_silent (Act.ofExcept_confined _ _)
    intro _ _ _
    exact Confined.of_pure
  · exact Confined.of_pure
  · apply Confined.bind_of_silent (Act.ofExcept_confined _ _)
    intro _ _ _
    apply Confined.bind_of_silent (Act.ofExcept_confined _ _)
    intro _ _ _
    exact Confined.of_pure

end Oracle.Channel

theorem ConfigFile.read_confined (path : String) (world : World) :
    Confined id allowed n (ConfigFile.read path) world := by
  unfold ConfigFile.read
  apply Confined.bind_of_silent Confined.of_get
  intro _ _ _
  split
  · exact Confined.of_pure
  · exact Confined.of_throw
  · exact Confined.of_pure

namespace Remedy

variable {channel : Oracle.Channel} {window : Int} {talk : Talk}

theorem converse_confined {ask : Option String → Act Reply}
    (h : ∀ handle world, Confined id allowed n (ask handle) world) (talk : Talk) :
    Confined Talk.world allowed n (converse ask) talk := by
  unfold converse
  apply Confined.bind_of_silent Confined.of_get
  intro _ _ _
  apply Confined.bind (n := 0) (Dialogue.ofAct_confined (h _ _))
  intro _ _ _
  apply Confined.bind_of_silent (Confined.of_modify rfl rfl)
  intro _ _ _
  exact Confined.of_pure

theorem inquire_confined {read : Json → Except Json.RenderFault (Option α)}
    {ask : Option String → Act Reply} (h : ∀ handle world, Confined id allowed n (ask handle) world)
    (talk : Talk) : Confined Talk.world allowed n (inquire read ask) talk := by
  apply Confined.bind (n := 0) (converse_confined h talk)
  intro _ _ _
  exact Dialogue.ofAct_confined (Act.ofExcept_confined _ _)

theorem currentLines_confined (file : String) (world : World) :
    Confined id allowed n (currentLines file) world := by
  unfold currentLines
  apply Confined.bind_of_silent Confined.of_get
  intro _ _ _
  split
  · exact Confined.of_pure
  · exact Confined.of_throw
  · exact Confined.of_pure

theorem replacementAt_confined (rule message : String) (location : Location) (talk : Talk) :
    Confined Talk.world allowed n (replacementAt channel window rule message location) talk := by
  unfold replacementAt
  apply Confined.bind_of_silent (Dialogue.ofAct_confined (currentLines_confined _ _))
  intro lines _ _
  cases lines with
  | none => exact Confined.of_pure
  | some lines =>
    apply Confined.bind_of_silent
    · apply converse_confined
      intro handle world
      exact channel.request_confined _ _ handle world
    · intro reply _ _
      split
      · exact Confined.of_pure
      · apply Confined.bind_of_silent (Dialogue.ofAct_confined (currentLines_confined _ _))
        intro lines _ _
        cases lines with
        | none => exact Confined.of_pure
        | some lines => exact Confined.of_pure

theorem replacementsAt_confined (rule message : String) (locations : List Location) (talk : Talk) :
    Confined Talk.world allowed 0 (replacementsAt channel window rule message locations) talk := by
  induction locations generalizing talk with
  | nil => exact Confined.of_pure
  | cons location locations ih =>
    unfold replacementsAt
    apply Confined.bind_of_silent (replacementAt_confined rule message location talk)
    intro _ talk _
    apply Confined.bind_of_silent (ih talk)
    intro _ _ _
    exact Confined.of_pure

theorem gather_confined (group : RuleGroup) (config : String) (talk : Talk) :
    Confined Talk.world allowed n (gather channel window group config) talk := by
  unfold gather
  split
  · exact Confined.of_pure
  · apply Confined.bind_of_silent (inquire_confined (fun _ _ => channel.request_confined ..) talk)
    intro _ talk _
    apply Confined.bind_of_silent (inquire_confined (fun _ _ => channel.request_confined ..) talk)
    intro _ talk _
    apply Confined.bind_of_silent (replacementsAt_confined _ _ _ talk)
    intro _ _ _
    dsimp only
    split
    · exact Confined.of_pure
    · exact Confined.of_pure

theorem answerQuestion_confined (bundle : Bundle) (question : String) (talk : Talk) :
    Confined Talk.world allowed n (answerQuestion channel bundle question) talk := by
  unfold answerQuestion
  apply Confined.bind_of_silent (converse_confined (fun _ _ => channel.request_confined ..) talk)
  intro _ _ _
  exact Confined.of_pure

end Remedy

end LintRemedy
