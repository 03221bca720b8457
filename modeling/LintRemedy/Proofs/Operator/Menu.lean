import Mathlib.Data.List.Nodup
import LintRemedy.Proofs.Loop.Footprint
import LintRemedy.Proofs.Loop.Performance
import LintRemedy.Proofs.Operator.TypedLine
import LintRemedy.Proofs.Patch.Atomicity

/-!
This module contains what comes of the menu of a bundle. However often the questions are put again, the
last lines that are typed lead to an action that the bundle has something for: there are such fixes, a new
text of the config, or a question. So nothing that was chosen gets lost when the action is carried out.
-/

namespace LintRemedy

open LintRemedy.Action

namespace Console

variable {question default answer : String} {terminal terminal' : Terminal} {decision : Bool}

theorem readLine_eq_ok {prompt line : String} (h : readLine prompt terminal = .ok line terminal') :
    terminal.keyboard = line :: terminal'.keyboard := by
  cases hkeyboard : terminal.keyboard with
  | nil =>
    obtain ⟨_, hread, _⟩ := readLine_of_nil hkeyboard prompt
    rw [hread] at h
    cases h
  | cons first rest =>
    obtain ⟨shown, hread, rfl⟩ := readLine_of_cons hkeyboard prompt
    rw [hread] at h
    cases h
    rfl

/-- The line that an answer is taken from. -/
theorem ask_eq_ok (h : ask question default terminal = .ok answer terminal') :
    ∃ line, terminal.keyboard = line :: terminal'.keyboard ∧
      answer = if line = "" then default else line := by
  unfold ask at h
  obtain ⟨line, _, hread, h⟩ := bind_eq_ok.1 h
  obtain ⟨rfl, rfl⟩ := pure_eq_ok.1 h
  exact ⟨line, readLine_eq_ok hread, rfl⟩

/-- Without a default the answer is the line itself. -/
theorem ask_eq_ok_of_empty (h : ask question "" terminal = .ok answer terminal') :
    terminal.keyboard = answer :: terminal'.keyboard := by
  obtain ⟨line, hline, rfl⟩ := ask_eq_ok h
  split
  · next hempty =>
    rw [hempty] at hline
    exact hline
  · exact hline

/-- The last line spells the decision, and those before it spell none. -/
theorem confirmAmong_eq_ok {byDefault : Bool} {lines : List String}
    (h : confirmAmong question byDefault lines terminal = .ok decision terminal') :
    ∃ undecided line, terminal.keyboard = undecided ++ line :: terminal'.keyboard ∧
      (∀ above ∈ undecided, decision? byDefault above = none) ∧
      decision? byDefault line = some decision := by
  induction lines generalizing terminal with
  | nil =>
    obtain ⟨_, _, _, h⟩ := bind_eq_ok.1 h
    exact (throw_eq_ok.1 h).elim
  | cons _ lines ih =>
    unfold confirmAmong at h
    obtain ⟨line, middle, hread, h⟩ := bind_eq_ok.1 h
    have hkeyboard := readLine_eq_ok hread
    cases hdecision : decision? byDefault line with
    | some decided =>
      rw [hdecision] at h
      obtain ⟨rfl, rfl⟩ := pure_eq_ok.1 h
      exact ⟨[], line, hkeyboard, List.forall_mem_nil _, hdecision⟩
    | none =>
      rw [hdecision] at h
      obtain ⟨_, shown, hprint, h⟩ := bind_eq_ok.1 h
      obtain rfl := modify_eq_ok.1 hprint
      obtain ⟨undecided, last, hrest, hundecided, hlast⟩ := ih h
      refine ⟨line :: undecided, last, ?_, List.forall_mem_cons.2 ⟨hdecision, hundecided⟩, hlast⟩
      rw [hkeyboard, List.cons_append, ← hrest]

theorem confirm_eq_ok {byDefault : Bool}
    (h : confirm question byDefault terminal = .ok decision terminal') :
    ∃ undecided line, terminal.keyboard = undecided ++ line :: terminal'.keyboard ∧
      (∀ above ∈ undecided, decision? byDefault above = none) ∧
      decision? byDefault line = some decision := by
  unfold confirm at h
  obtain ⟨_, _, hget, h⟩ := bind_eq_ok.1 h
  obtain ⟨rfl, rfl⟩ := get_eq_ok.1 hget
  exact confirmAmong_eq_ok h

end Console

/-- The word of a line: without blanks around it, and in lower case. -/
def Text.word (line : String) : String :=
  Text.lowered (Text.trimmed line)

namespace Operator.Interactive

/-- The last lines that are typed, and the action that they lead to. -/
inductive Leads (bundle : Bundle) : List String → Action → Prop
  | fix {choice line selection : String} {indices : List Int} :
    Text.word choice = "f" → selection = Text.word (if line = "" then "a" else line) →
    selection ≠ "c" → ¬ Misspells selection →
    indices = (positions bundle.fixes.length selection).map Int.ofNat → indices ≠ [] →
    Leads bundle [choice, line] { kind := .fix, indices }
  | disable {choice yes : String} {undecided : List String} :
    Text.word choice = "d" → bundle.disable.modifiedConfig ≠ "" →
    (∀ above ∈ undecided, Console.decision? false above = none) →
    Console.decision? false yes = some true →
    Leads bundle (choice :: (undecided ++ [yes])) { kind := .disable }
  | ignoreLine {choice which : String} : Text.word choice = "i" → Text.word which = "1" →
    Leads bundle [choice, which] { kind := .ignoreLine }
  | ignoreFile {choice which : String} : Text.word choice = "i" → Text.word which = "2" →
    Leads bundle [choice, which] { kind := .ignoreFile }
  | ask {choice question : String} : Text.word choice = "a" → Text.trimmed question ≠ "" →
    Leads bundle [choice, question] { kind := .ask, question := Text.trimmed question }
  | skip {choice : String} : Text.word choice = "s" → Leads bundle [choice] { kind := .skip }
  | quit {choice : String} : Text.word choice = "q" → Leads bundle [choice] { kind := .quit }

section Choices

variable {quiet : Bool} {bundle : Bundle} {action? : Option Action} {terminal terminal' : Terminal}

theorem announce_eq_ok {text : String} {u : Unit}
    (h : Console.announce quiet text terminal = .ok u terminal') :
    terminal'.keyboard = terminal.keyboard := by
  rw [Console.announce_eq] at h
  cases h
  exact Terminal.keyboard_shown _ _ _

theorem typed_eq_ok {α : Type} {outcome : Except NumeralFault α} {a : α}
    (h : typed outcome terminal = .ok a terminal') : outcome = .ok a ∧ terminal = terminal' := by
  cases outcome with
  | error fault => exact (throw_eq_ok.1 h).elim
  | ok b =>
    obtain ⟨rfl, rfl⟩ := pure_eq_ok.1 h
    exact ⟨rfl, rfl⟩

/-- Lines are taken from the keyboard, and if there is an action then the choice and these lines lead
to it. -/
def Takes (bundle : Bundle) (choice : List String) (terminal terminal' : Terminal)
    (action? : Option Action) : Prop :=
  ∃ lines, terminal.keyboard = lines ++ terminal'.keyboard ∧
    ∀ action, action? = some action → Leads bundle (choice ++ lines) action

theorem Takes.none {choice : List String} (lines : List String)
    (h : terminal.keyboard = lines ++ terminal'.keyboard) :
    Takes bundle choice terminal terminal' none :=
  ⟨lines, h, nofun⟩

theorem Takes.some {choice : List String} {action : Action} (lines : List String)
    (h : terminal.keyboard = lines ++ terminal'.keyboard)
    (leads : Leads bundle (choice ++ lines) action) :
    Takes bundle choice terminal terminal' (some action) := by
  refine ⟨lines, h, ?_⟩
  rintro _ ⟨⟩
  exact leads

theorem chooseReplacements_takes {choice : String} (hchoice : Text.word choice = "f")
    (h : chooseReplacements quiet bundle terminal = .ok action? terminal') :
    Takes bundle [choice] terminal terminal' action? := by
  unfold chooseReplacements at h
  split at h
  · obtain ⟨_, _, hshow, h⟩ := bind_eq_ok.1 h
    obtain ⟨rfl, rfl⟩ := pure_eq_ok.1 h
    exact .none [] (announce_eq_ok hshow).symm
  · obtain ⟨_, _, hshow, h⟩ := bind_eq_ok.1 h
    obtain ⟨answer, _, hask, h⟩ := bind_eq_ok.1 h
    obtain ⟨line, hline, rfl⟩ := Console.ask_eq_ok hask
    rw [announce_eq_ok hshow] at hline
    generalize hselection : Text.lowered (Text.trimmed (if line = "" then "a" else line)) = selection
      at h
    split at h
    · obtain ⟨rfl, rfl⟩ := pure_eq_ok.1 h
      exact .none [line] hline
    · next cancelled =>
      obtain ⟨indices, _, htyped, h⟩ := bind_eq_ok.1 h
      obtain ⟨hindices, rfl⟩ := typed_eq_ok htyped
      split at h
      · obtain ⟨_, _, hshow', h⟩ := bind_eq_ok.1 h
        obtain ⟨rfl, rfl⟩ := pure_eq_ok.1 h
        rw [← announce_eq_ok hshow'] at hline
        exact .none [line] hline
      · next hnonempty =>
        obtain ⟨rfl, rfl⟩ := pure_eq_ok.1 h
        obtain ⟨hspelt, hpositions⟩ := typedIndices_eq_ok_iff.1 hindices
        have hne : indices ≠ [] := by simpa using hnonempty
        exact .some [line] hline (.fix hchoice hselection.symm cancelled hspelt hpositions hne)

theorem chooseDisable_takes {choice : String} (hchoice : Text.word choice = "d")
    (h : chooseDisable quiet bundle terminal = .ok action? terminal') :
    Takes bundle [choice] terminal terminal' action? := by
  unfold chooseDisable at h
  split at h
  · obtain ⟨_, _, hshow, h⟩ := bind_eq_ok.1 h
    obtain ⟨rfl, rfl⟩ := pure_eq_ok.1 h
    exact .none [] (announce_eq_ok hshow).symm
  · next hconfig =>
    obtain ⟨_, _, hshow, h⟩ := bind_eq_ok.1 h
    obtain ⟨decision, _, hconfirm, h⟩ := bind_eq_ok.1 h
    obtain ⟨undecided, line, hkeyboard, hundecided, hline⟩ := Console.confirm_eq_ok hconfirm
    rw [announce_eq_ok hshow, List.append_cons] at hkeyboard
    cases decision with
    | false =>
      obtain ⟨rfl, rfl⟩ := pure_eq_ok.1 h
      exact .none (undecided ++ [line]) hkeyboard
    | true =>
      obtain ⟨rfl, rfl⟩ := pure_eq_ok.1 h
      exact .some (undecided ++ [line]) hkeyboard (.disable hchoice hconfig hundecided hline)

theorem chooseIgnore_takes {choice : String} (hchoice : Text.word choice = "i")
    (h : chooseIgnore terminal = .ok action? terminal') :
    Takes bundle [choice] terminal terminal' action? := by
  unfold chooseIgnore at h
  obtain ⟨answer, _, hask, h⟩ := bind_eq_ok.1 h
  obtain ⟨line, hline, hanswer⟩ := Console.ask_eq_ok hask
  -- An empty line stands for the word that cancels.
  have hword : Text.word answer ≠ "c" → Text.word line = Text.word answer := by
    intro hnot
    rw [hanswer] at hnot ⊢
    split at hnot
    · exact absurd (by decide +kernel) hnot
    · next hline => rw [if_neg hline]
  generalize hgiven : Text.lowered (Text.trimmed answer) = given at h
  change Text.word answer = given at hgiven
  rw [hgiven] at hword
  split at h
  · obtain ⟨rfl, rfl⟩ := pure_eq_ok.1 h
    exact .some [line] hline (.ignoreLine hchoice (hword (by decide)))
  · obtain ⟨rfl, rfl⟩ := pure_eq_ok.1 h
    exact .some [line] hline (.ignoreFile hchoice (hword (by decide)))
  · obtain ⟨rfl, rfl⟩ := pure_eq_ok.1 h
    exact .none [line] hline

theorem chooseQuestion_takes {choice : String} (hchoice : Text.word choice = "a")
    (h : chooseQuestion terminal = .ok action? terminal') :
    Takes bundle [choice] terminal terminal' action? := by
  unfold chooseQuestion at h
  obtain ⟨line, _, hask, h⟩ := bind_eq_ok.1 h
  have hline := Console.ask_eq_ok_of_empty hask
  split at h
  · obtain ⟨rfl, rfl⟩ := pure_eq_ok.1 h
    exact .none [line] hline
  · next hquestion =>
    obtain ⟨rfl, rfl⟩ := pure_eq_ok.1 h
    exact .some [line] hline (.ask hchoice hquestion)

theorem Takes.cons {choice : String} {middle : Terminal}
    (first : terminal.keyboard = choice :: middle.keyboard)
    (h : Takes bundle [choice] middle terminal' action?) :
    Takes bundle [] terminal terminal' action? := by
  obtain ⟨lines, hlines, hleads⟩ := h
  refine ⟨choice :: lines, ?_, hleads⟩
  rw [first, hlines, List.cons_append]

/-- One time through the menu. -/
theorem chooseAction_takes (h : chooseAction quiet bundle terminal = .ok action? terminal') :
    Takes bundle [] terminal terminal' action? := by
  unfold chooseAction at h
  obtain ⟨_, _, hshow, h⟩ := bind_eq_ok.1 h
  obtain ⟨choice, _, hask, h⟩ := bind_eq_ok.1 h
  have first := Console.ask_eq_ok_of_empty hask
  rw [announce_eq_ok hshow] at first
  generalize hchoice : Text.lowered (Text.trimmed choice) = given at h
  split at h
  · exact .cons first (chooseReplacements_takes hchoice h)
  · exact .cons first (chooseDisable_takes hchoice h)
  · exact .cons first (chooseIgnore_takes hchoice h)
  · exact .cons first (chooseQuestion_takes hchoice h)
  · obtain ⟨rfl, rfl⟩ := pure_eq_ok.1 h
    exact .some [choice] first (.skip hchoice)
  · obtain ⟨rfl, rfl⟩ := pure_eq_ok.1 h
    exact .some [choice] first (.quit hchoice)
  · obtain ⟨_, _, hshow', h⟩ := bind_eq_ok.1 h
    obtain ⟨rfl, rfl⟩ := pure_eq_ok.1 h
    rw [← announce_eq_ok hshow'] at first
    exact .none [choice] first

/-- However often the menu comes again, the last lines lead to the action. -/
theorem actWithin_eq_ok {n : Nat} {action : Action}
    (h : actWithin quiet bundle n terminal = .ok action terminal') : ∃ earlier last,
      terminal.keyboard = earlier ++ last ++ terminal'.keyboard ∧ Leads bundle last action := by
  induction n generalizing terminal with
  | zero => exact (throw_eq_ok.1 h).elim
  | succ n ih =>
    unfold actWithin at h
    obtain ⟨action?, middle, hchoose, h⟩ := bind_eq_ok.1 h
    obtain ⟨lines, hlines, hleads⟩ := chooseAction_takes hchoose
    cases action? with
    | some chosen =>
      obtain ⟨rfl, rfl⟩ := pure_eq_ok.1 h
      exact ⟨[], lines, hlines, hleads chosen rfl⟩
    | none =>
      obtain ⟨earlier, last, hrest, hlast⟩ := ih h
      refine ⟨lines ++ earlier, last, ?_, hlast⟩
      rw [hlines, hrest, List.append_assoc, List.append_assoc, List.append_assoc]

end Choices

end Operator.Interactive

/-- A bundle has what it takes to carry an action out. -/
structure Action.Executable (bundle : Bundle) (action : Action) : Prop where
  fix : action.kind = .fix → action.indices ≠ [] ∧ action.indices.Nodup ∧
    ∀ i ∈ action.indices, 0 ≤ i ∧ i < bundle.fixes.length
  disable : action.kind = .disable → bundle.disable.modifiedConfig ≠ ""
  ask : action.kind = .ask → action.question ≠ "" ∧ Text.trimmed action.question = action.question

theorem Operator.Interactive.Leads.executable {bundle : Bundle} {lines : List String}
    {action : Action} (h : Leads bundle lines action) : action.Executable bundle := by
  cases h with
  | fix _ _ _ _ hindices hne =>
    refine ⟨fun _ => ⟨hne, ?_, ?_⟩, nofun, nofun⟩
    · rw [hindices]
      exact List.Nodup.map (fun _ _ => Int.ofNat.inj) (nodup_positions _ _)
    · rw [hindices, List.forall_mem_map]
      intro i hi
      have hlt := lt_of_mem_positions hi
      exact ⟨Int.natCast_nonneg i, Int.ofNat_lt.2 hlt⟩
  | disable _ hconfig => exact ⟨nofun, fun _ => hconfig, nofun⟩
  | ask _ hquestion =>
    refine ⟨nofun, nofun, fun _ => ⟨hquestion, ?_⟩⟩
    unfold Text.trimmed
    rw [String.toList_ofList, Text.trim_trim]
  | ignoreLine | ignoreFile | skip | quit => exact ⟨nofun, nofun, nofun⟩

namespace Loop

open Patch

variable {config : String} {group : RuleGroup} {bundle : Bundle} {action : Action}
  {world world' : World} {outcome : Outcome}

/-- Positions in range stand for one fix each. -/
theorem forall₂_chosenFixes {fixes : List Replacement} {indices : List Int}
    (h : ∀ i ∈ indices, 0 ≤ i ∧ i < fixes.length) :
    List.Forall₂ (fun i fix => fixes[i.toNat]? = some fix) indices (chosenFixes fixes indices) := by
  induction indices with
  | nil => exact .nil
  | cons i indices ih =>
    rw [List.forall_mem_cons] at h
    have hlt : i.toNat < fixes.length := by omega
    have hget := List.getElem?_eq_getElem hlt
    have hcons : chosenFixes fixes (i :: indices) =
        fixes[i.toNat] :: chosenFixes fixes indices := by
      apply List.filterMap_cons_some
      rw [if_pos h.1.1, hget]
    rw [hcons]
    exact .cons hget (ih h.2)

/-- What becomes of an action that a bundle has everything for. -/
structure Accounts (bundle : Bundle) (action : Action) : Prop where
  /-- None of the chosen positions is dropped. -/
  chosen : action.kind = .fix → List.Forall₂ (fun i fix => bundle.fixes[i.toNat]? = some fix)
    action.indices (chosenFixes bundle.fixes action.indices)
  /-- It comes to something unless a chosen fix stops for its name or for a text without bytes. -/
  fixes_iff : action.kind = .fix → ∀ config group world,
    (∃ outcome world', perform config group bundle action world = .ok outcome world') ↔
      ∀ fault world', ¬ Halts (chosenFixes bundle.fixes action.indices) world fault world'
  /-- Each of the chosen fixes is counted once. -/
  counted : action.kind = .fix → ∀ config group world outcome world',
    perform config group bundle action world = .ok outcome world' →
      outcome.fixed + outcome.skipped = action.indices.length
  /-- The new text of the config is written unless the file cannot be. -/
  written : action.kind = .disable → ∀ config group world outcome world',
    perform config group bundle action world = .ok outcome world' →
      outcome.skipped = 1 - outcome.fixed ∧ (outcome.fixed = 1 ↔
        ∃ files, world.files.editText config bundle.disable.modifiedConfig = .ok files)

theorem perform_fix (h : action.kind = .fix) : perform config group bundle action = (do
    let counts ← replaceAll (chosenFixes bundle.fixes action.indices)
    return ⟨counts.success, counts.failed + counts.skipped,
      "Applied " ++ toString counts.success ++ " fix(es), " ++ toString counts.failed
        ++ " failed, " ++ toString counts.skipped ++ " skipped", 0 < counts.success⟩) := by
  unfold perform
  rw [h]

theorem perform_of_halts {fault : Fault} (h : action.kind = .fix)
    (halts : Halts (chosenFixes bundle.fixes action.indices) world fault world') :
    perform config group bundle action world = .error fault world' := by
  rw [perform_fix h]
  exact bind_of_error (replaceAll_eq_error_iff.2 halts)

theorem perform_disable (h : action.kind = .disable) :
    perform config group bundle action = (do
      if ← overwrite config bundle.disable.modifiedConfig then
        return ⟨1, 0, "Disabled " ++ bundle.ruleId ++ " in config", true⟩
      else return ⟨0, 1, "Failed to apply config change", false⟩) := by
  unfold perform
  rw [h]

theorem accounts_of_executable (h : action.Executable bundle) : Accounts bundle action where
  chosen kind := forall₂_chosenFixes (h.fix kind).2.2
  fixes_iff kind config group world := by
    rw [perform_fix kind]
    refine .trans ?_ replaceAll_eq_ok_iff
    constructor
    · rintro ⟨outcome, world', hperform⟩
      obtain ⟨counts, _, hreplace, _⟩ := bind_eq_ok.1 hperform
      exact ⟨counts, _, hreplace⟩
    · rintro ⟨counts, world', hreplace⟩
      exact ⟨_, _, bind_of_ok hreplace⟩
  counted kind config group world outcome world' hperform := by
    rw [perform_fix kind] at hperform
    obtain ⟨counts, _, hreplace, hreturn⟩ := bind_eq_ok.1 hperform
    obtain ⟨rfl, _⟩ := pure_eq_ok.1 hreturn
    have hsum := sum_of_replaceAll hreplace
    rw [(forall₂_chosenFixes (h.fix kind).2.2).length_eq]
    dsimp only
    omega
  written kind config group world outcome world' hperform := by
    rw [perform_disable kind] at hperform
    obtain ⟨success, _, hwrite, hreturn⟩ := bind_eq_ok.1 hperform
    have hrun : (Operation.overwrite config bundle.disable.modifiedConfig).run world =
        .ok success _ := hwrite
    have hall := Operation.allOrNothing_of_run hrun
    have htext : (Operation.overwrite config bundle.disable.modifiedConfig).text? world.files =
        some bundle.disable.modifiedConfig := if_neg (h.disable kind)
    have hsuccess : success = true ↔
        ∃ files, world.files.editText config bundle.disable.modifiedConfig = .ok files := by
      rw [hall.success_iff, htext]
      constructor
      · rintro ⟨_, files, ⟨⟩, hfiles⟩
        exact ⟨files, hfiles⟩
      · rintro ⟨files, hfiles⟩
        exact ⟨_, files, rfl, hfiles⟩
    rw [← hsuccess]
    cases success with
    | true =>
      obtain ⟨rfl, _⟩ := pure_eq_ok.1 hreturn
      exact ⟨rfl, iff_of_true rfl rfl⟩
    | false =>
      obtain ⟨rfl, _⟩ := pure_eq_ok.1 hreturn
      exact ⟨rfl, iff_of_false nofun nofun⟩

/-- Whatever is typed, an action that comes of it can be carried out: what was chosen is there and gets
counted, unless a chosen fix stops for a name that no file can have or for a text without bytes. -/
theorem typed_actions_executable {quiet : Bool} {terminal terminal' : Terminal}
    (h : (Operator.interactive quiet).act bundle () terminal = .ok (action, ()) terminal') :
    (∃ earlier last, terminal.keyboard = earlier ++ last ++ terminal'.keyboard ∧
      Operator.Interactive.Leads bundle last action) ∧
    action.Executable bundle ∧ Accounts bundle action := by
  obtain ⟨_, _, _, hshow, h⟩ := Deciding.bind_eq_ok.1 h
  obtain ⟨rfl, rfl⟩ := Deciding.announce_eq_ok.1 hshow
  obtain ⟨_, _, _, hget, h⟩ := Deciding.bind_eq_ok.1 h
  cases hget
  -- The lines are read on the terminal, and the memory is passed on beside it.
  obtain ⟨_, _, hact, h⟩ := bind_eq_ok.1 h
  obtain ⟨hpair, rfl⟩ := pure_eq_ok.1 h
  obtain ⟨rfl, _⟩ := Prod.mk.inj hpair
  obtain ⟨earlier, last, hkeyboard, hleads⟩ := Operator.Interactive.actWithin_eq_ok hact
  rw [Terminal.keyboard_shown] at hkeyboard
  exact ⟨⟨earlier, last, hkeyboard, hleads⟩, hleads.executable,
    accounts_of_executable hleads.executable⟩

/-- A bundle with two fixes, of which the second one is for a file that cannot be. -/
def offered : Bundle :=
  ⟨"eqeqeq", 2, .error, Remedy.placeholder, Remedy.noChange, [strictFix, misnamedFix]⟩

/-- The second time the menu comes there is a usable answer. -/
theorem typed_actions_executable_secondTime : ∃ terminal',
    (Operator.interactive true).act offered () (Terminal.fresh ["F", "c", "f", "9, 1,1", "q"]) =
      .ok ({ kind := .fix, indices := [0] }, ()) terminal' ∧ terminal'.keyboard = ["q"] ∧
    Accounts offered { kind := .fix, indices := [0] } := by
  have hact : ∃ terminal', (Operator.interactive true).act offered ()
      (Terminal.fresh ["F", "c", "f", "9, 1,1", "q"]) =
        .ok ({ kind := .fix, indices := [0] }, ()) terminal' ∧ terminal'.keyboard = ["q"] :=
    ⟨_, rfl, rfl⟩
  obtain ⟨terminal', hact, hrest⟩ := hact
  exact ⟨terminal', hact, hrest, (typed_actions_executable hact).2.2⟩

/-- A hosted service that has the time to answer. -/
def hostedChannel : Oracle.Channel where
  provider := {
    name := "cloud"
    transport := .chatService
    defaultModel := ""
    models := []
    baseUrl := "https://cloud" }
  model := ""
  timeLimit := .wholeSeconds 60

/-- A project with a finding, where half of a pair is proposed as the new code. -/
def halfWorld : World :=
  let said := "\x7b\"start_line\":1,\"end_line\":1,\"fixed_code\":\"\\ud83d\"\x7d"
  { World.empty with
    files := { (Files.empty ["w"]).set ["w", "a.js"] (.text "a") with halves := true }
    keys := [("cloud", "key")]
    replies := [⟨.silent, []⟩, ⟨.silent, []⟩, ⟨.spoken 200 (.str said), []⟩] }

/-- The fix with the half. -/
def halfFix : Replacement :=
  ⟨"/w/a.js", 1, 1, "a", String.singleton (Text.codeChar 0xD83D), "No explanation provided"⟩

/-- A bundle that is made for a finding may hold half of a pair. If the fix is chosen, the file is left
empty, and nothing is counted. -/
theorem gathered_half : ∃ bundle talk',
    Remedy.gather hostedChannel 10
      ⟨some "r", .error, 1, false, 0, [⟨"a.js", "/w/a.js", 1, 1, false⟩], [], []⟩ ""
      ⟨halfWorld, {}⟩ = .ok (some bundle) talk' ∧
    (∃ terminal', (Operator.interactive true).act bundle () (Terminal.fresh ["f", "1"]) =
      .ok ({ kind := .fix, indices := [0] }, ()) terminal') ∧
    ∀ config group, ∃ fault world',
      perform config group bundle { kind := .fix, indices := [0] } talk'.world =
        .error (.unencodable fault) world' ∧
      world'.files.readText "/w/a.js" = .ok "" := by
  have passes : Action.passes (fun bundle talk => decide (talk.world.files = halfWorld.files ∧
      bundle = some ⟨"r", 1, .error, Remedy.placeholder, Remedy.noChange, [halfFix]⟩))
      (Remedy.gather hostedChannel 10
        ⟨some "r", .error, 1, false, 0, [⟨"a.js", "/w/a.js", 1, 1, false⟩], [], []⟩ "")
      ⟨halfWorld, {}⟩ := by decide +kernel
  obtain ⟨_, talk', hgather, hcheck⟩ := exists_of_passes passes
  obtain ⟨hfiles, rfl⟩ := of_decide_eq_true hcheck
  refine ⟨_, talk', hgather, ⟨_, rfl⟩, fun config group => ?_⟩
  obtain ⟨fault, world', stops, left⟩ : ∃ fault world',
      (Operation.replace halfFix).Stops talk'.world (.unencodable fault) world' ∧
        world'.files = halfWorld.files.set ["w", "a.js"] (.text "") := by
    refine ⟨⟨.utf8, 0, Text.codeChar 0xD83D, 0⟩, _, @Operation.Stops.cutShort _ _ halfFix.new
      ["w", "a.js"] _ ?_ ?_ ?_, ?_⟩
    · rw [hfiles]
      decide +kernel
    · rw [hfiles]
      decide +kernel
    · rw [hfiles]
      decide +kernel
    · rw [hfiles]
      rfl
  refine ⟨fault, world', perform_of_halts rfl ?_, ?_⟩
  · exact ⟨[], halfFix, [], _, talk'.world, rfl, rfl, rfl, stops⟩
  · rw [left]
    decide +kernel

end Loop

end LintRemedy
