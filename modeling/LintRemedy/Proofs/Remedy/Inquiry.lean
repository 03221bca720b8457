import LintRemedy.Proofs.Aggregation.ParseError
import LintRemedy.Proofs.Patch.LineComment
import LintRemedy.Proofs.Remedy.Contract
import LintRemedy.Proofs.Remedy.Isolation

/-!
This module contains what an oracle is asked about the locations of a rule group. The file and the line
are those of a location, but the message is the same for all of them: that of the first finding of the
rule, wherever it is. So an inquiry is about a finding of its own place exactly if one of the findings
there has this message.
-/

namespace LintRemedy

open LintRemedy.Action

namespace Remedy

/-- An oracle is asked something in the work on a group if what comes of the work depends on what the
oracle does then. -/
def Asks (group : RuleGroup) (oracle : Consultant) (window : Int) (config : String) (talk : Talk)
    (inquiry : Inquiry) : Prop :=
  ∃ oracle' : Consultant, (∀ other ≠ inquiry, oracle' other = oracle other) ∧
    consult oracle' window group config talk ≠ consult oracle window group config talk

/-- The locations above the first one that no file can be found for, as its name is bad. -/
def visited (locations : List Location) : List Location :=
  locations.takeWhile fun l => !Files.isBadName l.fileFull

theorem visited_cons (location : Location) (locations : List Location) :
    visited (location :: locations) =
      if Files.isBadName location.fileFull then [] else location :: visited locations := by
  unfold visited
  rw [List.takeWhile_cons]
  cases Files.isBadName location.fileFull <;> rfl

variable {oracle oracle' : Consultant} {window : Int} {rule message config : String}
  {location : Location} {locations : List Location} {group : RuleGroup} {talk : Talk}

section Agreement

/-- Two oracles that agree about a location bring the same about there. -/
theorem replacementBy_congr (h : CanBeRead location.fileFull → ∀ code,
    oracle' (.replacement rule location.fileFull location.line message code) =
      oracle (.replacement rule location.fileFull location.line message code)) :
    replacementBy oracle' window rule message location talk =
      replacementBy oracle window rule message location talk := by
  by_cases readable : CanBeRead location.fileFull
  · unfold replacementBy
    simp only [h readable]
  · cases hread : talk.world.files.readText location.fileFull with
    | ok text => exact (readable ⟨_, text, hread⟩).elim
    | error fault =>
      by_cases bad : ∃ cause, fault = .badName cause
      · obtain ⟨cause, rfl⟩ := bad
        rw [replacementBy_of_badName hread, replacementBy_of_badName hread]
      · rw [not_exists] at bad
        rw [replacementBy_of_fault hread bad, replacementBy_of_fault hread bad]

theorem replacementsBy_congr (h : ∀ l ∈ visited locations, CanBeRead l.fileFull → ∀ code,
    oracle' (.replacement rule l.fileFull l.line message code) =
      oracle (.replacement rule l.fileFull l.line message code)) :
    replacementsBy oracle' window rule message locations talk =
      replacementsBy oracle window rule message locations talk := by
  induction locations generalizing talk with
  | nil => rfl
  | cons location locations ih =>
    unfold replacementsBy
    cases hname : Files.isBadName location.fileFull with
    | true =>
      obtain ⟨cause, hcause⟩ := talk.world.files.nameFault?_of_isBadName hname
      have hread := Files.readText_eq_badName_iff.2 hcause
      rw [bind_of_error (replacementBy_of_badName hread),
        bind_of_error (replacementBy_of_badName hread)]
    | false =>
      rw [visited_cons, hname, if_neg (by simp), List.forall_mem_cons] at h
      refine bind_congr (replacementBy_congr h.1) ?_
      rintro ⟨fix, replied⟩ middle
      exact bind_congr (ih h.2) fun _ _ => rfl

theorem consult_congr (hrule : group.ruleId = some rule)
    (hfirst : ∀ source messages, oracle' (.explanation rule source messages) =
      oracle (.explanation rule source messages))
    (hsecond : oracle' (.configChange rule config) = oracle (.configChange rule config))
    (h : ∀ l ∈ visited group.locations, CanBeRead l.fileFull → ∀ code,
      oracle' (.replacement rule l.fileFull l.line (group.sampleMessages.head?.getD "") code) =
        oracle (.replacement rule l.fileFull l.line (group.sampleMessages.head?.getD "") code)) :
    consult oracle' window group config talk = consult oracle window group config talk := by
  unfold consult
  rw [hrule]
  dsimp only
  rw [hfirst, hsecond]
  refine bind_congr rfl fun explained first => ?_
  refine bind_congr rfl fun disabled second => ?_
  exact bind_congr (replacementsBy_congr h) fun _ _ => rfl

end Agreement

section Failure

/-- An oracle that has nothing to say. -/
def Consultant.mute : Consultant := fun _ handle world =>
  .ok ⟨.error "", handle⟩ world

/-- An oracle that fails when it is asked one thing, and is like another one otherwise. -/
def Consultant.failingAt (oracle : Consultant) (asked : Inquiry) (fault : Fault) : Consultant :=
  fun inquiry handle world =>
    if inquiry = asked then .error fault world else oracle inquiry handle world

variable {asked inquiry : Inquiry} {fault : Fault} {text : String}

theorem Consultant.failingAt_of_ne (oracle : Consultant) (h : inquiry ≠ asked) (fault : Fault) :
    oracle.failingAt asked fault inquiry = oracle inquiry := by
  funext handle world
  exact if_neg h

theorem converse_failingAt_self (oracle : Consultant) (asked : Inquiry) (fault : Fault)
    (talk : Talk) : converse (oracle.failingAt asked fault asked) talk = .error fault talk := by
  apply converse_of_error
  exact if_pos rfl

theorem converse_mute_failingAt (h : inquiry ≠ asked) (fault : Fault) (talk : Talk) :
    ∃ handle conversation, converse (Consultant.mute.failingAt asked fault inquiry) talk =
      .ok ⟨.error "", handle⟩ ⟨talk.world, conversation⟩ := by
  rw [Consultant.failingAt_of_ne _ h]
  exact ⟨_, _, converse_of_ok rfl⟩

/-- An oracle that fails when it is asked about a location puts an end to the visits. -/
theorem replacementsBy_failingAt (hlocation : location ∈ visited locations)
    (halves : talk.world.files.halves = false)
    (hread : talk.world.files.readText location.fileFull = .ok text) (fault : Fault) :
    ∃ talk', replacementsBy (.failingAt .mute (inquiryAt window rule message location text) fault)
      window rule message locations talk = .error fault talk' := by
  -- The locations above leave the files as they are, or they are asked about in the same way.
  induction locations generalizing talk with
  | nil => cases hlocation
  | cons first locations ih =>
    rw [visited_cons] at hlocation
    split at hlocation
    · cases hlocation
    next named =>
    unfold replacementsBy
    cases hfirst : talk.world.files.readText first.fileFull with
    | error unread =>
      have hlater : location ∈ visited locations := by
        rcases List.mem_cons.1 hlocation with rfl | hlater
        · rw [hread] at hfirst
          cases hfirst
        · exact hlater
      have hnamed : ∀ cause, unread ≠ .badName cause := by
        rintro cause rfl
        rw [Files.readText_eq_badName_iff, (Files.nameFault?_eq_none_iff_of_halves halves).2
          (Bool.not_eq_true _ ▸ named)] at hfirst
        cases hfirst
      obtain ⟨talk', hrest⟩ := ih hlater halves hread
      refine ⟨talk', (bind_of_ok (replacementBy_of_fault hfirst hnamed)).trans ?_⟩
      exact bind_of_error hrest
    | ok content =>
      by_cases hsame : inquiryAt window rule message first content =
          inquiryAt window rule message location text
      · have hreply := converse_failingAt_self .mute
          (inquiryAt window rule message location text) fault talk
        rw [← hsame] at hreply ⊢
        exact ⟨talk, bind_of_error (replacementBy_of_converse_error hfirst hreply)⟩
      · have hlater : location ∈ visited locations := by
          rcases List.mem_cons.1 hlocation with rfl | hlater
          · rw [hread, Except.ok.injEq] at hfirst
            exact (hsame (by rw [hfirst])).elim
          · exact hlater
        obtain ⟨handle, conversation, hreply⟩ := converse_mute_failingAt hsame fault talk
        obtain ⟨talk', hrest⟩ := @ih ⟨talk.world, conversation⟩ hlater halves hread
        -- A mute oracle gives no payload, so that the file is not read again.
        have hvisit := replacementBy_of_converse hfirst hreply fun given =>
          (Bool.false_ne_true given).elim
        exact ⟨talk', (bind_of_ok hvisit).trans (bind_of_error hrest)⟩

theorem consult_failingAt (hrule : group.ruleId = some rule)
    (halves : talk.world.files.halves = false)
    (hlocation : location ∈ visited group.locations)
    (hread : talk.world.files.readText location.fileFull = .ok text) (fault : Fault) :
    ∃ talk', consult (.failingAt .mute (inquiryAt window rule
      (group.sampleMessages.head?.getD "") location text) fault) window group config talk =
        .error fault talk' := by
  generalize hasked : inquiryAt window rule (group.sampleMessages.head?.getD "") location text = asked
  have hfirst : .explanation rule (Text.unlines group.sampleSource)
      (Text.unlines group.sampleMessages) ≠ asked := by
    rw [← hasked]
    nofun
  have hsecond : .configChange rule config ≠ asked := by
    rw [← hasked]
    nofun
  obtain ⟨explained, first, hexplained⟩ := converse_mute_failingAt hfirst fault talk
  obtain ⟨disabled, second, hdisabled⟩ := converse_mute_failingAt hsecond fault ⟨talk.world, first⟩
  obtain ⟨talk', hfails⟩ : ∃ talk', replacementsBy (.failingAt .mute asked fault) window rule
      (group.sampleMessages.head?.getD "") group.locations ⟨talk.world, second⟩ =
        .error fault talk' := by
    rw [← hasked]
    refine replacementsBy_failingAt hlocation ?_ ?_ fault
    · exact halves
    · exact hread
  refine ⟨talk', ?_⟩
  unfold consult
  rw [hrule]
  refine (bind_of_ok (inquire_of_converse hexplained)).trans ?_
  refine (bind_of_ok (inquire_of_converse hdisabled)).trans ?_
  exact bind_of_error hfails

/-- About a location whose file can be read, an oracle is asked. -/
theorem asks_of_readText (hrule : group.ruleId = some rule)
    (halves : talk.world.files.halves = false)
    (hlocation : location ∈ visited group.locations)
    (hread : talk.world.files.readText location.fileFull = .ok text) (window : Int)
    (config : String) : ∃ oracle, Asks group oracle window config talk
      (inquiryAt window rule (group.sampleMessages.head?.getD "") location text) := by
  generalize hasked : inquiryAt window rule (group.sampleMessages.head?.getD "") location text = asked
  have fails : ∀ fault, ∃ talk', consult (.failingAt .mute asked fault) window group config talk =
      .error fault talk' := by
    rw [← hasked]
    exact consult_failingAt hrule halves hlocation hread
  obtain ⟨talk₁, hfirst⟩ := fails .inputEnded
  obtain ⟨talk₂, hsecond⟩ := fails .noItem
  refine ⟨.failingAt .mute asked .inputEnded, .failingAt .mute asked .noItem, ?_, ?_⟩
  · intro other hne
    rw [Consultant.failingAt_of_ne _ hne, Consultant.failingAt_of_ne _ hne]
  · rw [hfirst, hsecond]
    nofun

end Failure

/-- What an oracle can be asked for as a replacement: there is an inquiry with the message of the group
for every location above a bad name whose file can be read, and no other one. -/
theorem asks_replacement_iff (hrule : group.ruleId = some rule) {r file text : String} {line : Int} :
    (∃ oracle window config talk code,
      Asks group oracle window config talk (.replacement r file line text code)) ↔
      r = rule ∧ text = group.sampleMessages.head?.getD "" ∧
        ∃ l ∈ visited group.locations, CanBeRead l.fileFull ∧ l.fileFull = file ∧ l.line = line := by
  constructor
  · rintro ⟨oracle, window, config, talk, code, oracle', agree, differs⟩
    apply Classical.byContradiction
    intro other
    apply differs
    apply consult_congr hrule
    · exact fun _ _ => agree _ nofun
    · exact agree _ nofun
    · intro l hl readable code'
      apply agree
      intro hsame
      simp only [Inquiry.replacement.injEq] at hsame
      obtain ⟨hr, hfile, hline, htext, _⟩ := hsame
      exact other ⟨hr.symm, htext.symm, l, hl, readable, hfile, hline⟩
  · rintro ⟨rfl, rfl, l, hl, ⟨files, content, hread⟩, rfl, rfl⟩
    have hasks : ∃ oracle, Asks group oracle 0 ""
        ⟨{ World.empty with files := { files with halves := false } }, {}⟩
        (inquiryAt 0 r (group.sampleMessages.head?.getD "") l content) := by
      apply asks_of_readText hrule rfl hl
      exact Files.readText_of_halves hread
    obtain ⟨oracle, asks⟩ := hasks
    exact ⟨oracle, _, _, _, _, asks⟩

end Remedy

/-- The first message among the samples is that of the first finding. -/
theorem RuleGroup.head?_sampleMessages (ruleId : Option String) (ds : List Finding) :
    (ofFindings ruleId ds).sampleMessages.head? = ds.head?.map (·.message) := by
  cases ds with
  | nil => rfl
  | cons d ds =>
    change (distinct (d.message :: (ds.take 2).map (·.message))).head? = some d.message
    rw [distinct_cons, List.head?_cons]

namespace Aggregation

/-- A finding of a rule at a place has a message. -/
def Reports (ds : List Finding) (rule file : String) (line : Int) (message : String) : Prop :=
  ∃ d ∈ ds, d.ruleId = some rule ∧ d.filePath = file ∧ d.line = line ∧ d.message = message

instance (ds : List Finding) (rule file : String) (line : Int) (message : String) :
    Decidable (Reports ds rule file line message) :=
  inferInstanceAs (Decidable (∃ d ∈ ds, _))

variable {ds : List Finding} {group : RuleGroup}

theorem exists_first_of_selectable (h : group ∈ (ofFindings ds).selectable) :
    ∃ rule first, group.ruleId = some rule ∧ ds.find? (·.ruleId = some rule) = some first ∧
      group.sampleMessages.head? = some first.message := by
  obtain ⟨rule, hrule⟩ := Option.ne_none_iff_exists'.1 (ruleId_ne_none_of_selectable h)
  obtain ⟨d, hd, hgroup⟩ := mem_rules_iff.1 (List.mem_filter.1 h).1
  have hdrule : d.ruleId = some rule := by
    rw [← hrule, ← hgroup]
    rfl
  rw [hdrule] at hgroup
  obtain ⟨first, hfirst⟩ : ∃ first, ds.find? (·.ruleId = some rule) = some first :=
    Option.isSome_iff_exists.1 (List.find?_isSome.2 ⟨d, hd, decide_eq_true hdrule⟩)
  refine ⟨rule, first, hrule, hfirst, ?_⟩
  rw [← hgroup, RuleGroup.head?_sampleMessages, List.head?_filter, hfirst]
  rfl

end Aggregation

section Pairing

variable {ds : List Finding} {group work : RuleGroup}

/-- In work on a group, or on the part of it in one file, all inquiries about locations have the message
of the first finding of the rule. They are about the findings of their own places exactly if this message
is reported wherever an inquiry is made. -/
theorem asks_reported_iff (h : group ∈ (Aggregation.ofFindings ds).selectable)
    (hwork : work = group ∨ ∃ file, work = group.narrow file) :
    ∃ rule first, work.ruleId = some rule ∧ ds.find? (·.ruleId = some rule) = some first ∧
      (∀ oracle window config talk r file line message code,
        Remedy.Asks work oracle window config talk (.replacement r file line message code) →
        r = rule ∧ message = first.message ∧
          ∃ l ∈ work.locations, l.fileFull = file ∧ l.line = line) ∧
      ((∀ oracle window config talk r file line message code,
        Remedy.Asks work oracle window config talk (.replacement r file line message code) →
        Aggregation.Reports ds r file line message) ↔
          ∀ l ∈ Remedy.visited work.locations, Remedy.CanBeRead l.fileFull →
            Aggregation.Reports ds rule l.fileFull l.line first.message) ∧
      ∀ channel window config, Remedy.gather channel window work config =
        Remedy.consult (.ofChannel channel) window work config := by
  obtain ⟨rule, first, hrule, hfirst, hhead⟩ := Aggregation.exists_first_of_selectable h
  have hsame : work.ruleId = group.ruleId ∧ work.sampleMessages = group.sampleMessages := by
    rcases hwork with rfl | ⟨file, rfl⟩
    · exact ⟨rfl, rfl⟩
    · exact ⟨rfl, rfl⟩
  have hworkRule : work.ruleId = some rule := hsame.1.trans hrule
  have hmessage : work.sampleMessages.head?.getD "" = first.message := by
    rw [hsame.2, hhead, Option.getD_some]
  refine ⟨rule, first, hworkRule, hfirst, ?_, ?_, ?_⟩
  · intro oracle window config talk r file line message code asks
    obtain ⟨hr, htext, l, hl, _, hplace⟩ :=
      (Remedy.asks_replacement_iff hworkRule).1 ⟨oracle, window, config, talk, code, asks⟩
    exact ⟨hr, htext.trans hmessage, l, (List.takeWhile_subset _) hl, hplace⟩
  · constructor
    · intro own l hl readable
      obtain ⟨oracle, window, config, talk, code, asks⟩ :=
        (Remedy.asks_replacement_iff hworkRule).2 ⟨rfl, rfl, l, hl, readable, rfl, rfl⟩
      rw [hmessage] at asks
      exact own _ _ _ _ _ _ _ _ _ asks
    · intro reported oracle window config talk r file line message code asks
      obtain ⟨rfl, htext, l, hl, readable, rfl, rfl⟩ :=
        (Remedy.asks_replacement_iff hworkRule).1 ⟨oracle, window, config, talk, code, asks⟩
      rw [htext, hmessage]
      exact reported l hl readable
  · intro channel window config
    exact Remedy.gather_eq_consult channel window work config

end Pairing

/-- Findings of a rule in two files. -/
def alike : List Finding :=
  [.noVar "/w/b.js" "Unexpected var.", .noVar "/w/a.js" "Unexpected var."]

theorem asks_reported_alike :
    ∃ group ∈ (Aggregation.ofFindings alike).selectable,
      ∀ oracle window config talk r file line message code,
        Remedy.Asks (group.narrow "/w/a.js") oracle window config talk
          (.replacement r file line message code) →
        Aggregation.Reports alike r file line message := by
  have hgroup : RuleGroup.ofFindings (some "no-var") alike ∈
      (Aggregation.ofFindings alike).selectable := by decide
  obtain ⟨rule, first, hrule, hfirst, _, hown, _⟩ :=
    asks_reported_iff hgroup (.inr ⟨"/w/a.js", rfl⟩)
  refine ⟨_, hgroup, hown.2 ?_⟩
  cases hrule
  cases hfirst
  have reported : ∀ l ∈ Remedy.visited
      ((RuleGroup.ofFindings (some "no-var") alike).narrow "/w/a.js").locations,
      Aggregation.Reports alike "no-var" l.fileFull l.line "Unexpected var." := by decide
  exact fun l hl _ => reported l hl

/-- Two findings of a rule in a file, each with a message of its own. -/
def unusedVars : List Finding :=
  [⟨some "no-unused-vars", .error, "/w/a.js", 1, 5, "'x' is never used.", false, none⟩,
    ⟨some "no-unused-vars", .error, "/w/a.js", 2, 5, "'y' is never used.", false, none⟩]

/-- What is asked about the second line has the message about the first one. -/
theorem asks_unusedVars :
    ∃ group ∈ (Aggregation.ofFindings unusedVars).selectable,
      Remedy.Asks group (.ofChannel agentChannel) 10 "" ⟨Patch.holding "let x = 1;\nlet y = 2;\n", {}⟩
        (.replacement "no-unused-vars" "/w/a.js" 2 "'x' is never used."
          "1\tlet x = 1;\n2\tlet y = 2;\n3\t") ∧
      ¬ Aggregation.Reports unusedVars "no-unused-vars" "/w/a.js" 2 "'x' is never used." := by
  have hgroup : RuleGroup.ofFindings (some "no-unused-vars") unusedVars ∈
      (Aggregation.ofFindings unusedVars).selectable := by decide
  let asked : Remedy.Inquiry := .replacement "no-unused-vars" "/w/a.js" 2 "'x' is never used."
    "1\tlet x = 1;\n2\tlet y = 2;\n3\t"
  let talk : Talk := ⟨Patch.holding "let x = 1;\nlet y = 2;\n", {}⟩
  refine ⟨_, hgroup, ⟨.failingAt (.ofChannel agentChannel) asked .inputEnded, ?_, ?_⟩, by decide⟩
  · intro other hne
    exact Remedy.Consultant.failingAt_of_ne _ hne _
  · have succeeds : Action.passes (fun _ _ => true) (Remedy.consult (.ofChannel agentChannel) 10
        (.ofFindings (some "no-unused-vars") unusedVars) "") talk = true := by decide +kernel
    have fails : Action.passes (fun _ _ => true) (Remedy.consult
        (.failingAt (.ofChannel agentChannel) asked .inputEnded) 10
        (.ofFindings (some "no-unused-vars") unusedVars) "") talk = false := by decide +kernel
    intro hsame
    exact Bool.false_ne_true (fails.symm.trans ((Action.passes_congr _ hsame).trans succeeds))

end LintRemedy
