import LintRemedy.Proofs.Patch.Placement
import LintRemedy.Proofs.Remedy.Consultation

/-!
This module contains what a consultation comes to, whatever the oracle replies and whatever becomes of
the files meanwhile: two inquiries about the rule, a visit of every location, and a bundle of all that
was usable.
-/

namespace LintRemedy

open LintRemedy.Action

namespace Remedy

section Visits

variable (oracle : Consultant) (window : Int) (rule message : String)

/-- What the oracle is asked about a location whose file holds a text. -/
def inquiryAt (location : Location) (content : String) : Inquiry :=
  .replacement rule location.fileFull location.line message
    (context (Text.lines content) location.line window)

/-- Visits one after the other. The oracle is asked once where the file can be read, and not at all
where it cannot. The file is read again if there is a payload, and a refused name ends the visits. -/
inductive Visits : Talk → List Visit → Talk → Prop where
  | nil (talk : Talk) : Visits talk [] talk
  | unread {talk talk' : Talk} {location : Location} {fault : FileFault} {visits : List Visit}
      (read : talk.world.files.readText location.fileFull = .error fault)
      (named : ∀ cause, fault ≠ .badName cause) (rest : Visits talk visits talk') :
      Visits talk (.unread location :: visits) talk'
  | asked {talk middle talk' : Talk} {location : Location} {content : String} {reply : Reply}
      {visits : List Visit} (read : talk.world.files.readText location.fileFull = .ok content)
      (replied : converse (oracle (inquiryAt window rule message location content)) talk =
        .ok reply middle)
      (named : (payloadIn? reply).isSome → ∀ cause,
        middle.world.files.readText location.fileFull ≠ .error (.badName cause))
      (rest : Visits middle visits talk') :
      Visits talk (.asked location reply (middle.world.files.readText location.fileFull) :: visits)
        talk'

end Visits

section Locations

variable {oracle : Consultant} {window : Int} {rule message : String} {location : Location}
  {locations : List Location} {talk middle talk' : Talk} {content : String} {fault : FileFault}
  {reply : Reply} {visits : List Visit}

theorem replacementBy_of_fault (hread : talk.world.files.readText location.fileFull = .error fault)
    (named : ∀ cause, fault ≠ .badName cause) :
    replacementBy oracle window rule message location talk = .ok (none, false) talk := by
  exact (bind_of_ok (currentLines_of_fault hread named)).trans rfl

theorem replacementBy_of_badName {cause : NameFault}
    (hread : talk.world.files.readText location.fileFull = .error (.badName cause)) :
    replacementBy oracle window rule message location talk = .error (.badName cause) talk := by
  exact bind_of_error (currentLines_of_badName hread)

theorem replacementBy_of_converse (hread : talk.world.files.readText location.fileFull = .ok content)
    (hreply : converse (oracle (inquiryAt window rule message location content)) talk =
      .ok reply middle)
    (named : (payloadIn? reply).isSome → ∀ cause,
      middle.world.files.readText location.fileFull ≠ .error (.badName cause)) :
    replacementBy oracle window rule message location talk =
      .ok ((Visit.asked location reply (middle.world.files.readText location.fileFull)).fix?,
        (payloadIn? reply).isSome) middle := by
  refine (bind_of_ok (currentLines_of_readText hread)).trans ?_
  refine (bind_of_ok hreply).trans ?_
  cases hpayload : payloadIn? reply with
  | none =>
    rw [Visit.fix?_of_none hpayload]
    rfl
  | some payload =>
    cases hreread : middle.world.files.readText location.fileFull with
    | ok content =>
      rw [Visit.fix?_of_some hpayload]
      exact (bind_of_ok (currentLines_of_readText hreread)).trans rfl
    | error fault =>
      have hfault : ∀ cause, fault ≠ .badName cause := by
        rintro cause rfl
        exact named (by rw [hpayload]; rfl) cause hreread
      exact (bind_of_ok (currentLines_of_fault hreread hfault)).trans rfl

theorem replacementBy_of_converse_badName {cause : NameFault}
    (hread : talk.world.files.readText location.fileFull = .ok content)
    (hreply : converse (oracle (inquiryAt window rule message location content)) talk =
      .ok reply middle)
    (filled : (payloadIn? reply).isSome)
    (hreread : middle.world.files.readText location.fileFull = .error (.badName cause)) :
    replacementBy oracle window rule message location talk = .error (.badName cause) middle := by
  obtain ⟨payload, hpayload⟩ := Option.isSome_iff_exists.1 filled
  refine (bind_of_ok (currentLines_of_readText hread)).trans ?_
  refine (bind_of_ok hreply).trans ?_
  rw [hpayload]
  exact bind_of_error (currentLines_of_badName hreread)

theorem replacementBy_of_converse_error {fault : Fault}
    (hread : talk.world.files.readText location.fileFull = .ok content)
    (hreply : converse (oracle (inquiryAt window rule message location content)) talk =
      .error fault middle) :
    replacementBy oracle window rule message location talk = .error fault middle := by
  refine (bind_of_ok (currentLines_of_readText hread)).trans ?_
  exact bind_of_error hreply

/-- A location that comes to something has been visited. -/
theorem visit_of_replacementBy {outcome : Option Replacement × Bool}
    (h : replacementBy oracle window rule message location talk = .ok outcome middle) :
    ∃ visit : Visit, visit.location = location ∧ ∀ visits talk',
      Visits oracle window rule message middle visits talk' →
        Visits oracle window rule message talk (visit :: visits) talk' := by
  cases hread : talk.world.files.readText location.fileFull with
  | error fault =>
    have named : ∀ cause, fault ≠ .badName cause := by
      rintro cause rfl
      rw [replacementBy_of_badName hread] at h
      cases h
    rw [replacementBy_of_fault hread named] at h
    cases h
    exact ⟨.unread location, rfl, fun _ _ rest => .unread hread named rest⟩
  | ok content =>
    cases hreply : converse (oracle (inquiryAt window rule message location content)) talk with
    | error fault after =>
      rw [replacementBy_of_converse_error hread hreply] at h
      cases h
    | ok reply after =>
      have named : (payloadIn? reply).isSome → ∀ cause,
          after.world.files.readText location.fileFull ≠ .error (.badName cause) := by
        intro filled cause hreread
        rw [replacementBy_of_converse_badName hread hreply filled hreread] at h
        cases h
      rw [replacementBy_of_converse hread hreply named] at h
      cases h
      exact ⟨_, rfl, fun _ _ rest => .asked hread hreply named rest⟩

/-- The visits of the locations determine the fixes. -/
theorem replacementsBy_of_visits (h : Visits oracle window rule message talk visits talk') :
    replacementsBy oracle window rule message (visits.map Visit.location) talk =
      .ok (visits.filterMap Visit.fix?, visits.any (·.payload?.isSome)) talk' := by
  induction h with
  | nil => rfl
  | unread read named _ ih =>
    refine (bind_of_ok (replacementBy_of_fault read named)).trans ?_
    exact (bind_of_ok ih).trans rfl
  | asked read replied named _ ih =>
    refine (bind_of_ok (replacementBy_of_converse read replied named)).trans ?_
    refine (bind_of_ok ih).trans ?_
    rw [List.filterMap_cons, List.any_cons]
    split
    · next hfix =>
      rw [hfix]
      rfl
    · next fix hfix =>
      rw [hfix]
      rfl

theorem visits_of_replacementsBy {outcome : List Replacement × Bool}
    (h : replacementsBy oracle window rule message locations talk = .ok outcome talk') :
    ∃ visits, visits.map Visit.location = locations ∧
      Visits oracle window rule message talk visits talk' := by
  induction locations generalizing talk outcome with
  | nil =>
    obtain ⟨_, rfl⟩ := pure_eq_ok.1 h
    exact ⟨[], rfl, .nil talk⟩
  | cons location locations ih =>
    unfold replacementsBy at h
    obtain ⟨_, middle, hfirst, h⟩ := bind_eq_ok.1 h
    obtain ⟨_, _, hrest, h⟩ := bind_eq_ok.1 h
    obtain ⟨_, rfl⟩ := pure_eq_ok.1 h
    obtain ⟨visit, hvisit, extend⟩ := visit_of_replacementBy hfirst
    obtain ⟨visits, hvisits, rest⟩ := ih hrest
    refine ⟨visit :: visits, ?_, extend visits _ rest⟩
    rw [List.map_cons, hvisit, hvisits]

end Locations

/-- An oracle that replies to every inquiry. The files may change meanwhile, but not what counts as a
character in them. -/
def Consultant.Answers (oracle : Consultant) : Prop :=
  ∀ inquiry handle world, ∃ reply world', oracle inquiry handle world = .ok reply world' ∧
    world'.files.halves = world.files.halves

/-- No location has a name that no file can have. -/
def AllNamed (locations : List Location) (files : Files) : Prop :=
  ∀ l ∈ locations, files.nameFault? l.fileFull = none

instance (locations : List Location) (files : Files) : Decidable (AllNamed locations files) :=
  inferInstanceAs (Decidable (∀ l ∈ locations, _))

theorem nameFault?_congr {files files' : Files} (h : files'.halves = files.halves) (name : String) :
    files'.nameFault? name = files.nameFault? name := by
  unfold Files.nameFault?
  rw [h]

theorem allNamed_congr {locations : List Location} {files files' : Files}
    (h : files'.halves = files.halves) : AllNamed locations files' ↔ AllNamed locations files := by
  unfold AllNamed
  simp only [nameFault?_congr h]

theorem readText_ne_badName {files : Files} {name : String} (named : files.nameFault? name = none)
    (cause : NameFault) : files.readText name ≠ .error (.badName cause) := by
  rw [Ne, Files.readText_eq_badName_iff, named]
  nofun

section Answers

variable {oracle : Consultant} {window : Int} {rule message : String} {locations : List Location}
  {talk talk' : Talk} {visits : List Visit}

theorem converse_of_answers (answers : oracle.Answers) (inquiry : Inquiry) (talk : Talk) :
    ∃ reply talk', converse (oracle inquiry) talk = .ok reply talk' ∧
      talk'.world.files.halves = talk.world.files.halves := by
  obtain ⟨reply, world, hreply, halves⟩ := answers inquiry talk.conversation.handle talk.world
  exact ⟨reply, _, converse_of_ok hreply, halves⟩

theorem halves_of_converse (answers : oracle.Answers) {inquiry : Inquiry} {reply : Reply}
    (h : converse (oracle inquiry) talk = .ok reply talk') :
    talk'.world.files.halves = talk.world.files.halves := by
  obtain ⟨_, _, hreply, halves⟩ := converse_of_answers answers inquiry talk
  rw [h] at hreply
  cases hreply
  exact halves

theorem Visits.allNamed (answers : oracle.Answers)
    (h : Visits oracle window rule message talk visits talk') :
    AllNamed (visits.map Visit.location) talk.world.files := by
  unfold AllNamed
  rw [List.forall_mem_map]
  induction h with
  | nil => nofun
  | unread read named _ ih =>
    rw [List.forall_mem_cons]
    refine ⟨?_, ih⟩
    rw [Option.eq_none_iff_forall_ne_some]
    intro cause bad
    rw [Visit.location, ← Files.readText_eq_badName_iff, read] at bad
    exact named cause (Except.error.inj bad)
  | asked read replied _ _ ih =>
    rw [List.forall_mem_cons]
    constructor
    · rw [Option.eq_none_iff_forall_ne_some]
      intro cause bad
      rw [Visit.location, ← Files.readText_eq_badName_iff, read] at bad
      cases bad
    · simpa only [nameFault?_congr (halves_of_converse answers replied)] using ih

theorem exists_visits (answers : oracle.Answers) (named : AllNamed locations talk.world.files) :
    ∃ visits talk', visits.map Visit.location = locations ∧
      Visits oracle window rule message talk visits talk' := by
  induction locations generalizing talk with
  | nil => exact ⟨[], talk, rfl, .nil talk⟩
  | cons location locations ih =>
    have hlater := (List.forall_mem_cons.1 named).2
    have hname := (List.forall_mem_cons.1 named).1
    cases hread : talk.world.files.readText location.fileFull with
    | error fault =>
      obtain ⟨visits, talk', hvisits, rest⟩ := ih hlater
      have hfault : ∀ cause, fault ≠ .badName cause := by
        rintro cause rfl
        exact readText_ne_badName hname cause hread
      refine ⟨.unread location :: visits, talk', ?_, .unread hread hfault rest⟩
      rw [List.map_cons, hvisits]
      rfl
    | ok content =>
      obtain ⟨reply, middle, hreply, halves⟩ :=
        converse_of_answers answers (inquiryAt window rule message location content) talk
      obtain ⟨visits, talk', hvisits, rest⟩ := ih ((allNamed_congr halves).2 hlater)
      have steady : (payloadIn? reply).isSome → ∀ cause,
          middle.world.files.readText location.fileFull ≠ .error (.badName cause) := by
        intro _
        apply readText_ne_badName
        rw [nameFault?_congr halves, hname]
      refine ⟨_ :: visits, talk', ?_, .asked hread hreply steady rest⟩
      rw [List.map_cons, hvisits]
      rfl

end Answers

/-- The replies about a rule, and the visits of its locations. -/
structure Consultation where
  explained : Reply
  disabled : Reply
  visits : List Visit

namespace Consultation

/-- The explanation in the reply to the first inquiry. -/
def explanation? (c : Consultation) : Option Explanation :=
  (readIn Remedy.explanation? c.explained).toOption.join

/-- The change of the config in the reply to the second inquiry. -/
def configChange? (c : Consultation) : Option ConfigChange :=
  (readIn Remedy.configChange? c.disabled).toOption.join

/-- All that is to be shown of the replies about the rule can be shown. -/
structure Legible (c : Consultation) : Prop where
  explained : ∀ payload, payloadIn? c.explained = some payload → ¬ ExplainsUnshown payload
  disabled : ∀ payload, payloadIn? c.disabled = some payload → ¬ ChangesUnshown payload

/-- The oracle is asked for an explanation, and then for a change of the config. -/
def Inquires (oracle : Consultant) (group : RuleGroup) (rule config : String) (c : Consultation)
    (talk talk' : Talk) : Prop :=
  ∃ first,
    converse (oracle (.explanation rule (Text.unlines group.sampleSource)
      (Text.unlines group.sampleMessages))) talk = .ok c.explained first ∧
    converse (oracle (.configChange rule config)) first = .ok c.disabled talk'

/-- The oracle is asked about the rule, and then the locations are visited in their order. -/
structure Runs (oracle : Consultant) (window : Int) (group : RuleGroup) (rule config : String)
    (c : Consultation) (talk talk' : Talk) : Prop where
  inquiries : ∃ middle, Inquires oracle group rule config c talk middle ∧
    Visits oracle window rule (group.sampleMessages.head?.getD "") middle c.visits talk'
  legible : c.Legible
  located : c.visits.map Visit.location = group.locations

/-- A bundle has the fixes that the visits support, in their order, and a placeholder for each of the
other parts that could not be had. -/
structure Makes (c : Consultation) (group : RuleGroup) (rule : String) (bundle : Bundle) : Prop where
  rule_eq : bundle.ruleId = rule
  severity_eq : bundle.severity = group.severity
  explain_eq : bundle.explain = c.explanation?.getD placeholder
  disable_eq : bundle.disable = c.configChange?.getD noChange
  fixes_eq : bundle.fixes = c.visits.filterMap Visit.fix?
  supported : ∀ visit ∈ c.visits, ∀ fix, visit.fix? = some fix ↔ visit.Supports fix
  count_eq : bundle.count = bundle.fixes.length

/-- There is a bundle unless nothing in the replies was usable. -/
structure Yields (c : Consultation) (group : RuleGroup) (rule : String) (result : Option Bundle) :
    Prop where
  none_iff : result = none ↔
    c.explanation? = none ∧ c.configChange? = none ∧ ∀ visit ∈ c.visits, visit.payload? = none
  makes : ∀ bundle, result = some bundle → c.Makes group rule bundle

variable {oracle : Consultant} {window : Int} {group : RuleGroup} {rule config : String}
  {c : Consultation} {talk talk' : Talk} {result : Option Bundle}

theorem legible_iff : c.Legible ↔ readIn Remedy.explanation? c.explained = .ok c.explanation? ∧
    readIn Remedy.configChange? c.disabled = .ok c.configChange? := by
  have hexplained : (∃ result, readIn Remedy.explanation? c.explained = .ok result) ↔
      readIn Remedy.explanation? c.explained = .ok c.explanation? := by
    unfold explanation?
    cases readIn Remedy.explanation? c.explained <;> simp [Except.toOption]
  have hdisabled : (∃ result, readIn Remedy.configChange? c.disabled = .ok result) ↔
      readIn Remedy.configChange? c.disabled = .ok c.configChange? := by
    unfold configChange?
    cases readIn Remedy.configChange? c.disabled <;> simp [Except.toOption]
  rw [← hexplained, ← hdisabled, exists_readIn_iff, exists_readIn_iff]
  simp only [exists_explanation?_iff, exists_configChange?_iff]
  exact ⟨fun legible => ⟨legible.explained, legible.disabled⟩, fun h => ⟨h.1, h.2⟩⟩

theorem consult_of_runs (hrule : group.ruleId = some rule)
    (runs : c.Runs oracle window group rule config talk talk') :
    ∃ result, consult oracle window group config talk = .ok result talk' ∧
      c.Yields group rule result := by
  obtain ⟨second, ⟨first, hexplained, hdisabled⟩, visits⟩ := runs.inquiries
  obtain ⟨hexplanation, hchange⟩ := legible_iff.1 runs.legible
  have hfixes := replacementsBy_of_visits visits
  rw [runs.located] at hfixes
  have hunusable : (c.explanation?.isNone ∧ c.configChange?.isNone ∧
      ¬ c.visits.any (·.payload?.isSome)) ↔
      c.explanation? = none ∧ c.configChange? = none ∧ ∀ visit ∈ c.visits, visit.payload? = none := by
    simp only [Option.isNone_iff_eq_none, Bool.not_eq_true, List.any_eq_false,
      Option.isSome_eq_false_iff]
  unfold consult
  rw [hrule]
  by_cases unusable : c.explanation?.isNone ∧ c.configChange?.isNone ∧
      ¬ c.visits.any (·.payload?.isSome)
  · refine ⟨none, ?_, ?_, nofun⟩
    · refine (bind_of_ok (inquire_eq_ok_iff.2 ⟨_, hexplained, hexplanation⟩)).trans ?_
      refine (bind_of_ok (inquire_eq_ok_iff.2 ⟨_, hdisabled, hchange⟩)).trans ?_
      refine (bind_of_ok hfixes).trans ?_
      exact congrFun (if_pos unusable) talk'
    · exact ⟨fun _ => hunusable.1 unusable, fun _ => rfl⟩
  · refine ⟨some {
      ruleId := rule
      count := (c.visits.filterMap Visit.fix?).length
      severity := group.severity
      explain := c.explanation?.getD placeholder
      disable := c.configChange?.getD noChange
      fixes := c.visits.filterMap Visit.fix? }, ?_, ?_, ?_⟩
    · refine (bind_of_ok (inquire_eq_ok_iff.2 ⟨_, hexplained, hexplanation⟩)).trans ?_
      refine (bind_of_ok (inquire_eq_ok_iff.2 ⟨_, hdisabled, hchange⟩)).trans ?_
      refine (bind_of_ok hfixes).trans ?_
      exact congrFun (if_neg unusable) talk'
    · exact ⟨nofun, fun h => absurd (hunusable.2 h) unusable⟩
    · intro bundle hbundle
      cases hbundle
      exact ⟨rfl, rfl, rfl, rfl, rfl, fun _ _ _ => Visit.fix?_eq_some_iff, rfl⟩

theorem runs_of_consult (hrule : group.ruleId = some rule)
    (h : consult oracle window group config talk = .ok result talk') :
    ∃ c : Consultation, c.Runs oracle window group rule config talk talk' := by
  unfold consult at h
  rw [hrule] at h
  obtain ⟨explanation, first, hfirst, h⟩ := bind_eq_ok.1 h
  obtain ⟨change, second, hsecond, h⟩ := bind_eq_ok.1 h
  obtain ⟨outcome, third, hfixes, h⟩ := bind_eq_ok.1 h
  obtain ⟨explained, hexplained, hexplanation⟩ := inquire_eq_ok_iff.1 hfirst
  obtain ⟨disabled, hdisabled, hchange⟩ := inquire_eq_ok_iff.1 hsecond
  have hthird : third = talk' := by
    dsimp only at h
    split at h
    · exact (pure_eq_ok.1 h).2
    · exact (pure_eq_ok.1 h).2
  rw [hthird] at hfixes
  obtain ⟨visits, located, run⟩ := visits_of_replacementsBy hfixes
  refine ⟨⟨explained, disabled, visits⟩, ?_, ?_, located⟩
  · exact ⟨second, ⟨first, hexplained, hdisabled⟩, run⟩
  · refine legible_iff.2 ⟨?_, ?_⟩
    · unfold explanation?
      rw [hexplanation]
      rfl
    · unfold configChange?
      rw [hchange]
      rfl

end Consultation

/-- All that is to be shown of what an oracle replies about a rule can be shown. -/
def Consultant.Legible (oracle : Consultant) (group : RuleGroup) (rule config : String)
    (talk : Talk) : Prop :=
  ∀ (c : Consultation) (talk' : Talk), c.Inquires oracle group rule config talk talk' → c.Legible

namespace Consultation

variable {oracle : Consultant} {window : Int} {group : RuleGroup} {rule config : String}
  {c : Consultation} {talk talk' : Talk}

/-- What is replied about a rule does not depend on the visits. -/
theorem legible_of_inquires {c' : Consultation} {talk'' : Talk}
    (h : c.Inquires oracle group rule config talk talk')
    (h' : c'.Inquires oracle group rule config talk talk'') (legible : c.Legible) : c'.Legible := by
  obtain ⟨first, hexplained, hdisabled⟩ := h
  obtain ⟨first', hexplained', hdisabled'⟩ := h'
  rw [hexplained, EStateM.Result.ok.injEq] at hexplained'
  obtain ⟨sameExplained, rfl⟩ := hexplained'
  rw [hdisabled, EStateM.Result.ok.injEq] at hdisabled'
  constructor
  · rw [← sameExplained]
    exact legible.explained
  · rw [← hdisabled'.1]
    exact legible.disabled

theorem Runs.permitted (answers : oracle.Answers)
    (runs : c.Runs oracle window group rule config talk talk') :
    oracle.Legible group rule config talk ∧ AllNamed group.locations talk.world.files := by
  obtain ⟨middle, inquires, visits⟩ := runs.inquiries
  refine ⟨fun _ _ inquires' => legible_of_inquires inquires inquires' runs.legible, ?_⟩
  obtain ⟨first, hexplained, hdisabled⟩ := inquires
  rw [← runs.located, ← allNamed_congr (halves_of_converse answers hexplained),
    ← allNamed_congr (halves_of_converse answers hdisabled)]
  exact visits.allNamed answers

theorem exists_runs (answers : oracle.Answers) (legible : oracle.Legible group rule config talk)
    (named : AllNamed group.locations talk.world.files) :
    ∃ (c : Consultation) (talk' : Talk), c.Runs oracle window group rule config talk talk' := by
  obtain ⟨explained, first, hexplained, hfirst⟩ := converse_of_answers answers (.explanation rule
    (Text.unlines group.sampleSource) (Text.unlines group.sampleMessages)) talk
  obtain ⟨disabled, second, hdisabled, hsecond⟩ :=
    converse_of_answers answers (.configChange rule config) first
  have hnamed := (allNamed_congr (hsecond.trans hfirst)).2 named
  obtain ⟨visits, talk', located, run⟩ := exists_visits answers hnamed
  have inquires : Inquires oracle group rule config ⟨explained, disabled, visits⟩ talk second :=
    ⟨first, hexplained, hdisabled⟩
  exact ⟨_, talk', ⟨second, inquires, run⟩, legible _ _ inquires, located⟩

end Consultation

variable {oracle : Consultant} {window : Int} {group : RuleGroup} {rule config : String} {talk : Talk}

/-- What comes of a consultation is what the replies and the visits say. With an oracle that always
replies, something comes of it exactly if all that is to be shown can be shown, and no location has a
name that no file can have. -/
theorem consult_contract (hrule : group.ruleId = some rule) :
    (∀ result talk', consult oracle window group config talk = .ok result talk' →
      ∃ c : Consultation, c.Runs oracle window group rule config talk talk' ∧
        c.Yields group rule result) ∧
    (oracle.Answers →
      ((∃ result talk', consult oracle window group config talk = .ok result talk') ↔
        oracle.Legible group rule config talk ∧ AllNamed group.locations talk.world.files)) ∧
    ∀ channel, gather channel window group config =
      consult (.ofChannel channel) window group config := by
  refine ⟨?_, ?_, ?_⟩
  · intro result talk' h
    obtain ⟨c, runs⟩ := Consultation.runs_of_consult hrule h
    obtain ⟨result', hresult, yields⟩ := Consultation.consult_of_runs hrule runs
    rw [h] at hresult
    cases hresult
    exact ⟨c, runs, yields⟩
  · intro answers
    constructor
    · rintro ⟨_, talk', h⟩
      obtain ⟨c, runs⟩ := Consultation.runs_of_consult hrule h
      exact runs.permitted answers
    · rintro ⟨legible, named⟩
      obtain ⟨c, talk', runs⟩ := Consultation.exists_runs answers legible named
      obtain ⟨result, hresult, _⟩ := Consultation.consult_of_runs hrule runs
      exact ⟨result, talk', hresult⟩
  · intro channel
    exact gather_eq_consult channel window group config

/-- An oracle that takes its time, and whose replies all have the same payload. Meanwhile a file is cut
down to its first line. -/
def slowOracle : Consultant := fun _ handle world =>
  let payload := Json.obj [("problem_description", .str "p"), ("modified_config", .str "c"),
    ("start_line", .int 1), ("end_line", .int 1), ("fixed_code", .str "a === b;")]
  .ok ⟨.ok payload, handle⟩ { world with files := world.files.set ["w", "a.js"] (.text "a == b;") }

/-- Findings in a file that is there and in one that is not. -/
def lostGroup : RuleGroup :=
  ⟨some "eqeqeq", .error, 2, false, 0,
    [⟨"a.js", "/w/a.js", 2, 1, false⟩, ⟨"b.js", "/w/b.js", 1, 1, false⟩], [], []⟩

theorem consult_contract_slow :
    ∃ result talk', consult slowOracle 10 lostGroup "" ⟨twiceWorld, {}⟩ = .ok result talk' ∧
      ∃ c : Consultation, c.Runs slowOracle 10 lostGroup "eqeqeq" "" ⟨twiceWorld, {}⟩ talk' ∧
        c.Yields lostGroup "eqeqeq" result := by
  have answers : slowOracle.Answers := fun _ _ _ => ⟨_, _, rfl, rfl⟩
  have contract := @consult_contract slowOracle 10 lostGroup "eqeqeq" "" ⟨twiceWorld, {}⟩ rfl
  have legible : slowOracle.Legible lostGroup "eqeqeq" "" ⟨twiceWorld, {}⟩ := by
    rintro c talk' ⟨first, hexplained, hdisabled⟩
    have hfirst := (EStateM.Result.ok.inj (hexplained.symm.trans (converse_of_ok rfl))).1
    have hsecond := (EStateM.Result.ok.inj (hdisabled.symm.trans (converse_of_ok rfl))).1
    constructor
    · rw [hfirst]
      rintro _ ⟨⟩ ⟨_, ⟨_, unshown⟩ | ⟨_, unshown⟩⟩
      · exact unshown rfl
      · exact unshown rfl
    · rw [hsecond]
      rintro _ ⟨⟩ ⟨_, _, unshown⟩
      exact unshown rfl
  have named : AllNamed lostGroup.locations twiceWorld.files := by decide +kernel
  obtain ⟨result, talk', h⟩ := (contract.2.1 answers).2 ⟨legible, named⟩
  exact ⟨result, talk', h, contract.1 result talk' h⟩

/-- A location with a name that no file can have puts an end to all. -/
theorem gather_badName :
    ∃ talk', gather agentChannel 10
        ⟨some "r", .error, 1, false, 0, [⟨"a.js", "/w/a\x00.js", 1, 1, false⟩], [], []⟩ ""
        ⟨twiceWorld, {}⟩ = .error (.badName .nul) talk' := by
  have fails : (match gather agentChannel 10
      ⟨some "r", .error, 1, false, 0, [⟨"a.js", "/w/a\x00.js", 1, 1, false⟩], [], []⟩ ""
      ⟨twiceWorld, {}⟩ with
    | .error (.badName .nul) _ => true
    | _ => false) = true := by decide +kernel
  split at fails
  · next talk' h => exact ⟨talk', h⟩
  · cases fails

end Remedy

end LintRemedy
