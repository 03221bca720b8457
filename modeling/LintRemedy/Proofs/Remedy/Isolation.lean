import LintRemedy.Proofs.Operator.Isolation
import LintRemedy.Proofs.Oracle.Session
import LintRemedy.Proofs.Remedy.Capture

/-!
This module contains what the oracle is told about findings elsewhere when the work is on one file.
It is told the same whatever these say exactly if the samples of the group come to the same prompts.
That is so if the first findings of the rule are all in the file, and not in general: samples are
taken from all files.
-/

namespace LintRemedy

namespace Remedy

variable {channel : Oracle.Channel} {window : Int} {rule config : String} {file : String}

/-- Whether a file of this name can be read at all. -/
def CanBeRead (file : String) : Prop :=
  ∃ (files : Files) (text : String), files.readText file = .ok text

/-- About a file that cannot be read, the oracle is not told any message. -/
theorem replacementAt_of_not_canBeRead {location : Location} (h : ¬ CanBeRead location.fileFull)
    (message message' : String) : replacementAt channel window rule message' location =
      replacementAt channel window rule message location := by
  funext talk
  unfold replacementAt
  cases hlines : Dialogue.ofAct (currentLines location.fileFull) talk with
  | error fault talk' =>
    refine (Action.bind_of_error hlines).trans ?_
    exact (Action.bind_of_error hlines).symm
  | ok lines? talk' =>
    refine (Action.bind_of_ok hlines).trans ?_
    refine .trans ?_ (Action.bind_of_ok hlines).symm
    cases lines? with
    | none => rfl
    | some lines =>
      obtain ⟨_, hread, _⟩ := Dialogue.ofAct_eq_ok.1 hlines
      obtain ⟨text, htext, _⟩ := currentLines_eq_some hread
      exact (h ⟨_, text, htext⟩).elim

theorem replacementsAt_of_not_canBeRead {locations : List Location}
    (h : ∀ l ∈ locations, ¬ CanBeRead l.fileFull) (message message' : String) :
    replacementsAt channel window rule message' locations =
      replacementsAt channel window rule message locations := by
  induction locations with
  | nil => rfl
  | cons location locations ih =>
    rw [List.forall_mem_cons] at h
    unfold replacementsAt
    rw [replacementAt_of_not_canBeRead h.1 message message', ih h.2]

/-- An agent that has any time and a session of its own for every call. -/
def agent : Oracle.Channel where
  provider := { name := "", transport := .schemaAgent, defaultModel := "", models := [] }
  model := ""
  timeLimit := .other .null

def sending (prompt : String) (schema : Schema) : Deed :=
  .ranAgent (agent.agentCommand schema none) (some prompt) false

theorem prompt_of_sending_eq {prompt prompt' : String} {schema : Schema}
    (h : sending prompt schema = sending prompt' schema) : prompt = prompt' := by
  unfold sending at h
  rw [Deed.ranAgent.injEq, Option.some.injEq] at h
  exact h.2.1

/-- A talk in which the oracle has nothing to say, and every prompt can be sent to it. -/
structure Hushed (talk : Talk) : Prop where
  replies : talk.world.replies = []
  handle : talk.conversation.handle = none
  halves : talk.world.files.halves = false

/-- A talk after further deeds. -/
def noted (deeds : List Deed) (talk : Talk) : Talk :=
  { talk with world.deeds := talk.world.deeds ++ deeds }

theorem noted_noted (deeds deeds' : List Deed) (talk : Talk) :
    noted deeds' (noted deeds talk) = noted (deeds ++ deeds') talk := by
  unfold noted
  rw [← List.append_assoc]

theorem Hushed.noted {talk : Talk} (h : Hushed talk) (deeds : List Deed) :
    Hushed (noted deeds talk) :=
  ⟨h.replies, h.handle, h.halves⟩

theorem launchFault?_of_hushed {talk : Talk} (h : Hushed talk) {schema : Schema}
    (hschema : schema ∈ [Schema.explain, Schema.fix, Schema.disable]) :
    talk.world.launchFault? (agent.agentCommand schema none) = none := by
  have clean : ∀ schema ∈ [Schema.explain, Schema.fix, Schema.disable],
      ∀ word ∈ agent.agentCommand schema none, Files.isBadName word = false := by
    decide +kernel
  unfold World.launchFault?
  rw [List.findSome?_eq_none_iff]
  intro word hword
  exact (Files.nameFault?_eq_none_iff_of_halves h.halves).2 (clean schema hschema word hword)

theorem approach_of_hushed {talk : Talk} (h : Hushed talk) (prompt : String) {schema : Schema}
    (hschema : schema ∈ [Schema.explain, Schema.fix, Schema.disable]) :
    agent.approach prompt schema none talk.world = .agent := by
  apply Oracle.Channel.approach_eq_agent rfl rfl (launchFault?_of_hushed h hschema)
  unfold Files.textFault?
  rw [h.halves]
  rfl

theorem converse_of_hushed {talk : Talk} (h : Hushed talk) (prompt : String) {schema : Schema}
    (hschema : schema ∈ [Schema.explain, Schema.fix, Schema.disable]) :
    ∃ reason, converse (agent.request prompt schema) talk =
      .ok ⟨.error reason, none⟩ (noted [sending prompt schema] talk) := by
  have hdue : Oracle.Channel.dueOutcome agent.provider talk.world =
      .finished 1 (.text "") (.text "") := by
    unfold Oracle.Channel.dueOutcome
    rw [h.replies]
    rfl
  have hanswered : Oracle.Channel.answered talk.world = talk.world := by
    unfold Oracle.Channel.answered
    rw [h.replies]
  have hsent : agent.sentWorld prompt schema none talk.world =
      (noted [sending prompt schema] talk).world := by
    unfold Oracle.Channel.sentWorld
    rw [approach_of_hushed h prompt hschema]
    change (Oracle.Channel.answered talk.world).record (.ranAgent _ (Oracle.Channel.sentTo prompt
      (Oracle.Channel.dueOutcome agent.provider talk.world)) (decide (_ = _))) = _
    rw [hdue, hanswered]
    rfl
  have hreply : ∃ reason, (agent.exchange prompt schema none talk.world >>= agent.replyOf none) =
      .ok ⟨.error reason, none⟩ := by
    unfold Oracle.Channel.exchange
    rw [approach_of_hushed h prompt hschema]
    change ∃ reason, (agent.agentExchange schema
      (Oracle.Channel.dueOutcome agent.provider talk.world) >>= agent.replyOf none) = _
    rw [hdue]
    exact ⟨_, rfl⟩
  obtain ⟨reason, hreply⟩ := hreply
  refine ⟨reason, converse_of_ok ?_⟩
  rw [h.handle, Oracle.Channel.request_eq, hreply, hsent]
  rfl

theorem replacementAt_of_hushed {location : Location} {talk : Talk} {text : String}
    (h : Hushed talk) (hread : talk.world.files.readText location.fileFull = .ok text)
    (message : String) : replacementAt agent window rule message location talk =
      .ok (none, false) (noted [sending (Prompt.fix rule location.fileFull location.line message
        (context (Text.lines text) location.line window)) .fix] talk) := by
  have hlines : currentLines location.fileFull talk.world =
      .ok (some (Text.lines text)) talk.world := by
    unfold currentLines
    refine (Action.bind_of_ok rfl).trans ?_
    rw [hread]
    rfl
  obtain ⟨_, hconverse⟩ := converse_of_hushed h (Prompt.fix rule location.fileFull location.line
    message (context (Text.lines text) location.line window)) (by decide : Schema.fix ∈ _)
  unfold replacementAt
  refine (Action.bind_of_ok (Dialogue.ofAct_eq_ok.2 ⟨_, hlines, rfl⟩)).trans ?_
  exact Action.bind_of_ok hconverse

theorem replacementsAt_of_hushed {locations : List Location} {talk : Talk} {text : String}
    (h : Hushed talk) (hread : ∀ l ∈ locations, talk.world.files.readText l.fileFull = .ok text)
    (message : String) : replacementsAt agent window rule message locations talk =
      .ok ([], false) (noted (locations.map fun l => sending (Prompt.fix rule l.fileFull l.line
        message (context (Text.lines text) l.line window)) .fix) talk) := by
  induction locations generalizing talk with
  | nil =>
    unfold noted
    rw [List.map_nil, List.append_nil]
    rfl
  | cons location locations ih =>
    rw [List.forall_mem_cons] at hread
    unfold replacementsAt
    refine (Action.bind_of_ok (replacementAt_of_hushed h hread.1 message)).trans ?_
    refine (Action.bind_of_ok (ih (h.noted _) hread.2)).trans ?_
    rw [noted_noted]
    rfl

theorem message_of_fix_eq {name message message' code : String} {line : Int}
    (h : Prompt.fix rule name line message' code = Prompt.fix rule name line message code) :
    message' = message := by
  unfold Prompt.fix at h
  simp only [String.append_left_inj] at h
  exact (String.append_right_inj _).1 h

/-- Two groups for work on a file whose samples come to the same in the prompts of a rule. -/
structure TellsSame (rule file : String) (group group' : RuleGroup) : Prop where
  explained : Prompt.explain rule (Text.unlines group'.sampleSource)
    (Text.unlines group'.sampleMessages) = Prompt.explain rule (Text.unlines group.sampleSource)
    (Text.unlines group.sampleMessages)
  message : CanBeRead file →
    group'.sampleMessages.head?.getD "" = group.sampleMessages.head?.getD ""

/-- What was done by the end of work on a group, which is all that the oracle was sent. -/
def told (channel : Oracle.Channel) (window : Int) (config : String) (group : RuleGroup)
    (talk : Talk) : List Deed :=
  (Action.left (gather channel window group config talk)).world.deeds

variable {group group' : RuleGroup}

theorem gather_eq_of_tellsSame (same : group.SameButSamples group')
    (hrule : group.ruleId = some rule) (hfile : ∀ l ∈ group.locations, l.fileFull = file)
    (tells : TellsSame rule file group group') :
    gather channel window group' config = gather channel window group config := by
  have hreplacements : replacementsAt channel window rule (group'.sampleMessages.head?.getD "")
      group.locations = replacementsAt channel window rule (group.sampleMessages.head?.getD "")
        group.locations := by
    by_cases hread : CanBeRead file
    · rw [tells.message hread]
    · apply replacementsAt_of_not_canBeRead
      intro l hl
      rw [hfile l hl]
      exact hread
  have hrule' : group'.ruleId = some rule := same.ruleId.trans hrule
  have hlocations : group'.locations = group.locations := by rw [same]
  have hseverity : group'.severity = group.severity := by rw [same]
  unfold gather Oracle.Channel.askExplanation
  rw [hrule, hrule']
  dsimp only
  rw [tells.explained, hlocations, hreplacements, hseverity]

theorem left_bind_of_ok {ε σ α β : Type} {x : EStateM ε σ α} {f : α → EStateM ε σ β} {s s' : σ}
    {a : α} (h : x s = .ok a s') : Action.left ((x >>= f) s) = Action.left (f a s') := by
  rw [Action.bind_of_ok h]

/-- In a reply without a payload there is nothing to be read. -/
theorem inquire_of_converse {α : Type} {read : Json → Except Json.RenderFault (Option α)}
    {ask : Option String → Act Reply} {talk talk' : Talk} {reason : String}
    {handle : Option String} (h : converse ask talk = .ok ⟨.error reason, handle⟩ talk') :
    inquire read ask talk = .ok none talk' :=
  Action.bind_of_ok h

/-- An oracle that has nothing to say is asked all the same. -/
theorem told_of_hushed {talk : Talk} (h : Hushed talk) (hrule : group.ruleId = some rule) :
    told agent window config group talk = (Action.left (replacementsAt agent window rule
      (group.sampleMessages.head?.getD "") group.locations (noted
        [sending (Prompt.explain rule (Text.unlines group.sampleSource)
          (Text.unlines group.sampleMessages)) .explain,
        sending (Prompt.disable rule config) .disable] talk))).world.deeds := by
  obtain ⟨_, hexplain⟩ := converse_of_hushed h (Prompt.explain rule
    (Text.unlines group.sampleSource) (Text.unlines group.sampleMessages))
    (by decide : Schema.explain ∈ _)
  obtain ⟨_, hdisable⟩ := converse_of_hushed (h.noted _) (Prompt.disable rule config)
    (by decide : Schema.disable ∈ _)
  rw [noted_noted] at hdisable
  unfold told gather
  rw [hrule]
  dsimp only
  unfold Oracle.Channel.askExplanation Oracle.Channel.askConfigChange
  rw [left_bind_of_ok (inquire_of_converse hexplain),
    left_bind_of_ok (inquire_of_converse hdisable)]
  refine Action.Keeps.left_bind (fun talk : Talk => talk.world.deeds) ?_
  rintro ⟨fixes, replied⟩ talk _
  dsimp only
  split <;> exact rfl

/-- Whatever the file is like, the explanation is asked for first. -/
theorem told_starts (window : Int) (config : String) {talk : Talk} (h : Hushed talk)
    (hrule : group.ruleId = some rule) :
    ∃ deeds, told agent window config group talk = talk.world.deeds ++
      sending (Prompt.explain rule (Text.unlines group.sampleSource)
        (Text.unlines group.sampleMessages)) .explain :: deeds := by
  have confined : ∀ talk, Action.Confined Talk.world (fun _ _ => True) 0 (replacementsAt agent
      window rule (group.sampleMessages.head?.getD "") group.locations) talk :=
    replacementsAt_confined rule _ group.locations
  obtain ⟨account, unfolds, _⟩ := confined _
  exact ⟨_, (told_of_hushed h hrule).trans (unfolds.deeds.trans (List.append_assoc _ _ _))⟩

theorem told_of_hushed_reading {talk : Talk} {text : String} (h : Hushed talk)
    (hrule : group.ruleId = some rule)
    (hread : ∀ l ∈ group.locations, talk.world.files.readText l.fileFull = .ok text) :
    told agent window config group talk = talk.world.deeds ++
      [sending (Prompt.explain rule (Text.unlines group.sampleSource)
        (Text.unlines group.sampleMessages)) .explain, sending (Prompt.disable rule config) .disable]
      ++ group.locations.map fun l => sending (Prompt.fix rule l.fileFull l.line
        (group.sampleMessages.head?.getD "") (context (Text.lines text) l.line window)) .fix := by
  rw [told_of_hushed h hrule, replacementsAt_of_hushed (h.noted _) hread]
  rfl

theorem tellsSame_of_told_eq (same : group.SameButSamples group') (hrule : group.ruleId = some rule)
    (hfile : ∀ l ∈ group.locations, l.fileFull = file) (hsome : group.locations ≠ [])
    (htold : ∀ channel window config talk,
      told channel window config group' talk = told channel window config group talk) :
    TellsSame rule file group group' := by
  have hrule' : group'.ruleId = some rule := same.ruleId.trans hrule
  have hlocations : group'.locations = group.locations := by rw [same]
  constructor
  · have hhushed : Hushed ⟨.empty, {}⟩ := ⟨rfl, rfl, rfl⟩
    obtain ⟨_, hstart⟩ := told_starts 0 "" hhushed hrule
    obtain ⟨_, hstart'⟩ := told_starts 0 "" hhushed hrule'
    have h := htold agent 0 "" ⟨.empty, {}⟩
    rw [hstart, hstart', List.append_cancel_left_eq, List.cons.injEq] at h
    exact prompt_of_sending_eq h.1
  · rintro ⟨readable, text, hreadable⟩
    let files : Files := { readable with halves := false }
    have hread : files.readText file = .ok text := Files.readText_of_halves hreadable
    have hhushed : Hushed ⟨{ World.empty with files }, {}⟩ := ⟨rfl, rfl, rfl⟩
    have hreads : ∀ l ∈ group.locations, files.readText l.fileFull = .ok text := by
      intro l hl
      rw [hfile l hl]
      exact hread
    have h := htold agent 0 "" ⟨{ World.empty with files }, {}⟩
    obtain ⟨location, locations, hcons⟩ := List.exists_cons_of_ne_nil hsome
    -- After the two other requests, the first location is the next one that is asked about.
    rw [told_of_hushed_reading hhushed hrule hreads,
      told_of_hushed_reading hhushed hrule' (hlocations ▸ hreads), hlocations, hcons] at h
    simp only [List.append_assoc, List.append_cancel_left_eq, List.cons_append, List.nil_append,
      List.map_cons, List.cons.injEq] at h
    exact message_of_fix_eq (prompt_of_sending_eq h.2.2.1)

end Remedy

section Chosen

variable {file : String} {ds ds' : List Finding} {budget : Int} {quiet : Bool}
  {counts counts' : SkipCounts} {terminal terminal' : Terminal} {group : RuleGroup}

theorem Aggregation.eq_ofFindings_of_selectable (h : group ∈ (ofFindings ds).selectable) :
    group = .ofFindings group.ruleId (ds.filter (·.ruleId = group.ruleId)) := by
  obtain ⟨_, _, rfl⟩ := mem_rules_iff.1 (List.mem_filter.1 h).1
  rfl

/-- The samples are the same if the findings from which they are taken are all in the file. -/
theorem RuleGroup.samples_eq (masked : List.Forall₂ (Finding.AgreesOn file) ds ds')
    (hfile : ∀ d ∈ ds.take sampleSize, d.filePath = file) (ruleId : Option String) :
    (ofFindings ruleId ds').sampleMessages = (ofFindings ruleId ds).sampleMessages ∧
      (ofFindings ruleId ds').sampleSource = (ofFindings ruleId ds).sampleSource := by
  have htaken : ds'.take sampleSize = ds.take sampleSize := by
    have h := List.forall₂_take sampleSize masked
    generalize ds.take sampleSize = taken at h hfile ⊢
    generalize ds'.take sampleSize = taken' at h ⊢
    induction h with
    | nil => rfl
    | cons agrees _ ih =>
      rw [List.forall_mem_cons] at hfile
      rw [agrees.same hfile.1, ih hfile.2]
  unfold ofFindings
  rw [htaken]
  exact ⟨rfl, rfl⟩

/-- What the findings elsewhere say does not change the work that is chosen unattended, but for the
samples of its group. The oracle is told the same for it exactly if these come to the same prompts,
as they do where the first findings of the rule are all in the file. -/
theorem told_isolated (masked : List.Forall₂ (Finding.AgreesOn file) ds ds')
    (selected : (Operator.automatic budget quiet).select (Aggregation.ofFindings ds).selectable
      counts terminal = .ok (.chosen group (some file), counts') terminal') :
    ∃ rule group', group.ruleId = some rule ∧ group.SameButSamples group' ∧
      (Operator.automatic budget quiet).select (Aggregation.ofFindings ds').selectable
        counts terminal = .ok (.chosen group' (some file), counts') terminal' ∧
      ((∀ channel window config talk, Remedy.told channel window config group' talk =
        Remedy.told channel window config group talk) ↔
          Remedy.TellsSame rule file group group') ∧
      ((∀ d ∈ (ds.filter (·.ruleId = some rule)).take sampleSize, d.filePath = file) →
        group' = group) := by
  obtain ⟨rfl, name, ⟨⟩, hnext, rfl⟩ := Operator.select_eq_ok_iff.1 selected
  obtain ⟨whole, whole', hpair, hpair', same, rfl, hnext'⟩ :=
    Operator.nextPair?_same (Aggregation.selectable_sameButSamples masked)
      (Aggregation.nodup_selectable ds) (Aggregation.nodup_selectable ds') hnext
  obtain ⟨hmem, l, hl, hlfile⟩ := Operator.mem_filePairs_iff.1 hpair
  obtain ⟨hmem', _⟩ := Operator.mem_filePairs_iff.1 hpair'
  obtain ⟨rule, hrule⟩ :=
    Option.ne_none_iff_exists'.1 (Aggregation.ruleId_ne_none_of_selectable hmem)
  have hnarrow := same.narrow file
  refine ⟨rule, whole'.narrow file, hrule, hnarrow, ?_, ⟨?_, ?_⟩, ?_⟩
  · refine Operator.select_eq_ok_iff.2 ⟨rfl, file, rfl, hnext', ?_⟩
    unfold View.target View.ruleName
    rw [hnarrow]
  · intro htold
    apply Remedy.tellsSame_of_told_eq hnarrow hrule _ _ htold
    · intro l hl
      exact of_decide_eq_true (List.mem_filter.1 hl).2
    · exact List.ne_nil_of_mem (List.mem_filter.2 ⟨hl, decide_eq_true hlfile⟩)
  · intro tells channel window config talk
    unfold Remedy.told
    rw [Remedy.gather_eq_of_tellsSame hnarrow hrule _ tells]
    intro l hl
    exact of_decide_eq_true (List.mem_filter.1 hl).2
  · intro hfirst
    have hwhole := Aggregation.eq_ofFindings_of_selectable hmem
    have hwhole' := Aggregation.eq_ofFindings_of_selectable hmem'
    rw [same.ruleId] at hwhole'
    change whole.ruleId = some rule at hrule
    rw [hrule] at hwhole hwhole'
    obtain ⟨hmessages, hsource⟩ := RuleGroup.samples_eq (ofRule_agree masked _) hfirst (some rule)
    rw [← hwhole, ← hwhole'] at hmessages hsource
    have heq : whole' = whole := by
      rw [same, hmessages, hsource]
    rw [heq]

end Chosen

/-- A finding of a rule that the analyzer cannot repair. -/
def Finding.noVar (file message : String) : Finding :=
  ⟨some "no-var", .error, file, 1, 1, message, false, none⟩

/-- Findings in two files, the first three of them in one file. -/
def apart (message : String) : List Finding :=
  [.noVar "a.js" "p", .noVar "a.js" "q", .noVar "a.js" "r", .noVar "b.js" message]

theorem told_isolated_apart :
    List.Forall₂ (Finding.AgreesOn "a.js") (apart "s") (apart "t") ∧
      ∃ group counts terminal, (Operator.automatic 1 true).select
        (Aggregation.ofFindings (apart "s")).selectable [] (.fresh []) =
          .ok (.chosen group (some "a.js"), counts) terminal ∧
      ∃ rule group', group.ruleId = some rule ∧ group.SameButSamples group' ∧
        (Operator.automatic 1 true).select (Aggregation.ofFindings (apart "t")).selectable
          [] (.fresh []) = .ok (.chosen group' (some "a.js"), counts) terminal ∧
        ((∀ channel window config talk, Remedy.told channel window config group' talk =
          Remedy.told channel window config group talk) ↔
            Remedy.TellsSame rule "a.js" group group') ∧
        ((∀ d ∈ ((apart "s").filter (·.ruleId = some rule)).take sampleSize,
          d.filePath = "a.js") → group' = group) := by
  have masked : List.Forall₂ (Finding.AgreesOn "a.js") (apart "s") (apart "t") := by
    refine .cons ⟨rfl, fun _ => rfl⟩ (.cons ⟨rfl, fun _ => rfl⟩ (.cons ⟨rfl, fun _ => rfl⟩
      (.cons ⟨rfl, ?_⟩ .nil)))
    intro h
    exact absurd h (by decide)
  have selected : (Operator.automatic 1 true).select
      (Aggregation.ofFindings (apart "s")).selectable [] (.fresh []) =
        .ok (.chosen ⟨some "no-var", .error, 3, false, 0, _, ["p", "q", "r"], []⟩ (some "a.js"), [])
          (.fresh []) := rfl
  exact ⟨masked, _, _, _, selected, told_isolated masked selected⟩

/-- Findings in two files, the first one of them not in the file that is still open. -/
def elsewhereFirst (message : String) : List Finding :=
  [.noVar "b.js" message, .noVar "a.js" "p"]

/-- A talk about a file that can be read. -/
def readingTalk : Talk where
  world := { World.empty with
    files := ⟨["w"], [(["w", "a.js"], .text "var a;\n")], [[], ["w"]], [], false⟩ }
  conversation := {}

/-- What a finding elsewhere says is told to the oracle. -/
theorem told_elsewhereFirst :
    List.Forall₂ (Finding.AgreesOn "a.js") (elsewhereFirst "s") (elsewhereFirst "t") ∧
      ∃ group group' counts terminal,
        (Operator.automatic 1 true).select (Aggregation.ofFindings (elsewhereFirst "s")).selectable
          [(("b.js", some "no-var"), 1)] (.fresh []) =
            .ok (.chosen group (some "a.js"), counts) terminal ∧
        (Operator.automatic 1 true).select (Aggregation.ofFindings (elsewhereFirst "t")).selectable
          [(("b.js", some "no-var"), 1)] (.fresh []) =
            .ok (.chosen group' (some "a.js"), counts) terminal ∧
        ∃ channel window config talk, Remedy.told channel window config group' talk ≠
          Remedy.told channel window config group talk := by
  refine ⟨.cons ⟨rfl, ?_⟩ (.cons ⟨rfl, fun _ => rfl⟩ .nil), _, _, _, _, rfl, rfl,
    Remedy.agent, 0, "", readingTalk, ?_⟩
  · intro h
    exact absurd h (by decide)
  · decide +kernel

end LintRemedy
