import LintRemedy.Proofs.Loop.WellFormed
import LintRemedy.Proofs.Oracle.Trail

/-!
This module contains the thread of sessions through a run: whatever the oracle is asked, it is asked
under the session that a reply has named last since the last switch of files. An unattended run never
takes a session up in work on one file that was named in work on another one.
-/

namespace LintRemedy

/-- All locations are in files that have a name. -/
def Aggregation.Named (found : Aggregation) : Prop :=
  ∀ group ∈ found.rules, ∀ l ∈ group.locations, l.fileFull ≠ ""

instance : DecidablePred Aggregation.Named := fun found =>
  inferInstanceAs (Decidable (∀ group ∈ found.rules, ∀ l ∈ group.locations, l.fileFull ≠ ""))

namespace Loop

variable {μ : Type}

open LintRemedy.Action Oracle.Channel

/-- The file that the work turns to in a phase. -/
def Phase.turning : Phase → Trail
  | gather group file => [.turned (workFile? group file)]
  | _ => []

theorem Phase.turning_of_idle {phase : Phase} (idle : phase.work? = none) : phase.turning = [] := by
  cases phase with
  | gather => cases idle
  | _ => rfl

/-- The talk of a run that has turned to the file of its work. -/
def Run.turned (run : Run μ) : Talk :=
  match run.phase with
  | .gather group file => ⟨run.world, (run.talk.conversation.turnTo (workFile? group file)).2⟩
  | _ => run.talk

theorem Run.turned_of_idle {run : Run μ} (idle : run.phase.work? = none) :
    run.turned = run.talk := by
  unfold Run.turned
  split
  · next phase =>
    rw [phase] at idle
    cases idle
  · rfl

theorem Run.turned_world (run : Run μ) : run.turned.world = run.world := by
  unfold Run.turned
  split
  · rfl
  · rfl

section Steps

variable {setup : Setup μ} {run after : Run μ} {channel : Oracle.Channel}

theorem Step.ofDialogue_converses {α : Type} {dialogue : Dialogue α}
    (h : channel.Converses id run.talk dialogue run.talk) :
    channel.Converses Run.talk run.talk (Step.ofDialogue dialogue) run := by
  obtain ⟨calls, carries, handle⟩ := h
  refine ⟨calls, ?_⟩
  unfold Step.ofDialogue
  cases hdialogue : dialogue run.talk with
  | ok a talk =>
    rw [hdialogue] at carries
    refine ⟨carries, ?_⟩
    rintro _ _ ⟨⟩
    exact handle a talk hdialogue
  | error fault talk =>
    rw [hdialogue] at carries
    refine ⟨carries, ?_⟩
    rintro _ _ ⟨⟩

theorem Step.converses_of_keeps {α : Type} {act : Step μ α}
    (h : Keeps (Run.seen World.heard) act run) : channel.Converses Run.talk run.talk act run :=
  .of_keeps h

theorem turnTo_converses (file : Option String) :
    channel.Converses Run.talk ⟨run.world, (run.talk.conversation.turnTo file).2⟩
      (turnTo setup file) run := by
  apply Converses.of_seen
  cases h : turnTo setup file run with
  | ok _ after =>
    obtain ⟨_, rfl⟩ := turnTo_eq_ok h
    rfl
  | error fault after => exact (turnTo_eq_error.1 h).elim

theorem gather_converses (group : RuleGroup) (file : Option String) :
    setup.channel.Converses Run.talk
      ⟨run.world, (run.talk.conversation.turnTo (workFile? group file)).2⟩
      (gather setup group file) run := by
  unfold gather
  apply Converses.bind (turnTo_converses _)
  intro _ _ _
  apply Converses.bind (Step.converses_of_keeps (Step.announce_keeps World.heard_unshown _ _))
  intro _ _ _
  apply Converses.bind (Step.converses_of_keeps (Step.ofAct_keeps (ConfigFile.read_keeps _ _)))
  intro config run _
  apply Converses.bind (Step.ofDialogue_converses (Remedy.gather_converses _ _ _))
  intro bundle? _ _
  cases bundle? with
  | some bundle => exact .of_pure
  | none =>
    apply Converses.bind (Step.converses_of_keeps (Step.announce_keeps World.heard_unshown _ _))
    intro _ _ _
    apply Converses.bind (Step.converses_of_keeps (settle_keeps _ _ _ _ _))
    intro _ _ _
    exact .of_pure

theorem present_converses (group : RuleGroup) (file : Option String) (bundle : Bundle) :
    setup.channel.Converses Run.talk run.talk (present setup group file bundle) run := by
  unfold present
  apply Converses.bind (Step.converses_of_keeps (Step.ofDecision_keeps World.heard_unshown _ _))
  intro action _ _
  cases action.kind with
  | quit => exact .of_pure
  | ask =>
    apply Converses.bind (Step.ofDialogue_converses (Remedy.answerQuestion_converses _ _ _))
    intro _ _ _
    apply Converses.bind (Step.converses_of_keeps (Step.announce_keeps World.heard_unshown _ _))
    intro _ _ _
    exact .of_pure
  | fix | disable | ignoreLine | ignoreFile | skip =>
    apply Converses.bind (Step.converses_of_keeps (Step.ofAct_keeps
      (perform_keeps World.heard_unedited _ _ _ _ _)))
    intro _ _ _
    apply Converses.bind (Step.converses_of_keeps (Step.announce_keeps World.heard_unshown _ _))
    intro _ _ _
    apply Converses.bind (Step.converses_of_keeps (settle_keeps _ _ _ _ _))
    intro _ _ _
    exact .of_pure

/-- The oracle has no part in a phase without work. -/
theorem handle_keeps {current : Phase} (idle : current.work? = none) :
    Keeps (Run.seen World.heard) (handle setup current) run := by
  cases current with
  | scan => exact (scan_keeps run).map
  | parseError found => exact (meetParseErrors_keeps World.heard_unshown found run).map
  | clean => exact (endClean_keeps run).map
  | hasFindings found => exact (meetFindings_keeps found run).map
  | repairOffered found => exact (offerRepair_keeps found run).map
  | selectRule found => exact (selectRule_keeps World.heard_unshown found run).map
  | gather | present => cases idle
  | done | quit => exact Keeps.of_pure

theorem handle_converses {current : Phase} (phase : run.phase = current) :
    setup.channel.Converses Run.talk run.turned (handle setup current) run := by
  unfold Run.turned
  rw [phase]
  cases current with
  | gather group file => exact (gather_converses group file).map
  | present group file bundle => exact (present_converses group file bundle).map
  | _ => exact Step.converses_of_keeps (handle_keeps rfl)

theorem advance_converses : setup.channel.Converses Run.talk run.turned (advance setup) run := by
  have steps : setup.channel.Converses Run.talk run.turned (step setup) run := by
    unfold step
    apply Converses.of_get
    apply Converses.bind (handle_converses rfl)
    intro occurrence? _ _
    cases occurrence? with
    | none => exact .of_pure
    | some occurrence =>
      apply Converses.bind (Step.converses_of_keeps (Keeps.of_modify rfl))
      intro _ _ _
      exact .of_pure
  unfold advance
  apply Converses.bind steps
  intro event? run _
  cases event? with
  | some event => exact .of_pure
  | none =>
    apply Converses.bind (Step.converses_of_keeps (finish_keeps World.heard_unshown run))
    intro _ _ _
    exact .of_pure

theorem next_carries (setup : Setup μ) (run : Run μ) :
    ∃ calls, setup.channel.Carries run.turned calls (run.next setup).talk ∧
      (calls ≠ [] → run.phase.work?.isSome) ∧
      ∀ event after, step setup run = .ok (some event) after →
        after.talk.conversation.handle =
          setup.channel.renewed calls run.turned.conversation.handle := by
  cases work : run.phase.work? with
  | some =>
    obtain ⟨calls, carries, handle⟩ : setup.channel.Converses _ _ _ _ := advance_converses
    refine ⟨calls, carries, fun _ => rfl, ?_⟩
    intro event after last
    refine handle () after ?_
    unfold advance
    rw [bind_of_ok last]
    rfl
  | none =>
    have kept : (run.next setup).talk.seen World.heard = run.talk.seen World.heard :=
      advance_keeps World.heard_unshown (step_keeps (handle_keeps work))
    rw [Run.turned_of_idle work]
    refine ⟨[], .of_seen kept, fun h => (h rfl).elim, ?_⟩
    intro event after last
    rw [Run.next_eq last] at kept
    exact congrArg (fun seen => seen.1.handle) kept

end Steps

/-- The runs of a history leave a trail: where there is work, it turns to a file, and then these calls
of the oracle and no others are made. -/
inductive Leaves (setup : Setup μ) : List (Run μ) → Trail → Prop where
  | nil : Leaves setup [] []
  | cons {runs trail run calls} (earlier : Leaves setup runs trail)
      (makes : setup.channel.Makes run.world calls (run.next setup).world)
      (working : calls ≠ [] → run.phase.work?.isSome) :
      Leaves setup (run :: runs) (calls.map .asked ++ (run.phase.turning ++ trail))

/-- The trail of a run and the step after it, which a fault may cut short. -/
structure Threaded (setup : Setup μ) (moves : List (Move μ)) (run : Run μ) (trail : Trail) :
    Prop where
  leaves : Leaves setup (run :: moves.map Move.before) trail
  /-- Every call is made under the session that is due. -/
  threads : trail.Threads setup.channel
  /-- An agent is told to take this session up, if there is one. -/
  resumes : ∀ call, .asked call ∈ trail → setup.channel.approachOf call = .agent →
    ∃ input killed, (setup.channel.leftBy call).deeds = call.world.deeds ++
      [.ranAgent (setup.channel.agentCommand call.schema none ++ resumption call.handle) input
        killed]
  resets : (run.next setup).talk.conversation.resets = trail.switches

/-- A run stands where the trail of its moves has led. -/
structure Follows (setup : Setup μ) (moves : List (Move μ)) (run : Run μ) (trail : Trail) :
    Prop where
  leaves : Leaves setup (moves.map Move.before) trail
  threads : trail.Threads setup.channel
  holds : trail.Holds setup.channel run.talk.conversation

section Runs

variable {setup : Setup μ} {run after : Run μ} {event : Event} {memory : μ} {world : World}
  {moves : List (Move μ)} {trail : Trail}

theorem turning_holds (holds : trail.Holds setup.channel run.talk.conversation) :
    Trail.Holds setup.channel (run.phase.turning ++ trail) run.turned.conversation := by
  unfold Phase.turning Run.turned
  cases run.phase with
  | gather group file => exact holds.turned (workFile? group file)
  | _ => exact holds

theorem turning_threads (phase : Phase) (threads : trail.Threads setup.channel) :
    Trail.Threads setup.channel (phase.turning ++ trail) := by
  unfold Phase.turning
  cases phase with
  | gather group file => exact threads.turned (workFile? group file)
  | _ => exact threads

theorem Follows.next (follows : Follows setup moves run trail) :
    ∃ trail', Threaded setup moves run trail' ∧ ∀ event after,
      step setup run = .ok (some event) after →
        Follows setup (⟨run, event, after⟩ :: moves) after trail' := by
  obtain ⟨calls, carries, working, handle⟩ := next_carries setup run
  have holds := turning_holds follows.holds
  have sent := carries.sent
  rw [holds.handle] at sent
  have threads := (turning_threads run.phase follows.threads).asked sent
  have makes := carries.makes
  rw [Run.turned_world] at makes
  have leaves := follows.leaves.cons makes working
  refine ⟨_, ⟨leaves, threads, ?_, ?_⟩, ?_⟩
  · intro call hcall agent
    exact leftBy_deeds agent (threads.handle_ne_empty hcall)
  · rw [carries.resets, holds.resets, Trail.switches_asked]
  · intro event after last
    refine ⟨leaves, threads, ?_⟩
    rw [Run.next_eq last] at carries
    exact holds.asked carries (handle event after last)

theorem Reaches.follows (h : Reaches setup (.start memory world) moves run) :
    ∃ trail, Follows setup moves run trail := by
  induction h with
  | here => exact ⟨[], .nil, .nil, ⟨rfl, rfl, rfl⟩⟩
  | move _ last ih =>
    obtain ⟨_, follows⟩ := ih
    obtain ⟨trail, _, hnext⟩ := follows.next
    exact ⟨trail, hnext _ _ last⟩

theorem Reaches.threaded (h : Reaches setup (.start memory world) moves run) :
    ∃ trail, Threaded setup moves run trail := by
  obtain ⟨_, follows⟩ := h.follows
  obtain ⟨trail, threaded, _⟩ := follows.next
  exact ⟨trail, threaded⟩

theorem Reaches.unit (h : Reaches setup (.start memory world) moves run)
    (leaves : Leaves setup (moves.map Move.before) trail) {group : RuleGroup}
    {file : Option String} (work : run.phase.work? = some (group, file)) :
    Trail.unit? (run.phase.turning ++ trail) = workFile? group file := by
  induction h generalizing trail with
  | here => cases work
  | move reached last ih =>
    rw [List.map_cons] at leaves
    cases leaves with
    | cons earlier _ _ =>
      cases step_transition last with
      | ruleSelected =>
        cases work
        rfl
      | bundleReady phase | followUp phase =>
        cases work
        exact (Trail.unit?_asked _ _).trans (ih earlier (congrArg Phase.work? phase))
      | _ => cases work

end Runs

section Unattended

variable {budget : Int} {quiet : Bool} {setup : Setup SkipCounts} {run : Run SkipCounts}
  {memory : SkipCounts} {world : World} {moves : List (Move SkipCounts)} {trail : Trail}

/-- Unattended work is on a file that has a name, if all locations of findings are in such files. -/
theorem Reaches.workFile_named (unattended : setup.operator = .automatic budget quiet)
    (h : Reaches setup (.start memory world) moves run)
    (named : ∀ move ∈ moves, ∀ found ∈ move.passage.found?, found.Named) {group : RuleGroup}
    {file : Option String} (work : run.phase.work? = some (group, file)) :
    ∃ name, name ≠ "" ∧ workFile? group file = some name := by
  obtain ⟨_, found, _, _, hfound, selected⟩ := (Current.of_reaches h).work group file work
  obtain ⟨scan, hscan, hfound⟩ := Option.bind_eq_some_iff.1 hfound
  rw [unattended] at selected
  obtain ⟨_, whole, hpair, rfl, _⟩ := Operator.select_chosen selected
  obtain ⟨hwhole, l, hl, rfl⟩ := Operator.mem_filePairs_iff.1 hpair
  have filled := named scan (List.mem_of_find?_eq_some hscan) found hfound whole
    (List.mem_filter.1 hwhole).1 l hl
  refine ⟨l.fileFull, filled, ?_⟩
  simp [workFile?, Option.filter_some, filled]

theorem Reaches.named_next (unattended : setup.operator = .automatic budget quiet)
    (h : Reaches setup (.start memory world) moves run)
    (named : ∀ move ∈ moves, ∀ found ∈ move.passage.found?, found.Named)
    (leaves : Leaves setup (moves.map Move.before) trail) (htrail : trail.Named)
    {calls : List Oracle.Call} (working : calls ≠ [] → run.phase.work?.isSome) :
    Trail.Named (calls.map .asked ++ (run.phase.turning ++ trail)) := by
  cases work : run.phase.work? with
  | none =>
    have silent : calls = [] := by
      by_contra asked
      rw [work] at working
      cases working asked
    rw [silent, Phase.turning_of_idle work]
    exact htrail
  | some selection =>
    obtain ⟨group, file⟩ := selection
    obtain ⟨name, filled, hname⟩ := h.workFile_named unattended named work
    have unit := h.unit leaves work
    rw [hname] at unit
    apply Trail.Named.asked
    · unfold Phase.turning
      split
      · next phase =>
        rw [phase] at work
        cases work
        exact ⟨⟨name, filled, hname⟩, htrail⟩
      · exact htrail
    · rw [unit]
      rfl

theorem Reaches.trail_named (unattended : setup.operator = .automatic budget quiet)
    (h : Reaches setup (.start memory world) moves run)
    (named : ∀ move ∈ moves, ∀ found ∈ move.passage.found?, found.Named)
    (leaves : Leaves setup (moves.map Move.before) trail) : trail.Named := by
  induction h generalizing trail with
  | here =>
    cases leaves
    trivial
  | move reached _ ih =>
    rw [List.forall_mem_cons] at named
    rw [List.map_cons] at leaves
    cases leaves with
    | cons earlier _ working =>
      exact reached.named_next unattended named.2 earlier (ih named.2 earlier) working

theorem Threaded.isolated (unattended : setup.operator = .automatic budget quiet)
    (h : Reaches setup (.start memory world) moves run)
    (named : ∀ move ∈ moves, ∀ found ∈ move.passage.found?, found.Named)
    (threaded : Threaded setup moves run trail) : trail.Isolated setup.channel := by
  have leaves := threaded.leaves
  cases leaves with
  | cons earlier _ working =>
    have htrail := h.trail_named unattended named earlier
    exact (h.named_next unattended named earlier htrail working).isolated threaded.threads

end Unattended

/-- Whatever the oracle is asked in a run, it is asked under the session that a reply has named last
since the last switch of files, and the switches are counted. Where all findings are in files that
have a name, an unattended run takes no session up in work on another file than the one where it was
named. -/
theorem sessions_threaded :
    (∀ {μ : Type} (setup : Setup μ) (memory : μ) (world : World) (moves : List (Move μ))
      (run : Run μ), Reaches setup (.start memory world) moves run →
      ∃ trail, Threaded setup moves run trail) ∧
    ∀ (budget : Int) (quiet : Bool) (setup : Setup SkipCounts) (memory : SkipCounts)
      (world : World) (moves : List (Move SkipCounts)) (run : Run SkipCounts) (trail : Trail),
      setup.operator = .automatic budget quiet → Reaches setup (.start memory world) moves run →
      (∀ move ∈ moves, ∀ found ∈ move.passage.found?, found.Named) →
      Threaded setup moves run trail → trail.Isolated setup.channel := by
  constructor
  · intro μ setup memory world moves run h
    exact h.threaded
  · intro budget quiet setup memory world moves run trail unattended h named threaded
    exact threaded.isolated unattended h named

/-- A project with a finding in each of two files, and an oracle that names a session for each of
them, and fails to answer in between. -/
def twoFiles : World :=
  let finding := fun (name : String) => "\x7b\"filePath\":\"" ++ name ++
    "\",\"messages\":[\x7b\"ruleId\":\"no-var\"\x7d]\x7d"
  let found := fun (findings : String) =>
    AnalyzerAnswer.mk (.finished 1 ("[" ++ findings ++ "]") "") []
  let said := fun (answer : String) => OracleAnswer.mk (.finished 0 (.text answer) (.text "")) []
  { World.empty with
    files := ((Files.empty ["w"]).set ["w", "a.js"] (.text "var a;\n")).set ["w", "b.js"]
      (.text "var b;\n")
    scans := [found (finding "/w/a.js" ++ "," ++ finding "/w/b.js"), found (finding "/w/b.js"),
      ⟨.finished 0 "[]" "", []⟩]
    replies := [said "\x7b\"problem_description\":\"p\",\"session_id\":\"s\"\x7d",
      ⟨.timedOut, []⟩,
      said "\x7b\"start_line\":1,\"end_line\":1,\"fixed_code\":\"let a;\"\x7d",
      said "\x7b\"problem_description\":\"p\"\x7d",
      said "\x7b\"session_id\":\"t\"\x7d",
      said "\x7b\"start_line\":1,\"end_line\":1,\"fixed_code\":\"let b;\"\x7d"] }

/-- Whether an agent was told to take a session up. -/
def resumes : Deed → Bool
  | .ranAgent command _ _ => "--resume" ∈ command
  | _ => false

theorem sessions_threaded_twoFiles :
    ∃ moves run trail, Reaches patientSetup (.start [] twoFiles) moves run ∧
      run.talk.conversation = ⟨some "t", some "/w/b.js", 1⟩ ∧
      run.world.deeds.countP resumes = 3 ∧
      Threaded patientSetup moves run trail ∧ trail.Isolated patientSetup.channel := by
  let check := fun run : Run SkipCounts =>
    decide (run.talk.conversation = ⟨some "t", some "/w/b.js", 1⟩ ∧
      run.world.deeds.countP resumes = 3)
  obtain ⟨ends, names⟩ :
      ((course patientSetup [] twoFiles).passages.getLast?.any fun passage =>
        check passage.after) ∧
      (course patientSetup [] twoFiles).passages.all fun passage =>
        passage.found?.all fun found => found.Named := by
    decide +kernel
  obtain ⟨moves, run, reached, hcheck, hpassages⟩ := course_last check ends
  rw [hpassages, List.all_reverse, List.all_map, List.all_eq_true] at names
  obtain ⟨trail, threaded⟩ := sessions_threaded.1 patientSetup [] twoFiles moves run reached
  obtain ⟨conversation, resumed⟩ := of_decide_eq_true hcheck
  refine ⟨moves, run, trail, reached, conversation, resumed, threaded, ?_⟩
  apply sessions_threaded.2 1 true patientSetup [] twoFiles moves run trail rfl reached ?_ threaded
  intro move hmove found hfound
  have hnames := names move hmove
  exact of_decide_eq_true ((Option.all_eq_true _ _).1 hnames found hfound)

end Loop
end LintRemedy
