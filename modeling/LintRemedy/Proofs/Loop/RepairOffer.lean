import LintRemedy.Proofs.Loop.SkipBudget

/-!
This module contains when the analyzer is offered to repair what it can: whenever a scan counts such
findings, unless the last repair that was allowed has started from the same counts. It does not matter
whether there were other counts in between.
-/

namespace LintRemedy

theorem Aggregation.fixable_le_totalIssues (ds : List Finding) :
    (ofFindings ds).summary.fixable ≤ (ofFindings ds).summary.totalIssues :=
  Int.ofNat_le.2 List.countP_le_length

theorem Analyzer.scan_eq_ok {analyzer : Analyzer} {target : String} {found : Aggregation}
    {world world' : World} (h : analyzer.scan target world = .ok found world') :
    ∃ ds, found = .ofFindings ds := by
  obtain ⟨ds, _, rfl⟩ := Action.map_eq_ok.1 h
  exact ⟨ds, rfl⟩

namespace Loop

variable {μ : Type}

open LintRemedy.Action

/-- A repair of the analyzer was allowed. -/
def Passage.isAttempt (passage : Passage μ) : Bool :=
  passage.state = .repairOffered ∧ passage.event ≠ .repairDeclined

/-- The counts that a repair has started from, if it was allowed. -/
def Move.attempted? (move : Move μ) : Option Summary :=
  if move.passage.isAttempt then move.before.phase.holds?.map (·.summary) else none

/-- The counts that the last repair in a history has started from. -/
def lastAttempt? (moves : List (Move μ)) : Option Summary :=
  moves.findSome? Move.attempted?

/-- A repair was allowed that has started from these counts, and every scan since has come to them. -/
def Tried (moves : List (Move μ)) (summary : Summary) : Prop :=
  ∃ later attempt earlier, moves = later ++ attempt :: earlier ∧
    attempt.attempted? = some summary ∧
    ∀ move ∈ later, ∀ found ∈ move.passage.found?, found.summary = summary

/-- Every scan since the last repair that was allowed has come to these counts. -/
def SameSince (passages : List (Passage μ)) (summary : Summary) : Prop :=
  ∀ passage ∈ passages.takeWhile (! ·.isAttempt), ∀ found ∈ passage.found?,
    found.summary = summary

instance (passages : List (Passage μ)) (summary : Summary) : Decidable (SameSince passages summary) :=
  inferInstanceAs (Decidable (∀ passage ∈ _, ∀ found ∈ _, _))

/-- These counts were not left after a repair that has started from them to be come back to. -/
def Unreturned (moves : List (Move μ)) (summary : Summary) : Prop :=
  lastAttempt? moves = some summary → SameSince (moves.map Move.passage) summary

section Histories

variable {moves : List (Move μ)} {move : Move μ} {summary : Summary}

theorem Phase.holds?_of_repairOffered {phase : Phase} (h : phase.state = .repairOffered) :
    ∃ found, phase.holds? = some found := by
  cases phase with
  | repairOffered found => exact ⟨found, rfl⟩
  | _ => cases h

theorem Move.attempted?_eq_none : move.attempted? = none ↔ move.passage.isAttempt = false := by
  unfold Move.attempted?
  split
  · next attempt =>
    obtain ⟨offered, _⟩ := of_decide_eq_true attempt
    obtain ⟨found, holds⟩ := Phase.holds?_of_repairOffered offered
    rw [holds, attempt]
    exact ⟨nofun, nofun⟩
  · next idle => exact ⟨fun _ => Bool.eq_false_iff.2 idle, fun _ => rfl⟩

theorem Move.isAttempt_of_attempted? (h : move.attempted? = some summary) :
    move.passage.isAttempt := by
  rw [← Bool.not_eq_false, ← Move.attempted?_eq_none, h]
  nofun

theorem mem_of_mem_takeWhile {later earlier : List (Passage μ)} {attempt passage : Passage μ}
    (stops : attempt.isAttempt)
    (h : passage ∈ (later ++ attempt :: earlier).takeWhile (! ·.isAttempt)) : passage ∈ later := by
  rw [List.takeWhile_append, List.takeWhile_cons_of_neg (by simpa using stops)] at h
  split at h
  · rwa [List.append_nil] at h
  · exact (List.takeWhile_prefix _).subset h

theorem Tried.unreturned (h : Tried moves summary) : Unreturned moves summary := by
  obtain ⟨later, attempt, earlier, rfl, attempted, same⟩ := h
  -- The last repair is not before this one, so the scans since then are among the later moves.
  intro _ passage hmem
  rw [List.map_append, List.map_cons] at hmem
  have hlater := mem_of_mem_takeWhile (Move.isAttempt_of_attempted? attempted) hmem
  obtain ⟨move, hmove, rfl⟩ := List.mem_map.1 hlater
  exact same move hmove

theorem tried_of_sameSince (attempted : lastAttempt? moves = some summary)
    (same : SameSince (moves.map Move.passage) summary) : Tried moves summary := by
  obtain ⟨later, attempt, earlier, rfl, hattempt, hlater⟩ := List.findSome?_eq_some_iff.1 attempted
  refine ⟨later, attempt, earlier, rfl, hattempt, ?_⟩
  have idle : ∀ passage ∈ later.map Move.passage, (! passage.isAttempt) = true := by
    intro passage hpassage
    obtain ⟨move, hmove, rfl⟩ := List.mem_map.1 hpassage
    rw [Move.attempted?_eq_none.1 (hlater move hmove)]
    rfl
  intro move hmove
  apply same
  rw [List.map_append, List.takeWhile_append_of_pos idle]
  exact List.mem_append_left _ (List.mem_map_of_mem hmove)

end Histories

section Runs

variable {setup : Setup μ} {run after : Run μ} {event : Event} {memory : μ} {world : World}
  {moves : List (Move μ)} {found : Aggregation}

theorem lastAttempt?_cons (h : Move.attempted? ⟨run, event, after⟩ = none) :
    lastAttempt? (⟨run, event, after⟩ :: moves) = lastAttempt? moves := by
  unfold lastAttempt?
  rw [List.findSome?_cons, h]

theorem lastAttempt?_cons_of_some {summary : Summary}
    (h : Move.attempted? ⟨run, event, after⟩ = some summary) :
    lastAttempt? (⟨run, event, after⟩ :: moves) = some summary := by
  unfold lastAttempt?
  rw [List.findSome?_cons, h]

theorem attempted?_of_ne (h : run.phase.state ≠ .repairOffered) :
    Move.attempted? ⟨run, event, after⟩ = none :=
  Move.attempted?_eq_none.2 (decide_eq_false fun attempt => h attempt.1)

theorem attempted?_of_offered (phase : run.phase = .repairOffered found)
    (h : event ≠ .repairDeclined) : Move.attempted? ⟨run, event, after⟩ = some found.summary := by
  have attempt : (Move.mk run event after).passage.isAttempt :=
    decide_eq_true ⟨congrArg Phase.state phase, h⟩
  unfold Move.attempted?
  rw [if_pos attempt, phase]
  rfl

/-- A move either makes an attempt, and the run remembers its counts, or none. -/
theorem Transition.repairSummary (h : Transition setup run event after) :
    (∃ summary, Move.attempted? ⟨run, event, after⟩ = some summary ∧
      after.repairSummary = some summary) ∨
    (Move.attempted? ⟨run, event, after⟩ = none ∧ after.repairSummary = run.repairSummary) := by
  cases h with
  | repairApplied phase | repairFailed phase =>
    exact .inl ⟨_, attempted?_of_offered phase (by decide), rfl⟩
  | repairDeclined =>
    exact .inr ⟨Move.attempted?_eq_none.2 (decide_eq_false fun attempt => attempt.2 rfl), rfl⟩
  | _ =>
    refine .inr ⟨attempted?_of_ne ?_, rfl⟩
    rw [‹run.phase = _›]
    nofun

/-- What a run remembers is what its history says. -/
theorem repairSummary_eq (h : Reaches setup (.start memory world) moves run) :
    run.repairSummary = lastAttempt? moves := by
  induction h with
  | here => rfl
  | move _ last ih =>
    rcases (step_transition last).repairSummary with ⟨summary, attempted, hafter⟩ | ⟨none, hafter⟩
    · rw [hafter, lastAttempt?_cons_of_some attempted]
    · rw [hafter, lastAttempt?_cons none, ih]

theorem meetFindings_succeeds (found : Aggregation) (run : Run μ) :
    ∃ occurrence, meetFindings found run = .ok occurrence run := by
  unfold meetFindings
  rw [bind_of_ok (get_eq_ok.2 ⟨rfl, rfl⟩)]
  split
  · exact ⟨_, rfl⟩
  · exact ⟨_, rfl⟩

theorem step_succeeds (phase : run.phase = .hasFindings found) :
    ∃ event after, step setup run = .ok (some event) after := by
  have handled : ∃ occurrence, handle setup run.phase run = .ok (some occurrence) run := by
    rw [phase]
    obtain ⟨occurrence, h⟩ := meetFindings_succeeds found run
    exact ⟨occurrence, map_eq_ok.2 ⟨occurrence, h, rfl⟩⟩
  obtain ⟨occurrence, handled⟩ := handled
  refine ⟨occurrence.event, { run with phase := occurrence.phase }, ?_⟩
  unfold step
  rw [bind_of_ok (get_eq_ok.2 ⟨rfl, rfl⟩), bind_of_ok handled]
  rfl

/-- A scan that counts what can be repaired leads on, if need be past files that cannot be parsed. -/
theorem Transition.scan_leads (h : Transition setup run event after)
    (hfound : (Move.mk run event after).passage.found? = some found)
    (fixable : 0 < found.summary.fixable) :
    after.phase = .hasFindings found ∨ after.phase = .parseError found := by
  obtain ⟨phase, hevent, hlast⟩ :
      run.phase.state = .scan ∧ event ≠ .scanFailed ∧ after.report.lastResult = some found := by
    unfold Passage.found? at hfound
    split at hfound
    · next scans => exact ⟨scans.1, scans.2, hfound⟩
    · cases hfound
  cases h with
  | scanFailed => exact (hevent rfl).elim
  | parseErrorsFound =>
    cases hlast
    exact .inr rfl
  | issuesFound =>
    cases hlast
    exact .inl rfl
  | noIssues _ scanned _ clean =>
    -- There is nothing to repair where there is nothing at all.
    cases hlast
    obtain ⟨_, _, _, hscan, _⟩ := scanned
    obtain ⟨ds, rfl⟩ := Analyzer.scan_eq_ok hscan
    have hle := Aggregation.fixable_le_totalIssues ds
    omega
  | _ =>
    rw [‹run.phase = _›] at phase
    cases phase

theorem Transition.goes_on (h : Transition setup run event after)
    (phase : run.phase = .parseError found) (hevent : event ≠ .halt) :
    after.phase = .hasFindings found := by
  cases h with
  | goOn at_ =>
    rw [phase] at at_
    cases at_
    rfl
  | halt => exact (hevent rfl).elim
  | _ =>
    rw [‹run.phase = _›] at phase
    cases phase

/-- A repair is offered unless the last one that was allowed has started from the same counts. -/
theorem offered_iff (reached : Reaches setup (.start memory world) moves run)
    (phase : run.phase = .hasFindings found) (fixable : 0 < found.summary.fixable)
    (last : step setup run = .ok (some event) after) :
    after.phase = .repairOffered found ↔ lastAttempt? moves ≠ some found.summary := by
  rw [← repairSummary_eq reached]
  cases step_transition last with
  | fixablePresent at_ _ changed =>
    rw [phase] at at_
    cases at_
    exact ⟨fun _ => changed, fun _ => rfl⟩
  | noneFixable at_ unfixable =>
    rw [phase] at at_
    cases at_
    have same := unfixable.resolve_left (Int.not_le.2 fixable)
    exact ⟨nofun, fun h => (h same).elim⟩
  | _ =>
    rw [‹run.phase = _›] at phase
    cases phase

end Runs

/-- A scan that counts something to repair leads to an offer, unless a repair was tried from the same
counts, which were not left since. This is so up to counts that were left and are come back to. -/
theorem repair_offered {setup : Setup μ} {memory : μ} {world : World} {moves : List (Move μ)}
    {run : Run μ} {found : Aggregation} (reached : Reaches setup (.start memory world) moves run)
    (fixable : 0 < found.summary.fixable) :
    (∀ event after, step setup run = .ok (some event) after →
      (Move.mk run event after).passage.found? = some found →
        after.phase = .hasFindings found ∨ after.phase = .parseError found) ∧
    (run.phase = .parseError found → ∀ event after, step setup run = .ok (some event) after →
      event ≠ .halt → after.phase = .hasFindings found) ∧
    (run.phase = .hasFindings found → ∃ event after, step setup run = .ok (some event) after ∧
      (after.phase = .repairOffered found ∨ Tried moves found.summary ↔
        Unreturned moves found.summary)) := by
  refine ⟨?_, ?_, ?_⟩
  · intro event after hstep hfound
    exact (step_transition hstep).scan_leads hfound fixable
  · intro phase event after hstep hevent
    exact (step_transition hstep).goes_on phase hevent
  · intro phase
    obtain ⟨event, after, hstep⟩ := step_succeeds phase
    refine ⟨event, after, hstep, ?_⟩
    rw [offered_iff reached phase fixable hstep]
    constructor
    · rintro (offered | tried)
      · exact fun attempted => (offered attempted).elim
      · exact tried.unreturned
    · intro unreturned
      by_cases attempted : lastAttempt? moves = some found.summary
      · exact .inr (tried_of_sameSince attempted (unreturned attempted))
      · exact .inl attempted

/-- A project whose scans take turns to find something that the analyzer can repair and something that
it cannot. -/
def flipWorld : World :=
  let scan := fun (message : String) => AnalyzerAnswer.mk
    (.finished 1 ("[\x7b\"filePath\":\"/w/a.js\",\"messages\":[" ++ message ++ "]\x7d]") "") []
  let repairable := scan "\x7b\"ruleId\":\"semi\",\"fix\":\x7b\"text\":\";\"\x7d\x7d"
  { World.empty with
    files := (Files.empty ["w"]).set ["w", "a.js"] (.text "var a\n")
    scans := [repairable, scan "\x7b\"ruleId\":\"no-var\"\x7d", repairable]
    repairs := [⟨.finished 0 "" "", []⟩] }

/-- The findings that a run has met and not dealt with, if a check of their counts is passed. -/
def Run.meets (check : Run μ → Summary → Bool) (run : Run μ) : Bool :=
  match run.phase with
  | .hasFindings found => check run found.summary
  | _ => false

theorem Run.of_meets {check : Run μ → Summary → Bool} {run : Run μ} (h : run.meets check) :
    ∃ found, run.phase = .hasFindings found ∧ check run found.summary := by
  unfold Run.meets at h
  split at h
  · next found phase => exact ⟨found, phase, h⟩
  · cases h

theorem repair_offered_flipWorld :
    ∃ moves run found, Reaches hastySetup (.start [] flipWorld) moves run ∧
      run.phase = .hasFindings found ∧ 0 < found.summary.fixable ∧
      ∃ event after, step hastySetup run = .ok (some event) after ∧
        (after.phase = .repairOffered found ∨ Tried moves found.summary ↔
          Unreturned moves found.summary) := by
  have scanned : (follow hastySetup 1 (.start [] flipWorld) []).passages.getLast?.any
      (·.after.meets fun _ counts => 0 < counts.fixable) := by decide +kernel
  obtain ⟨moves, run, reached, meets, _⟩ := follow_last 1 _ scanned
  obtain ⟨found, phase, hfixable⟩ := Run.of_meets meets
  have fixable := of_decide_eq_true hfixable
  exact ⟨moves, run, found, reached, phase, fixable, (repair_offered reached fixable).2.2 phase⟩

/-- A repair that was tried and has brought something else about is not offered again where the counts
come back. -/
theorem flipWorld_withholds :
    ∃ moves run found, Reaches hastySetup (.start [] flipWorld) moves run ∧
      run.phase = .hasFindings found ∧ 0 < found.summary.fixable ∧ ¬ Tried moves found.summary ∧
      ∃ event after, step hastySetup run = .ok (some event) after ∧
        after.phase ≠ .repairOffered found := by
  -- The third scan is the eighth move.
  let passages := (follow hastySetup 8 (.start [] flipWorld) []).passages
  have scanned : passages.getLast?.any (·.after.meets fun run counts =>
      0 < counts.fixable ∧ run.repairSummary = some counts ∧ ¬ SameSince passages.reverse counts) := by
    decide +kernel
  obtain ⟨moves, run, reached, meets, hpassages⟩ := follow_last 8 _ scanned
  obtain ⟨found, phase, hcounts⟩ := Run.of_meets meets
  obtain ⟨fixable, remembered, changed⟩ := of_decide_eq_true hcounts
  obtain ⟨event, after, hstep⟩ : ∃ event after, step hastySetup run = .ok (some event) after :=
    step_succeeds phase
  have attempted : lastAttempt? moves = some found.summary :=
    (repairSummary_eq reached).symm.trans remembered
  have history : passages.reverse = moves.map Move.passage := by
    rw [← List.reverse_reverse (moves.map Move.passage), ← hpassages]
  refine ⟨moves, run, found, reached, phase, fixable, ?_, event, after, hstep, ?_⟩
  · intro tried
    rw [history] at changed
    exact changed (tried.unreturned attempted)
  · intro offered
    exact (offered_iff reached phase fixable hstep).1 offered attempted

end Loop
end LintRemedy
