import LintRemedy.Proofs.Finding.Reading
import LintRemedy.Proofs.World.Footprint

/-!
This module contains how runs of the analyzer fail. Nearly everything that its process can come to
makes findings or a failed scan. The exceptions are told here, too: they end in other faults, which
nobody expects of a scan.
-/

namespace LintRemedy

/-- A fault that says something else than that a scan has failed. -/
def Fault.IsStray (fault : Fault) : Prop :=
  ∀ failure, fault ≠ .scanFailed failure

theorem Act.exists_fault_iff {α : Type} {kind : Fault → Prop} {outcome : Except Fault α}
    {world : World} :
    (∃ fault after, Act.ofExcept id outcome world = .error fault after ∧ kind fault) ↔
      Outcome.Fails kind outcome := by
  simp only [Act.ofExcept_eq_error]
  constructor
  · rintro ⟨fault, _, ⟨h, _⟩, hkind⟩
    exact ⟨fault, h, hkind⟩
  · rintro ⟨fault, h, hkind⟩
    exact ⟨fault, world, ⟨h, rfl⟩, hkind⟩

namespace Analyzer

/-- What the process of a scan is going to come to. -/
def scanOutcome (analyzer : Analyzer) (target : String) (world : World) : AnalyzerOutcome :=
  (dueAnswer world (analyzer.command ++ scanArguments target)).outcome

/-- What the process of a repair is going to come to. -/
def repairOutcome (analyzer : Analyzer) (target : String) (world : World) : AnalyzerOutcome :=
  (dueAnswer world (analyzer.command ++ repairArguments target)).outcome

/-- The outcomes of a process that are not taken for failures: a missing program without a name, and
the end of a time that cannot be told. -/
inductive Escapes (analyzer : Analyzer) : AnalyzerOutcome → Prop where
  | nameless (command : analyzer.command = []) : Escapes analyzer .programMissing
  | untold {fault} (limit : analyzer.timeLimit.number = .error fault) : Escapes analyzer .timedOut

/-- The outputs of a scan that are not taken for failures although they cannot be read. -/
inductive EscapesReading (stdout : String) : Prop where
  | tooDeep {place} (decoded : Json.decode (Text.trim stdout.toList) = .error (.tooDeep place))
  | tooManyDigits {count}
      (decoded : Json.decode (Text.trim stdout.toList) = .error (.tooManyDigits count))
  | infinite {entries} (decoded : Json.decode (Text.trim stdout.toList) = .ok (.arr entries))
      (infinite : Report.MeetsInfinity entries)

variable (analyzer : Analyzer) (target : String) (world : World)

theorem findings_eq : analyzer.findings target world = Act.ofExcept id (do
    let (status, stdout, stderr) ← analyzer.result (scanArguments target) world
    let entries ← readReport status stdout stderr
    readFindings entries) (analyzer.ranWorld (scanArguments target) world) := by
  unfold findings report
  rw [← bind_assoc]
  apply Act.ofExcept_bind (Act.ofExcept_bind (analyzer.run_eq _ world) ?_) ?_
  · rintro ⟨status, stdout, stderr⟩
    rfl
  · intro entries
    rfl

theorem repair_eq : analyzer.repair target world = Act.ofExcept id (do
    let (status, _, stderr) ← analyzer.result (repairArguments target) world
    if status = 0 ∨ status = 1 then return status
    else throw (.scanFailed (.repairFailed status (Text.trimmed stderr))))
      (analyzer.ranWorld (repairArguments target) world) := by
  unfold repair
  apply Act.ofExcept_bind (analyzer.run_eq _ world)
  rintro ⟨status, _, stderr⟩
  dsimp only
  split <;> rfl

variable {analyzer target world}

theorem fails_ended_iff {outcome : AnalyzerOutcome} :
    Outcome.Fails Fault.IsStray (analyzer.ended outcome) ↔ analyzer.Escapes outcome := by
  constructor
  · rintro ⟨fault, hended, stray⟩
    cases outcome with
    | programMissing =>
      cases hcommand : analyzer.command with
      | nil => exact .nameless hcommand
      | cons program _ =>
        simp only [ended, hcommand, Except.error.injEq] at hended
        exact (stray _ hended.symm).elim
    | timedOut =>
      cases hlimit : analyzer.timeLimit.number with
      | ok limit =>
        simp only [ended, hlimit, Except.error.injEq] at hended
        exact (stray _ hended.symm).elim
      | error _ => exact .untold hlimit
    | notStarted reason =>
      cases hended
      exact (stray _ rfl).elim
    | finished => cases hended
  · rintro (hcommand | @⟨fault, hlimit⟩)
    · refine ⟨.noItem, ?_, nofun⟩
      simp only [ended, hcommand]
    · refine ⟨.badTimeLimit fault, ?_, nofun⟩
      simp only [ended, hlimit]

theorem ended_eq_ok {outcome : AnalyzerOutcome} {status : Int} {stdout stderr : String} :
    analyzer.ended outcome = .ok (status, stdout, stderr) ↔
      outcome = .finished status stdout stderr := by
  cases outcome with
  | programMissing =>
    unfold ended
    cases analyzer.command <;> exact ⟨nofun, nofun⟩
  | timedOut =>
    unfold ended
    cases analyzer.timeLimit.number <;> exact ⟨nofun, nofun⟩
  | notStarted reason => exact ⟨nofun, nofun⟩
  | finished status' stdout' stderr' =>
    unfold ended
    rw [Except.ok.injEq, AnalyzerOutcome.finished.injEq, Prod.mk.injEq, Prod.mk.injEq]

variable {arguments : List String}

/-- The outcome that is due to a command. -/
theorem result_eq_ok {status : Int} {stdout stderr : String} :
    analyzer.result arguments world = .ok (status, stdout, stderr) ↔
      analyzer.launchFault? arguments world = none ∧
        (dueAnswer world (analyzer.command ++ arguments)).outcome =
          .finished status stdout stderr := by
  unfold result
  cases analyzer.launchFault? arguments world with
  | some fault => exact ⟨nofun, nofun⟩
  | none => exact ended_eq_ok.trans (and_iff_right rfl).symm

theorem fails_result_iff :
    Outcome.Fails Fault.IsStray (analyzer.result arguments world) ↔
      (∃ fault, analyzer.launchFault? arguments world = some fault) ∨
        analyzer.launchFault? arguments world = none ∧
          analyzer.Escapes (dueAnswer world (analyzer.command ++ arguments)).outcome := by
  unfold result
  cases analyzer.launchFault? arguments world with
  | some fault => simp [Outcome.fails_error, Fault.IsStray]
  | none => simp [fails_ended_iff]

theorem readReport_eq_ok {status : Int} {stdout stderr : String} {entries : List Json} :
    readReport status stdout stderr = .ok entries ↔
      Json.decode (Text.trim stdout.toList) = .ok (.arr entries) := by
  unfold readReport
  cases htext : Text.trim stdout.toList with
  | nil => exact ⟨nofun, nofun⟩
  | cons c cs =>
    dsimp only
    cases Json.decode (c :: cs) with
    | ok v => cases v <;> simp
    | error fault => cases fault <;> simp

theorem fails_readReport_iff {status : Int} {stdout stderr : String} :
    Outcome.Fails Fault.IsStray (readReport status stdout stderr) ↔
      (∃ place, Json.decode (Text.trim stdout.toList) = .error (.tooDeep place)) ∨
        ∃ count, Json.decode (Text.trim stdout.toList) = .error (.tooManyDigits count) := by
  unfold readReport Outcome.Fails Fault.IsStray
  cases htext : Text.trim stdout.toList with
  | nil =>
    -- Without any text the output is malformed, and this is reported before it is read.
    have malformed : Json.decode [] = .error (.malformed .noValue 0 1 1) := rfl
    simp [malformed]
  | cons c cs =>
    dsimp only
    cases Json.decode (c :: cs) with
    | ok v => cases v <;> simp
    | error fault => cases fault <;> simp

theorem fails_readFindings_iff {entries : List Json} :
    Outcome.Fails Fault.IsStray (readFindings entries) ↔ Report.MeetsInfinity entries := by
  rw [← Report.findings_eq_infinite]
  unfold readFindings Outcome.Fails Fault.IsStray
  cases Report.findings (.arr entries) with
  | ok ds => simp
  | error fault => cases fault <;> simp

theorem readFindings_eq_ok {entries : List Json} {ds : List Finding} :
    readFindings entries = .ok ds ↔ Report.findings (.arr entries) = .ok ds := by
  unfold readFindings
  cases Report.findings (.arr entries) with
  | ok ds' => simp
  | error fault => cases fault <;> exact ⟨nofun, nofun⟩

theorem fails_reading_iff {status : Int} {stdout stderr : String} :
    Outcome.Fails Fault.IsStray (readReport status stdout stderr >>= readFindings) ↔
      EscapesReading stdout := by
  rw [Outcome.fails_bind, fails_readReport_iff]
  simp only [readReport_eq_ok, fails_readFindings_iff]
  constructor
  · rintro ((⟨_, deep⟩ | ⟨_, long⟩) | ⟨_, decoded, infinite⟩)
    · exact .tooDeep deep
    · exact .tooManyDigits long
    · exact .infinite decoded infinite
  · rintro (deep | long | ⟨decoded, infinite⟩)
    · exact .inl (.inl ⟨_, deep⟩)
    · exact .inl (.inr ⟨_, long⟩)
    · exact .inr ⟨_, decoded, infinite⟩

theorem describes_of_findings {ds : List Finding} {after : World}
    (h : analyzer.findings target world = .ok ds after) :
    ∃ status stdout stderr entries,
      analyzer.scanOutcome target world = .finished status stdout stderr ∧
      Json.decode (Text.trim stdout.toList) = .ok (.arr entries) ∧
      List.Forall₂ (fun m d => Report.Describes m.1 m.2 d) (Report.messages entries) ds := by
  rw [findings_eq, Act.ofExcept_eq_ok] at h
  obtain ⟨⟨status, stdout, stderr⟩, hresult, h⟩ := Outcome.bind_eq_ok.1 h.1
  obtain ⟨entries, hreport, h⟩ := Outcome.bind_eq_ok.1 h
  refine ⟨status, stdout, stderr, entries, (result_eq_ok.1 hresult).2,
    readReport_eq_ok.1 hreport, ?_⟩
  exact Report.describes_of_findings (readFindings_eq_ok.1 h)

theorem findings_escape_iff :
    (∃ fault after, analyzer.findings target world = .error fault after ∧ fault.IsStray) ↔
      (∃ fault, analyzer.launchFault? (scanArguments target) world = some fault) ∨
      analyzer.Escapes (analyzer.scanOutcome target world) ∨ ∃ status stdout stderr,
        analyzer.scanOutcome target world = .finished status stdout stderr ∧
          EscapesReading stdout := by
  rw [findings_eq, Act.exists_fault_iff, Outcome.fails_bind, fails_result_iff]
  cases hlaunch : analyzer.launchFault? (scanArguments target) world with
  | some fault => simp
  | none =>
    simp only [reduceCtorEq, exists_false, false_or, true_and]
    apply or_congr Iff.rfl
    constructor
    · rintro ⟨⟨status, stdout, stderr⟩, hresult, fails⟩
      exact ⟨status, stdout, stderr, (result_eq_ok.1 hresult).2, fails_reading_iff.1 fails⟩
    · rintro ⟨status, stdout, stderr, houtcome, escapes⟩
      exact ⟨(status, stdout, stderr), result_eq_ok.2 ⟨hlaunch, houtcome⟩,
        fails_reading_iff.2 escapes⟩

theorem status_of_repair {status : Int} {after : World}
    (h : analyzer.repair target world = .ok status after) : status = 0 ∨ status = 1 := by
  rw [repair_eq, Act.ofExcept_eq_ok] at h
  obtain ⟨⟨status', _, stderr⟩, _, h⟩ := Outcome.bind_eq_ok.1 h.1
  dsimp only at h
  split at h
  · next known =>
    cases h
    exact known
  · cases h

theorem repair_escapes_iff :
    (∃ fault after, analyzer.repair target world = .error fault after ∧ fault.IsStray) ↔
      (∃ fault, analyzer.launchFault? (repairArguments target) world = some fault) ∨
        analyzer.Escapes (analyzer.repairOutcome target world) := by
  rw [repair_eq, Act.exists_fault_iff, Outcome.fails_bind, fails_result_iff]
  -- A status that is neither zero nor one makes a failed scan, and nothing else fails here.
  rw [or_iff_left]
  · cases analyzer.launchFault? (repairArguments target) world with
    | some fault => simp
    | none => simp [repairOutcome]
  · rintro ⟨⟨status, _, stderr⟩, _, fault, h, stray⟩
    dsimp only at h
    split at h
    · cases h
    · cases h
      exact stray _ rfl

/-- A scan gives one finding for each message in the order of the report, and a repair gives a status
of zero or one. Otherwise either has failed as a scan, but for the outcomes that escape, and for words
that no process can be given. -/
theorem failures_reported (analyzer : Analyzer) (target : String) (world : World) :
    (∀ ds after, analyzer.findings target world = .ok ds after →
      ∃ status stdout stderr entries,
        analyzer.scanOutcome target world = .finished status stdout stderr ∧
        Json.decode (Text.trim stdout.toList) = .ok (.arr entries) ∧
        List.Forall₂ (fun m d => Report.Describes m.1 m.2 d) (Report.messages entries) ds) ∧
    ((∃ fault after, analyzer.findings target world = .error fault after ∧ fault.IsStray) ↔
      (∃ fault, analyzer.launchFault? (scanArguments target) world = some fault) ∨
      analyzer.Escapes (analyzer.scanOutcome target world) ∨ ∃ status stdout stderr,
        analyzer.scanOutcome target world = .finished status stdout stderr ∧
          EscapesReading stdout) ∧
    (∀ status after, analyzer.repair target world = .ok status after → status = 0 ∨ status = 1) ∧
    ((∃ fault after, analyzer.repair target world = .error fault after ∧ fault.IsStray) ↔
      (∃ fault, analyzer.launchFault? (repairArguments target) world = some fault) ∨
      analyzer.Escapes (analyzer.repairOutcome target world)) := by
  refine ⟨?_, findings_escape_iff, ?_, repair_escapes_iff⟩
  · intro ds after h
    exact describes_of_findings h
  · intro status after h
    exact status_of_repair h

/-- A project in whose report a line is infinite. -/
def endlessLine : World :=
  let report := "[\x7b\"filePath\":\"a.js\",\"messages\":[\x7b\"line\":1e999\x7d]\x7d]"
  { World.empty with scans := [⟨.finished 1 report "", []⟩] }

theorem endlessLine_escapes :
    let analyzer : Analyzer := ⟨".", ["npx", "eslint"], .seconds (.finite false 300 0)⟩
    ∃ fault after, analyzer.findings "src" endlessLine = .error fault after ∧ fault.IsStray := by
  intro analyzer
  have hfault : (do
      let (status, stdout, stderr) ← analyzer.result (scanArguments "src") endlessLine
      let entries ← readReport status stdout stderr
      readFindings entries) = .error (.badReport .infiniteNumber) := by
    decide +kernel
  refine ⟨.badReport .infiniteNumber, analyzer.ranWorld (scanArguments "src") endlessLine, ?_,
    nofun⟩
  rw [findings_eq, hfault]
  rfl

end Analyzer
end LintRemedy
