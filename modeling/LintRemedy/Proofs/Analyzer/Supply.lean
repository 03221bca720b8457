import LintRemedy.Loop.Course
import LintRemedy.Proofs.Json.ItemCount
import LintRemedy.Proofs.Oracle.Decoding
import LintRemedy.Proofs.World.OwnDeeds

/-!
This module contains the answers that are going to be given to scans: every scan uses up one of them
but the last, which is given again and again. From then on all scans find the same.
-/

namespace LintRemedy

open LintRemedy.Action

section NextAnswer

variable {α : Type} (answers : List α)

theorem nextAnswer_suffix : (nextAnswer answers).2 <:+ answers := by
  unfold nextAnswer
  split
  · exact List.suffix_refl _
  · exact List.suffix_refl _
  · exact List.suffix_cons _ _

theorem getLast?_nextAnswer : (nextAnswer answers).2.getLast? = answers.getLast? := by
  unfold nextAnswer
  split
  · rfl
  · rfl
  · next answer rest more =>
    rw [List.getLast?_cons, List.getLast?_eq_some_getLast more, Option.getD_some]

theorem nextAnswer_cons (answer : α) : (nextAnswer (answer :: answers)).1 = some answer := by
  cases answers <;> rfl

end NextAnswer

namespace Analyzer

/-- The findings that a scan gives whose process ends so. -/
def read (analyzer : Analyzer) (outcome : AnalyzerOutcome) : Except Fault (List Finding) := do
  let (status, stdout, stderr) ← analyzer.ended outcome
  let entries ← readReport status stdout stderr
  readFindings entries

/-- The answers that are due to scans: those to repairs, where the command repairs anyhow. -/
def dueToScans (analyzer : Analyzer) (target : String) (world : World) : List AnalyzerAnswer :=
  if "--fix" ∈ analyzer.command ++ scanArguments target then world.repairs else world.scans

/-- The number of answers that are due to scans before the last one. -/
def scansAhead (analyzer : Analyzer) (target : String) (world : World) : Nat :=
  (analyzer.dueToScans target world).length - 1

/-- The counts that all scans come to in the end, if these are not failures. -/
def lastSummary? (analyzer : Analyzer) (target : String) (world : World) : Option Summary := do
  let answer ← (analyzer.dueToScans target world).getLast?
  let ds ← (analyzer.read answer.outcome).toOption
  return (Aggregation.ofFindings ds).summary

variable {analyzer : Analyzer} {target : String} {world world' : World}

/-! ### What a report can hold -/

theorem length_messages_le (entries : List Json) :
    (Report.messages entries).length ≤ (Json.arr entries).itemCount := by
  change _ ≤ Json.itemCount.ofItems entries
  unfold Report.messages
  induction entries with
  | nil => exact Nat.le_refl 0
  | cons entry entries ih =>
    have hitems : (Report.items (entry.field "messages")).length ≤ entry.itemCount := by
      refine Nat.le_trans ?_ (Json.itemCount_field_le "messages" entry)
      cases entry.field "messages" with
      | arr items => exact Json.length_le_itemCount items
      | _ => exact Nat.zero_le _
    rw [List.flatMap_cons, List.length_append, List.length_map, Json.itemCount.ofItems]
    omega

/-- A report is longer than the list of its findings. -/
theorem length_lt_amount {answer : AnalyzerAnswer} {ds : List Finding}
    (h : analyzer.read answer.outcome = .ok ds) : ds.length < answer.amount := by
  obtain ⟨⟨status, stdout, stderr⟩, hended, h⟩ := Outcome.bind_eq_ok.1 h
  obtain ⟨entries, hreport, h⟩ := Outcome.bind_eq_ok.1 h
  have hmessages := (Report.describes_of_findings (readFindings_eq_ok.1 h)).length_eq
  have hitems := Json.itemCount_lt_of_decode (readReport_eq_ok.1 hreport)
  have htrim := Oracle.length_trim_le stdout.toList
  rw [String.length_toList] at htrim
  unfold AnalyzerAnswer.amount
  rw [ended_eq_ok.1 hended]
  calc ds.length
    _ = (Report.messages entries).length := hmessages.symm
    _ ≤ (Json.arr entries).itemCount := length_messages_le entries
    _ < stdout.length + 1 := by omega

/-! ### What scans and repairs leave -/

/-- A process that is started is answered once, and nothing else becomes of the answers. -/
theorem answers_left_run (analyzer : Analyzer) (arguments : List String) (world : World) :
    let after := left (analyzer.run arguments world)
    (after.scans, after.repairs) = match analyzer.launchFault? arguments world with
      | some _ => (world.scans, world.repairs)
      | none =>
        if "--fix" ∈ analyzer.command ++ arguments then (world.scans, (nextAnswer world.repairs).2)
        else ((nextAnswer world.scans).2, world.repairs) := by
  intro after
  unfold after
  rw [left_run]
  unfold ranWorld
  cases analyzer.launchFault? arguments world with
  | some fault => rfl
  | none =>
    unfold withoutAnswer
    dsimp only
    split <;> rfl

/-- In a later world some of the answers that were due to scans are still due, and the last one is the
same. -/
structure UsesUp (analyzer : Analyzer) (target : String) (world world' : World) : Prop where
  suffix : analyzer.dueToScans target world' <:+ analyzer.dueToScans target world
  last : (analyzer.dueToScans target world').getLast? = (analyzer.dueToScans target world).getLast?

namespace UsesUp

theorem of_due (due : analyzer.dueToScans target world' = analyzer.dueToScans target world) :
    analyzer.UsesUp target world world' where
  suffix := ⟨[], due⟩
  last := congrArg List.getLast? due

theorem of_eq (scans : world'.scans = world.scans) (repairs : world'.repairs = world.repairs) :
    analyzer.UsesUp target world world' := by
  apply of_due
  unfold dueToScans
  rw [scans, repairs]

theorem trans {middle : World} (first : analyzer.UsesUp target world middle)
    (rest : analyzer.UsesUp target middle world') : analyzer.UsesUp target world world' where
  suffix := rest.suffix.trans first.suffix
  last := rest.last.trans first.last

theorem of_next (h : analyzer.dueToScans target world' =
    (nextAnswer (analyzer.dueToScans target world)).2) : analyzer.UsesUp target world world' := by
  constructor
  · rw [h]
    exact nextAnswer_suffix _
  · rw [h, getLast?_nextAnswer]

theorem scansAhead_le (h : analyzer.UsesUp target world world') :
    analyzer.scansAhead target world' ≤ analyzer.scansAhead target world :=
  Nat.sub_le_sub_right h.suffix.length_le 1

theorem lastSummary?_eq (h : analyzer.UsesUp target world world') :
    analyzer.lastSummary? target world' = analyzer.lastSummary? target world := by
  unfold lastSummary?
  rw [h.last]

end UsesUp

theorem dueToScans_scan (analyzer : Analyzer) (target : String) (world : World) :
    analyzer.dueToScans target (left (analyzer.scan target world)) =
      match analyzer.launchFault? (scanArguments target) world with
      | some _ => analyzer.dueToScans target world
      | none => (nextAnswer (analyzer.dueToScans target world)).2 := by
  have answers := analyzer.answers_left_run (scanArguments target) world
  rw [left_scan]
  unfold dueToScans
  cases hlaunch : analyzer.launchFault? (scanArguments target) world with
  | some fault =>
    rw [hlaunch] at answers
    obtain ⟨scans, repairs⟩ := Prod.mk.inj answers
    rw [scans, repairs]
  | none =>
    rw [hlaunch] at answers
    by_cases h : "--fix" ∈ analyzer.command ++ scanArguments target
    · simp only [if_pos h] at answers ⊢
      exact congrArg Prod.snd answers
    · simp only [if_neg h] at answers ⊢
      exact congrArg Prod.fst answers

theorem usesUp_scan (analyzer : Analyzer) (target : String) (world : World) :
    analyzer.UsesUp target world (left (analyzer.scan target world)) := by
  have due := analyzer.dueToScans_scan target world
  split at due
  · exact .of_due due
  · exact .of_next due

theorem usesUp_repair (analyzer : Analyzer) (target : String) (world : World) :
    analyzer.UsesUp target world (left (analyzer.repair target world)) := by
  have answers := analyzer.answers_left_run (repairArguments target) world
  rw [left_repair]
  split at answers
  · obtain ⟨scans, repairs⟩ := Prod.mk.inj answers
    exact .of_eq scans repairs
  · rw [if_pos (by simp [repairArguments])] at answers
    obtain ⟨scans, repairs⟩ := Prod.mk.inj answers
    by_cases h : "--fix" ∈ analyzer.command ++ scanArguments target
    · -- Scans and repairs are answered from the same list.
      apply UsesUp.of_next
      unfold dueToScans
      rw [if_pos h, if_pos h, repairs]
    · apply UsesUp.of_due
      unfold dueToScans
      rw [if_neg h, if_neg h, scans]

/-- The process of a scan comes to what the first answer says that is due to scans. -/
theorem scanOutcome_of_due {answer : AnalyzerAnswer} {rest : List AnalyzerAnswer}
    (hdue : analyzer.dueToScans target world = answer :: rest) :
    analyzer.scanOutcome target world = answer.outcome := by
  unfold dueToScans at hdue
  unfold scanOutcome dueAnswer
  split at hdue
  · next repairs => rw [if_pos repairs, hdue, nextAnswer_cons, Option.getD_some]
  · next scans => rw [if_neg scans, hdue, nextAnswer_cons, Option.getD_some]

/-- What a scan finds stands in the answer that is due to it. -/
theorem read_of_scan {found : Aggregation} (h : analyzer.scan target world = .ok found world') :
    analyzer.launchFault? (scanArguments target) world = none ∧
      ∃ answer rest ds, analyzer.dueToScans target world = answer :: rest ∧
        analyzer.read answer.outcome = .ok ds ∧ found = .ofFindings ds := by
  obtain ⟨ds, hfindings, rfl⟩ := map_eq_ok.1 h
  rw [findings_eq, Act.ofExcept_eq_ok] at hfindings
  obtain ⟨⟨status, stdout, stderr⟩, hresult, hreading⟩ := Outcome.bind_eq_ok.1 hfindings.1
  obtain ⟨hlaunch, houtcome⟩ := result_eq_ok.1 hresult
  have hread : analyzer.read (analyzer.scanOutcome target world) = .ok ds :=
    Outcome.bind_eq_ok.2 ⟨_, ended_eq_ok.2 houtcome, hreading⟩
  refine ⟨hlaunch, ?_⟩
  cases hdue : analyzer.dueToScans target world with
  | nil =>
    -- Without any answer a repair prints nothing, and there is no program for a scan.
    unfold scanOutcome dueAnswer at hread
    unfold dueToScans at hdue
    split at hdue
    · next repairs =>
      rw [if_pos repairs, hdue] at hread
      cases hread
    · next scans =>
      rw [if_neg scans, hdue] at hread
      obtain ⟨_, hended, _⟩ := Outcome.bind_eq_ok.1 hread
      cases ended_eq_ok.1 hended
  | cons answer rest =>
    rw [scanOutcome_of_due hdue] at hread
    exact ⟨answer, rest, ds, rfl, hread, rfl⟩

/-- A scan with other counts than the last ones uses up an answer that is not the last. -/
theorem scansAhead_scan {found : Aggregation} (h : analyzer.scan target world = .ok found world') :
    analyzer.scansAhead target world' +
        (if some found.summary = analyzer.lastSummary? target world then 0 else 1) ≤
      analyzer.scansAhead target world := by
  obtain ⟨hlaunch, answer, rest, ds, hdue, hread, rfl⟩ := read_of_scan h
  have hnext := analyzer.dueToScans_scan target world
  rw [h, left, hlaunch, hdue] at hnext
  dsimp only at hnext
  unfold scansAhead lastSummary?
  rw [hnext, hdue]
  cases rest with
  | nil =>
    have last : some (Aggregation.ofFindings ds).summary = ([answer].getLast?).bind fun answer =>
        (analyzer.read answer.outcome).toOption.bind fun ds =>
          some (Aggregation.ofFindings ds).summary := by
      rw [List.getLast?_singleton, Option.bind_some, hread]
      rfl
    exact Nat.le_of_eq (congrArg _ (if_pos last))
  | cons later rest =>
    have length : (nextAnswer (answer :: later :: rest)).2.length = rest.length + 1 := rfl
    rw [length, List.length_cons, List.length_cons]
    split <;> omega

end Analyzer

end LintRemedy
