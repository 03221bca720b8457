import LintRemedy.Proofs.Patch.Replacement
import LintRemedy.Proofs.World.Account

/-!
This module contains the operations on files that actions consist of, and what they come to when
they are carried out one after another: each of them says whether it has changed its file, and just
those that say so are on the record of the program.
-/

namespace LintRemedy

namespace Patch

inductive Operation where
  | replace (fix : Replacement)
  | suppressLine (file : String) (line : Int) (rule : String)
  | suppressFile (file rule : String)
  | overwrite (name text : String)
deriving DecidableEq, Repr

namespace Operation

def run : Operation → Act Bool
  | replace fix => Patch.replace fix
  | suppressLine file line rule => Patch.suppressLine file line rule
  | suppressFile file rule => Patch.suppressFile file rule
  | overwrite name text => Patch.overwrite name text

def file : Operation → String
  | replace fix => fix.file
  | suppressLine file _ _ => file
  | suppressFile file _ => file
  | overwrite name _ => name

end Operation

/-- Operations with whether they have changed their files. -/
abbrev Results := List (Operation × Bool)

namespace Results

/-- The number of operations that have changed their files. -/
def fixed (results : Results) : Nat :=
  results.countP (·.2)

def failed (results : Results) : Nat :=
  results.countP (!·.2)

theorem fixed_cons (operation : Operation) (success : Bool) (results : Results) :
    fixed ((operation, success) :: results) = results.fixed + if success then 1 else 0 :=
  List.countP_cons

theorem failed_cons (operation : Operation) (success : Bool) (results : Results) :
    failed ((operation, success) :: results) = results.failed + if !success then 1 else 0 :=
  List.countP_cons

theorem fixed_add_failed (results : Results) :
    results.fixed + results.failed = results.length := by
  have hnot : results.failed = results.countP fun result => decide ¬ result.2 = true :=
    List.countP_congr fun _ _ => by simp
  rw [hnot]
  exact (List.length_eq_countP_add_countP _).symm

def deeds (results : Results) : List Deed :=
  (results.filter (·.2)).map fun result => .editedFile result.1.file

end Results

/-- What operations come to that are carried out one after another, up to a fault. -/
def results : List Operation → World → Results
  | [], _ => []
  | operation :: operations, world =>
    match operation.run world with
    | .ok success world => (operation, success) :: results operations world
    | .error _ _ => []

/-- All operations were carried out between two worlds, and nothing else was. -/
structure Settles (operations : List Operation) (world world' : World) : Prop where
  all : (results operations world).map (·.1) = operations
  deeds : world'.deeds = world.deeds ++ (results operations world).deeds

variable {world middle world' : World} {operation : Operation} {operations : List Operation}
  {success : Bool}

theorem commit_deeds {name : String} {outcome : Files → Except Files.EditFault (Option Files)}
    (h : commit name outcome world = .ok success world') :
    world'.deeds = world.deeds ++ if success then [.editedFile name] else [] := by
  unfold commit at h
  obtain ⟨_, _, hget, h⟩ := Action.bind_eq_ok.1 h
  obtain ⟨rfl, rfl⟩ := Action.get_eq_ok.1 hget
  generalize outcome world.files = result at h
  rcases result with fault | files?
  · cases fault with
    | unopened fault =>
      cases fault with
      | badName => exact (Action.throw_eq_ok.1 h).elim
      | unavailable | notText =>
        obtain ⟨rfl, rfl⟩ := Action.pure_eq_ok.1 h
        exact (List.append_nil _).symm
    | cutShort fault files =>
      obtain ⟨_, _, _, h⟩ := Action.bind_eq_ok.1 h
      obtain ⟨_, _, _, h⟩ := Action.bind_eq_ok.1 h
      exact (Action.throw_eq_ok.1 h).elim
  · cases files? with
    | none =>
      obtain ⟨rfl, rfl⟩ := Action.pure_eq_ok.1 h
      exact (List.append_nil _).symm
    | some files =>
      obtain ⟨_, _, hset, h⟩ := Action.bind_eq_ok.1 h
      obtain ⟨_, _, hrecord, h⟩ := Action.bind_eq_ok.1 h
      cases Action.set_eq_ok.1 hset
      cases Action.modify_eq_ok.1 hrecord
      obtain ⟨rfl, rfl⟩ := Action.pure_eq_ok.1 h
      rfl

theorem Operation.run_deeds (h : operation.run world = .ok success world') :
    world'.deeds = world.deeds ++ Results.deeds [(operation, success)] := by
  have hcommit : ∀ outcome, commit operation.file outcome world = .ok success world' →
      world'.deeds = world.deeds ++ Results.deeds [(operation, success)] := by
    intro outcome h
    rw [commit_deeds h]
    cases success <;> rfl
  cases operation with
  | replace | suppressLine | suppressFile => exact hcommit _ h
  | overwrite name text =>
    change Patch.overwrite name text world = _ at h
    unfold Patch.overwrite at h
    split at h
    · obtain ⟨rfl, rfl⟩ := Action.pure_eq_ok.1 h
      exact (List.append_nil _).symm
    · exact hcommit _ h

theorem results_cons (h : operation.run world = .ok success middle) :
    results (operation :: operations) world =
      (operation, success) :: results operations middle := by
  rw [results, h]

theorem Settles.nil : Settles [] world world :=
  ⟨rfl, (List.append_nil _).symm⟩

theorem Settles.cons (h : operation.run world = .ok success middle)
    (rest : Settles operations middle world') : Settles (operation :: operations) world world' where
  all := by rw [results_cons h, List.map_cons, rest.all]
  deeds := by
    rw [results_cons h, rest.deeds, Operation.run_deeds h, List.append_assoc, ← List.singleton_append
      (l := results operations middle)]
    unfold Results.deeds
    rw [List.filter_append, List.map_append]

/-- The operations that the application of fixes consists of. A fix without one of its texts is
passed over. -/
def replacements (fixes : List Replacement) : List Operation :=
  (fixes.filter (·.isComplete)).map .replace

theorem replacements_cons {fix : Replacement} {fixes : List Replacement} (h : fix.isComplete) :
    replacements (fix :: fixes) = .replace fix :: replacements fixes := by
  unfold replacements
  rw [List.filter_cons_of_pos h, List.map_cons]

theorem replacements_cons_of_incomplete {fix : Replacement} {fixes : List Replacement}
    (h : ¬ fix.isComplete) : replacements (fix :: fixes) = replacements fixes := by
  unfold replacements
  rw [List.filter_cons_of_neg h]

/-- The counts of fixes are those of the operations and of the fixes that are passed over. -/
theorem replaceAll_settles {fixes : List Replacement} {counts : PatchCounts}
    (h : replaceAll fixes world = .ok counts world') :
    Settles (replacements fixes) world world' ∧
      counts.success = (results (replacements fixes) world).fixed ∧
      counts.failed = (results (replacements fixes) world).failed ∧
      counts.skipped = fixes.countP (!·.isComplete) := by
  suffices hfold : ∀ before : PatchCounts, fixes.foldlM countFix before world = .ok counts world' →
      Settles (replacements fixes) world world' ∧
        counts.success = before.success + (results (replacements fixes) world).fixed ∧
        counts.failed = before.failed + (results (replacements fixes) world).failed ∧
        counts.skipped = before.skipped + fixes.countP (!·.isComplete) by
    simpa using hfold ⟨0, 0, 0⟩ h
  clear h
  induction fixes generalizing world with
  | nil =>
    intro before h
    obtain ⟨rfl, rfl⟩ := Action.pure_eq_ok.1 h
    exact ⟨.nil, (Int.add_zero _).symm, (Int.add_zero _).symm, (Int.add_zero _).symm⟩
  | cons fix fixes ih =>
    intro before h
    rw [List.foldlM_cons] at h
    obtain ⟨between, middle, hfix, h⟩ := Action.bind_eq_ok.1 h
    obtain ⟨rest, hsuccess, hfailed, hskipped⟩ := ih between h
    unfold countFix at hfix
    split at hfix
    · next incomplete =>
      obtain ⟨rfl, rfl⟩ := Action.pure_eq_ok.1 hfix
      rw [replacements_cons_of_incomplete incomplete,
        List.countP_cons_of_pos (by simpa using incomplete)]
      refine ⟨rest, hsuccess, hfailed, hskipped.trans ?_⟩
      dsimp only
      omega
    · next complete =>
      rw [Classical.not_not] at complete
      obtain ⟨success, _, hreplace, hfix⟩ := Action.bind_eq_ok.1 hfix
      have hrun : (Operation.replace fix).run world = .ok success _ := hreplace
      rw [replacements_cons complete, List.countP_cons_of_neg (by simpa using complete),
        results_cons hrun, Results.fixed_cons, Results.failed_cons]
      cases success with
      | true =>
        obtain ⟨rfl, rfl⟩ := Action.pure_eq_ok.1 hfix
        refine ⟨rest.cons hrun, hsuccess.trans ?_, hfailed, hskipped⟩
        simp only [if_true]
        omega
      | false =>
        obtain ⟨rfl, rfl⟩ := Action.pure_eq_ok.1 hfix
        refine ⟨rest.cons hrun, hsuccess, hfailed.trans ?_, hskipped⟩
        simp only [Bool.not_false, if_true]
        omega

end Patch

end LintRemedy
