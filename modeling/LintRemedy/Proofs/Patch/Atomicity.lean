import LintRemedy.Proofs.Patch.Annotation
import LintRemedy.Proofs.Patch.Operation
import LintRemedy.Proofs.Patch.Repetition

/-!
This module contains what operations on files leave behind: the whole new text in the file that is
named, or everything as it was. They tell which of the two it is, but for two faults: the name is one
that no file can have, or there are no bytes for the new text, and then the file is left empty. Fixes are
applied one after another, and one that fails makes no difference to the others.
-/

namespace LintRemedy

open LintRemedy.Action

/-- The counts with one more fix that has failed. -/
def PatchCounts.fail (counts : PatchCounts) : PatchCounts :=
  { counts with failed := counts.failed + 1 }

namespace Patch

/-- The text of a file after an edit, none if the file cannot be read or the edit does not apply. -/
def edited? (files : Files) (name : String) (edit : List Char → Option (List Char)) :
    Option String :=
  (files.readText name).toOption.bind fun content => (edit content.toList).map String.ofList

namespace Operation

/-- The text that an operation has for its file, none if it does not apply. -/
def text? (files : Files) : Operation → Option String
  | replace fix => edited? files fix.file (Edit.replace? fix.old.toList fix.new.toList)
  | suppressLine file line rule => edited? files file (Edit.suppressLine? line rule.toList)
  | suppressFile file rule =>
    edited? files file fun content => some (Edit.suppressFile rule.toList content)
  | overwrite _ text => if text = "" then none else some text

/-- An operation that is refused before the name of its file matters. -/
def isVoid : Operation → Bool
  | overwrite _ text => text = ""
  | _ => false

/-- An operation stops with a fault and leaves a world: its file has a name that no file can have, or
the file is opened for a text without bytes. -/
inductive Stops (operation : Operation) (world : World) : Fault → World → Prop where
  | misnamed {fault} (used : operation.isVoid = false)
      (bad : world.files.nameFault? operation.file = some fault) :
      Stops operation world (.badName fault) world
  | cutShort {text key fault} (meant : operation.text? world.files = some text)
      (opened : world.files.openForWriting operation.file = .ok key)
      (unencodable : world.files.textFault? text = some fault) :
      Stops operation world (.unencodable fault)
        ({ world with files := world.files.set key (.text "") }.record
          (.editedFile operation.file))

/-- What an operation leaves behind that tells whether it has changed its file. -/
structure AllOrNothing (operation : Operation) (world : World) (success : Bool) (world' : World) :
    Prop where
  success_iff : success = true ↔ ∃ text files', operation.text? world.files = some text ∧
    world.files.editText operation.file text = .ok files'
  failed : success = false → world' = world
  /-- The file has the new text, and no other thing in the world is changed. -/
  applied : success = true → ∃ key text, operation.text? world.files = some text ∧
    world.files.resolve? operation.file = some key ∧
    world' = ({ world with files := world.files.set key (.text text) }.record
      (.editedFile operation.file))
  others : ∀ key, world.files.resolve? operation.file ≠ some key →
    world'.files.content? key = world.files.content? key

end Operation

section Operations

variable {world world' : World} {operation : Operation} {success : Bool}

/-- What comes of a file that cannot be opened. -/
def refusal (world : World) : FileFault → EStateM.Result Fault World Bool
  | .badName fault => .error (.badName fault) world
  | .unavailable | .notText => .ok false world

/-- What comes of the attempt to write a text to a file. -/
def writeAttempt (name text : String) (world : World) : EStateM.Result Fault World Bool :=
  match world.files.editText name text with
  | .ok files => .ok true ({ world with files }.record (.editedFile name))
  | .error (.unopened fault) => refusal world fault
  | .error (.cutShort fault files) =>
    .error (.unencodable fault) ({ world with files }.record (.editedFile name))

theorem commit_of_fault {name : String} {outcome : Files → Except Files.EditFault (Option Files)}
    {fault : FileFault} (h : outcome world.files = .error (.unopened fault)) :
    commit name outcome world = refusal world fault := by
  unfold commit
  rw [bind_of_ok (get_eq_ok.2 ⟨rfl, rfl⟩), h]
  cases fault <;> rfl

theorem commit_editText {name text : String}
    {outcome : Files → Except Files.EditFault (Option Files)}
    (h : outcome world.files = some <$> world.files.editText name text) :
    commit name outcome world = writeAttempt name text world := by
  unfold commit writeAttempt
  rw [bind_of_ok (get_eq_ok.2 ⟨rfl, rfl⟩), h]
  rcases world.files.editText name text with (fault | ⟨fault, files⟩) | files
  · cases fault <;> rfl
  · rfl
  · rfl

theorem commit_revised (name : String) (edit : List Char → Option (List Char)) (world : World) :
    commit name (revised name edit) world =
      match world.files.nameFault? name with
      | some fault => .error (.badName fault) world
      | none =>
        match edited? world.files name edit with
        | none => .ok false world
        | some text => writeAttempt name text world := by
  unfold edited?
  cases hname : world.files.nameFault? name with
  | some fault =>
    have hread := Files.readText_eq_badName_iff.2 hname
    exact commit_of_fault (revised_of_fault edit hread)
  | none =>
    dsimp only
    cases hread : world.files.readText name with
    | error fault =>
      refine (commit_of_fault (revised_of_fault edit hread)).trans ?_
      cases fault with
      | badName fault =>
        rw [Files.readText_eq_badName_iff, hname] at hread
        cases hread
      | unavailable | notText => rfl
    | ok content =>
      have hrevised := revised_of_readText edit hread
      simp only [Except.toOption, Option.bind_some]
      cases hedit : edit content.toList with
      | none =>
        rw [hedit] at hrevised
        exact commit_of_none hrevised
      | some new =>
        rw [hedit] at hrevised
        exact commit_editText hrevised

/-- An operation that uses its name is a fault for a bad one, and else it is carried out if it
applies. -/
theorem Operation.run_eq (operation : Operation) (world : World) : operation.run world =
    if operation.isVoid then .ok false world
    else
      match world.files.nameFault? operation.file with
      | some fault => .error (.badName fault) world
      | none =>
        match operation.text? world.files with
        | none => .ok false world
        | some text => writeAttempt operation.file text world := by
  cases operation with
  | replace | suppressLine | suppressFile => exact commit_revised _ _ _
  | overwrite name text =>
    change Patch.overwrite name text world = _
    unfold Patch.overwrite isVoid text?
    by_cases void : text = ""
    · simp only [void, if_true, decide_true]
      rfl
    · simp only [void, if_false, decide_false, Bool.false_eq_true]
      rw [commit_editText rfl]
      change _ = match world.files.nameFault? name with
        | some fault => refusal world (.badName fault)
        | none => writeAttempt name text world
      cases hname : world.files.nameFault? name with
      | none => rfl
      | some fault =>
        unfold writeAttempt
        rw [Files.editText_eq_badName_iff.2 hname]

theorem writeAttempt_eq_error_iff {name text : String} {fault : Fault}
    (named : world.files.nameFault? name = none) :
    writeAttempt name text world = .error fault world' ↔ ∃ key cause,
      world.files.openForWriting name = .ok key ∧ world.files.textFault? text = some cause ∧
        .unencodable cause = fault ∧
        { world with files := world.files.set key (.text "") }.record (.editedFile name) =
          world' := by
  unfold writeAttempt
  rcases hwrite : world.files.editText name text with (refused | ⟨cause, left⟩) | files
  · have unopened := Files.editText_eq_unopened_iff.1 hwrite
    cases refused with
    | badName refused =>
      rw [Files.openForWriting_eq_badName_iff, named] at unopened
      cases unopened
    | unavailable | notText => simp [unopened, refusal]
  · obtain ⟨htext, key, hkey, rfl⟩ := Files.editText_eq_cutShort_iff.1 hwrite
    simp [htext, hkey]
  · obtain ⟨encodable, key, hkey, rfl⟩ := Files.editText_eq_ok_iff.1 hwrite
    simp [Files.textFault?_eq_none_iff.2 encodable]

/-- An operation that is refused has no text either. -/
theorem Operation.text?_of_isVoid {files : Files} (h : operation.isVoid) :
    operation.text? files = none := by
  cases operation with
  | overwrite name text => exact if_pos (of_decide_eq_true h)
  | _ => cases h

theorem Operation.run_eq_error_iff {fault : Fault} :
    operation.run world = .error fault world' ↔ operation.Stops world fault world' := by
  rw [Operation.run_eq]
  cases hvoid : operation.isVoid with
  | true =>
    simp only [if_true, reduceCtorEq, false_iff]
    rintro (⟨used, _⟩ | ⟨meant, _⟩)
    · rw [hvoid] at used
      cases used
    · rw [text?_of_isVoid hvoid] at meant
      cases meant
  | false =>
    simp only [Bool.false_eq_true, if_false]
    cases hname : world.files.nameFault? operation.file with
    | some cause =>
      constructor
      · intro h
        cases h
        exact .misnamed hvoid hname
      · rintro (⟨_, bad⟩ | ⟨_, opened, _⟩)
        · rw [hname] at bad
          cases bad
          rfl
        · rw [Files.openForWriting_eq_badName_iff.2 hname] at opened
          cases opened
    | none =>
      dsimp only
      constructor
      · intro h
        split at h
        · cases h
        · next text meant =>
          obtain ⟨key, cause, opened, unencodable, rfl, rfl⟩ :=
            (writeAttempt_eq_error_iff hname).1 h
          exact .cutShort meant opened unencodable
      · rintro (⟨_, bad⟩ | ⟨meant, opened, unencodable⟩)
        · rw [hname] at bad
          cases bad
        · rw [meant]
          exact (writeAttempt_eq_error_iff hname).2 ⟨_, _, opened, unencodable, rfl, rfl⟩

theorem Operation.run_eq_ok_iff : (∃ success world', operation.run world = .ok success world') ↔
    ∀ fault world', ¬ operation.Stops world fault world' := by
  simp only [← Operation.run_eq_error_iff]
  cases operation.run world <;> simp

theorem Operation.allOrNothing_of_run (h : operation.run world = .ok success world') :
    operation.AllOrNothing world success world' := by
  rw [Operation.run_eq] at h
  have unchanged : (∀ text files', operation.text? world.files = some text →
      world.files.editText operation.file text ≠ .ok files') →
      operation.AllOrNothing world false world := by
    intro unwritten
    refine ⟨⟨nofun, ?_⟩, fun _ => rfl, nofun, fun _ _ => rfl⟩
    rintro ⟨text, files', htext, hwrite⟩
    exact (unwritten text files' htext hwrite).elim
  split at h
  · next void =>
    cases h
    apply unchanged
    intro text files' htext
    rw [text?_of_isVoid void] at htext
    cases htext
  · split at h
    · cases h
    · split at h
      · next hnone =>
        cases h
        apply unchanged
        intro text files' htext
        rw [hnone] at htext
        cases htext
      · next text htext =>
        unfold writeAttempt at h
        split at h
        · next files hwrite =>
          cases h
          obtain ⟨key, hkey, rfl⟩ := Files.editText_eq_ok hwrite
          refine ⟨?_, nofun, fun _ => ⟨key, text, htext, hkey, rfl⟩, ?_⟩
          · exact ⟨fun _ => ⟨text, _, htext, hwrite⟩, fun _ => rfl⟩
          · exact fun other hother => Files.content?_of_editText hwrite hother
        · next fault hwrite =>
          have unwritten : ∀ text' files', operation.text? world.files = some text' →
              world.files.editText operation.file text' ≠ .ok files' := by
            rintro text' files' htext' hwrite'
            rw [htext] at htext'
            cases htext'
            rw [hwrite] at hwrite'
            cases hwrite'
          cases fault with
          | badName => cases h
          | unavailable | notText =>
            cases h
            exact unchanged unwritten
        · cases h

end Operations

/-- Carries operations out one after the other, whatever each of them comes to. -/
def carryOut : List Operation → Act Unit
  | [] => return ()
  | operation :: operations => do
    let _ ← operation.run
    carryOut operations

/-- What becomes of a fix and of the counts when its turn comes. -/
inductive Turn (fix : Replacement) (world : World) : Prop where
  | incomplete (lacks : ¬ fix.isComplete)
    (count : ∀ counts,
      countFix counts fix world = .ok { counts with skipped := counts.skipped + 1 } world)
  | stops {fault world'} (complete : fix.isComplete)
    (run : (Operation.replace fix).run world = .error fault world')
    (count : ∀ counts, countFix counts fix world = .error fault world')
  | succeeds {world'} (complete : fix.isComplete)
    (run : (Operation.replace fix).run world = .ok true world')
    (count : ∀ counts,
      countFix counts fix world = .ok { counts with success := counts.success + 1 } world')
  | fails (complete : fix.isComplete) (run : (Operation.replace fix).run world = .ok false world)
    (count : ∀ counts, countFix counts fix world = .ok counts.fail world)

/-- A list of fixes comes to a stop with a fault: one that has both texts stops, when those before it
have had their turn. -/
def Halts (fixes : List Replacement) (world : World) (fault : Fault) (world' : World) : Prop :=
  ∃ before fix after counts middle, fixes = before ++ fix :: after ∧ fix.isComplete ∧
    replaceAll before world = .ok counts middle ∧
    (Operation.replace fix).Stops middle fault world'

section Batch

variable {world middle world' : World} {fix : Replacement} {fixes before after : List Replacement}
  {counts : PatchCounts}

theorem turn (fix : Replacement) (world : World) : Turn fix world := by
  by_cases complete : fix.isComplete
  · have hcount : ∀ counts, countFix counts fix world = (do
        if ← replace fix then return { counts with success := counts.success + 1 }
        else return counts.fail : Act PatchCounts) world := by
      intro counts
      unfold countFix
      rw [if_neg (not_not_intro complete)]
      rfl
    cases hrun : (Operation.replace fix).run world with
    | error fault after =>
      exact .stops complete hrun fun counts => (hcount counts).trans (bind_of_error hrun)
    | ok success after =>
      cases success with
      | true =>
        exact .succeeds complete hrun fun counts => (hcount counts).trans (bind_of_ok hrun)
      | false =>
        cases (Operation.allOrNothing_of_run hrun).failed rfl
        exact .fails complete hrun fun counts => (hcount counts).trans (bind_of_ok hrun)
  · refine .incomplete complete fun counts => ?_
    unfold countFix
    rw [if_pos complete]
    rfl

/-- The files become what the operations make of them one after the other. -/
theorem carryOut_replacements (fixes : List Replacement) :
    carryOut (replacements fixes) = (fun _ => ()) <$> replaceAll fixes := by
  unfold replaceAll
  generalize PatchCounts.mk 0 0 0 = start
  funext world
  induction fixes generalizing start world with
  | nil => rfl
  | cons fix fixes ih =>
    rw [List.foldlM_cons, map_bind]
    cases turn fix world with
    | incomplete lacks count =>
      rw [replacements_cons_of_incomplete lacks, bind_of_ok (count start)]
      exact ih _ _
    | stops complete run count =>
      rw [replacements_cons complete, bind_of_error (count start)]
      exact bind_of_error run
    | succeeds complete run count =>
      rw [replacements_cons complete, bind_of_ok (count start)]
      exact (bind_of_ok run).trans (ih _ _)
    | fails complete run count =>
      rw [replacements_cons complete, bind_of_ok (count start)]
      exact (bind_of_ok run).trans (ih _ _)

theorem foldlM_countFix_fail (fixes : List Replacement) (start : PatchCounts) (world : World) :
    fixes.foldlM countFix start.fail world =
      (PatchCounts.fail <$> fixes.foldlM countFix start) world := by
  induction fixes generalizing start world with
  | nil => rfl
  | cons fix fixes ih =>
    rw [List.foldlM_cons, List.foldlM_cons, map_bind]
    cases turn fix world with
    | incomplete _ count =>
      rw [bind_of_ok (count start), bind_of_ok (count start.fail)]
      exact ih { start with skipped := start.skipped + 1 } world
    | stops _ _ count => rw [bind_of_error (count start), bind_of_error (count start.fail)]
    | succeeds _ _ count =>
      rw [bind_of_ok (count start), bind_of_ok (count start.fail)]
      exact ih { start with success := start.success + 1 } _
    | fails _ _ count =>
      rw [bind_of_ok (count start), bind_of_ok (count start.fail)]
      exact ih start.fail world

/-- A fix that fails is counted, and makes no other difference to what comes before and after it. -/
theorem replaceAll_of_failure (complete : fix.isComplete)
    (hbefore : replaceAll before world = .ok counts middle)
    (hfix : replace fix middle = .ok false world') :
    replaceAll (before ++ fix :: after) world =
      (PatchCounts.fail <$> replaceAll (before ++ after)) world := by
  have hcount : countFix counts fix middle = .ok counts.fail middle := by
    cases turn fix middle with
    | incomplete lacks => exact absurd complete lacks
    | stops _ run | succeeds _ run => cases run.symm.trans hfix
    | fails _ _ count => exact count counts
  unfold replaceAll at hbefore ⊢
  rw [List.foldlM_append, List.foldlM_append, map_bind, bind_of_ok hbefore, bind_of_ok hbefore,
    List.foldlM_cons, bind_of_ok hcount]
  exact foldlM_countFix_fail _ _ _

/-- The counting of fixes ends in a fault where one of them stops. -/
theorem foldlM_countFix_eq_error {fault : Fault} (start : PatchCounts)
    (h : fixes.foldlM countFix start world = .error fault world') :
    ∃ before fix after counts middle, fixes = before ++ fix :: after ∧ fix.isComplete ∧
      before.foldlM countFix start world = .ok counts middle ∧
      (Operation.replace fix).Stops middle fault world' := by
  induction fixes generalizing start world with
  | nil => exact (pure_eq_error.1 h).elim
  | cons fix fixes ih =>
    rw [List.foldlM_cons] at h
    rcases bind_eq_error.1 h with hcount | ⟨next, middle, hcount, hrest⟩
    · cases turn fix world with
      | stops complete run count =>
        rw [count start] at hcount
        cases hcount
        exact ⟨[], fix, fixes, start, world, rfl, complete, rfl, Operation.run_eq_error_iff.1 run⟩
      | incomplete _ count | succeeds _ _ count | fails _ _ count =>
        rw [count start] at hcount
        cases hcount
    · obtain ⟨before, stopped, after, counts, reached, rfl, complete, hbefore, stops⟩ :=
        ih _ hrest
      refine ⟨fix :: before, stopped, after, counts, reached, rfl, complete, ?_, stops⟩
      rw [List.foldlM_cons, bind_of_ok hcount, hbefore]

theorem replaceAll_eq_error_iff {fault : Fault} :
    replaceAll fixes world = .error fault world' ↔ Halts fixes world fault world' := by
  constructor
  · exact foldlM_countFix_eq_error _
  · rintro ⟨before, fix, after, counts, middle, rfl, complete, hbefore, stops⟩
    have run := Operation.run_eq_error_iff.2 stops
    have hcount : countFix counts fix middle = .error fault world' := by
      cases turn fix middle with
      | incomplete lacks => exact absurd complete lacks
      | stops _ run' count =>
        cases run.symm.trans run'
        exact count counts
      | succeeds _ run' | fails _ run' => cases run.symm.trans run'
    unfold replaceAll at hbefore ⊢
    rw [List.foldlM_append, bind_of_ok hbefore, List.foldlM_cons, bind_of_error hcount]

/-- All fixes have a turn unless one of them stops. -/
theorem replaceAll_eq_ok_iff : (∃ counts world', replaceAll fixes world = .ok counts world') ↔
    ∀ fault world', ¬ Halts fixes world fault world' := by
  simp only [← replaceAll_eq_error_iff]
  cases replaceAll fixes world <;> simp

theorem sum_of_replaceAll (h : replaceAll fixes world = .ok counts world') :
    counts.success + counts.failed + counts.skipped = fixes.length := by
  obtain ⟨settles, hsuccess, hfailed, hskipped⟩ := replaceAll_settles h
  have hsum := Results.fixed_add_failed (results (replacements fixes) world)
  have hall := congrArg List.length settles.all
  have hcomplete : (replacements fixes).length = fixes.countP (·.isComplete) := by
    unfold replacements
    rw [List.length_map, List.countP_eq_length_filter]
  have hlength := List.length_eq_countP_add_countP (·.isComplete) (l := fixes)
  simp only [Bool.not_eq_true, Bool.decide_eq_false] at hlength
  rw [List.length_map] at hall
  omega

end Batch

/-- What comes of a list of fixes: all of them are counted, and the files are what those with both
texts make of them one after the other. -/
structure Counted (fixes : List Replacement) (world : World) (counts : PatchCounts)
    (world' : World) : Prop where
  sum : counts.success + counts.failed + counts.skipped = fixes.length
  skipped : counts.skipped = fixes.countP (!·.isComplete)
  carried : carryOut (replacements fixes) world = .ok () world'
  /-- Without a fix that fails, all else would be the same. -/
  failing : ∀ before fix after counts' middle, fixes = before ++ fix :: after → fix.isComplete →
    replaceAll before world = .ok counts' middle → replace fix middle = .ok false middle →
    ∃ others, replaceAll (before ++ after) world = .ok others world' ∧ counts = others.fail

/-- Operations say whether they have changed their file, and change it as a whole or not at all, exactly
if they do not stop for a bad name or a text without bytes. So do the fixes of a list, each in its
turn. -/
theorem operations_allOrNothing (operation : Operation) (fixes : List Replacement) (world : World) :
    (((∃ success world', operation.run world = .ok success world') ↔
        ∀ fault world', ¬ operation.Stops world fault world') ∧
      (∀ success world', operation.run world = .ok success world' →
        operation.AllOrNothing world success world') ∧
      ∀ fault world', operation.run world = .error fault world' ↔
        operation.Stops world fault world') ∧
    ((∃ counts world', replaceAll fixes world = .ok counts world') ↔
        ∀ fault world', ¬ Halts fixes world fault world') ∧
      (∀ counts world', replaceAll fixes world = .ok counts world' →
        Counted fixes world counts world') ∧
      ∀ fault world', replaceAll fixes world = .error fault world' ↔
        Halts fixes world fault world' := by
  constructor
  · exact ⟨Operation.run_eq_ok_iff, fun _ _ => Operation.allOrNothing_of_run,
      fun _ _ => Operation.run_eq_error_iff⟩
  · refine ⟨replaceAll_eq_ok_iff, fun counts world' h => ⟨sum_of_replaceAll h, ?_, ?_, ?_⟩,
      fun _ _ => replaceAll_eq_error_iff⟩
    · exact (replaceAll_settles h).2.2.2
    · rw [carryOut_replacements]
      exact map_eq_ok.2 ⟨counts, h, rfl⟩
    · rintro before fix after counts' middle rfl complete hbefore hfix
      rw [replaceAll_of_failure complete hbefore hfix] at h
      obtain ⟨others, hothers, rfl⟩ := map_eq_ok.1 h
      exact ⟨others, hothers, rfl⟩

/-- A fix for a file with a name that no file can have. -/
def misnamedFix : Replacement :=
  ⟨"/w/a\x00.js", 1, 1, "a == b;", "a === b;", ""⟩

/-- A bad name is a fault, and puts an end to the fixes that follow. -/
theorem replace_badName : replace misnamedFix (holding "a == b;\n") =
      .error (.badName .nul) (holding "a == b;\n") ∧
    replaceAll [misnamedFix, strictFix] (holding "a == b;\n") =
      .error (.badName .nul) (holding "a == b;\n") := by
  exact ⟨rfl, rfl⟩

end Patch

end LintRemedy
