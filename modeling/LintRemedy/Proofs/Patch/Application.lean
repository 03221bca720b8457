import LintRemedy.Proofs.Patch.Replacement
import LintRemedy.Proofs.Text.Occurrence

/-!
This module contains the application of a fix to a file that can be read and written: it always has
an outcome, which depends on nothing but the text of the file.
-/

namespace LintRemedy

namespace Files

variable {files files' : Files} {name text : String}

/-- Any text that has bytes can be written to a file that is opened for an edit. -/
def Writable (files : Files) (name : String) : Prop :=
  ∀ text, files.Encodable text → ∃ files', files.editText name text = .ok files'

end Files

namespace Edit

variable {old new content : List Char}

/-- A replacement brings no characters in but those of the new code. -/
theorem replace?_subset {edited : List Char} (h : replace? old new content = some edited)
    {c : Char} (hc : c ∈ edited) : c ∈ content ∨ c ∈ new := by
  obtain ⟨_, before, rest, _, rfl, rfl⟩ := replace?_eq_some h
  simp only [List.mem_append] at hc ⊢
  rcases hc with (hc | hc) | hc
  · exact .inl (.inl (.inl hc))
  · exact .inr hc
  · exact .inl (.inr hc)

theorem replace?_eq_none_iff : replace? old new content = none ↔ old = [] ∨ ¬ old <:+: content := by
  rw [← List.isEmpty_iff, ← Text.occurs_iff]
  unfold replace?
  split
  · next h => exact ⟨fun _ => h, fun _ => rfl⟩
  · next h => exact ⟨nofun, fun h' => (h h').elim⟩

end Edit

namespace Patch

/-- What comes of the application of a fix to a file with a text. -/
structure Applies (fix : Replacement) (current : String) (world : World) (success : Bool)
    (world' : World) : Prop where
  success_iff : success = true ↔ fix.old ≠ "" ∧ fix.old.toList <:+: current.toList
  failed : success = false → world' = world
  applied : success = true → ∃ before rest,
    Text.FirstAt fix.old.toList current.toList before rest ∧
      world'.files.readText fix.file = .ok (String.ofList (before ++ fix.new.toList ++ rest)) ∧
      ∀ key, world.files.resolve? fix.file ≠ some key →
        world'.files.content? key = world.files.content? key

variable {name current : String} {outcome : Files → Except Files.EditFault (Option Files)}
  {files : Files} {world : World}

theorem commit_of_none (h : outcome world.files = .ok none) :
    commit name outcome world = .ok false world := by
  unfold commit
  rw [Action.bind_of_ok (Action.get_eq_ok.2 ⟨rfl, rfl⟩), h]
  rfl

theorem commit_of_some (h : outcome world.files = .ok (some files)) :
    commit name outcome world = .ok true ({ world with files }.record (.editedFile name)) := by
  unfold commit
  rw [Action.bind_of_ok (Action.get_eq_ok.2 ⟨rfl, rfl⟩), h]
  rfl

/-- After an edit that has changed its file, the edited text stands there. -/
theorem readText_of_commit {edit : List Char → Option (List Char)} {world' : World}
    (h : commit name (revised name edit) world = .ok true world') :
    ∃ content edited, world.files.readText name = .ok content ∧ edit content.toList = some edited ∧
      world'.files.readText name = .ok (String.ofList edited) := by
  obtain ⟨files, hrevised, rfl⟩ := commit_eq_ok_true h
  obtain ⟨content, edited, hread, hedit, hwrite⟩ := revised_eq_ok_some hrevised
  exact ⟨content, edited, hread, hedit, Files.readText_of_editText hwrite⟩

/-- A fix has an outcome if the text that it leads to, if any, can be written. -/
theorem replace_applies_of_edit (fix : Replacement)
    (hread : world.files.readText fix.file = .ok current)
    (takes : ∀ edited, Edit.replace? fix.old.toList fix.new.toList current.toList = some edited →
      ∃ files', world.files.editText fix.file (String.ofList edited) = .ok files') :
    ∃ success world', replace fix world = .ok success world' ∧
      Applies fix current world success world' := by
  have hrevised := revised_of_readText (Edit.replace? fix.old.toList fix.new.toList) hread
  have hempty : fix.old.toList = [] ↔ fix.old = "" := String.toList_eq_nil_iff
  cases hedit : Edit.replace? fix.old.toList fix.new.toList current.toList with
  | none =>
    rw [hedit] at hrevised
    rw [Edit.replace?_eq_none_iff, hempty] at hedit
    refine ⟨false, world, commit_of_none hrevised, ?_, fun _ => rfl, nofun⟩
    constructor
    · nofun
    · rintro ⟨hold, hoccurs⟩
      rcases hedit with h | h
      · exact (hold h).elim
      · exact (h hoccurs).elim
  | some edited =>
    rw [hedit] at hrevised
    obtain ⟨files', hwrite⟩ := takes edited hedit
    obtain ⟨hold, before, rest, hcut, hsplit, rfl⟩ := Edit.replace?_eq_some hedit
    dsimp only at hrevised
    rw [hwrite] at hrevised
    refine ⟨true, _, commit_of_some hrevised, ?_, nofun, fun _ => ?_⟩
    · refine ⟨fun _ => ⟨fun h => hold (hempty.2 h), before, rest, hsplit.symm⟩, fun _ => rfl⟩
    · exact ⟨before, rest, Text.firstAt_of_cut? hcut, Files.readText_of_editText hwrite,
        fun key hkey => Files.content?_of_editText hwrite hkey⟩

end Patch

end LintRemedy
