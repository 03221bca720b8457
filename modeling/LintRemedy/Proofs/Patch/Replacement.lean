import LintRemedy.Patch.Basic
import LintRemedy.Proofs.Action
import LintRemedy.Proofs.Files.Writing

/-!
This module contains what a successful replacement of code does to the files: the first occurrence
of the old code is exchanged in the file of the fix, and nothing else.
-/

namespace LintRemedy

namespace Edit

theorem replace?_eq_some {old new content edited : List Char}
    (h : replace? old new content = some edited) :
    old ≠ [] ∧ ∃ before rest, Text.cut? old content = some (before, rest) ∧
      content = before ++ old ++ rest ∧ edited = before ++ new ++ rest := by
  unfold replace? at h
  split at h
  · cases h
  · next found =>
    cases h
    rw [not_or, List.isEmpty_iff, Classical.not_not] at found
    obtain ⟨hold, hoccurs⟩ := found
    obtain ⟨⟨before, rest⟩, hcut⟩ := Option.isSome_iff_exists.1 hoccurs
    refine ⟨hold, before, rest, hcut, Text.eq_of_cut? hcut, ?_⟩
    unfold Text.replaceFirst
    rw [hcut]

end Edit

namespace Patch

variable {world world' : World}

theorem commit_eq_ok_true {name : String} {outcome : Files → Except Files.EditFault (Option Files)}
    (h : commit name outcome world = .ok true world') :
    ∃ files, outcome world.files = .ok (some files) ∧ world'.files = files := by
  unfold commit at h
  obtain ⟨_, _, hget, h⟩ := Action.bind_eq_ok.1 h
  obtain ⟨rfl, rfl⟩ := Action.get_eq_ok.1 hget
  generalize outcome world.files = result at h
  rcases result with (fault | ⟨fault, files⟩) | files?
  · cases fault with
    | badName => exact (Action.throw_eq_ok.1 h).elim
    | unavailable | notText => cases (Action.pure_eq_ok.1 h).1
  · obtain ⟨_, _, _, h⟩ := Action.bind_eq_ok.1 h
    obtain ⟨_, _, _, h⟩ := Action.bind_eq_ok.1 h
    exact (Action.throw_eq_ok.1 h).elim
  · cases files? with
    | none => cases (Action.pure_eq_ok.1 h).1
    | some files =>
      obtain ⟨_, _, hset, h⟩ := Action.bind_eq_ok.1 h
      obtain ⟨_, _, hrecord, h⟩ := Action.bind_eq_ok.1 h
      cases Action.set_eq_ok.1 hset
      cases Action.modify_eq_ok.1 hrecord
      obtain ⟨_, rfl⟩ := Action.pure_eq_ok.1 h
      exact ⟨files, rfl, rfl⟩

theorem editText_of_map {name text : String} {files files' : Files}
    (h : some <$> files.editText name text = .ok (some files')) :
    files.editText name text = .ok files' := by
  cases hwrite : files.editText name text with
  | error fault =>
    rw [hwrite] at h
    cases h
  | ok written =>
    rw [hwrite] at h
    cases h
    rfl

theorem writes_of_map {name text : String} {files files' : Files}
    (h : some <$> files.editText name text = .ok (some files') ∨
      ∃ fault, some <$> files.editText name text = .error (.cutShort fault files')) :
    files.Writes name text files' := by
  cases hwrite : files.editText name text with
  | error fault =>
    rw [hwrite] at h
    rcases h with h | ⟨fault, h⟩
    · cases h
    · cases h
      exact .inr ⟨fault, hwrite⟩
  | ok written =>
    rw [hwrite] at h
    rcases h with h | ⟨_, h⟩
    · cases h
      exact .inl hwrite
    · cases h

section Revision

variable {name content : String} {files files' : Files}

theorem revised_of_fault {fault : FileFault} (edit : List Char → Option (List Char))
    (h : files.readText name = .error fault) :
    revised name edit files = .error (.unopened fault) := by
  unfold revised
  rw [h]
  rfl

theorem revised_of_readText (edit : List Char → Option (List Char))
    (h : files.readText name = .ok content) :
    revised name edit files =
      match edit content.toList with
      | none => .ok none
      | some new => some <$> files.editText name (String.ofList new) := by
  unfold revised
  rw [h]
  dsimp only [bind, Except.bind, Except.mapError]
  cases edit content.toList <;> rfl

theorem revised_eq_ok_some {edit : List Char → Option (List Char)}
    (h : revised name edit files = .ok (some files')) :
    ∃ content edited, files.readText name = .ok content ∧ edit content.toList = some edited ∧
      files.editText name (String.ofList edited) = .ok files' := by
  cases hread : files.readText name with
  | error fault =>
    rw [revised_of_fault edit hread] at h
    cases h
  | ok content =>
    rw [revised_of_readText edit hread] at h
    cases hedit : edit content.toList with
    | none =>
      rw [hedit] at h
      cases h
    | some edited =>
      rw [hedit] at h
      exact ⟨content, edited, rfl, hedit, editText_of_map h⟩

/-- A revision opens its file for the edited text if it changes anything. -/
theorem revised_writes {edit : List Char → Option (List Char)}
    (h : revised name edit files = .ok (some files') ∨
      ∃ fault, revised name edit files = .error (.cutShort fault files')) :
    ∃ text, files.Writes name text files' := by
  cases hread : files.readText name with
  | error fault =>
    rw [revised_of_fault edit hread] at h
    rcases h with h | ⟨_, h⟩
    · cases h
    · cases h
  | ok content =>
    rw [revised_of_readText edit hread] at h
    cases hedit : edit content.toList with
    | none =>
      rw [hedit] at h
      rcases h with h | ⟨_, h⟩
      · cases h
      · cases h
    | some edited =>
      rw [hedit] at h
      exact ⟨String.ofList edited, writes_of_map h⟩

end Revision

theorem replace_eq_ok_true {fix : Replacement} (h : replace fix world = .ok true world') :
    fix.old.toList ≠ [] ∧ ∃ key content before rest,
      world.files.resolve? fix.file = some key ∧
      world.files.content? key = some (.text content) ∧
      Text.cut? fix.old.toList content.toList = some (before, rest) ∧
      content.toList = before ++ fix.old.toList ++ rest ∧
      world'.files =
        world.files.set key (.text (String.ofList (before ++ fix.new.toList ++ rest))) := by
  unfold replace at h
  obtain ⟨files, hrevised, hfiles⟩ := commit_eq_ok_true h
  obtain ⟨content, edited, hread, hedit, hwrite⟩ := revised_eq_ok_some hrevised
  obtain ⟨hold, before, rest, hcut, hsplit, rfl⟩ := Edit.replace?_eq_some hedit
  obtain ⟨key, hkey, hcontent⟩ := Files.readText_eq_ok hread
  obtain ⟨_, hkey', rfl⟩ := Files.editText_eq_ok hwrite
  rw [hkey] at hkey'
  cases hkey'
  exact ⟨hold, key, content, before, rest, hkey, hcontent, hcut, hsplit, hfiles⟩

/-- A replacement that leaves every content as it is puts back the code that it takes. -/
theorem old_eq_new_of_unchanged {fix : Replacement} (h : replace fix world = .ok true world')
    (unchanged : ∀ key, world'.files.content? key = world.files.content? key) :
    fix.old = fix.new := by
  obtain ⟨_, key, content, before, rest, _, hcontent, _, hsplit, hfiles⟩ := replace_eq_ok_true h
  have hsame := unchanged key
  rw [hfiles, Files.content?_set_self, hcontent] at hsame
  cases hsame
  rw [String.toList_ofList, List.append_cancel_right_eq, List.append_cancel_left_eq] at hsplit
  exact String.toList_inj.1 hsplit.symm

end Patch
end LintRemedy
