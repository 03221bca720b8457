import LintRemedy.Files.Basic

/-!
This module contains the reading and writing of texts in files: which names are refused, when a file
can be opened for writing, and what a write leaves behind, be it the whole text or an empty file.
-/

namespace LintRemedy

namespace Text

theorem firstRun?_eq_none_iff {codec : Codec} {starts goesOn : Char → Bool} {position : Nat}
    {cs : List Char} :
    firstRun? codec starts goesOn position cs = none ↔ ∀ c ∈ cs, starts c = false := by
  induction cs generalizing position with
  | nil => simp [firstRun?]
  | cons c cs ih =>
    unfold firstRun?
    cases hc : starts c with
    | true => simp [hc]
    | false => simp [hc, ih]

end Text

namespace Files

variable {files files' : Files} {name text : String}

/-- Every character of a text has bytes. -/
def Encodable (files : Files) (text : String) : Prop :=
  files.halves = true → ∀ c ∈ text.toList, Text.isHalf c = false

theorem textFault?_eq_none_iff : files.textFault? text = none ↔ files.Encodable text := by
  unfold textFault? Encodable
  cases files.halves with
  | true => simp [Text.halfFault?, Text.firstRun?_eq_none_iff]
  | false => simp

/-- A text has bytes if its characters come from texts that have. -/
theorem Encodable.of_subset {next : String} (h : files.Encodable text)
    (subset : next.toList ⊆ text.toList) : files.Encodable next :=
  fun halves c hc => h halves c (subset hc)

/-- A name with a NUL character is refused, whatever other characters it holds. -/
theorem nameFault?_of_isBadName (bad : isBadName name) :
    ∃ fault, files.nameFault? name = some fault := by
  unfold nameFault?
  split
  · exact ⟨_, rfl⟩
  · exact ⟨.nul, if_pos bad⟩

/-- Where there are no halves of pairs, a name is refused for a NUL character only. -/
theorem nameFault?_eq_none_iff_of_halves (halves : files.halves = false) :
    files.nameFault? name = none ↔ isBadName name = false := by
  unfold nameFault?
  rw [halves]
  cases isBadName name <;> simp

/-- A file can stand under a key: its directory is there, and it is no directory itself. -/
def HasRoom (files : Files) (key : FileKey) : Prop :=
  key ≠ [] ∧ ¬ files.hasDirectory key ∧ files.hasDirectory key.dropLast

/-- A file of this name can be opened for writing, whether or not there is one. -/
def Accepts (files : Files) (name : String) : Prop :=
  files.nameFault? name = none ∧ name ∉ files.locked ∧
    ∃ key, files.resolve? name = some key ∧ files.HasRoom key

instance (files : Files) (key : FileKey) : Decidable (files.HasRoom key) :=
  inferInstanceAs (Decidable (_ ∧ _ ∧ _))

instance (files : Files) (name : String) : Decidable (files.Accepts name) :=
  inferInstanceAs (Decidable (_ ∧ _ ∧ ∃ key ∈ files.resolve? name, files.HasRoom key))

theorem hasRoom_iff {key : FileKey} : files.HasRoom key ↔
    ¬ (key = [] ∨ files.hasDirectory key ∨ ¬ files.hasDirectory key.dropLast) := by
  rw [not_or, not_or, Classical.not_not]
  rfl

theorem readText_eq_ok (h : files.readText name = .ok text) :
    ∃ key, files.resolve? name = some key ∧ files.content? key = some (.text text) := by
  unfold readText at h
  split at h
  · cases h
  · split at h
    · cases h
    · cases h
    · next s hcontent =>
      cases h
      exact Option.bind_eq_some_iff.1 hcontent

theorem readText_eq_badName_iff {fault : NameFault} :
    files.readText name = .error (.badName fault) ↔ files.nameFault? name = some fault := by
  unfold readText
  cases files.nameFault? name with
  | some fault' => simp
  | none =>
    simp only [reduceCtorEq, iff_false]
    split <;> nofun

/-- What can be read where halves of pairs may stand, can be read where they may not. -/
theorem readText_of_halves (h : files.readText name = .ok text) :
    { files with halves := false }.readText name = .ok text := by
  have named : { files with halves := false }.nameFault? name = none := by
    rw [nameFault?_eq_none_iff_of_halves rfl, ← Bool.not_eq_true]
    intro bad
    obtain ⟨fault, hfault⟩ := files.nameFault?_of_isBadName bad
    rw [readText_eq_badName_iff.2 hfault] at h
    cases h
  obtain ⟨key, hkey, hcontent⟩ := readText_eq_ok h
  have found : ({ files with halves := false }.resolve? name).bind
      { files with halves := false }.content? = some (.text text) :=
    Option.bind_eq_some_iff.2 ⟨key, hkey, hcontent⟩
  unfold readText
  rw [named, found]

section Opening

variable {key : FileKey}

theorem openForWriting_eq_ok_iff : files.openForWriting name = .ok key ↔
    files.nameFault? name = none ∧ name ∉ files.locked ∧ files.resolve? name = some key ∧
      files.HasRoom key := by
  unfold openForWriting
  cases files.nameFault? name with
  | some fault => simp
  | none =>
    dsimp only
    split
    · next locked => simp [locked]
    · next unlocked =>
      cases files.resolve? name with
      | none => simp
      | some found =>
        dsimp only
        split
        · next taken =>
          simp only [reduceCtorEq, Option.some.injEq, false_iff, not_and]
          rintro _ _ rfl room
          exact hasRoom_iff.1 room taken
        · next free =>
          simp only [Except.ok.injEq, Option.some.injEq, unlocked, not_false_eq_true, true_and]
          constructor
          · rintro rfl
            exact ⟨rfl, hasRoom_iff.2 free⟩
          · exact And.left

theorem exists_openForWriting_iff :
    (∃ key, files.openForWriting name = .ok key) ↔ files.Accepts name := by
  simp only [openForWriting_eq_ok_iff, exists_and_left]
  rfl

theorem openForWriting_eq_badName_iff {fault : NameFault} :
    files.openForWriting name = .error (.badName fault) ↔ files.nameFault? name = some fault := by
  unfold openForWriting
  cases files.nameFault? name with
  | some fault' => simp
  | none =>
    simp only [reduceCtorEq, iff_false]
    split
    · nofun
    · split
      · nofun
      · split <;> nofun

end Opening

section Editing

variable {fault : Text.EncodeFault} {left : Files}

theorem editText_eq_ok_iff : files.editText name text = .ok files' ↔ files.Encodable text ∧
    ∃ key, files.openForWriting name = .ok key ∧ files' = files.set key (.text text) := by
  rw [← textFault?_eq_none_iff]
  unfold editText
  cases files.openForWriting name with
  | error fault => simp
  | ok key =>
    cases files.textFault? text with
    | some fault => simp
    | none => simp [eq_comm]

theorem editText_eq_cutShort_iff : files.editText name text = .error (.cutShort fault left) ↔
    files.textFault? text = some fault ∧
      ∃ key, files.openForWriting name = .ok key ∧ left = files.set key (.text "") := by
  unfold editText
  cases files.openForWriting name with
  | error fault => simp
  | ok key =>
    cases files.textFault? text with
    | some fault => simp [eq_comm]
    | none => simp

theorem editText_eq_unopened_iff {fault : FileFault} :
    files.editText name text = .error (.unopened fault) ↔
      files.openForWriting name = .error fault := by
  unfold editText
  cases files.openForWriting name with
  | error fault => simp
  | ok key =>
    simp only [reduceCtorEq, iff_false]
    split <;> nofun

theorem editText_eq_badName_iff {fault : NameFault} :
    files.editText name text = .error (.unopened (.badName fault)) ↔
      files.nameFault? name = some fault :=
  editText_eq_unopened_iff.trans openForWriting_eq_badName_iff

theorem exists_editText_iff : (∃ files', files.editText name text = .ok files') ↔
    files.Encodable text ∧ files.Accepts name := by
  simp only [editText_eq_ok_iff, exists_and_left, ← exists_openForWriting_iff]
  apply and_congr_right
  intro _
  constructor
  · rintro ⟨_, key, hkey, _⟩
    exact ⟨key, hkey⟩
  · rintro ⟨key, hkey⟩
    exact ⟨_, key, hkey, rfl⟩

theorem editText_eq_ok (h : files.editText name text = .ok files') :
    ∃ key, files.resolve? name = some key ∧ files' = files.set key (.text text) := by
  obtain ⟨_, key, hkey, hset⟩ := editText_eq_ok_iff.1 h
  exact ⟨key, (openForWriting_eq_ok_iff.1 hkey).2.2.1, hset⟩

theorem readText_of_openForWriting {key : FileKey} (h : files.openForWriting name = .ok key) :
    (files.set key (.text text)).readText name = .ok text := by
  obtain ⟨named, _, hkey, _⟩ := openForWriting_eq_ok_iff.1 h
  have hnamed : (files.set key (.text text)).nameFault? name = none := named
  have hresolve : (files.set key (.text text)).resolve? name = some key := hkey
  unfold readText
  rw [hnamed, hresolve, Option.bind_some, content?_set_self]

theorem readText_of_editText (h : files.editText name text = .ok files') :
    files'.readText name = .ok text := by
  obtain ⟨_, key, hkey, rfl⟩ := editText_eq_ok_iff.1 h
  exact readText_of_openForWriting hkey

theorem content?_of_editText (h : files.editText name text = .ok files') {key : FileKey}
    (hkey : files.resolve? name ≠ some key) : files'.content? key = files.content? key := by
  obtain ⟨written, hwritten, rfl⟩ := editText_eq_ok h
  apply content?_set_of_ne
  rintro rfl
  exact hkey hwritten

/-- A write leaves names and what stands in their way as they are. -/
theorem resolve?_of_editText (h : files.editText name text = .ok files') (next : String) :
    files'.resolve? next = files.resolve? next := by
  obtain ⟨_, _, rfl⟩ := editText_eq_ok h
  rfl

theorem nameFault?_of_editText (h : files.editText name text = .ok files') (next : String) :
    files'.nameFault? next = files.nameFault? next := by
  obtain ⟨_, _, rfl⟩ := editText_eq_ok h
  rfl

/-- A write leaves the directories as they are, and with them what can be written to. -/
theorem accepts_of_editText (h : files.editText name text = .ok files') (next : String) :
    files'.Accepts next ↔ files.Accepts next := by
  obtain ⟨_, _, rfl⟩ := editText_eq_ok h
  exact Iff.rfl

theorem encodable_of_editText (h : files.editText name text = .ok files') (next : String) :
    files'.Encodable next ↔ files.Encodable next := by
  obtain ⟨_, _, rfl⟩ := editText_eq_ok h
  exact Iff.rfl

/-- A file is opened for a text. It holds the whole text then, or nothing if there are no bytes for
the text. -/
def Writes (files : Files) (name text : String) (files' : Files) : Prop :=
  files.editText name text = .ok files' ∨
    ∃ fault, files.editText name text = .error (.cutShort fault files')

theorem Writes.exists_set (h : files.Writes name text files') :
    ∃ key content, files' = files.set key content := by
  cases h with
  | inl written =>
    obtain ⟨key, _, hset⟩ := editText_eq_ok written
    exact ⟨key, _, hset⟩
  | inr cut =>
    obtain ⟨_, cut⟩ := cut
    obtain ⟨_, key, _, hset⟩ := editText_eq_cutShort_iff.1 cut
    exact ⟨key, _, hset⟩

end Editing

end Files
end LintRemedy
