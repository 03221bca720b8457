import LintRemedy.Text.Search
import LintRemedy.Text.Unencodable
import LintRemedy.Text.Utf8

/-!
This module contains a tree of files: contents by absolute names, the directories, and the working
directory from which relative names are resolved.
-/

namespace LintRemedy

/-- The content of a file: a text where its bytes are valid UTF-8. -/
inductive Content where
  | text (s : String)
  | binary (bytes : List UInt8)
deriving DecidableEq, Repr

def Content.ofBytes (bytes : List UInt8) : Content :=
  match Text.decodeUtf8? bytes with
  | some cs => .text (String.ofList cs)
  | none => .binary bytes

def Content.bytes : Content → List UInt8
  | text s => s.toUTF8.toList
  | binary bytes => bytes

/-- The text of a content, with replacements for invalid parts. -/
def Content.lenient : Content → String
  | text s => s
  | binary bytes => String.ofList (Text.decodeUtf8 bytes)

/-- The components of an absolute name, from the root on. -/
abbrev FileKey := List String

/-- Why no file can have a name, and no process can be given a word. -/
inductive NameFault where
  | unencodable (fault : Text.EncodeFault)
  | nul
deriving DecidableEq, Repr

def NameFault.message : NameFault → String
  | unencodable fault => fault.message
  | nul => "embedded null byte"

inductive FileFault where
  | badName (fault : NameFault)
  /-- The file is missing, is no file, or cannot be opened. -/
  | unavailable
  /-- The content is no text. -/
  | notText
deriving DecidableEq, Repr

structure Files where
  /-- The directory from which relative names are resolved. -/
  workDir : FileKey
  contents : List (FileKey × Content)
  directories : List FileKey
  /-- The names under which no file can be opened for an edit. -/
  locked : List String
  /-- Whether texts and names may hold halves of pairs here, for which there are no bytes. Else the
  characters that stand for them are characters like others. -/
  halves : Bool
deriving DecidableEq, Repr

/-- The directories on the way to a key, the root first and the key itself last. -/
def FileKey.path (key : FileKey) : List FileKey :=
  (List.range (key.length + 1)).map key.take

namespace Files

def empty (workDir : FileKey) : Files :=
  ⟨workDir, [], workDir.path, [], false⟩

def content? (files : Files) (key : FileKey) : Option Content :=
  (files.contents.find? (·.1 = key)).map (·.2)

def hasDirectory (files : Files) (key : FileKey) : Bool :=
  key ∈ files.directories

def maxComponentSize : Nat := 255

def maxNameSize : Nat := 4095

/-- One step of the resolution of a name. Only a directory can be stepped out of or into, and
nothing has a name that is too long. -/
def step (files : Files) (key : FileKey) (component : String) : Option FileKey :=
  if ¬ files.hasDirectory key then none
  else if component = "" ∨ component = "." then some key
  else if component = ".." then some key.dropLast
  else if maxComponentSize < component.utf8ByteSize then none
  else some (key ++ [component])

/-- The key of the directory from which a name is resolved. -/
def startOf (files : Files) (name : String) : FileKey :=
  if name.toList.head? = some '/' then [] else files.workDir

/-- The key that a name stands for, whether or not there is something under it. -/
def resolve? (files : Files) (name : String) : Option FileKey :=
  if name = "" ∨ maxNameSize < name.utf8ByteSize then none
  else (Text.fields '/' name).foldlM files.step (files.startOf name)

/-- Whether a name holds a NUL character, the only one with a byte that is zero. -/
def isBadName (name : String) : Bool :=
  name.toUTF8.data.toList.contains 0

def textFault? (files : Files) (text : String) : Option Text.EncodeFault :=
  if files.halves then Text.halfFault? text.toList else none

/-- What keeps a name from being one that a file can have. -/
def nameFault? (files : Files) (name : String) : Option NameFault :=
  match if files.halves then Text.nameFault? name.toList else none with
  | some fault => some (.unencodable fault)
  | none => if isBadName name then some .nul else none

def isFile (files : Files) (name : String) : Bool :=
  (files.nameFault? name).isNone && ((files.resolve? name).bind files.content?).isSome

def isDirectory (files : Files) (name : String) : Bool :=
  (files.nameFault? name).isNone && ((files.resolve? name).any files.hasDirectory)

def readText (files : Files) (name : String) : Except FileFault String :=
  match files.nameFault? name with
  | some fault => .error (.badName fault)
  | none =>
    match (files.resolve? name).bind files.content? with
    | none => .error .unavailable
    | some (.binary _) => .error .notText
    | some (.text s) => .ok s

/-- Puts a content under a key in a list of contents. -/
def setContent (key : FileKey) (content : Content) :
    List (FileKey × Content) → List (FileKey × Content)
  | [] => [(key, content)]
  | (other, old) :: rest =>
    if other = key then (key, content) :: rest else (other, old) :: setContent key content rest

def set (files : Files) (key : FileKey) (content : Content) : Files :=
  { files with contents := setContent key content files.contents }

/-- Opens a file for writing and gives its key. The file is made if its directory is there. -/
def openForWriting (files : Files) (name : String) : Except FileFault FileKey :=
  match files.nameFault? name with
  | some fault => .error (.badName fault)
  | none =>
    if name ∈ files.locked then .error .unavailable
    else
      match files.resolve? name with
      | none => .error .unavailable
      | some key =>
        if key = [] ∨ files.hasDirectory key ∨ ¬ files.hasDirectory key.dropLast then
          .error .unavailable
        else .ok key

/-- Why a text is not written to a file. -/
inductive EditFault where
  /-- The file cannot be opened, and nothing is changed. -/
  | unopened (fault : FileFault)
  /-- There are no bytes for the text. The file is empty by then. -/
  | cutShort (fault : Text.EncodeFault) (left : Files)
deriving DecidableEq, Repr

def editText (files : Files) (name text : String) : Except EditFault Files :=
  match files.openForWriting name with
  | .error fault => .error (.unopened fault)
  | .ok key =>
    match files.textFault? text with
    | some fault => .error (.cutShort fault (files.set key (.text "")))
    | none => .ok (files.set key (.text text))

/-- The tree with a directory and all directories on the way to it. -/
def makeDirectory (files : Files) (key : FileKey) : Files :=
  { files with directories := distinctKeys (files.directories ++ key.path) }
where
  /-- The keys without repetition. -/
  distinctKeys (keys : List FileKey) : List FileKey :=
    keys.foldl (fun done key => if key ∈ done then done else done ++ [key]) []

/-- Why directories cannot be made. -/
inductive DirectoryFault where
  | badName (fault : NameFault)
  | noName
  | nameTooLong
  /-- There is a file where a directory is to be stepped into. -/
  | insideFile
  /-- There is a file where the directory is to be. -/
  | atFile
deriving DecidableEq, Repr

/-- One step on the way to a directory, which is made unless something is there. -/
def stepMaking (place : Files × FileKey) (component : String) :
    Except DirectoryFault (Files × FileKey) :=
  let (files, key) := place
  if component = "" then .ok (files, key)
  else if ¬ files.hasDirectory key then .error .insideFile
  else if component = "." then .ok (files, key)
  else if component = ".." then .ok (files, key.dropLast)
  else if maxComponentSize < component.utf8ByteSize then .error .nameTooLong
  else
    let key := key ++ [component]
    .ok (if (files.content? key).isSome then files else files.makeDirectory key, key)

/-- The tree with the directory of a name and all directories on the way to it, and its key. -/
def makeDirectories (files : Files) (name : String) : Except DirectoryFault (Files × FileKey) := do
  if let some fault := files.nameFault? name then throw (.badName fault)
  else if name = "" then throw .noName
  else if maxNameSize < name.utf8ByteSize then throw .nameTooLong
  else
    let (files, key) ← (Text.fields '/' name).foldlM stepMaking (files, files.startOf name)
    if files.hasDirectory key then return (files, key) else throw .atFile

/-- The key of a name under the working directory, whatever is there. -/
def keyOf (files : Files) (name : String) : FileKey :=
  let walk := fun (key : FileKey) (component : String) =>
    if component = "" ∨ component = "." then key
    else if component = ".." then key.dropLast
    else key ++ [component]
  (Text.fields '/' name).foldl walk files.workDir

/-- A change from outside: a file is put in place with its directories, or deleted. -/
def change (files : Files) (name : String) (content : Option Content) : Files :=
  let key := files.keyOf name
  match content with
  | some content => (files.makeDirectory key.dropLast).set key content
  | none => { files with contents := files.contents.filter (·.1 ≠ key) }

/-- The names under the working directory whose content differs between two trees, with the new
content, in the order of the names. -/
def changes (before after : Files) : List (String × Option Content) :=
  let keys := (before.contents ++ after.contents).map (·.1)
  let changed := keys.filter fun key =>
    before.content? key ≠ after.content? key ∧ key.take after.workDir.length = after.workDir
  let named := changed.map fun key =>
    ("/".intercalate (key.drop after.workDir.length), after.content? key)
  (named.mergeSort fun a b => a.1 ≤ b.1).foldr
    (fun entry rest => if (rest.head?.map (·.1)) = some entry.1 then rest else entry :: rest) []

theorem content?_set_self (files : Files) (key : FileKey) (content : Content) :
    (files.set key content).content? key = some content := by
  unfold set content?
  induction files.contents with
  | nil => simp [setContent]
  | cons entry rest ih =>
    obtain ⟨other, old⟩ := entry
    by_cases h : other = key
    · simp [setContent, h]
    · simpa [setContent, h] using ih

theorem content?_set_of_ne {files : Files} {key other : FileKey} (h : other ≠ key)
    (content : Content) : (files.set key content).content? other = files.content? other := by
  unfold set content?
  induction files.contents with
  | nil => simp [setContent, Ne.symm h]
  | cons entry rest ih =>
    obtain ⟨found, old⟩ := entry
    by_cases hf : found = key
    · subst hf
      simp [setContent, Ne.symm h]
    · by_cases ho : found = other
      · subst ho
        simp [setContent, hf]
      · simpa [setContent, hf, ho] using ih

end Files
end LintRemedy
