import LintRemedy.Proofs.Action
import LintRemedy.Proofs.Files.Writing

/-!
This module contains accounts of what happens to the files of a world: the processes and services
that others change files through, and the texts that the program writes itself, in their order. What
an action does is bounded by an account of it, whatever the action ends with.
-/

namespace LintRemedy

/-- The tree after changes that others have made to files. -/
def Files.afterChanges (files : Files) (changes : FileChanges) : Files :=
  changes.foldl (fun files (name, content) => files.change name content) files

/-- Something that can change files. -/
inductive Happening where
  /-- A process of the analyzer has run. -/
  | analyzed (command : List String) (workDir : String) (changes : FileChanges)
  /-- An agent of the oracle was asked. -/
  | prompted (command : List String) (input : Option String) (killed : Bool)
      (changes : FileChanges)
  /-- A service of the oracle was asked. -/
  | posted (url : String) (authorization : Option String) (body : Json) (changes : FileChanges)
  /-- The program has written a text to a file, or has at least opened the file for it. -/
  | wrote (name text : String)

namespace Happening

/-- What the record of the program says about it. -/
def deed : Happening → Deed
  | analyzed command workDir _ => .ranAnalyzer command workDir
  | prompted command input killed _ => .ranAgent command input killed
  | posted url authorization body _ => .posted url authorization body
  | wrote name _ => .editedFile name

def Leads (files : Files) : Happening → Files → Prop
  | analyzed _ _ changes, files' | prompted _ _ _ changes, files' | posted _ _ _ changes, files' =>
    files.afterChanges changes = files'
  | wrote name text, files' => files.Writes name text files'

end Happening

/-- What becomes of a tree of files when one thing happens after the other. -/
inductive Files.Follows : Files → List Happening → Files → Prop where
  | nil {files} : Follows files [] files
  | cons {files middle files' happening account} (first : Happening.Leads files happening middle)
      (rest : Follows middle account files') : Follows files (happening :: account) files'

theorem Files.Follows.append {files middle files' : Files} {first rest : List Happening}
    (hfirst : files.Follows first middle) (hrest : middle.Follows rest files') :
    files.Follows (first ++ rest) files' := by
  induction hfirst with
  | nil => exact hrest
  | cons head _ ih => exact .cons head (ih hrest)

/-- An account of everything that has changed files between two worlds. -/
structure World.Unfolds (world : World) (account : List Happening) (world' : World) : Prop where
  files : world.files.Follows account world'.files
  deeds : world'.deeds = world.deeds ++ account.map Happening.deed

namespace World.Unfolds

variable {world middle world' : World} {first rest : List Happening}

/-- Nothing has happened. -/
theorem nil (files : world'.files = world.files) (deeds : world'.deeds = world.deeds) :
    world.Unfolds [] world' := by
  constructor
  · rw [files]
    exact .nil
  · rw [deeds, List.map_nil, List.append_nil]

theorem append (hfirst : world.Unfolds first middle) (hrest : middle.Unfolds rest world') :
    world.Unfolds (first ++ rest) world' where
  files := hfirst.files.append hrest.files
  deeds := by rw [hrest.deeds, hfirst.deeds, List.map_append, List.append_assoc]

end World.Unfolds

/-! ### The working directory -/

theorem Files.workDir_afterChanges (files : Files) (changes : FileChanges) :
    (files.afterChanges changes).workDir = files.workDir := by
  unfold afterChanges
  induction changes generalizing files with
  | nil => rfl
  | cons change changes ih =>
    obtain ⟨name, content⟩ := change
    rw [List.foldl_cons, ih]
    cases content <;> rfl

theorem Happening.Leads.workDir_eq {files files' : Files} {happening : Happening}
    (h : Happening.Leads files happening files') : files'.workDir = files.workDir := by
  cases happening with
  | analyzed _ _ changes | prompted _ _ _ changes | posted _ _ _ changes =>
    cases h
    exact files.workDir_afterChanges changes
  | wrote name text =>
    obtain ⟨_, _, rfl⟩ := h.exists_set
    rfl

/-- Whatever happens to files, names are resolved from the same directory. -/
theorem Files.Follows.workDir_eq {files files' : Files} {account : List Happening}
    (h : files.Follows account files') : files'.workDir = files.workDir := by
  induction h with
  | nil => rfl
  | cons first _ ih => exact ih.trans first.workDir_eq

theorem World.Unfolds.workDir_eq {world world' : World} {account : List Happening}
    (h : world.Unfolds account world') : world'.workDir = world.workDir := by
  unfold workDir
  rw [h.files.workDir_eq]

/-- The name of the file that is written by a deed. -/
def Deed.written? : Deed → Option String
  | editedFile name => some name
  | _ => none

/-- The names of the files that are written by deeds, in their order. -/
def written (deeds : List Deed) : List String :=
  deeds.filterMap Deed.written?

/-- The program has written to these files between two worlds. -/
def World.Writes (world : World) (names : List String) (world' : World) : Prop :=
  ∃ deeds, world'.deeds = world.deeds ++ deeds ∧ written deeds = names

namespace World.Writes

variable {world middle world' : World} {first rest : List String}

theorem refl (world : World) : world.Writes [] world :=
  ⟨[], (List.append_nil _).symm, rfl⟩

theorem append (hfirst : world.Writes first middle) (hrest : middle.Writes rest world') :
    world.Writes (first ++ rest) world' := by
  obtain ⟨deeds, hdeeds, rfl⟩ := hfirst
  obtain ⟨deeds', hdeeds', rfl⟩ := hrest
  refine ⟨deeds ++ deeds', ?_, List.filterMap_append⟩
  rw [hdeeds', hdeeds, List.append_assoc]

theorem unique (h : world.Writes first world') (h' : world.Writes rest world') :
    first = rest := by
  obtain ⟨deeds, hdeeds, rfl⟩ := h
  obtain ⟨deeds', hdeeds', rfl⟩ := h'
  rw [hdeeds, List.append_cancel_left_eq] at hdeeds'
  rw [hdeeds']

end World.Writes

theorem World.Unfolds.writes {world world' : World} {account : List Happening}
    (h : world.Unfolds account world') :
    world.Writes (written (account.map Happening.deed)) world' :=
  ⟨_, h.deeds, rfl⟩

theorem mem_written_iff {account : List Happening} {name : String} :
    name ∈ written (account.map Happening.deed) ↔ ∃ text, .wrote name text ∈ account := by
  unfold written
  rw [List.filterMap_map, List.mem_filterMap]
  constructor
  · rintro ⟨happening, hmem, h⟩
    cases happening with
    | wrote name' text =>
      cases h
      exact ⟨text, hmem⟩
    | _ => cases h
  · rintro ⟨text, hmem⟩
    exact ⟨_, hmem, rfl⟩

/-- In an account only allowed texts are written, and at most so many. -/
structure Within (allowed : String → String → Prop) (limit : Nat) (account : List Happening) :
    Prop where
  allowed : ∀ name text, .wrote name text ∈ account → allowed name text
  limit : (written (account.map Happening.deed)).length ≤ limit

namespace Within

variable {allowed allowed' : String → String → Prop} {limit limit' : Nat}
  {first rest account : List Happening}

theorem nil : Within allowed limit [] where
  allowed _ _ h := by cases h
  limit := Nat.zero_le limit

theorem append (hfirst : Within allowed limit first) (hrest : Within allowed limit' rest) :
    Within allowed (limit + limit') (first ++ rest) where
  allowed name text h := by
    rcases List.mem_append.1 h with h | h
    · exact hfirst.allowed name text h
    · exact hrest.allowed name text h
  limit := by
    have hlength := Nat.add_le_add hfirst.limit hrest.limit
    unfold written at hlength ⊢
    rw [List.map_append, List.filterMap_append, List.length_append]
    exact hlength

theorem mono (h : Within allowed limit account)
    (hallowed : ∀ name text, allowed name text → allowed' name text) (hlimit : limit ≤ limit') :
    Within allowed' limit' account where
  allowed name text hmem := hallowed name text (h.allowed name text hmem)
  limit := Nat.le_trans h.limit hlimit

end Within

namespace Action

variable {ε σ α β : Type}

/-- The state that an action leaves, whatever it ends with. -/
def left : EStateM.Result ε σ α → σ
  | .ok _ s => s
  | .error _ s => s

/-- There is an account of an action, whatever the action ends with, in which only allowed texts
are written and at most so many. -/
def Confined (view : σ → World) (allowed : String → String → Prop) (limit : Nat)
    (act : EStateM ε σ α) (s : σ) : Prop :=
  ∃ account, (view s).Unfolds account (view (left (act s))) ∧ Within allowed limit account

namespace Confined

variable {view : σ → World} {allowed allowed' : String → String → Prop} {m n : Nat}
  {act x : EStateM ε σ α} {f : α → EStateM ε σ β} {s : σ}

/-- An action that leaves files and deeds alone. -/
theorem idle (files : (view (left (act s))).files = (view s).files)
    (deeds : (view (left (act s))).deeds = (view s).deeds) : Confined view allowed n act s :=
  ⟨[], .nil files deeds, .nil⟩

theorem of_pure {a : α} : Confined view allowed n (pure a : EStateM ε σ α) s :=
  idle rfl rfl

theorem of_throw {e : ε} : Confined view allowed n (throw e : EStateM ε σ α) s :=
  idle rfl rfl

theorem of_get : Confined view allowed n (get : EStateM ε σ σ) s :=
  idle rfl rfl

theorem of_modify {g : σ → σ} (files : (view (g s)).files = (view s).files)
    (deeds : (view (g s)).deeds = (view s).deeds) :
    Confined view allowed n (modify g : EStateM ε σ PUnit) s :=
  idle files deeds

theorem of_ite {p : Prop} [Decidable p] {act' : EStateM ε σ α} (h : Confined view allowed n act s)
    (h' : Confined view allowed n act' s) :
    Confined view allowed n (if p then act else act') s := by
  split
  · exact h
  · exact h'

theorem mono (h : Confined view allowed m act s)
    (hallowed : ∀ name text, allowed name text → allowed' name text) (hlimit : m ≤ n) :
    Confined view allowed' n act s := by
  obtain ⟨account, unfolds, within⟩ := h
  exact ⟨account, unfolds, within.mono hallowed hlimit⟩

theorem bind (hx : Confined view allowed m x s)
    (hf : ∀ a s', x s = .ok a s' → Confined view allowed n (f a) s') :
    Confined view allowed (m + n) (x >>= f) s := by
  obtain ⟨first, hfirst, within⟩ := hx
  cases h : x s with
  | ok a s' =>
    rw [h] at hfirst
    obtain ⟨rest, hrest, within'⟩ := hf a s' h
    refine ⟨first ++ rest, ?_, within.append within'⟩
    rw [bind_of_ok h]
    exact hfirst.append hrest
  | error e s' =>
    rw [h] at hfirst
    refine ⟨first, ?_, within.mono (fun _ _ h => h) (Nat.le_add_right m n)⟩
    rw [bind_of_error h]
    exact hfirst

/-- Nothing is written at first. -/
theorem bind_of_silent (hx : Confined view allowed 0 x s)
    (hf : ∀ a s', x s = .ok a s' → Confined view allowed n (f a) s') :
    Confined view allowed n (x >>= f) s := by
  rw [← Nat.zero_add n]
  exact hx.bind hf

theorem map {g : α → β} (hx : Confined view allowed n x s) :
    Confined view allowed n (g <$> x) s := by
  obtain ⟨account, unfolds, within⟩ := hx
  refine ⟨account, ?_, within⟩
  change (view s).Unfolds account (view (left (EStateM.map g x s)))
  unfold EStateM.map
  cases h : x s with
  | ok a s' =>
    rw [h] at unfolds
    exact unfolds
  | error e s' =>
    rw [h] at unfolds
    exact unfolds

theorem writes_nil (h : Confined view allowed 0 act s) :
    (view s).Writes [] (view (left (act s))) := by
  obtain ⟨account, unfolds, within⟩ := h
  rw [← List.eq_nil_of_length_eq_zero (Nat.le_zero.1 within.limit)]
  exact unfolds.writes

theorem workDir_eq {a : α} {s' : σ} (h : Confined view allowed n act s)
    (hact : act s = .ok a s') : (view s').workDir = (view s).workDir := by
  obtain ⟨_, unfolds, _⟩ := h
  rw [hact] at unfolds
  exact unfolds.workDir_eq

end Confined

end Action

theorem Act.left_ofExcept {α : Type} (outcome : Except Fault α) (world : World) :
    Action.left (Act.ofExcept id outcome world) = world := by
  cases outcome with
  | ok a => rfl
  | error fault => rfl

end LintRemedy
