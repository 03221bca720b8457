import LintRemedy.Proofs.Operator.Isolation
import Mathlib.Data.List.Nodup

/-!
This module contains which pair of a file and a rule is chosen unattended: the first one below the
budget, in the order in which the files occur in the groups and the groups follow each other. The
pairs are also those of a table of files that is filled location by location.
-/

namespace LintRemedy

/-- The files of groups, location by location. -/
def RuleGroup.files (groups : List RuleGroup) : List String :=
  groups.flatMap fun group => group.locations.map (·.fileFull)

namespace Operator

/-- The file of a pair occurs before that of another one, or they have the same file and its group
comes first. -/
def Precedes (groups : List RuleGroup) (pair other : String × RuleGroup) : Prop :=
  (RuleGroup.files groups).idxOf pair.1 < (RuleGroup.files groups).idxOf other.1 ∨
    pair.1 = other.1 ∧ groups.idxOf pair.2 < groups.idxOf other.2

def fileRule (pair : String × RuleGroup) : FileRule :=
  (pair.1, pair.2.ruleId)

/-- Puts a group under a file, unless it is there. A new file comes last. -/
def fileUnder (file : String) (group : RuleGroup) :
    List (String × List RuleGroup) → List (String × List RuleGroup)
  | [] => [(file, [group])]
  | (name, inFile) :: table =>
    if name = file then (name, if group ∈ inFile then inFile else inFile ++ [group]) :: table
    else (name, inFile) :: fileUnder file group table

/-- The groups under their files, put there one location after another. -/
def filed (groups : List RuleGroup) : List (String × List RuleGroup) :=
  groups.foldl (fun table group =>
    group.locations.foldl (fun table l => fileUnder l.fileFull group table) table) []

/-- Pairs list every file of every group, each file and rule once, and do so in order. -/
structure Enumerates (groups : List RuleGroup) (pairs : List (String × RuleGroup)) : Prop where
  mem_iff : ∀ file group, (file, group) ∈ pairs ↔
    group ∈ groups ∧ ∃ l ∈ group.locations, l.fileFull = file
  nodup : (pairs.map fileRule).Nodup
  ordered : pairs.Pairwise (Precedes groups)
  /-- They are read off the table of files. -/
  filed : pairs = (filed groups).flatMap fun (file, inFile) => inFile.map (file, ·)

/-- A file and a group with a location in it are below the budget, and come before all others that
are. -/
structure FirstOpen (budget : Int) (counts : SkipCounts) (groups : List RuleGroup) (file : String)
    (group : RuleGroup) : Prop where
  mem : group ∈ groups
  occurs : ∃ l ∈ group.locations, l.fileFull = file
  below : counts.get (file, group.ruleId) < budget
  first : ∀ other ∈ groups, ∀ l ∈ other.locations,
    counts.get (l.fileFull, other.ruleId) < budget → (l.fileFull, other) ≠ (file, group) →
      Precedes groups (file, group) (l.fileFull, other)

/-- A group has only the locations of another one that are in a file, in their order, and is the
same in all else. -/
structure NarrowedTo (file : String) (whole group : RuleGroup) : Prop where
  locations : group.locations = whole.locations.filter (·.fileFull = file)
  count : group.count = group.locations.length
  positive : 1 ≤ group.count
  others : group = { whole with locations := group.locations, count := group.count }

/-- What is chosen: nothing if all pairs have used up the budget, or else the first open pair. -/
structure ChoosesFirst (budget : Int) (counts : SkipCounts) (groups : List RuleGroup)
    (choice : Choice) : Prop where
  exhausted_iff : choice = .exhausted ↔
    ∀ pair ∈ RuleGroup.pairs groups, budget ≤ counts.get pair
  chosen : (∃ pair ∈ RuleGroup.pairs groups, counts.get pair < budget) →
    ∃ file whole group, choice = .chosen group (some file) ∧
      FirstOpen budget counts groups file whole ∧ NarrowedTo file whole group

variable {budget : Int} {quiet : Bool} {counts : SkipCounts} {groups : List RuleGroup}

section Table

theorem distinct_append_replicate {α : Type} [DecidableEq α] (xs : List α) (x : α) (n : Nat) :
    distinct (xs ++ List.replicate (n + 1) x) = distinct (xs ++ [x]) := by
  induction n with
  | zero => rfl
  | succ n ih =>
    have hmem : x ∈ xs ++ List.replicate (n + 1) x :=
      List.mem_append_right _ (List.mem_replicate.2 ⟨Nat.succ_ne_zero n, rfl⟩)
    rw [List.replicate_succ', ← List.append_assoc, distinct_append_of_mem hmem, ih]

/-- It does not matter how often a value is repeated on the spot. -/
theorem distinct_flatMap_replicate {α : Type} [DecidableEq α] (times : α → Nat) (xs : List α) :
    distinct (xs.flatMap fun x => List.replicate (times x) x) =
      distinct (xs.filter (0 < times ·)) := by
  induction xs using List.reverseRecOn with
  | nil => rfl
  | append_singleton xs x ih =>
    have hmem : x ∈ xs.flatMap (fun x => List.replicate (times x) x) ↔
        x ∈ xs.filter (0 < times ·) := by
      rw [← mem_distinct_iff, ih, mem_distinct_iff]
    rw [List.flatMap_append, List.flatMap_singleton, List.filter_append]
    cases htimes : times x with
    | zero => simpa [htimes] using ih
    | succ n =>
      have hkept : [x].filter (0 < times ·) = [x] := by simp [htimes]
      rw [distinct_append_replicate, hkept]
      by_cases h : x ∈ xs.filter (0 < times ·)
      · rw [distinct_append_of_mem (hmem.2 h), distinct_append_of_mem h, ih]
      · rw [distinct_append_of_notMem (mt hmem.1 h), distinct_append_of_notMem h, ih]

theorem distinct_map {α β : Type} [DecidableEq β] (f : α → β) (xs : List α) :
    distinct (xs.map f) =
      xs.foldl (fun done x => if f x ∈ done then done else done ++ [f x]) [] := by
  unfold distinct
  rw [List.foldl_map]

theorem fileUnder_eq_alter (file : String) (group : RuleGroup)
    (table : List (String × List RuleGroup)) :
    fileUnder file group table = alter file (fun entry =>
      if group ∈ entry.getD [] then entry.getD [] else entry.getD [] ++ [group]) table := by
  induction table with
  | nil => rfl
  | cons entry table ih =>
    rw [fileUnder, alter, ih]
    rfl

/-- The groups with their files, location by location. -/
def entries (groups : List RuleGroup) : List (String × RuleGroup) :=
  groups.flatMap fun group => group.locations.map fun l => (l.fileFull, group)

theorem filed_eq_foldl (groups : List RuleGroup) : filed groups =
    (entries groups).foldl (fun table entry => fileUnder entry.1 entry.2 table) [] := by
  unfold filed entries
  simp only [List.foldl_flatMap, List.foldl_map]

theorem entries_inFile (groups : List RuleGroup) (file : String) :
    ((entries groups).filter (·.1 = file)).map (·.2) = groups.flatMap fun group =>
      List.replicate (group.locations.countP (·.fileFull = file)) group := by
  unfold entries
  rw [List.filter_flatMap, List.map_flatMap]
  apply List.flatMap_congr
  intro group _
  rw [List.filter_map, List.map_map, List.countP_eq_length_filter]
  exact List.map_const'

/-- The pairs are read off the table that one pass over the locations fills. -/
theorem filePairs_eq_filed (groups : List RuleGroup) :
    filePairs groups = (filed groups).flatMap fun (file, inFile) => inFile.map (file, ·) := by
  have hfiles : (entries groups).map (·.1) = RuleGroup.files groups := by
    unfold entries RuleGroup.files
    rw [List.map_flatMap]
    simp only [List.map_map, Function.comp_def]
  have hinFile : ∀ file, ((entries groups).filter (·.1 = file)).foldl
      (fun inFile entry => if entry.2 ∈ inFile then inFile else inFile ++ [entry.2]) [] =
        distinct (groups.filter fun group => group.locations.any (·.fileFull = file)) := by
    intro file
    rw [← distinct_map, entries_inFile, distinct_flatMap_replicate]
    congr 1
    apply List.filter_congr
    intro group _
    rw [Bool.eq_iff_iff, decide_eq_true_eq, List.countP_pos_iff, List.any_eq_true]
  rw [filed_eq_foldl]
  simp only [fileUnder_eq_alter]
  rw [foldl_alter Prod.fst fun inFile (entry : String × RuleGroup) =>
    if entry.2 ∈ inFile then inFile else inFile ++ [entry.2], hfiles, List.flatMap_map]
  simp only [hinFile]
  rfl

end Table

section Order

theorem precedes_irrefl (pair : String × RuleGroup) : ¬ Precedes groups pair pair := by
  rintro (h | ⟨_, h⟩)
  · exact Nat.lt_irrefl _ h
  · exact Nat.lt_irrefl _ h

/-- The pairs stand in the order of the first location of their file, and those of one file in the
order of their groups. -/
theorem pairwise_filePairs (nodup : groups.Nodup) :
    (filePairs groups).Pairwise (Precedes groups) := by
  rw [filePairs_of_nodup nodup, List.pairwise_flatMap]
  constructor
  · intro file _
    have hgroups : groups.Pairwise fun a b => groups.idxOf a < groups.idxOf b := by
      have h := pairwise_distinct groups
      rw [distinct_of_nodup nodup] at h
      exact h
    rw [List.pairwise_map]
    exact (hgroups.filter _).imp fun h => .inr ⟨rfl, h⟩
  · apply (pairwise_distinct _).imp
    intro file other hlt a ha b hb
    obtain ⟨_, _, rfl⟩ := List.mem_map.1 ha
    obtain ⟨_, _, rfl⟩ := List.mem_map.1 hb
    exact .inl hlt

theorem enumerates_filePairs (rules : (groups.map (·.ruleId)).Nodup) :
    Enumerates groups (filePairs groups) where
  mem_iff _ _ := mem_filePairs_iff
  nodup := by
    rw [List.Nodup, List.pairwise_map]
    apply (pairwise_filePairs (rules.of_map _)).imp_of_mem
    rintro ⟨file, group⟩ ⟨other, group'⟩ hmem hmem' hprecedes heq
    -- Two groups of one rule are the same group, so that the pair would precede itself.
    obtain ⟨rfl, hrule⟩ := Prod.mk.inj heq
    have hgroup := (mem_filePairs_iff.1 hmem).1
    have hgroup' := (mem_filePairs_iff.1 hmem').1
    obtain rfl := List.inj_on_of_nodup_map rules hgroup hgroup' hrule
    exact precedes_irrefl _ hprecedes
  ordered := pairwise_filePairs (rules.of_map _)
  filed := filePairs_eq_filed groups

end Order

section Choice

theorem firstOpen_of_find? (nodup : groups.Nodup) {file : String} {whole : RuleGroup}
    (h : (filePairs groups).find? (fun pair => counts.get (pair.1, pair.2.ruleId) < budget) =
      some (file, whole)) : FirstOpen budget counts groups file whole := by
  obtain ⟨hbelow, before, after, hsplit, hclosed⟩ := List.find?_eq_some_iff_append.1 h
  obtain ⟨hmem, hoccurs⟩ := mem_filePairs_iff.1 (List.mem_of_find?_eq_some h)
  refine ⟨hmem, hoccurs, of_decide_eq_true hbelow, ?_⟩
  intro other hother l hl hopen hne
  have hpairs := pairwise_filePairs nodup
  have hpair := mem_filePairs_iff.2 ⟨hother, l, hl, rfl⟩
  rw [hsplit] at hpairs hpair
  -- All pairs before the chosen one are closed, so that the other one comes after it.
  rcases List.mem_append.1 hpair with hbefore | hafter
  · have hshut := hclosed _ hbefore
    rw [decide_eq_true hopen] at hshut
    cases hshut
  · have hlater := (List.mem_cons.1 hafter).resolve_left hne
    exact (List.pairwise_cons.1 (List.pairwise_append.1 hpairs).2.1).1 _ hlater

theorem narrowedTo_narrow {file : String} {whole : RuleGroup}
    (occurs : ∃ l ∈ whole.locations, l.fileFull = file) :
    NarrowedTo file whole (whole.narrow file) where
  locations := rfl
  count := rfl
  positive := by
    obtain ⟨l, hl, hfile⟩ := occurs
    have hmem : l ∈ whole.locations.filter (·.fileFull = file) :=
      List.mem_filter.2 ⟨hl, decide_eq_true hfile⟩
    exact Int.toNat_le.1 (List.length_pos_of_mem hmem)
  others := rfl

theorem nextPair?_eq_none_iff : nextPair? budget counts groups = none ↔
    ∀ pair ∈ RuleGroup.pairs groups, budget ≤ counts.get pair := by
  constructor
  · intro h pair
    exact budget_le_of_nextPair?_eq_none h
  · intro h
    cases hnext : nextPair? budget counts groups with
    | none => rfl
    | some pair =>
      obtain ⟨hpair, hopen⟩ := open_of_nextPair?_eq_some hnext
      exact absurd hopen (Int.not_lt.2 (h _ hpair))

/-- What is chosen unattended is the next pair, and nothing if there is none. -/
theorem select_eq (terminal : Terminal) :
    (automatic budget quiet).select groups counts terminal =
      match nextPair? budget counts groups with
      | none => .ok (.exhausted, counts) terminal
      | some (file, group) =>
        .ok (.chosen group (some file), counts)
          (terminal.shown quiet (View.target file group)) := by
  cases hnext : nextPair? budget counts groups with
  | none =>
    apply Deciding.bind_eq_ok.2
    refine ⟨counts, counts, terminal, rfl, ?_⟩
    rw [hnext]
    rfl
  | some pair =>
    exact select_eq_ok_iff.2 ⟨rfl, pair.1, rfl, hnext, rfl⟩

/-- The unattended choice is the first pair below the budget, and there is always a choice. -/
theorem select_first_open (budget : Int) (quiet : Bool) (counts : SkipCounts)
    (terminal : Terminal) (rules : (groups.map (·.ruleId)).Nodup) :
    Enumerates groups (filePairs groups) ∧
      ∃ choice shown,
        (automatic budget quiet).select groups counts terminal = .ok (choice, counts) shown ∧
          ChoosesFirst budget counts groups choice := by
  refine ⟨enumerates_filePairs rules, ?_⟩
  rw [select_eq]
  cases hnext : nextPair? budget counts groups with
  | none =>
    have hspent := nextPair?_eq_none_iff.1 hnext
    refine ⟨.exhausted, terminal, rfl, iff_of_true rfl hspent, ?_⟩
    rintro ⟨pair, hpair, hopen⟩
    exact absurd hopen (Int.not_lt.2 (hspent pair hpair))
  | some next =>
    obtain ⟨⟨file, whole⟩, hfind, rfl⟩ := Option.map_eq_some_iff.1 hnext
    have hfirst := firstOpen_of_find? (rules.of_map _) hfind
    refine ⟨_, _, rfl, iff_of_false nofun ?_, ?_⟩
    · rw [← nextPair?_eq_none_iff, hnext]
      nofun
    · intro _
      exact ⟨file, whole, _, rfl, hfirst, narrowedTo_narrow hfirst.occurs⟩

/-- Findings of a rule in two files. -/
def declarations : RuleGroup where
  ruleId := some "no-var"
  severity := .error
  count := 2
  autoFixable := false
  fixableCount := 0
  locations := [⟨"b.js", "/w/b.js", 3, 1, false⟩, ⟨"a.js", "/w/a.js", 1, 1, false⟩]
  sampleMessages := ["Unexpected var."]
  sampleSource := []

/-- Findings of another rule in both files. -/
def comparisons : RuleGroup where
  ruleId := some "eqeqeq"
  severity := .warning
  count := 2
  autoFixable := false
  fixableCount := 0
  locations := [⟨"a.js", "/w/a.js", 2, 5, false⟩, ⟨"b.js", "/w/b.js", 7, 5, false⟩]
  sampleMessages := ["Expected '==='."]
  sampleSource := []

/-- The first pair has used up its budget, so that the other rule comes next in the same file. -/
theorem select_first_open_spent :
    ([declarations, comparisons].map (·.ruleId)).Nodup ∧
      nextPair? 1 [(("/w/b.js", some "no-var"), 1)] [declarations, comparisons] =
        some ("/w/b.js", comparisons.narrow "/w/b.js") ∧
      Enumerates [declarations, comparisons] (filePairs [declarations, comparisons]) ∧
      ∃ choice shown, (automatic 1 true).select [declarations, comparisons]
          [(("/w/b.js", some "no-var"), 1)] (.fresh []) =
            .ok (choice, [(("/w/b.js", some "no-var"), 1)]) shown ∧
        ChoosesFirst 1 [(("/w/b.js", some "no-var"), 1)] [declarations, comparisons] choice :=
  ⟨by decide, by decide, select_first_open 1 true _ _ (by decide)⟩

end Choice

end Operator
end LintRemedy
