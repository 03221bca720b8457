import LintRemedy.Proofs.Aggregation.Partition
import LintRemedy.Proofs.Loop.Unattended
import Mathlib.Data.List.Forall2

/-!
This module contains what findings in one file have to do with the choice of work on another one.
What they say does not change which pair is chosen unattended, nor anything of the chosen group but
its samples, which are taken before the group is narrowed to a file.
-/

namespace LintRemedy

/-- Two findings that differ at most in what they say, and are the same in a file. -/
structure Finding.AgreesOn (file : String) (d d' : Finding) : Prop where
  silent : d' = { d with message := d'.message, source := d'.source }
  same : d.filePath = file → d' = d

/-- Two groups that differ at most in their samples. -/
def RuleGroup.SameButSamples (group group' : RuleGroup) : Prop :=
  group' = { group with
    sampleMessages := group'.sampleMessages, sampleSource := group'.sampleSource }

theorem distinct_of_nodup {α : Type} [DecidableEq α] {xs : List α} (h : xs.Nodup) :
    distinct xs = xs := by
  induction xs using List.reverseRecOn with
  | nil => rfl
  | append_singleton xs x ih =>
    rw [List.nodup_append] at h
    rw [distinct_append_of_notMem, ih h.1]
    intro hmem
    exact h.2.2 x hmem x List.mem_cons_self rfl

theorem find?_of_forall₂ {α : Type} {R : α → α → Prop} {p : α → Bool} {xs ys : List α} {x : α}
    (h : List.Forall₂ R xs ys) (hp : ∀ x y, R x y → p y = p x) (hfind : xs.find? p = some x) :
    ∃ y, ys.find? p = some y ∧ R x y := by
  induction h with
  | nil => cases hfind
  | @cons first first' _ _ same _ ih =>
    have hfirst := hp first first' same
    rw [List.find?_cons] at hfind ⊢
    cases hcase : p first with
    | true =>
      rw [hcase] at hfind hfirst
      cases hfind
      exact ⟨first', by rw [hfirst], same⟩
    | false =>
      rw [hcase] at hfind hfirst
      rw [hfirst]
      exact ih hfind

section Findings

variable {file : String} {ds ds' : List Finding}

/-- What does not depend on the texts of a finding is the same. -/
theorem Finding.AgreesOn.eq_of_silent {α : Type} {d d' : Finding} {f : Finding → α}
    (h : d.AgreesOn file d') (hf : ∀ d message source, f { d with message, source } = f d) :
    f d' = f d :=
  (congrArg f h.silent).trans (hf d d'.message d'.source)

variable (masked : List.Forall₂ (Finding.AgreesOn file) ds ds')
include masked

theorem map_eq_of_silent {α : Type} {f : Finding → α}
    (hf : ∀ d message source, f { d with message, source } = f d) : ds'.map f = ds.map f := by
  induction masked with
  | nil => rfl
  | cons agrees _ ih => rw [List.map_cons, List.map_cons, ih, agrees.eq_of_silent hf]

theorem ofRule_agree (ruleId : Option String) :
    List.Forall₂ (Finding.AgreesOn file) (ds.filter (·.ruleId = ruleId))
      (ds'.filter (·.ruleId = ruleId)) := by
  apply List.rel_filter _ masked
  intro d d' agrees
  have hrule := agrees.eq_of_silent (f := (·.ruleId)) fun _ _ _ => rfl
  simp only [hrule]

theorem RuleGroup.ofFindings_sameButSamples (ruleId : Option String) :
    (RuleGroup.ofFindings ruleId ds).SameButSamples (.ofFindings ruleId ds') := by
  have hseverity := map_eq_of_silent masked (f := (·.severity)) fun _ _ _ => rfl
  have hfix := map_eq_of_silent masked (f := (·.hasFix)) fun _ _ _ => rfl
  have hlocation := map_eq_of_silent masked (f := Finding.location) fun _ _ _ => rfl
  have hany : ds'.any (·.hasFix) = ds.any (·.hasFix) := by
    have h := congrArg (List.any · id) hfix
    rw [List.any_map, List.any_map] at h
    exact h
  have hcount : ds'.countP (·.hasFix) = ds.countP (·.hasFix) := by
    have h := congrArg (List.countP id) hfix
    rw [List.countP_map, List.countP_map] at h
    exact h
  unfold SameButSamples ofFindings
  rw [← List.head?_map, ← List.head?_map, hseverity, hany, hcount, hlocation, masked.length_eq]

theorem Aggregation.rules_sameButSamples :
    List.Forall₂ RuleGroup.SameButSamples (ofFindings ds).rules (ofFindings ds').rules := by
  have hids : ruleIds ds' = ruleIds ds :=
    congrArg distinct (map_eq_of_silent masked fun _ _ _ => rfl)
  unfold ofFindings
  rw [hids, List.forall₂_map_left_iff, List.forall₂_map_right_iff, List.forall₂_same]
  intro ruleId _
  exact RuleGroup.ofFindings_sameButSamples (ofRule_agree masked ruleId) ruleId

theorem Aggregation.selectable_sameButSamples :
    List.Forall₂ RuleGroup.SameButSamples (ofFindings ds).selectable
      (ofFindings ds').selectable := by
  unfold selectable
  apply List.rel_filter _ (rules_sameButSamples masked)
  intro group group' same
  rw [same]

end Findings

theorem Aggregation.nodup_selectable (ds : List Finding) : (ofFindings ds).selectable.Nodup := by
  have hids : ((ofFindings ds).rules.map (·.ruleId)).Nodup := by
    rw [rules_map_ruleId]
    exact nodup_ruleIds ds
  have hrules : (ofFindings ds).rules.Nodup :=
    (List.pairwise_map.1 hids).imp fun hne heq => hne (congrArg _ heq)
  exact hrules.filter _

theorem RuleGroup.SameButSamples.ruleId {group group' : RuleGroup}
    (h : group.SameButSamples group') : group'.ruleId = group.ruleId := by
  unfold SameButSamples at h
  rw [h]

theorem RuleGroup.SameButSamples.narrow {group group' : RuleGroup} (h : group.SameButSamples group')
    (file : String) : (group.narrow file).SameButSamples (group'.narrow file) := by
  unfold SameButSamples at h
  rw [h]
  rfl

namespace Operator

variable {budget : Int} {quiet : Bool} {counts counts' : SkipCounts}
  {groups groups' : List RuleGroup} {terminal terminal' : Terminal}

/-- A file with a group and the same file with a group that is the same but its samples. -/
def SamePair (pair pair' : String × RuleGroup) : Prop :=
  pair'.1 = pair.1 ∧ pair.2.SameButSamples pair'.2

theorem filePairs_of_nodup (h : groups.Nodup) : filePairs groups =
    (distinct (groups.flatMap fun group => group.locations.map (·.fileFull))).flatMap fun file =>
      (groups.filter fun group => group.locations.any (·.fileFull = file)).map (file, ·) := by
  unfold filePairs
  apply List.flatMap_congr
  intro file _
  dsimp only
  rw [distinct_of_nodup (h.filter _)]

theorem filePairs_same (h : List.Forall₂ RuleGroup.SameButSamples groups groups')
    (nodup : groups.Nodup) (nodup' : groups'.Nodup) :
    List.Forall₂ SamePair (filePairs groups) (filePairs groups') := by
  have hfiles : (groups'.flatMap fun group => group.locations.map (·.fileFull)) =
      groups.flatMap fun group => group.locations.map (·.fileFull) := by
    induction h with
    | nil => rfl
    | cons same _ ih =>
      rw [List.flatMap_cons, List.flatMap_cons, same,
        ih (List.nodup_cons.1 nodup).2 (List.nodup_cons.1 nodup').2]
  rw [filePairs_of_nodup nodup, filePairs_of_nodup nodup', hfiles]
  apply List.rel_flatMap (List.forall₂_same.2 fun _ _ => rfl)
  rintro file _ rfl
  rw [List.forall₂_map_left_iff, List.forall₂_map_right_iff]
  have hinFile := List.rel_filter (p := fun group => group.locations.any (·.fileFull = file))
    (q := fun group => group.locations.any (·.fileFull = file)) (fun _ _ same => by rw [same]) h
  exact hinFile.imp fun _ _ same => ⟨rfl, same⟩

theorem nextPair?_same (h : List.Forall₂ RuleGroup.SameButSamples groups groups')
    (nodup : groups.Nodup) (nodup' : groups'.Nodup) {file : String} {group : RuleGroup}
    (hnext : nextPair? budget counts groups = some (file, group)) :
    ∃ whole whole', (file, whole) ∈ filePairs groups ∧ (file, whole') ∈ filePairs groups' ∧
      whole.SameButSamples whole' ∧ group = whole.narrow file ∧
      nextPair? budget counts groups' = some (file, whole'.narrow file) := by
  unfold nextPair? at hnext ⊢
  dsimp only at hnext ⊢
  obtain ⟨⟨name, whole⟩, hfind, heq⟩ := Option.map_eq_some_iff.1 hnext
  cases heq
  -- Whether a pair is open depends on its file and rule alone.
  obtain ⟨⟨_, whole'⟩, hfind', hfile, same⟩ :
      ∃ pair, (filePairs groups').find? (fun pair => counts.get (pair.1, pair.2.ruleId) < budget) =
        some pair ∧ SamePair (name, whole) pair := by
    apply find?_of_forall₂ (filePairs_same h nodup nodup') _ hfind
    rintro ⟨_, _⟩ ⟨_, _⟩ ⟨rfl, same⟩
    have hrule : _ = _ := same.ruleId
    dsimp only at hrule ⊢
    simp only [hrule]
  cases hfile
  exact ⟨whole, whole', List.mem_of_find?_eq_some hfind, List.mem_of_find?_eq_some hfind', same,
    rfl, by rw [hfind']; rfl⟩

/-- What is chosen unattended, and what is shown of it. -/
theorem select_eq_ok_iff {group : RuleGroup} {file : Option String} :
    (automatic budget quiet).select groups counts terminal =
        .ok (.chosen group file, counts') terminal' ↔
      counts = counts' ∧ ∃ name, some name = file ∧
        nextPair? budget counts groups = some (name, group) ∧
        terminal.shown quiet (View.target name group) = terminal' := by
  change (get >>= _ : Deciding SkipCounts Choice) counts terminal = _ ↔ _
  rw [Deciding.bind_eq_ok]
  constructor
  · rintro ⟨_, _, _, hget, h⟩
    cases hget
    generalize nextPair? budget counts groups = next at h ⊢
    cases next with
    | none => cases h
    | some pair =>
      obtain ⟨_, _, _, hshow, h⟩ := Deciding.bind_eq_ok.1 h
      obtain ⟨rfl, hshown⟩ := Deciding.announce_eq_ok.1 hshow
      cases h
      exact ⟨rfl, _, rfl, rfl, hshown⟩
  · rintro ⟨rfl, name, rfl, hnext, hshown⟩
    refine ⟨counts, counts, terminal, rfl, ?_⟩
    rw [hnext]
    exact Deciding.bind_eq_ok.2 ⟨⟨⟩, _, _, Deciding.announce_eq_ok.2 ⟨rfl, hshown⟩, rfl⟩

end Operator

end LintRemedy
