import LintRemedy.Proofs.Aggregation.Selectable
import Mathlib.Algebra.Ring.Int.Defs
import Mathlib.Data.List.Basic
import Mathlib.Data.List.Induction

/-!
This module contains what the aggregation of findings is: a partition of them by their rules that
keeps their order. No finding is lost, doubled or moved within its rule, and every count of the
groups and of the summary is a count of findings. The groups are also those of one pass over the
findings that puts each of them into the group of its rule.
-/

namespace LintRemedy

section Distinct

variable {α : Type} [DecidableEq α] {xs : List α} {x : α}

theorem distinct_append_of_mem (h : x ∈ xs) : distinct (xs ++ [x]) = distinct xs := by
  unfold distinct
  rw [List.foldl_append]
  exact if_pos (mem_distinct_iff.2 h)

theorem distinct_append_of_notMem (h : x ∉ xs) : distinct (xs ++ [x]) = distinct xs ++ [x] := by
  unfold distinct
  rw [List.foldl_append]
  exact if_neg fun hmem => h (mem_distinct_iff.1 hmem)

/-- The values without repetition stand in the order of their first occurrence. -/
theorem pairwise_distinct [BEq α] [LawfulBEq α] (xs : List α) :
    (distinct xs).Pairwise fun a b => xs.idxOf a < xs.idxOf b := by
  induction xs using List.reverseRecOn with
  | nil => exact .nil
  | append_singleton xs x ih =>
    -- Where a value occurs first does not change by what comes later.
    have hkept : (distinct xs).Pairwise fun a b => (xs ++ [x]).idxOf a < (xs ++ [x]).idxOf b := by
      apply ih.imp_of_mem
      intro a b ha hb hlt
      rw [List.idxOf_append_of_mem (mem_distinct_iff.1 ha),
        List.idxOf_append_of_mem (mem_distinct_iff.1 hb)]
      exact hlt
    by_cases h : x ∈ xs
    · rw [distinct_append_of_mem h]
      exact hkept
    · rw [distinct_append_of_notMem h, List.pairwise_append]
      refine ⟨hkept, List.pairwise_singleton _ _, ?_⟩
      intro a ha b hb
      rw [List.mem_singleton] at hb
      have hmem := mem_distinct_iff.1 ha
      rw [hb, List.idxOf_append_of_mem hmem, List.idxOf_append_of_notMem h]
      exact Nat.lt_add_right _ (List.idxOf_lt_length_of_mem hmem)

end Distinct

section Tables

variable {α β κ : Type} [DecidableEq κ]

/-- A table with the entry of a key changed. A new entry comes last. -/
def alter (key : κ) (f : Option β → β) : List (κ × β) → List (κ × β)
  | [] => [(key, f none)]
  | (k, value) :: table =>
    if k = key then (k, f (some value)) :: table else (k, value) :: alter key f table

variable {key : κ} {f : Option β → β} {keys : List κ} {content : κ → β}

theorem alter_of_notMem (h : key ∉ keys) : alter key f (keys.map fun k => (k, content k)) =
    keys.map (fun k => (k, content k)) ++ [(key, f none)] := by
  induction keys with
  | nil => rfl
  | cons k keys ih =>
    rw [List.mem_cons, not_or] at h
    rw [List.map_cons, alter, if_neg (Ne.symm h.1), ih h.2, List.cons_append]

theorem alter_of_mem (nodup : keys.Nodup) (h : key ∈ keys) :
    alter key f (keys.map fun k => (k, content k)) =
      keys.map fun k => (k, if k = key then f (some (content k)) else content k) := by
  induction keys with
  | nil => cases h
  | cons k keys ih =>
    obtain ⟨hk, hkeys⟩ := List.nodup_cons.1 nodup
    rw [List.map_cons, List.map_cons, alter]
    by_cases heq : k = key
    · rw [if_pos heq, if_pos heq]
      congr 1
      apply List.map_congr_left
      intro other hother
      rw [if_neg]
      rintro rfl
      exact hk (heq ▸ hother)
    · rw [if_neg heq, if_neg heq, ih hkeys ((List.mem_cons.1 h).resolve_left (Ne.symm heq))]

/-- What one pass over values puts together under their keys is what a separate pass for each key
puts together. -/
theorem foldl_alter (key : α → κ) (add : List β → α → List β) (xs : List α) :
    xs.foldl (fun table x => alter (key x) (fun entry => add (entry.getD []) x) table) [] =
      (distinct (xs.map key)).map fun k => (k, (xs.filter (key · = k)).foldl add []) := by
  induction xs using List.reverseRecOn with
  | nil => rfl
  | append_singleton xs x ih =>
    have hcontent : ∀ k, ((xs ++ [x]).filter (key · = k)).foldl add [] =
        if k = key x then add ((xs.filter (key · = k)).foldl add []) x
        else (xs.filter (key · = k)).foldl add [] := by
      intro k
      by_cases h : k = key x
      · simp [h]
      · simp [h, Ne.symm h]
    have hmap : (xs ++ [x]).map key = xs.map key ++ [key x] := List.map_append
    simp only [hcontent]
    rw [List.foldl_append, ih]
    change alter (key x) _ _ = _
    by_cases h : key x ∈ xs.map key
    · rw [hmap, distinct_append_of_mem h,
        alter_of_mem (nodup_distinct _) (mem_distinct_iff.2 h)]
      rfl
    · have hnew : key x ∉ distinct (xs.map key) := fun hmem => h (mem_distinct_iff.1 hmem)
      rw [hmap, distinct_append_of_notMem h, alter_of_notMem hnew, List.map_append,
        List.map_singleton, if_pos rfl]
      congr 1
      · apply List.map_congr_left
        intro k hk
        rw [if_neg]
        rintro rfl
        exact hnew hk
      · -- The key is new, so that no value before has it.
        rw [List.filter_eq_nil_iff.2]
        · rfl
        · intro other hother hkey
          exact h (List.mem_map.2 ⟨other, hother, of_decide_eq_true hkey⟩)

end Tables

/-- Values that are taken apart by keys are the same values in another order. -/
theorem perm_flatMap_filter {α κ : Type} [DecidableEq κ] (key : α → κ) {keys : List κ}
    (nodup : keys.Nodup) (xs : List α) (covered : ∀ x ∈ xs, key x ∈ keys) :
    (keys.flatMap fun k => xs.filter (key · = k)).Perm xs := by
  induction keys generalizing xs with
  | nil =>
    rw [List.eq_nil_iff_forall_not_mem.2 fun x hx => List.not_mem_nil (covered x hx)]
    exact .nil
  | cons k keys ih =>
    obtain ⟨hk, hkeys⟩ := List.nodup_cons.1 nodup
    -- The other keys find the same values if those of the first key are gone.
    have hrest : keys.flatMap (fun k => xs.filter (key · = k)) =
        keys.flatMap fun k' => (xs.filter fun x => !decide (key x = k)).filter (key · = k') := by
      apply List.flatMap_congr
      intro k' hk'
      rw [List.filter_filter]
      apply List.filter_congr
      intro x _
      have hne : k' ≠ k := by
        rintro rfl
        exact hk hk'
      by_cases hx : key x = k'
      · simp [hx, hne]
      · simp [hx]
    have hcovered : ∀ x ∈ xs.filter (fun x => !decide (key x = k)), key x ∈ keys := by
      intro x hx
      obtain ⟨hmem, hne⟩ := List.mem_filter.1 hx
      exact (List.mem_cons.1 (covered x hmem)).resolve_left (by simpa using hne)
    rw [List.flatMap_cons, hrest]
    exact ((ih hkeys _ hcovered).append_left _).trans (List.filter_append_perm _ xs)

namespace Aggregation

/-- An aggregation that is a partition of findings by their rules and keeps their order. -/
structure Partitions (a : Aggregation) (ds : List Finding) : Prop where
  /-- There is one group for each rule that some finding has. -/
  mem_ruleIds_iff (ruleId : Option String) :
    ruleId ∈ a.rules.map (·.ruleId) ↔ ∃ d ∈ ds, d.ruleId = ruleId
  nodup : (a.rules.map (·.ruleId)).Nodup
  /-- A rule that occurs first comes first. -/
  ordered : (a.rules.map (·.ruleId)).Pairwise fun r s =>
    (ds.map (·.ruleId)).idxOf r < (ds.map (·.ruleId)).idxOf s
  /-- A group has the findings of its rule as they come. -/
  locations : ∀ group ∈ a.rules,
    group.locations = (ds.filter (·.ruleId = group.ruleId)).map Finding.location
  /-- The groups have all findings, each of them once. -/
  perm : (a.rules.flatMap (·.locations)).Perm (ds.map Finding.location)
  count : ∀ group ∈ a.rules, group.count = group.locations.length ∧ 1 ≤ group.count
  fixableCount : ∀ group ∈ a.rules, group.fixableCount = group.locations.countP (·.hasFix)
  autoFixable : ∀ group ∈ a.rules, group.autoFixable ↔ 0 < group.fixableCount
  /-- A group is as grave as its first finding. -/
  severity : ∀ group ∈ a.rules,
    (ds.find? (·.ruleId = group.ruleId)).map (·.severity) = some group.severity
  totalIssues : a.summary.totalIssues = ds.length
  sum_count : (a.rules.map (·.count)).sum = a.summary.totalIssues
  errors_add_warnings : a.summary.errors + a.summary.warnings = a.summary.totalIssues
  sum_fixableCount : (a.rules.map (·.fixableCount)).sum = a.summary.fixable
  uniqueRules : a.summary.uniqueRules = a.rules.length
  /-- Open to assisted repair are the groups of a rule none of whose locations can be repaired. -/
  selectable : a.selectable =
    a.rules.filter fun group => group.ruleId ≠ none ∧ ∀ l ∈ group.locations, l.hasFix = false

variable (ds : List Finding)

theorem rules_map_ruleId : (ofFindings ds).rules.map (·.ruleId) = ruleIds ds := by
  unfold ofFindings
  rw [List.map_map]
  exact List.map_id _

theorem mem_ruleIds_iff {ruleId : Option String} :
    ruleId ∈ ruleIds ds ↔ ∃ d ∈ ds, d.ruleId = ruleId := by
  unfold ruleIds
  rw [mem_distinct_iff, List.mem_map]

theorem nodup_ruleIds : (ruleIds ds).Nodup :=
  nodup_distinct _

theorem rules_flatMap_locations_perm :
    ((ofFindings ds).rules.flatMap (·.locations)).Perm (ds.map Finding.location) := by
  have hperm : ((ruleIds ds).flatMap fun r => ds.filter (·.ruleId = r)).Perm ds := by
    apply perm_flatMap_filter _ (nodup_ruleIds ds)
    intro d hd
    exact (mem_ruleIds_iff ds).2 ⟨d, hd, rfl⟩
  have hmap := hperm.map Finding.location
  rw [List.map_flatMap] at hmap
  unfold ofFindings
  rw [List.flatMap_map]
  exact hmap

end Aggregation

namespace RuleGroup

variable (ruleId : Option String) (ds : List Finding)

theorem count_ofFindings :
    (ofFindings ruleId ds).count = (ofFindings ruleId ds).locations.length := by
  unfold ofFindings
  rw [List.length_map]

theorem fixableCount_ofFindings :
    (ofFindings ruleId ds).fixableCount = (ofFindings ruleId ds).locations.countP (·.hasFix) := by
  unfold ofFindings
  rw [List.countP_map]
  rfl

theorem autoFixable_ofFindings_iff :
    (ofFindings ruleId ds).autoFixable ↔ ∃ l ∈ (ofFindings ruleId ds).locations, l.hasFix := by
  simp [ofFindings, Finding.location]

end RuleGroup

namespace Aggregation

/-- A number that counts locations of each group counts those of all groups in sum. -/
theorem sum_map_eq_countP {groups : List RuleGroup} {number : RuleGroup → Int}
    {p : Location → Bool} (h : ∀ group ∈ groups, number group = group.locations.countP p) :
    (groups.map number).sum = (groups.flatMap (·.locations)).countP p := by
  induction groups with
  | nil => rfl
  | cons group groups ih =>
    rw [List.forall_mem_cons] at h
    rw [List.map_cons, List.sum_cons, ih h.2, h.1, List.flatMap_cons, List.countP_append,
      Int.natCast_add]

theorem countP_error_add_countP_warning (ds : List Finding) :
    ds.countP (·.severity = .error) + ds.countP (·.severity = .warning) = ds.length := by
  have hwarning : ∀ d ∈ ds, decide (d.severity = .warning) = true ↔
      decide ¬ decide (d.severity = .error) = true := by
    intro d _
    cases d.severity <;> decide
  rw [List.countP_congr hwarning]
  exact (List.length_eq_countP_add_countP _).symm

/-- The aggregation of findings is a partition of them that keeps their order. -/
theorem partitions_ofFindings (ds : List Finding) : (ofFindings ds).Partitions ds where
  mem_ruleIds_iff ruleId := by
    rw [rules_map_ruleId]
    exact mem_ruleIds_iff ds
  nodup := by
    rw [rules_map_ruleId]
    exact nodup_ruleIds ds
  ordered := by
    rw [rules_map_ruleId]
    exact pairwise_distinct _
  locations group h := by
    obtain ⟨d, _, rfl⟩ := mem_rules_iff.1 h
    rfl
  perm := rules_flatMap_locations_perm ds
  count group h := by
    obtain ⟨d, hd, rfl⟩ := mem_rules_iff.1 h
    refine ⟨RuleGroup.count_ofFindings _ _, ?_⟩
    -- The finding from which the rule is taken is in its group.
    have hmem : d ∈ ds.filter (·.ruleId = d.ruleId) := List.mem_filter.2 ⟨hd, decide_eq_true rfl⟩
    exact Int.natCast_pos.2 (List.length_pos_of_mem hmem)
  fixableCount group h := by
    obtain ⟨d, _, rfl⟩ := mem_rules_iff.1 h
    exact RuleGroup.fixableCount_ofFindings _ _
  autoFixable group h := by
    obtain ⟨d, _, rfl⟩ := mem_rules_iff.1 h
    rw [RuleGroup.autoFixable_ofFindings_iff, RuleGroup.fixableCount_ofFindings, Int.natCast_pos,
      List.countP_pos_iff]
  severity group h := by
    obtain ⟨d, hd, rfl⟩ := mem_rules_iff.1 h
    obtain ⟨first, hfirst⟩ : ∃ first, ds.find? (·.ruleId = d.ruleId) = some first :=
      Option.isSome_iff_exists.1 (List.find?_isSome.2 ⟨d, hd, decide_eq_true rfl⟩)
    unfold RuleGroup.ofFindings
    rw [List.head?_filter, hfirst]
    rfl
  totalIssues := rfl
  sum_count := by
    rw [sum_map_eq_countP (p := fun _ => true), List.countP_true,
      (rules_flatMap_locations_perm ds).length_eq, List.length_map]
    · rfl
    · intro group h
      obtain ⟨d, _, rfl⟩ := mem_rules_iff.1 h
      rw [RuleGroup.count_ofFindings, List.countP_true]
  errors_add_warnings := by
    unfold ofFindings
    rw [← Int.natCast_add, countP_error_add_countP_warning]
  sum_fixableCount := by
    rw [sum_map_eq_countP (p := (·.hasFix)), (rules_flatMap_locations_perm ds).countP_eq,
      List.countP_map]
    · rfl
    · intro group h
      obtain ⟨d, _, rfl⟩ := mem_rules_iff.1 h
      exact RuleGroup.fixableCount_ofFindings _ _
  uniqueRules := by
    unfold ofFindings
    rw [List.length_map]
  selectable := by
    unfold selectable
    apply List.filter_congr
    intro group h
    obtain ⟨d, _, rfl⟩ := mem_rules_iff.1 h
    congr 2
    rw [RuleGroup.autoFixable_ofFindings_iff]
    simp

/-- Puts a finding into the group of its rule, which is the last one if it is new. -/
def enter (d : Finding) : List (Option String × List Finding) → List (Option String × List Finding)
  | [] => [(d.ruleId, [d])]
  | (ruleId, ds) :: groups =>
    if ruleId = d.ruleId then (ruleId, ds ++ [d]) :: groups else (ruleId, ds) :: enter d groups

/-- The findings in groups, put there one after another. -/
def entered (ds : List Finding) : List (Option String × List Finding) :=
  ds.foldl (fun groups d => enter d groups) []

theorem enter_eq_alter (d : Finding) (groups : List (Option String × List Finding)) :
    enter d groups = alter d.ruleId (fun entry => entry.getD [] ++ [d]) groups := by
  induction groups with
  | nil => rfl
  | cons group groups ih =>
    rw [enter, alter, ih]
    rfl

/-- The groups of the aggregation are those of one pass over the findings. -/
theorem rules_eq_map_entered (ds : List Finding) :
    (ofFindings ds).rules = (entered ds).map fun (r, group) => RuleGroup.ofFindings r group := by
  have hentered : entered ds = (ruleIds ds).map fun r => (r, ds.filter (·.ruleId = r)) := by
    unfold entered
    simp only [enter_eq_alter]
    rw [foldl_alter Finding.ruleId fun group d => group ++ [d]]
    apply List.map_congr_left
    intro r _
    rw [List.foldl_append_eq_append, List.nil_append, ← List.flatMap_def, List.flatMap_singleton']
  rw [hentered, List.map_map]
  rfl

end Aggregation
end LintRemedy
