import LintRemedy.Aggregation.Grouping

/-!
This module contains what the groups of an aggregation say about its findings: when there are files
that could not be parsed, and what no finding of a selectable group has.
-/

namespace LintRemedy
namespace Aggregation

variable {ds : List Finding} {group : RuleGroup}

theorem mem_rules_iff : group ∈ (ofFindings ds).rules ↔
    ∃ d ∈ ds, RuleGroup.ofFindings d.ruleId (ds.filter (·.ruleId = d.ruleId)) = group := by
  unfold ofFindings ruleIds
  simp only [List.mem_map, mem_distinct_iff]
  constructor
  · rintro ⟨_, ⟨d, hd, rfl⟩, hgroup⟩
    exact ⟨d, hd, hgroup⟩
  · rintro ⟨d, hd, hgroup⟩
    exact ⟨d.ruleId, ⟨d, hd, rfl⟩, hgroup⟩

theorem hasUnparsed_ofFindings_iff : (ofFindings ds).hasUnparsed ↔ ∃ d ∈ ds, d.ruleId = none := by
  unfold hasUnparsed
  simp only [List.any_eq_true, mem_rules_iff, decide_eq_true_eq]
  constructor
  · rintro ⟨_, ⟨d, hd, rfl⟩, hrule⟩
    exact ⟨d, hd, hrule⟩
  · rintro ⟨d, hd, hrule⟩
    exact ⟨_, ⟨d, hd, rfl⟩, hrule⟩

theorem ruleId_ne_none_of_selectable (h : group ∈ (ofFindings ds).selectable) :
    group.ruleId ≠ none := by
  have hkept := (List.mem_filter.1 h).2
  rw [decide_eq_true_eq] at hkept
  exact hkept.1

theorem hasFix_of_selectable (h : group ∈ (ofFindings ds).selectable) :
    ∀ l ∈ group.locations, l.hasFix = false := by
  obtain ⟨hrules, hkept⟩ := List.mem_filter.1 h
  rw [decide_eq_true_eq] at hkept
  obtain ⟨d, _, rfl⟩ := mem_rules_iff.1 hrules
  -- The group is flagged as soon as one of its findings is, so that none of them is here.
  have hnone := List.any_eq_false.1 (Bool.eq_false_iff.2 hkept.2)
  intro l hl
  obtain ⟨other, hother, rfl⟩ := List.mem_map.1 hl
  exact Bool.eq_false_iff.2 (hnone other hother)

end Aggregation
end LintRemedy
