import LintRemedy.Proofs.Patch.Operation

/-!
This module contains what it is to perform an action: its operations are carried out one after
another, and the outcome tells how many of them have changed a file, and how many have not.
-/

namespace LintRemedy

namespace Loop

open LintRemedy.Patch

variable {config : String} {group : RuleGroup} {bundle : Bundle} {action : Action}
  {world world' : World} {outcome : Outcome}

def operations (config : String) (group : RuleGroup) (bundle : Bundle) (action : Action) :
    List Operation :=
  let rule := bundle.ruleId
  match action.kind with
  | .fix => replacements (chosenFixes bundle.fixes action.indices)
  | .disable => [.overwrite config bundle.disable.modifiedConfig]
  | .ignoreLine =>
    (suppressionTargets group.locations).map fun (file, line) => .suppressLine file line rule
  | .ignoreFile =>
    (distinct (group.locations.map (·.fileFull))).map fun file => .suppressFile file rule
  | .skip | .ask | .quit => []

/-- The number of chosen fixes that are passed over because they lack one of their texts. -/
def incomplete (bundle : Bundle) (action : Action) : Nat :=
  if action.kind = .fix then
    (chosenFixes bundle.fixes action.indices).countP (!·.isComplete)
  else 0

theorem countSuccess_settles {α : Type} {act : α → Act Bool} {operation : α → Operation}
    (hact : ∀ a, act a = (operation a).run) {xs : List α} {n : Nat}
    (h : countSuccess act xs world = .ok n world') :
    Settles (xs.map operation) world world' ∧ n = (results (xs.map operation) world).fixed := by
  induction xs generalizing world n with
  | nil =>
    obtain ⟨rfl, rfl⟩ := Action.pure_eq_ok.1 h
    exact ⟨.nil, rfl⟩
  | cons a xs ih =>
    unfold countSuccess at h
    obtain ⟨success, _, hfirst, h⟩ := Action.bind_eq_ok.1 h
    obtain ⟨others, _, hrest, h⟩ := Action.bind_eq_ok.1 h
    obtain ⟨rfl, rfl⟩ := Action.pure_eq_ok.1 h
    rw [hact] at hfirst
    obtain ⟨settles, rfl⟩ := ih hrest
    rw [List.map_cons, results_cons hfirst, Results.fixed_cons]
    refine ⟨settles.cons hfirst, ?_⟩
    cases success <;> rfl

/-- What comes of comments at places. -/
theorem ofComments_settles {α : Type} {act : α → Act Bool} (operation : α → Operation)
    (hact : ∀ a, act a = (operation a).run) {xs : List α} {kind rule : String}
    (h : (do
      let done ← countSuccess act xs
      return Outcome.ofComments kind rule done xs.length) world = .ok outcome world') :
    Settles (xs.map operation) world world' ∧
      outcome.fixed = (results (xs.map operation) world).fixed ∧
      outcome.skipped = (results (xs.map operation) world).failed := by
  obtain ⟨done, _, hcount, h⟩ := Action.bind_eq_ok.1 h
  obtain ⟨rfl, rfl⟩ := Action.pure_eq_ok.1 h
  obtain ⟨settles, rfl⟩ := countSuccess_settles hact hcount
  have hsum := Results.fixed_add_failed (results (xs.map operation) world)
  have hlength := congrArg List.length settles.all
  rw [List.length_map, List.length_map] at hlength
  refine ⟨settles, rfl, ?_⟩
  unfold Outcome.ofComments
  dsimp only
  omega

theorem perform_settles (h : perform config group bundle action world = .ok outcome world')
    (acts : action.kind ≠ .quit ∧ action.kind ≠ .ask) :
    Settles (operations config group bundle action) world world' ∧
      outcome.fixed = (results (operations config group bundle action) world).fixed ∧
      outcome.skipped = (results (operations config group bundle action) world).failed
        + incomplete bundle action + if action.kind = .skip then 1 else 0 := by
  unfold perform at h
  unfold operations incomplete
  cases hkind : action.kind with
  | fix =>
    rw [hkind] at h
    obtain ⟨counts, _, hreplace, h⟩ := Action.bind_eq_ok.1 h
    obtain ⟨rfl, rfl⟩ := Action.pure_eq_ok.1 h
    obtain ⟨settles, hsuccess, hfailed, hskipped⟩ := replaceAll_settles hreplace
    refine ⟨settles, hsuccess, ?_⟩
    dsimp only
    rw [hfailed, hskipped, if_pos rfl, if_neg (by decide), Int.add_zero]
  | disable =>
    rw [hkind] at h
    obtain ⟨done, _, hwrite, h⟩ := Action.bind_eq_ok.1 h
    have hrun : (Operation.overwrite config bundle.disable.modifiedConfig).run world = .ok done _ :=
      hwrite
    dsimp only
    rw [results_cons hrun]
    cases done with
    | true =>
      obtain ⟨rfl, rfl⟩ := Action.pure_eq_ok.1 h
      exact ⟨Settles.nil.cons hrun, rfl, rfl⟩
    | false =>
      obtain ⟨rfl, rfl⟩ := Action.pure_eq_ok.1 h
      exact ⟨Settles.nil.cons hrun, rfl, rfl⟩
  | ignoreLine =>
    rw [hkind] at h
    obtain ⟨settles, hfixed, hskipped⟩ := ofComments_settles
      (fun (file, line) => .suppressLine file line bundle.ruleId) (fun _ => rfl) h
    exact ⟨settles, hfixed, hskipped.trans (Int.add_zero _).symm⟩
  | ignoreFile =>
    rw [hkind] at h
    obtain ⟨settles, hfixed, hskipped⟩ := ofComments_settles
      (fun file => .suppressFile file bundle.ruleId) (fun _ => rfl) h
    exact ⟨settles, hfixed, hskipped.trans (Int.add_zero _).symm⟩
  | skip =>
    rw [hkind] at h
    obtain ⟨rfl, rfl⟩ := Action.pure_eq_ok.1 h
    exact ⟨.nil, rfl, rfl⟩
  | quit => exact (acts.1 hkind).elim
  | ask => exact (acts.2 hkind).elim

end Loop
end LintRemedy
