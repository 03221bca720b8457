import LintRemedy.Proofs.World.Keeping

/-!
This module contains what actions spend: a stock that an action lowers by a cost, which may depend on
what the action yields. An action that keeps its stock costs nothing.
-/

namespace LintRemedy

namespace Action

variable {ε σ α β : Type} {stock : σ → Nat}

/-- Whenever an action succeeds, it lowers a stock at least by the cost of what it yields. -/
def Spends (stock : σ → Nat) (cost : α → Nat) (act : EStateM ε σ α) : Prop :=
  ∀ s a s', act s = .ok a s' → stock s' + cost a ≤ stock s

namespace Spends

variable {x : EStateM ε σ α} {f : α → EStateM ε σ β} {cost : β → Nat}

theorem of_pure {b : β} (h : cost b = 0) : Spends stock cost (pure b : EStateM ε σ β) := by
  intro s a s' hpure
  obtain ⟨rfl, rfl⟩ := pure_eq_ok.1 hpure
  rw [h]
  exact Nat.le_refl _

theorem of_throw {e : ε} : Spends stock cost (throw e : EStateM ε σ β) := by
  intro s a s' h
  exact (throw_eq_ok.1 h).elim

theorem of_keeps (h : ∀ s, Keeps stock x s) : Spends stock (fun _ => 0) x := by
  intro s a s' hx
  exact Nat.le_of_eq ((h s).eq_of_ok hx)

theorem of_modify {g : σ → σ} (h : ∀ s, stock (g s) = stock s) :
    Spends stock (fun _ => 0) (modify g : EStateM ε σ PUnit) :=
  of_keeps fun s => Keeps.of_modify (h s)

theorem of_get : Spends stock (fun _ => 0) (get : EStateM ε σ σ) :=
  of_keeps fun _ => Keeps.of_get

theorem mono {cost' : β → Nat} {y : EStateM ε σ β} (h : Spends stock cost y)
    (hle : ∀ b, cost' b ≤ cost b) : Spends stock cost' y := by
  intro s b s' hy
  exact Nat.le_trans (Nat.add_le_add_left (hle b) _) (h s b s' hy)

/-- The costs of two actions add up. -/
theorem bind {first : α → Nat} {rest : α → β → Nat} (hx : Spends stock first x)
    (hf : ∀ a, Spends stock (rest a) (f a)) (hcost : ∀ a b, cost b ≤ first a + rest a b) :
    Spends stock cost (x >>= f) := by
  intro s b s' h
  obtain ⟨a, middle, hfirst, hrest⟩ := bind_eq_ok.1 h
  have hless := hx s a middle hfirst
  have hleft := hf a middle b s' hrest
  have hsum := hcost a b
  omega

/-- What is done first pays its share. -/
theorem bind_of_share {first : α → Nat} (hx : Spends stock first x)
    (hf : ∀ a, Spends stock (fun b => cost b - first a) (f a)) : Spends stock cost (x >>= f) :=
  hx.bind hf fun _ _ => by omega

/-- What is done first may cost nothing. -/
theorem bind_of_free (hx : Spends stock (fun _ => 0) x) (hf : ∀ a, Spends stock cost (f a)) :
    Spends stock cost (x >>= f) :=
  hx.bind hf fun _ _ => Nat.le_add_left _ _

theorem bind_of_modify {g : σ → σ} {f : PUnit → EStateM ε σ β} (hf : Spends stock cost (f ⟨⟩))
    (h : ∀ s, stock (g s) = stock s) : Spends stock cost (modify g >>= f) :=
  (of_modify h).bind_of_free fun _ => hf

/-- What follows may cost nothing. -/
theorem bind_of_paid {n : Nat} (hx : Spends stock (fun _ => n) x)
    (hf : ∀ a, Spends stock (fun _ => 0) (f a)) : Spends stock (fun _ => n) (x >>= f) :=
  hx.bind hf fun _ _ => Nat.le_refl _

theorem map {g : α → β} (hx : Spends stock (fun a => cost (g a)) x) :
    Spends stock cost (g <$> x) := by
  intro s b s' h
  obtain ⟨a, hx', rfl⟩ := map_eq_ok.1 h
  exact hx s a s' hx'

end Spends

end Action

open LintRemedy.Action

variable {α : Type} {stock : World → Nat} {cost : α → Nat}

theorem Dialogue.ofAct_spends {act : Act α} (h : Spends stock cost act) :
    Spends (fun talk : Talk => stock talk.world) cost (Dialogue.ofAct act) := by
  intro talk a talk' hdialogue
  obtain ⟨world, hact, rfl⟩ := Dialogue.ofAct_eq_ok.1 hdialogue
  exact h _ a _ hact

namespace Loop.Step

variable {μ : Type}

theorem ofDialogue_spends {dialogue : Dialogue α}
    (h : Spends (fun talk : Talk => stock talk.world) cost dialogue) :
    Spends (fun run : Run μ => stock run.talk.world) cost (Step.ofDialogue dialogue) := by
  intro run a run' hstep
  obtain ⟨talk, hdialogue, rfl⟩ := ofDialogue_eq_ok.1 hstep
  exact h _ a _ hdialogue

theorem ofAct_spends {act : Act α} (h : Spends stock cost act) :
    Spends (fun run : Run μ => stock run.talk.world) cost (Step.ofAct act) :=
  ofDialogue_spends (Dialogue.ofAct_spends h)

end Loop.Step

end LintRemedy
