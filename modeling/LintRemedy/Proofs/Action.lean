import LintRemedy.Bundle.Generation
import LintRemedy.Loop.Run

/-!
This module contains the inversion of actions: from what an action yields, what its parts have
yielded. Every theorem about a run takes its actions apart with these lemmas.
-/

namespace LintRemedy
namespace Action

variable {ε σ α β : Type} {x : EStateM ε σ α} {f : α → EStateM ε σ β} {s s' : σ}

theorem bind_eq_ok {b : β} :
    (x >>= f) s = .ok b s' ↔ ∃ a t, x s = .ok a t ∧ f a t = .ok b s' := by
  change EStateM.bind x f s = _ ↔ _
  unfold EStateM.bind
  cases h : x s with
  | ok a t =>
    constructor
    · intro hf
      exact ⟨a, t, rfl, hf⟩
    · rintro ⟨a', t', hx, hf⟩
      cases hx
      exact hf
  | error e t => simp

theorem bind_eq_error {e : ε} :
    (x >>= f) s = .error e s' ↔
      x s = .error e s' ∨ ∃ a t, x s = .ok a t ∧ f a t = .error e s' := by
  change EStateM.bind x f s = _ ↔ _
  unfold EStateM.bind
  cases h : x s with
  | ok a t =>
    constructor
    · intro hf
      exact .inr ⟨a, t, rfl, hf⟩
    · rintro (hx | ⟨a', t', hx, hf⟩)
      · cases hx
      · cases hx
        exact hf
  | error e t => simp

theorem bind_of_ok {a : α} (h : x s = .ok a s') : (x >>= f) s = f a s' := by
  change EStateM.bind x f s = _
  unfold EStateM.bind
  rw [h]

theorem bind_of_error {e : ε} (h : x s = .error e s') : (x >>= f) s = .error e s' := by
  change EStateM.bind x f s = _
  unfold EStateM.bind
  rw [h]

theorem bind_congr {y : EStateM ε σ α} {g : α → EStateM ε σ β} (hx : x s = y s)
    (hf : ∀ a t, f a t = g a t) : (x >>= f) s = (y >>= g) s := by
  cases hy : y s with
  | ok a t =>
    rw [bind_of_ok (hx.trans hy), bind_of_ok hy]
    exact hf a t
  | error e t => rw [bind_of_error (hx.trans hy), bind_of_error hy]

theorem pure_eq_ok {a b : α} : (pure a : EStateM ε σ α) s = .ok b s' ↔ a = b ∧ s = s' := by
  change EStateM.Result.ok a s = _ ↔ _
  simp

theorem pure_eq_error {a : α} {e : ε} : (pure a : EStateM ε σ α) s = .error e s' ↔ False := by
  change EStateM.Result.ok a s = _ ↔ _
  simp

theorem throw_eq_ok {e : ε} {a : α} :
    (throw e : EStateM ε σ α) s = .ok a s' ↔ False := by
  change EStateM.Result.error e s = _ ↔ _
  simp

theorem throw_eq_error {e e' : ε} :
    (throw e : EStateM ε σ α) s = .error e' s' ↔ e = e' ∧ s = s' := by
  change EStateM.Result.error e s = _ ↔ _
  simp

theorem get_eq_ok {a : σ} : (get : EStateM ε σ σ) s = .ok a s' ↔ s = a ∧ s = s' := by
  change EStateM.Result.ok s s = _ ↔ _
  simp

theorem get_eq_error {e : ε} : (get : EStateM ε σ σ) s = .error e s' ↔ False := by
  change EStateM.Result.ok s s = _ ↔ _
  simp

theorem set_eq_ok {t : σ} {u : PUnit} :
    (set t : EStateM ε σ PUnit) s = .ok u s' ↔ t = s' := by
  change EStateM.Result.ok _ t = _ ↔ _
  simp

theorem modify_eq_ok {g : σ → σ} {u : PUnit} :
    (modify g : EStateM ε σ PUnit) s = .ok u s' ↔ g s = s' := by
  change EStateM.Result.ok _ (g s) = _ ↔ _
  simp

theorem modify_eq_error {g : σ → σ} {e : ε} :
    (modify g : EStateM ε σ PUnit) s = .error e s' ↔ False := by
  change EStateM.Result.ok _ (g s) = _ ↔ _
  simp

theorem record_eq_ok {g : σ → σ} {a b : α} :
    ((modify g >>= fun _ => pure a) : EStateM ε σ α) s = .ok b s' ↔ g s = s' ∧ a = b := by
  simp only [bind_eq_ok, modify_eq_ok, pure_eq_ok]
  constructor
  · rintro ⟨_, _, rfl, rfl, rfl⟩
    exact ⟨rfl, rfl⟩
  · rintro ⟨rfl, rfl⟩
    exact ⟨⟨⟩, _, rfl, rfl, rfl⟩

theorem record_eq_error {g : σ → σ} {a : α} {e : ε} :
    ((modify g >>= fun _ => pure a) : EStateM ε σ α) s = .error e s' ↔ False := by
  simp only [bind_eq_error, modify_eq_error, pure_eq_error, and_false, exists_false, or_false]

theorem map_eq_ok {g : α → β} {b : β} :
    (g <$> x) s = .ok b s' ↔ ∃ a, x s = .ok a s' ∧ g a = b := by
  change EStateM.map g x s = _ ↔ _
  unfold EStateM.map
  cases h : x s with
  | ok a t =>
    constructor
    · intro hg
      cases hg
      exact ⟨a, rfl, rfl⟩
    · rintro ⟨a', hx, rfl⟩
      cases hx
      rfl
  | error e t => simp

theorem map_eq_error {g : α → β} {e : ε} :
    (g <$> x) s = .error e s' ↔ x s = .error e s' := by
  change EStateM.map g x s = _ ↔ _
  unfold EStateM.map
  cases x s <;> simp

/-- Whether an action succeeds with an outcome that passes a check. -/
def passes (check : α → σ → Bool) (x : EStateM ε σ α) (s : σ) : Bool :=
  match x s with
  | .ok a s' => check a s'
  | .error _ _ => false

theorem passes_congr {y : EStateM ε σ α} (check : α → σ → Bool) (h : x s = y s) :
    passes check x s = passes check y s := by
  unfold passes
  rw [h]

theorem exists_of_passes {check : α → σ → Bool} (h : passes check x s) :
    ∃ a s', x s = .ok a s' ∧ check a s' := by
  unfold passes at h
  split at h
  · next a s' hx => exact ⟨a, s', hx, h⟩
  · cases h

end Action

/-- The terminal after a line was shown, unless it has to be quiet. -/
def Terminal.shown (quiet : Bool) (text : String) (terminal : Terminal) : Terminal :=
  if quiet then terminal
  else { terminal with stdout := terminal.stdout ++ Text.plain (text ++ "\n") }

theorem Console.announce_eq (quiet : Bool) (text : String) (terminal : Terminal) :
    Console.announce quiet text terminal = .ok () (terminal.shown quiet text) := by
  unfold Console.announce Terminal.shown
  cases quiet <;> rfl

/-- A decision that an operator with this memory can come to. -/
def Deciding.Yields {μ α : Type} (decision : Deciding μ α) (memory : μ) (a : α) (memory' : μ) :
    Prop :=
  ∃ terminal terminal', decision memory terminal = .ok (a, memory') terminal'

namespace Deciding

variable {μ α β : Type} {memory memory' : μ} {terminal terminal' : Terminal}

theorem bind_eq_ok {x : Deciding μ α} {f : α → Deciding μ β} {b : β} :
    (x >>= f) memory terminal = .ok (b, memory') terminal' ↔
      ∃ a between shown, x memory terminal = .ok (a, between) shown ∧
        f a between shown = .ok (b, memory') terminal' := by
  change (x memory >>= fun p => f p.1 p.2) terminal = _ ↔ _
  rw [Action.bind_eq_ok]
  constructor
  · rintro ⟨⟨a, between⟩, shown, hx, hf⟩
    exact ⟨a, between, shown, hx, hf⟩
  · rintro ⟨a, between, shown, hx, hf⟩
    exact ⟨(a, between), shown, hx, hf⟩

theorem announce_eq_ok {quiet : Bool} {text : String} {u : Unit} :
    (liftM (Console.announce quiet text) : Deciding μ Unit) memory terminal =
        .ok (u, memory') terminal' ↔
      memory = memory' ∧ terminal.shown quiet text = terminal' := by
  change (Console.announce quiet text >>= fun v => pure (v, memory)) terminal = _ ↔ _
  simp only [Action.bind_eq_ok, Console.announce_eq, EStateM.Result.ok.injEq, true_and,
    Action.pure_eq_ok, Prod.mk.injEq]
  constructor
  · rintro ⟨_, _, rfl, rfl, rfl⟩
    exact ⟨rfl, rfl⟩
  · rintro ⟨rfl, rfl⟩
    exact ⟨(), _, rfl, rfl, rfl⟩

end Deciding

namespace Dialogue

variable {α : Type} {act : Act α} {talk talk' : Talk} {fault : Fault}

theorem ofAct_eq_ok {a : α} :
    Dialogue.ofAct act talk = .ok a talk' ↔
      ∃ world, act talk.world = .ok a world ∧ { talk with world } = talk' := by
  unfold Dialogue.ofAct
  cases act talk.world with
  | ok b world =>
    constructor
    · intro h
      cases h
      exact ⟨world, rfl, rfl⟩
    · rintro ⟨_, h, rfl⟩
      cases h
      rfl
  | error e world => simp

theorem ofAct_eq_error :
    Dialogue.ofAct act talk = .error fault talk' ↔
      ∃ world, act talk.world = .error fault world ∧ { talk with world } = talk' := by
  unfold Dialogue.ofAct
  cases act talk.world with
  | ok b world => simp
  | error e world =>
    constructor
    · intro h
      cases h
      exact ⟨world, rfl, rfl⟩
    · rintro ⟨_, h, rfl⟩
      cases h
      rfl

end Dialogue

namespace Act

variable {α : Type} {world world' : World} {fault : Fault}

theorem ofConsole_eq_ok {act : Console α} {a : α} :
    Act.ofConsole act world = .ok a world' ↔
      ∃ terminal, act world.terminal = .ok a terminal ∧ { world with terminal } = world' := by
  unfold Act.ofConsole
  cases act world.terminal with
  | ok b terminal =>
    constructor
    · intro h
      cases h
      exact ⟨terminal, rfl, rfl⟩
    · rintro ⟨_, h, rfl⟩
      cases h
      rfl
  | error e terminal => simp

theorem ofConsole_eq_error {act : Console α} :
    Act.ofConsole act world = .error fault world' ↔
      ∃ terminal, act world.terminal = .error fault terminal ∧ { world with terminal } = world' := by
  unfold Act.ofConsole
  cases act world.terminal with
  | ok b terminal => simp
  | error e terminal =>
    constructor
    · intro h
      cases h
      exact ⟨terminal, rfl, rfl⟩
    · rintro ⟨_, h, rfl⟩
      cases h
      rfl

theorem attempt_eq_ok {act : Act α} {a : α} :
    Act.attempt act world = .ok (.ok a) world' ↔ act world = .ok a world' := by
  unfold Act.attempt
  cases act world <;> simp

theorem attempt_eq_error {act : Act α} : Act.attempt act world = .error fault world' ↔ False := by
  unfold Act.attempt
  cases act world <;> simp

theorem ofExcept_eq_ok {outcome : Except Fault α} {a : α} :
    Act.ofExcept id outcome world = .ok a world' ↔ outcome = .ok a ∧ world = world' := by
  cases outcome with
  | ok b =>
    change (pure b : Act α) world = _ ↔ _
    rw [Action.pure_eq_ok, Except.ok.injEq]
  | error e =>
    change (throw e : Act α) world = _ ↔ _
    rw [Action.throw_eq_ok]
    constructor
    · nofun
    · rintro ⟨⟨⟩, _⟩

theorem ofExcept_eq_error {outcome : Except Fault α} :
    Act.ofExcept id outcome world = .error fault world' ↔
      outcome = .error fault ∧ world = world' := by
  cases outcome with
  | ok b =>
    change (pure b : Act α) world = _ ↔ _
    rw [Action.pure_eq_error]
    constructor
    · nofun
    · rintro ⟨⟨⟩, _⟩
  | error e =>
    change (throw e : Act α) world = _ ↔ _
    rw [Action.throw_eq_error, Except.error.injEq]

theorem ofExcept_map {β : Type} (g : α → β) (outcome : Except Fault α) (world : World) :
    (g <$> Act.ofExcept id outcome) world = Act.ofExcept id (g <$> outcome) world := by
  cases outcome with
  | ok a => rfl
  | error e => rfl

/-- An action that yields an outcome, with a further one that does so from the same world. -/
theorem ofExcept_bind {β : Type} {act : Act α} {next : α → Act β} {outcome : Except Fault α}
    {further : α → Except Fault β} (hact : act world = Act.ofExcept id outcome world')
    (hnext : ∀ a, next a world' = Act.ofExcept id (further a) world') :
    (act >>= next) world = Act.ofExcept id (outcome >>= further) world' := by
  cases outcome with
  | ok a => exact (Action.bind_of_ok hact).trans (hnext a)
  | error e => exact Action.bind_of_error hact

end Act

namespace Loop
namespace Step

open LintRemedy.Action

variable {μ α : Type} {run run' : Run μ} {fault : Fault}

theorem ofDialogue_eq_ok {dialogue : Dialogue α} {a : α} :
    Step.ofDialogue dialogue run = .ok a run' ↔
      ∃ talk, dialogue run.talk = .ok a talk ∧ { run with talk } = run' := by
  unfold Step.ofDialogue
  cases dialogue run.talk with
  | ok b talk =>
    constructor
    · intro h
      cases h
      exact ⟨talk, rfl, rfl⟩
    · rintro ⟨_, h, rfl⟩
      cases h
      rfl
  | error e talk => simp

theorem ofDialogue_eq_error {dialogue : Dialogue α} :
    Step.ofDialogue dialogue run = .error fault run' ↔
      ∃ talk, dialogue run.talk = .error fault talk ∧ { run with talk } = run' := by
  unfold Step.ofDialogue
  cases dialogue run.talk with
  | ok b talk => simp
  | error e talk =>
    constructor
    · intro h
      cases h
      exact ⟨talk, rfl, rfl⟩
    · rintro ⟨_, h, rfl⟩
      cases h
      rfl

theorem ofAct_eq_ok {act : Act α} {a : α} :
    Step.ofAct act run = .ok a run' ↔
      ∃ world, act run.talk.world = .ok a world ∧ { run with talk.world := world } = run' := by
  unfold Step.ofAct
  rw [ofDialogue_eq_ok]
  constructor
  · rintro ⟨_, h, rfl⟩
    obtain ⟨world, hact, rfl⟩ := Dialogue.ofAct_eq_ok.1 h
    exact ⟨world, hact, rfl⟩
  · rintro ⟨world, hact, rfl⟩
    exact ⟨_, Dialogue.ofAct_eq_ok.2 ⟨world, hact, rfl⟩, rfl⟩

theorem ofAct_eq_error {act : Act α} :
    Step.ofAct act run = .error fault run' ↔
      ∃ world, act run.talk.world = .error fault world ∧
        { run with talk.world := world } = run' := by
  unfold Step.ofAct
  rw [ofDialogue_eq_error]
  constructor
  · rintro ⟨_, h, rfl⟩
    obtain ⟨world, hact, rfl⟩ := Dialogue.ofAct_eq_error.1 h
    exact ⟨world, hact, rfl⟩
  · rintro ⟨world, hact, rfl⟩
    exact ⟨_, Dialogue.ofAct_eq_error.2 ⟨world, hact, rfl⟩, rfl⟩

theorem ofDecision_eq_ok {decision : Deciding μ α} {a : α}
    (h : Step.ofDecision decision run = .ok a run') :
    ∃ memory terminal, decision.Yields run.memory a memory ∧
      { run with memory, talk.world.terminal := terminal } = run' := by
  unfold Step.ofDecision at h
  simp only [bind_eq_ok, get_eq_ok, ofAct_eq_ok, modify_eq_ok, pure_eq_ok,
    Act.ofConsole_eq_ok] at h
  obtain ⟨_, _, ⟨rfl, rfl⟩, ⟨b, memory⟩, _, ⟨_, ⟨_, hdecision, rfl⟩, rfl⟩, _, _, rfl, rfl, rfl⟩ := h
  exact ⟨memory, _, ⟨_, _, hdecision⟩, rfl⟩

theorem ofDecision_eq_error {decision : Deciding μ α}
    (h : Step.ofDecision decision run = .error fault run') :
    ∃ talk, { run with talk } = run' := by
  unfold Step.ofDecision at h
  simp only [bind_eq_error, get_eq_error, get_eq_ok, ofAct_eq_error, modify_eq_error,
    pure_eq_error, false_or, exists_false, and_false, or_false] at h
  obtain ⟨_, _, ⟨rfl, rfl⟩, world, _, rfl⟩ := h
  exact ⟨_, rfl⟩

theorem announce_eq_ok {setup : Setup μ} {text : String} {u : Unit} :
    announce setup text run = .ok u run' ↔
      { run with talk.world.terminal :=
          run.talk.world.terminal.shown setup.operator.quiet text } = run' := by
  unfold announce
  simp only [ofAct_eq_ok, Act.ofConsole_eq_ok, Console.announce_eq, EStateM.Result.ok.injEq,
    true_and]
  constructor
  · rintro ⟨_, ⟨_, rfl, rfl⟩, rfl⟩
    rfl
  · rintro rfl
    exact ⟨_, ⟨_, rfl, rfl⟩, rfl⟩

theorem announce_eq_error {setup : Setup μ} {text : String} :
    announce setup text run = .error fault run' ↔ False := by
  unfold announce
  simp only [ofAct_eq_error, Act.ofConsole_eq_error, Console.announce_eq, reduceCtorEq, false_and,
    exists_false]

end Step
end Loop
end LintRemedy
