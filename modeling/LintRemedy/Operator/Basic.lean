import LintRemedy.Bundle.Basic
import LintRemedy.Decision
import LintRemedy.Terminal

/-!
This module contains operators: whoever makes the decisions of the repair loop. An operator has the
terminal and a memory of its own, and no other part of the world.
-/

namespace LintRemedy

/-- A decision of an operator with a memory of type `μ`. -/
abbrev Deciding (μ : Type) := StateT μ Console

structure Operator (μ : Type) where
  /-- Whether the progress of a run is not shown. -/
  quiet : Bool
  /-- Whether to go on in spite of files that could not be parsed. -/
  passParseErrors : List ParseError → Deciding μ Bool
  /-- Whether the analyzer may repair what it can. -/
  allowRepair : Summary → Deciding μ Bool
  /-- Which group comes next. -/
  select : List RuleGroup → Deciding μ Choice
  act : Bundle → Deciding μ Action
  /-- What is remembered of the number of fixes and skips that came of a selection. -/
  settle : Choice → (fixed skipped : Int) → μ → μ := fun _ _ _ memory => memory
  /-- How often at most the operator tries the same once again without success. -/
  patience : μ → Nat := fun _ => 0

end LintRemedy
