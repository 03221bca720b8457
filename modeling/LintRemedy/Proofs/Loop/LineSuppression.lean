import LintRemedy.Proofs.Patch.Annotation
import Mathlib.Data.Finset.Card

/-!
This module contains what comes of the action that suppresses a rule in the lines of its findings: each
line that is there gets one comment, however often and in which order the findings name it.
-/

namespace LintRemedy

open Text Patch

def RuleGroup.places (group : RuleGroup) : Places :=
  group.locations.map fun l => (l.fileFull, l.line)

theorem Patch.Annotates.congr {files files' : Files} {names : List String}
    {contents : String → String} {rule : String} {places places' : Places}
    (annotates : Annotates files names contents rule places files')
    (h : ∀ place, place ∈ places' ↔ place ∈ places) :
    Annotates files names contents rule places' files' where
  annotated name hname := by
    obtain ⟨new, hread, hlines⟩ := annotates.annotated name hname
    refine ⟨new, hread, hlines.trans ?_⟩
    apply Edit.annotate_congr
    intro n _ _
    rw [Places.mem_linesIn_iff, Places.mem_linesIn_iff, h]
  others := annotates.others

namespace Loop

section Targets

variable {locations locations' : List Location} {place : String × Int}

end Targets

variable {config : String} {group : RuleGroup} {bundle : Bundle} {action : Action} {world : World}
  {contents : String → String}

end Loop

end LintRemedy
