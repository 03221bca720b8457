import LintRemedy.Proofs.Patch.Annotation
import Mathlib.Data.List.DropRight

/-!
This module contains what comes of a fix that is applied a second time. The code that it replaces may be
in the file again by then: there was more of it further down, or it has come about with the new code, be
it inside or across its ends. Exactly then the fix is applied twice.
-/

namespace LintRemedy
namespace Text

/-- Where a piece was replaced, it stands in the text again: further down, or in the new text and what
of its surroundings can be part of the same occurrence. -/
def Recurs (piece new before rest : List Char) : Prop :=
  piece <:+: rest ∨
    piece <:+: before.rtake (piece.length - 1) ++ new ++ rest.take (piece.length - 1)

instance (piece new before rest : List Char) : Decidable (Recurs piece new before rest) :=
  inferInstanceAs (Decidable (_ ∨ _))

variable {piece cs new above span below before rest before' rest' : List Char}

/-- An occurrence that neither begins above a span nor ends below it is in the span. -/
theorem infix_of_within (h : above ++ span ++ below = before ++ piece ++ rest)
    (habove : above.length ≤ before.length) (hbelow : below.length ≤ rest.length) :
    piece <:+: span := by
  have hprefix : above <+: before := by
    apply List.prefix_of_prefix_length_le _ _ habove
    · exact above ++ span ++ below
    · rw [List.append_assoc]
      exact List.prefix_append _ _
    · rw [h, List.append_assoc]
      exact List.prefix_append _ _
  have hsuffix : below <:+ rest := by
    apply List.suffix_of_suffix_length_le _ _ hbelow
    · exact above ++ span ++ below
    · exact List.suffix_append _ _
    · rw [h]
      exact List.suffix_append _ _
  obtain ⟨left, rfl⟩ := hprefix
  obtain ⟨right, rfl⟩ := hsuffix
  have hspan : above ++ span ++ below = above ++ (left ++ piece ++ right) ++ below := by
    simp only [h, List.append_assoc]
  rw [List.append_cancel_right_eq, List.append_cancel_left_eq] at hspan
  exact ⟨left, right, hspan.symm⟩

namespace FirstAt

theorem not_infix_before (h : FirstAt piece cs before rest) (hpiece : piece ≠ []) :
    ¬ piece <:+: before := by
  rintro ⟨left, right, hbefore⟩
  have hsplit : cs = left ++ piece ++ (right ++ piece ++ rest) := by
    rw [h.split, ← hbefore]
    simp only [List.append_assoc]
  have hle := h.first _ _ hsplit
  have hlength := congrArg List.length hbefore
  have hpos := List.length_pos_of_ne_nil hpiece
  simp only [List.length_append] at hlength
  omega

/-- After the first occurrence of a piece is replaced, the piece stands in the text exactly if it
recurs: nothing above the place has changed. -/
theorem infix_replaced_iff (h : FirstAt piece cs before rest) (hpiece : piece ≠ [])
    (new : List Char) : piece <:+: before ++ new ++ rest ↔ Recurs piece new before rest := by
  have hpos := List.length_pos_of_ne_nil hpiece
  have hwindow : before ++ new ++ rest = before.rdrop (piece.length - 1) ++
      (before.rtake (piece.length - 1) ++ new ++ rest.take (piece.length - 1)) ++
      rest.drop (piece.length - 1) := by
    have hbefore : before.rdrop (piece.length - 1) ++ before.rtake (piece.length - 1) = before :=
      List.take_append_drop _ _
    have hrest := List.take_append_drop (piece.length - 1) rest
    conv_lhs => rw [← hbefore, ← hrest]
    simp only [List.append_assoc]
  constructor
  · rintro ⟨left, right, hoccurs⟩
    have hlength := congrArg List.length hoccurs
    simp only [List.length_append] at hlength
    by_cases hdown : (before ++ new).length ≤ left.length
    · left
      have heq : before ++ new ++ rest ++ [] = left ++ piece ++ right := by
        rw [List.append_nil, hoccurs]
      exact infix_of_within heq hdown (Nat.zero_le _)
    · rw [List.length_append] at hdown
      -- An occurrence above the place would be one before the first.
      have hup : ¬ left.length + piece.length ≤ before.length := by
        intro hle
        have heq : [] ++ before ++ (new ++ rest) = left ++ piece ++ right := by
          rw [List.nil_append, ← List.append_assoc, hoccurs]
        apply h.not_infix_before hpiece
        apply infix_of_within heq (Nat.zero_le _)
        rw [List.length_append]
        omega
      right
      rw [hwindow] at hoccurs
      apply infix_of_within hoccurs.symm
      · rw [List.rdrop, List.length_take]
        omega
      · rw [List.length_drop]
        omega
  · intro hrecurs
    cases hrecurs with
    | inl hrest => exact hrest.trans (List.suffix_append _ _).isInfix
    | inr hinside =>
      rw [hwindow]
      exact hinside.trans (List.infix_append _ _ _)

end FirstAt

end Text

namespace Patch

open Text

variable {fix : Replacement} {world world' : World}

/-- Where a fix was applied, it can be applied again: its new code has been written before. -/
theorem edit_of_replace (h : replace fix world = .ok true world') {current : String}
    (hread : world'.files.readText fix.file = .ok current) {edited : List Char}
    (hedit : Edit.replace? fix.old.toList fix.new.toList current.toList = some edited) :
    ∃ files', world'.files.editText fix.file (String.ofList edited) = .ok files' := by
  unfold replace at h
  obtain ⟨files, hrevised, rfl⟩ := commit_eq_ok_true h
  obtain ⟨_, _, _, hfirst, hwrite⟩ := revised_eq_ok_some hrevised
  obtain ⟨_, before, rest, _, _, rfl⟩ := Edit.replace?_eq_some hfirst
  rw [Files.readText_of_editText hwrite] at hread
  cases hread
  obtain ⟨encodable, accepts⟩ := Files.exists_editText_iff.1 ⟨_, hwrite⟩
  rw [Files.exists_editText_iff, Files.encodable_of_editText hwrite,
    Files.accepts_of_editText hwrite]
  refine ⟨encodable.of_subset ?_, accepts⟩
  intro c hc
  rw [String.toList_ofList] at hc ⊢
  cases Edit.replace?_subset hedit hc with
  | inl hcontent => rwa [String.toList_ofList] at hcontent
  | inr hnew => exact List.mem_append_left _ (List.mem_append_right _ hnew)

theorem readText_of_replace (h : replace fix world = .ok true world') :
    ∃ content before rest, world.files.readText fix.file = .ok content ∧
      FirstAt fix.old.toList content.toList before rest ∧
      world'.files.readText fix.file =
        .ok (String.ofList (before ++ fix.new.toList ++ rest)) := by
  obtain ⟨content, edited, hread, hedit, hread'⟩ := readText_of_commit h
  obtain ⟨_, before, rest, hcut, _, rfl⟩ := Edit.replace?_eq_some hedit
  exact ⟨content, before, rest, hread, firstAt_of_cut? hcut, hread'⟩

/-- A fix that has been applied can be applied once more right away exactly if the code that it
replaces recurs. If not, the second attempt fails and changes nothing. -/
theorem replace_replace (h : replace fix world = .ok true world') :
    ∃ content before rest, world.files.readText fix.file = .ok content ∧
      FirstAt fix.old.toList content.toList before rest ∧
      ∃ success world'', replace fix world' = .ok success world'' ∧
        (success = true ↔ Recurs fix.old.toList fix.new.toList before rest) ∧
        (success = false → world'' = world') := by
  obtain ⟨content, before, rest, hread, first, hread'⟩ := readText_of_replace h
  obtain ⟨success, world'', hagain, applies⟩ :=
    replace_applies_of_edit fix hread' fun _ hedit => edit_of_replace h hread' hedit
  have hold : fix.old.toList ≠ [] := (replace_eq_ok_true h).1
  have hnonempty : fix.old ≠ "" := by
    rintro hempty
    exact hold (String.toList_eq_nil_iff.2 hempty)
  refine ⟨content, before, rest, hread, first, success, world'', hagain, ?_, applies.failed⟩
  rw [applies.success_iff, String.toList_ofList, first.infix_replaced_iff hold]
  exact and_iff_right hnonempty

/-- A fix after which its old code is gone. -/
def strictFix : Replacement :=
  ⟨"/w/a.js", 1, 1, "a == b;", "a === b;", ""⟩

theorem replace_replace_strict :
    ∃ world', replace strictFix (holding "a == b;\n") = .ok true world' ∧
      replace strictFix world' = .ok false world' := by
  obtain ⟨world', hfirst⟩ :
      ∃ world', replace strictFix (holding "a == b;\n") = .ok true world' := ⟨_, rfl⟩
  obtain ⟨content, before, rest, hread, first, success, world'', hagain, hrecurs, hsame⟩ :=
    replace_replace hfirst
  have hcontent : content = "a == b;\n" := by
    rw [strictFix, holding_readText] at hread
    exact (Except.ok.inj hread).symm
  have hplace : FirstAt strictFix.old.toList content.toList [] ['\n'] := by
    rw [hcontent]
    exact firstAt_of_cut? (by decide)
  obtain ⟨rfl, rfl⟩ := first.unique hplace
  have hspent : success = false := by
    rw [← Bool.not_eq_true, hrecurs]
    decide +kernel
  cases hspent
  cases hsame rfl
  exact ⟨world', hfirst, hagain⟩

/-- A fix whose new code holds the old one. -/
def guardFix : Replacement :=
  ⟨"/w/a.js", 1, 1, "foo();", "if (x) foo();", ""⟩

/-- The new code is put in twice if it holds the old one. -/
theorem replace_replace_guard :
    ∃ world' world'', replace guardFix (holding "foo();\n") = .ok true world' ∧
      replace guardFix world' = .ok true world'' ∧
      world''.files.readText "/w/a.js" = .ok "if (x) if (x) foo();\n" := by
  exact ⟨_, _, rfl, rfl, rfl⟩

end Patch

end LintRemedy
