/-!
This module contains the search for a piece of text inside another: the cut at the first occurrence,
the replacement of the first occurrence and the splitting at a character.
-/

namespace LintRemedy
namespace Text

def after? : (piece cs : List Char) → Option (List Char)
  | [], cs => some cs
  | _ :: _, [] => none
  | p :: piece, c :: cs => if p = c then after? piece cs else none

/-- What stands before and after the first occurrence of `piece`. -/
def cut? (piece : List Char) : List Char → Option (List Char × List Char)
  | [] => (after? piece []).map ([], ·)
  | c :: cs =>
    match after? piece (c :: cs) with
    | some rest => some ([], rest)
    | none => (cut? piece cs).map fun (before, rest) => (c :: before, rest)

def occurs (piece cs : List Char) : Bool :=
  (cut? piece cs).isSome

/-- The text with the first occurrence of `piece` replaced. A text without one stays as it is. -/
def replaceFirst (piece new cs : List Char) : List Char :=
  match cut? piece cs with
  | some (before, rest) => before ++ new ++ rest
  | none => cs

/-- The parts between the occurrences of a character. There is always one more than occurrences. -/
def splitAt (sep : Char) : List Char → List (List Char)
  | [] => [[]]
  | c :: cs =>
    if c = sep then
      [] :: splitAt sep cs
    else
      match splitAt sep cs with
      | [] => [[c]]
      | part :: parts => (c :: part) :: parts

/-- The parts of a string between the occurrences of a character. -/
def fields (sep : Char) (s : String) : List String :=
  (splitAt sep s.toList).map String.ofList

theorem after?_eq_some_iff {piece cs rest : List Char} :
    after? piece cs = some rest ↔ cs = piece ++ rest := by
  induction piece generalizing cs with
  | nil => simp [after?, eq_comm]
  | cons p piece ih =>
    cases cs with
    | nil => simp [after?]
    | cons c cs =>
      by_cases h : p = c
      · simp [after?, h, ih]
      · simp [after?, h, Ne.symm h]

theorem eq_of_cut? {piece cs before rest : List Char} (h : cut? piece cs = some (before, rest)) :
    cs = before ++ piece ++ rest := by
  induction cs generalizing before with
  | nil =>
    simp only [cut?, Option.map_eq_some_iff, Prod.mk.injEq] at h
    obtain ⟨r, hr, rfl, rfl⟩ := h
    simpa using after?_eq_some_iff.1 hr
  | cons c cs ih =>
    simp only [cut?] at h
    split at h
    · rename_i r hr
      simp only [Option.some.injEq, Prod.mk.injEq] at h
      obtain ⟨rfl, rfl⟩ := h
      simpa using after?_eq_some_iff.1 hr
    · simp only [Option.map_eq_some_iff, Prod.mk.injEq] at h
      obtain ⟨⟨b, r⟩, hcut, rfl, rfl⟩ := h
      simp [ih hcut]

theorem splitAt_ne_nil (sep : Char) (cs : List Char) : splitAt sep cs ≠ [] := by
  cases cs with
  | nil => simp [splitAt]
  | cons c cs =>
    simp only [splitAt]
    split
    · simp
    · split <;> simp

end Text
end LintRemedy
