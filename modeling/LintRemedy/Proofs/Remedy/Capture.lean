import LintRemedy.Bundle.Generation
import LintRemedy.Proofs.Action
import LintRemedy.Proofs.Text.Occurrence

/-!
This module contains the capture of old code: a fix that the oracle proposes for a location is about
a span of the lines that the file holds at that moment, and its old code is what stands there.
-/

namespace LintRemedy

namespace Remedy

variable {channel : Oracle.Channel} {window : Int} {rule message : String} {location : Location}
  {talk talk' : Talk} {fix : Replacement} {replied : Bool}

theorem currentLines_eq_some {file : String} {lines : List String} {world world' : World}
    (h : currentLines file world = .ok (some lines) world') :
    ∃ content, world'.files.readText file = .ok content ∧ lines = Text.lines content := by
  unfold currentLines at h
  obtain ⟨_, _, hget, h⟩ := Action.bind_eq_ok.1 h
  obtain ⟨rfl, rfl⟩ := Action.get_eq_ok.1 hget
  cases hread : world.files.readText file with
  | ok content =>
    rw [hread] at h
    obtain ⟨hlines, rfl⟩ := Action.pure_eq_ok.1 h
    cases hlines
    exact ⟨content, hread, rfl⟩
  | error fault =>
    rw [hread] at h
    cases fault with
    | badName => exact (Action.throw_eq_ok.1 h).elim
    | unavailable | notText => cases (Action.pure_eq_ok.1 h).1

/-- A fix is what a payload proposes for the text that its file holds in the end. -/
theorem replacementAt_eq_some
    (h : replacementAt channel window rule message location talk = .ok (some fix, replied) talk') :
    ∃ content payload, talk'.world.files.readText location.fileFull = .ok content ∧
      fixOf? location.fileFull (Text.lines content) payload = some fix := by
  unfold replacementAt at h
  obtain ⟨lines?, _, _, h⟩ := Action.bind_eq_ok.1 h
  cases lines? with
  | none => cases (Action.pure_eq_ok.1 h).1
  | some lines =>
    obtain ⟨reply, _, _, h⟩ := Action.bind_eq_ok.1 h
    cases hpayload : payloadIn? reply with
    | none =>
      rw [hpayload] at h
      cases (Action.pure_eq_ok.1 h).1
    | some payload =>
      rw [hpayload] at h
      obtain ⟨lines?, _, hread, h⟩ := Action.bind_eq_ok.1 h
      obtain ⟨world, hcurrent, rfl⟩ := Dialogue.ofAct_eq_ok.1 hread
      cases lines? with
      | none => cases (Action.pure_eq_ok.1 h).1
      | some lines =>
        obtain ⟨hfix, rfl⟩ := Action.pure_eq_ok.1 h
        obtain ⟨content, hcontent, rfl⟩ := currentLines_eq_some hcurrent
        exact ⟨content, payload, hcontent, congrArg Prod.fst hfix⟩

end Remedy

namespace Replacement

def linesAbove (fix : Replacement) (content : String) : List String :=
  (Text.lines content).take (fix.startLine - 1).toNat

def linesWithin (fix : Replacement) (content : String) : List String :=
  ((Text.lines content).take fix.endLine.toNat).drop (fix.startLine - 1).toNat

def linesBelow (fix : Replacement) (content : String) : List String :=
  (Text.lines content).drop fix.endLine.toNat

/-- The text up to the first line of a fix. -/
def textAbove (fix : Replacement) (content : String) : List Char :=
  Text.textAbove ((fix.linesAbove content).map String.toList)

/-- The old code of a fix is what its lines hold. -/
structure Captures (fix : Replacement) (content : String) : Prop where
  start_pos : 1 ≤ fix.startLine
  start_le : fix.startLine ≤ fix.endLine
  end_le : fix.endLine ≤ (Text.lines content).length
  old_eq : fix.old = Text.unlines (fix.linesWithin content)

namespace Captures

variable {fix : Replacement} {content : String}

theorem lines_eq (h : fix.Captures content) : Text.lines content =
    fix.linesAbove content ++ fix.linesWithin content ++ fix.linesBelow content := by
  have hstart := h.start_pos
  have hend := h.start_le
  have hle : (fix.startLine - 1).toNat ≤ fix.endLine.toNat := by omega
  have habove : fix.linesAbove content =
      ((Text.lines content).take fix.endLine.toNat).take (fix.startLine - 1).toNat := by
    rw [List.take_take, Nat.min_eq_left hle]
    rfl
  rw [habove, linesWithin, List.take_append_drop, linesBelow, List.take_append_drop]

theorem linesWithin_ne_nil (h : fix.Captures content) : fix.linesWithin content ≠ [] := by
  have hstart := h.start_pos
  have hend := h.start_le
  have hlength := h.end_le
  apply List.ne_nil_of_length_pos
  unfold linesWithin
  rw [List.length_drop, List.length_take]
  omega

/-- The old code stands where its lines are. -/
theorem content_eq (h : fix.Captures content) : content.toList = fix.textAbove content ++
    fix.old.toList ++ Text.textBelow ((fix.linesBelow content).map String.toList) := by
  rw [h.old_eq]
  exact Text.toList_of_lines h.lines_eq h.linesWithin_ne_nil

end Captures

end Replacement

namespace Remedy

variable {channel : Oracle.Channel} {window : Int} {rule message : String}

theorem captures_of_fixOf? {file content : String} {payload : Json} {fix : Replacement}
    (h : fixOf? file (Text.lines content) payload = some fix) :
    fix.file = file ∧ fix.Captures content := by
  unfold fixOf? at h
  obtain ⟨proposal, hproposal, h⟩ := Option.bind_eq_some_iff.1 h
  cases h
  unfold Proposal.ofPayload? at hproposal
  obtain ⟨startLine, _, h⟩ := Option.bind_eq_some_iff.1 hproposal
  obtain ⟨endLine, _, h⟩ := Option.bind_eq_some_iff.1 h
  split at h
  · cases h
  · next inside =>
    obtain ⟨_, _, h⟩ := Option.bind_eq_some_iff.1 h
    cases h
    rw [not_or, not_or, Int.not_lt, Int.not_lt, Int.not_lt] at inside
    exact ⟨rfl, inside.1, inside.2.1, inside.2.2, rfl⟩

/-- Every fix of a list was made at one of the locations. -/
theorem mem_of_replacementsAt {locations : List Location} {talk talk' : Talk}
    {fixes : List Replacement} {replied : Bool}
    (h : replacementsAt channel window rule message locations talk = .ok (fixes, replied) talk')
    {fix : Replacement} (hfix : fix ∈ fixes) : ∃ l ∈ locations, ∃ replied before after,
      replacementAt channel window rule message l before = .ok (some fix, replied) after := by
  induction locations generalizing talk talk' fixes replied with
  | nil =>
    obtain ⟨h, _⟩ := Action.pure_eq_ok.1 h
    cases h
    cases hfix
  | cons location locations ih =>
    unfold replacementsAt at h
    obtain ⟨⟨fix?, _⟩, _, hfirst, h⟩ := Action.bind_eq_ok.1 h
    obtain ⟨⟨rest, _⟩, _, hrest, h⟩ := Action.bind_eq_ok.1 h
    obtain ⟨h, _⟩ := Action.pure_eq_ok.1 h
    cases h
    rcases List.mem_append.1 hfix with hfix | hfix
    · rw [Option.mem_toList] at hfix
      cases hfix
      exact ⟨location, List.mem_cons_self, _, _, _, hfirst⟩
    · obtain ⟨l, hl, hmade⟩ := ih hrest hfix
      exact ⟨l, List.mem_cons_of_mem location hl, hmade⟩

/-- Every fix of a bundle was made at one of the locations that the bundle was made for. -/
theorem mem_of_gather {group : RuleGroup} {config : String} {talk talk' : Talk} {bundle : Bundle}
    (h : gather channel window group config talk = .ok (some bundle) talk') {fix : Replacement}
    (hfix : fix ∈ bundle.fixes) : ∃ l ∈ group.locations, ∃ rule message replied before after,
      replacementAt channel window rule message l before = .ok (some fix, replied) after := by
  unfold gather at h
  cases hrule : group.ruleId with
  | none =>
    rw [hrule] at h
    cases (Action.pure_eq_ok.1 h).1
  | some rule =>
    rw [hrule] at h
    obtain ⟨_, _, _, h⟩ := Action.bind_eq_ok.1 h
    obtain ⟨_, _, _, h⟩ := Action.bind_eq_ok.1 h
    obtain ⟨⟨fixes, _⟩, _, hfixes, h⟩ := Action.bind_eq_ok.1 h
    dsimp only at h
    split at h
    · cases (Action.pure_eq_ok.1 h).1
    · cases (Action.pure_eq_ok.1 h).1
      obtain ⟨l, hl, hmade⟩ := mem_of_replacementsAt hfixes hfix
      exact ⟨l, hl, rule, _, hmade⟩

/-- Every fix of a bundle is for the file of one of the locations that the bundle was made for. -/
theorem gather_located {group : RuleGroup} {config : String} {talk talk' : Talk} {bundle : Bundle}
    (h : gather channel window group config talk = .ok (some bundle) talk') :
    ∀ fix ∈ bundle.fixes, ∃ l ∈ group.locations, l.fileFull = fix.file := by
  intro fix hfix
  obtain ⟨l, hl, _, _, _, _, _, hmade⟩ := mem_of_gather h hfix
  obtain ⟨_, _, _, hproposed⟩ := replacementAt_eq_some hmade
  exact ⟨l, hl, (captures_of_fixOf? hproposed).1.symm⟩

end Remedy

end LintRemedy
