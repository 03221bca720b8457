import LintRemedy.Json.Decoder

/-!
This module contains the grammar of JSON strings: the texts of a sequence of characters, and that
the decoder reads exactly these.
-/

namespace LintRemedy
namespace Json

def IsHigh (unit : Nat) : Prop :=
  0xD800 ≤ unit ∧ unit ≤ 0xDBFF

def IsLow (unit : Nat) : Prop :=
  0xDC00 ≤ unit ∧ unit ≤ 0xDFFF

def StartsWithUnit (text : List Char) (unit : Nat) (rest : List Char) : Prop :=
  ∃ a b c d, text = '\\' :: 'u' :: a :: b :: c :: d :: rest ∧ hexValue4? a b c d = some unit

/-- The texts of the characters of a string, up to the closing quote. -/
inductive StringText : List Char → List Char → Prop where
  | close : StringText ['"'] []
  | plain {c body cs} (quote : c ≠ '"') (backslash : c ≠ '\\') (control : 0x20 ≤ c.toNat)
      (rest : StringText body cs) : StringText (c :: body) (c :: cs)
  | escape {c v body cs} (value : escapeValue? c = some v) (rest : StringText body cs) :
      StringText ('\\' :: c :: body) (v :: cs)
  | unit {text unit body cs} (escaped : StartsWithUnit text unit body)
      (alone : IsHigh unit → ∀ low after, StartsWithUnit body low after → ¬ IsLow low)
      (rest : StringText body cs) : StringText text (Text.codeChar unit :: cs)
  | pair {text high low between body cs} (first : StartsWithUnit text high between)
      (second : StartsWithUnit between low body) (isHigh : IsHigh high) (isLow : IsLow low)
      (rest : StringText body cs) : StringText text (Text.pairChar high low :: cs)

theorem consChar_eq_ok {c : Char} {reading : Reading (List Char)} {cs rest : List Char}
    (h : consChar c reading = .ok (cs, rest)) : ∃ tail, reading = .ok (tail, rest) ∧ c :: tail = cs := by
  unfold consChar at h
  split at h
  · cases h
    exact ⟨_, rfl, rfl⟩
  · cases h

theorem hexValue?_ne {c : Char} {n : Nat} (h : hexValue? c = some n) : c ≠ '"' ∧ c ≠ '\\' := by
  constructor
  · rintro rfl
    cases h
  · rintro rfl
    cases h

theorem hexValue4?_ne {a b c d : Char} {n : Nat} (h : hexValue4? a b c d = some n) :
    ∀ e ∈ [a, b, c, d], e ≠ '"' ∧ e ≠ '\\' := by
  unfold hexValue4? at h
  simp only [Option.bind_eq_bind, Option.bind_eq_some_iff] at h
  obtain ⟨_, ha, _, hb, _, hc, _, hd, _⟩ := h
  intro e he
  simp only [List.mem_cons, List.not_mem_nil, or_false] at he
  rcases he with rfl | rfl | rfl | rfl
  · exact hexValue?_ne ha
  · exact hexValue?_ne hb
  · exact hexValue?_ne hc
  · exact hexValue?_ne hd

theorem StringText.getLast? {body cs : List Char} (h : StringText body cs) :
    body.getLast? = some '"' := by
  have hcons : ∀ {c : Char} {rest : List Char}, rest.getLast? = some '"' →
      (c :: rest).getLast? = some '"' := by
    intro c rest hrest
    rw [List.getLast?_cons, hrest]
    rfl
  induction h with
  | close => rfl
  | plain _ _ _ _ ih => exact hcons ih
  | escape _ _ ih => exact hcons (hcons ih)
  | unit escaped _ _ ih =>
    obtain ⟨a, b, c, d, rfl, _⟩ := escaped
    exact hcons (hcons (hcons (hcons (hcons (hcons ih)))))
  | pair first second _ _ _ ih =>
    obtain ⟨a, b, c, d, rfl, _⟩ := first
    obtain ⟨e, f, g, h, rfl, _⟩ := second
    iterate 12 apply hcons
    exact ih

theorem StringText.append_eq_cons {body cs : List Char} (h : StringText body cs)
    (rest : List Char) : ∃ n after, body ++ rest = n :: after := by
  apply List.exists_cons_of_ne_nil
  apply List.append_ne_nil_of_left_ne_nil
  rintro rfl
  cases h.getLast?

theorem StringText.rest_ne_nil {body cs rest : List Char} {unit : Nat} (h : StringText body cs)
    (escaped : StartsWithUnit body unit rest) : rest ≠ [] := by
  rintro rfl
  obtain ⟨a, b, c, d, rfl, hvalue⟩ := escaped
  have hquote : some d = some '"' := h.getLast?
  cases hquote
  exact (hexValue4?_ne hvalue '"' (by simp)).1 rfl

theorem stringBody_sound {opening : Nat} {text cs rest : List Char}
    (h : stringBody opening text = .ok (cs, rest)) :
    ∃ body, text = body ++ rest ∧ StringText body cs := by
  fun_induction stringBody opening text generalizing cs with
  | case1 | case3 | case4 | case5 | case9 | case11 | case12 | case14 => cases h
  | case2 =>
    cases h
    exact ⟨['"'], rfl, .close⟩
  | case6 a b c d e f g k next after high hhigh isHigh low hlow isLow ih =>
    obtain ⟨tail, hread, rfl⟩ := consChar_eq_ok h
    obtain ⟨body, hbody, htext⟩ := ih hread
    refine ⟨'\\' :: 'u' :: a :: b :: c :: d :: '\\' :: 'u' :: e :: f :: g :: k :: body, ?_, ?_⟩
    · rw [hbody]
      rfl
    · exact .pair ⟨a, b, c, d, rfl, hhigh⟩ ⟨e, f, g, k, rfl, hlow⟩ isHigh isLow htext
  | case7 a b c d e f g k next after high hhigh isHigh low hlow isLow ih =>
    obtain ⟨tail, hread, rfl⟩ := consChar_eq_ok h
    obtain ⟨body, hbody, htext⟩ := ih hread
    refine ⟨'\\' :: 'u' :: a :: b :: c :: d :: body, ?_, .unit ⟨a, b, c, d, rfl, hhigh⟩ ?_ htext⟩
    · rw [hbody]
      rfl
    · -- The escape that follows is the one that was looked at, and its unit is no low half.
      rintro _ other between ⟨_, _, _, _, rfl, hother⟩
      simp only [List.cons_append, List.cons.injEq, true_and] at hbody
      obtain ⟨rfl, rfl, rfl, rfl, _⟩ := hbody
      rw [hlow] at hother
      cases hother
      exact isLow
  | case8 a b c d e f g k next after high hhigh isHigh ih =>
    obtain ⟨tail, hread, rfl⟩ := consChar_eq_ok h
    obtain ⟨body, hbody, htext⟩ := ih hread
    refine ⟨'\\' :: 'u' :: a :: b :: c :: d :: body, ?_, .unit ⟨a, b, c, d, rfl, hhigh⟩ ?_ htext⟩
    · rw [hbody]
      rfl
    · intro high
      exact (isHigh high).elim
  | case10 a b c d next after hsingle unit hunit ih =>
    obtain ⟨tail, hread, rfl⟩ := consChar_eq_ok h
    obtain ⟨body, hbody, htext⟩ := ih hread
    refine ⟨'\\' :: 'u' :: a :: b :: c :: d :: body, ?_, .unit ⟨a, b, c, d, rfl, hunit⟩ ?_ htext⟩
    · rw [hbody]
      rfl
    · -- An escape that follows would have been read along with this one.
      intro _ low between hsecond
      obtain ⟨n, others, hothers⟩ := List.exists_cons_of_ne_nil (htext.rest_ne_nil hsecond)
      obtain ⟨e, f, g, k, rfl, _⟩ := hsecond
      cases hothers
      cases hbody
      exact (hsingle e f g k n _ rfl rfl).elim
  | case13 c after _ _ _ v hv ih =>
    obtain ⟨tail, hread, rfl⟩ := consChar_eq_ok h
    obtain ⟨body, hbody, htext⟩ := ih hread
    refine ⟨'\\' :: c :: body, ?_, .escape hv htext⟩
    rw [hbody]
    rfl
  | case15 c after hquote hend _ _ _ hescape hcontrol ih =>
    obtain ⟨tail, hread, rfl⟩ := consChar_eq_ok h
    obtain ⟨body, hbody, htext⟩ := ih hread
    refine ⟨c :: body, ?_, .plain hquote ?_ (Nat.le_of_not_lt hcontrol) htext⟩
    · rw [hbody]
      rfl
    · rintro rfl
      cases after with
      | nil => exact hend rfl rfl
      | cons d after => exact hescape d after rfl rfl

theorem StringText.startsWithUnit {body cs rest after : List Char} {a b c d : Char}
    (h : StringText body cs) (escaped : body ++ rest = '\\' :: 'u' :: a :: b :: c :: d :: after) :
    ∃ unit between, StartsWithUnit body unit between ∧ hexValue4? a b c d = some unit := by
  cases h with
  | close => cases escaped
  | plain _ backslash => exact (backslash (List.cons.inj escaped).1).elim
  | escape value =>
    rw [(List.cons.inj (List.cons.inj escaped).2).1] at value
    cases value
  | unit first | pair first =>
    have hfirst := first
    obtain ⟨_, _, _, _, rfl, hunit⟩ := first
    cases escaped
    exact ⟨_, _, hfirst, hunit⟩

theorem StringText.reads {body cs : List Char} (h : StringText body cs) (opening : Nat)
    (rest : List Char) : stringBody opening (body ++ rest) = .ok (cs, rest) := by
  induction h with
  | close =>
    change stringBody opening ('"' :: rest) = _
    rw [stringBody]
  | @plain c body cs quote backslash control _ ih =>
    change stringBody opening (c :: (body ++ rest)) = _
    rw [stringBody, if_neg (Nat.not_lt.2 control), ih]
    · rfl
    · exact quote
    all_goals
      intros
      contradiction
  | @escape c v body cs value _ ih =>
    change stringBody opening ('\\' :: c :: (body ++ rest)) = _
    have hc : c ≠ 'u' := by
      rintro rfl
      cases value
    rw [stringBody, value]
    · dsimp only
      rw [ih]
      rfl
    all_goals
      intros
      contradiction
  | @unit text high body cs escaped alone htext ih =>
    obtain ⟨a, b, c, d, rfl, hunit⟩ := escaped
    change stringBody opening ('\\' :: 'u' :: a :: b :: c :: d :: (body ++ rest)) = _
    -- What follows is read along with the unit if it is the escape of another one.
    by_cases hsecond : ∃ e f g k n after,
        body ++ rest = '\\' :: 'u' :: e :: f :: g :: k :: n :: after
    · obtain ⟨e, f, g, k, n, after, heq⟩ := hsecond
      obtain ⟨low, between, hlow, hvalue⟩ := htext.startsWithUnit heq
      rw [heq] at ih ⊢
      rw [stringBody, hunit]
      dsimp only
      rw [hvalue, ih]
      dsimp only
      split
      · next hhigh =>
        have hlone : ¬ (0xDC00 ≤ low ∧ low ≤ 0xDFFF) := alone hhigh low between hlow
        rw [if_neg hlone]
        rfl
      · rfl
    · obtain ⟨n, after, heq⟩ := htext.append_eq_cons rest
      rw [heq] at ih hsecond ⊢
      rw [stringBody, hunit]
      · dsimp only
        rw [ih]
        rfl
      · rintro e f g k m others rfl rfl
        exact hsecond ⟨e, f, g, k, m, others, rfl⟩
  | @pair text high low between body cs first second isHigh isLow htext ih =>
    obtain ⟨a, b, c, d, rfl, hhigh⟩ := first
    obtain ⟨e, f, g, k, rfl, hlow⟩ := second
    -- The reader looks for one more character behind the pair, which the closing quote grants.
    obtain ⟨n, after, heq⟩ := htext.append_eq_cons rest
    change stringBody opening ('\\' :: 'u' :: a :: b :: c :: d :: '\\' :: 'u' :: e :: f :: g :: k ::
      (body ++ rest)) = _
    rw [heq] at ih ⊢
    rw [stringBody, hhigh]
    dsimp only
    unfold IsHigh at isHigh
    unfold IsLow at isLow
    rw [if_pos isHigh, hlow]
    dsimp only
    rw [if_pos isLow, ih]
    rfl

end Json
end LintRemedy
