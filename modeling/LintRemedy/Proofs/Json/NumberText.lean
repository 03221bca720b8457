import LintRemedy.Json.Decoder

/-!
This module contains the texts of JSON numbers: what the decoder reads as a number, it reads as the
same number wherever the text does not go on with more of it.
-/

namespace LintRemedy
namespace Json

/-- A text that does not go on with more of a number. -/
def EndsNumber (rest : List Char) : Prop :=
  ∀ c ∈ rest.head?, ¬ c.isDigit ∧ c ≠ '.' ∧ c ≠ 'e' ∧ c ≠ 'E'

/-- A character that can stand in a number. -/
def IsNumberChar (c : Char) : Prop :=
  c.isDigit ∨ c ∈ ['-', '+', '.', 'e', 'E']

structure NumberText (piece : List Char) (v : Json) : Prop where
  value : (∃ n, v = .int n) ∨ ∃ x, v = .float x
  starts : ∃ c tail, c.isDigit ∧ (piece = c :: tail ∨ piece = '-' :: c :: tail)
  chars : ∀ c ∈ piece, IsNumberChar c
  reads : ∀ rest, EndsNumber rest → number (piece ++ rest) = .ok (v, rest)

def numberOf (negative : Bool) (whole places : List Char) : Option (Bool × List Char) →
    Except Stop Json
  | some (down, digits) =>
    let power : Int := if down then -(Numeral.value digits : Int) else Numeral.value digits
    .ok (float (.ofDecimal negative (Numeral.value (whole ++ places)) (power - places.length)))
  | none =>
    if places.isEmpty then
      if Numeral.maxDigits < whole.length then .error (.tooManyDigits whole.length)
      else
        let n : Int := Numeral.value whole
        .ok (int (if negative then -n else n))
    else .ok (float (.ofDecimal negative (Numeral.value (whole ++ places)) (-places.length)))

theorem numberOf_eq_ok {negative : Bool} {whole places : List Char}
    {exponent : Option (Bool × List Char)} {v : Json}
    (h : numberOf negative whole places exponent = .ok v) :
    (∃ n, v = .int n) ∨ ∃ x, v = .float x := by
  unfold numberOf at h
  split at h
  · cases h
    exact .inr ⟨_, rfl⟩
  · split at h
    · split at h
      · cases h
      · cases h
        exact .inl ⟨_, rfl⟩
    · cases h
      exact .inr ⟨_, rfl⟩

def splitSign : List Char → Bool × List Char
  | '-' :: rest => (true, rest)
  | rest => (false, rest)

def unsignedNumber? (negative : Bool) (cs : List Char) : Option (Reading Json) :=
  (wholeDigits? cs).map fun (whole, afterWhole) =>
    let (places, afterPlaces) := placeDigits afterWhole
    let (exponent, rest) := exponentDigits afterPlaces
    (numberOf negative whole places exponent).map (·, rest)

theorem number_eq (cs : List Char) :
    number cs =
      (unsignedNumber? (splitSign cs).1 (splitSign cs).2).getD (stopAt .noValue cs) := by
  unfold number unsignedNumber?
  split
  next negative unsigned heq =>
  have hsign : splitSign cs = (negative, unsigned) := heq
  rw [hsign]
  dsimp only
  cases wholeDigits? unsigned with
  | none => rfl
  | some whole =>
    dsimp only [Option.map_some, Option.getD_some]
    obtain ⟨exponent, rest⟩ := exponentDigits (placeDigits whole.2).2
    unfold numberOf
    cases exponent with
    | some exponent => rfl
    | none =>
      dsimp only
      split
      · split <;> rfl
      · rfl

theorem spanDigits_append {digits rest : List Char} (hdigits : ∀ c ∈ digits, c.isDigit)
    (hrest : ∀ c ∈ rest.head?, ¬ c.isDigit) : spanDigits (digits ++ rest) = (digits, rest) := by
  unfold spanDigits
  rw [List.takeWhile_append_of_pos hdigits, List.dropWhile_append_of_pos hdigits]
  cases rest with
  | nil => rw [List.takeWhile_nil, List.append_nil, List.dropWhile_nil]
  | cons c rest =>
    have hc := hrest c rfl
    rw [List.takeWhile_cons_of_neg hc, List.append_nil, List.dropWhile_cons_of_neg hc]

theorem spanDigits_eq {cs digits rest : List Char} (h : spanDigits cs = (digits, rest)) :
    cs = digits ++ rest ∧ ∀ c ∈ digits, c.isDigit := by
  unfold spanDigits at h
  cases h
  constructor
  · exact List.takeWhile_append_dropWhile.symm
  · intro c hc
    exact List.all_eq_true.1 List.all_takeWhile c hc

theorem wholeDigits?_eq_some {cs whole rest : List Char} (h : wholeDigits? cs = some (whole, rest)) :
    cs = whole ++ rest ∧ (∀ c ∈ whole, c.isDigit) ∧ whole ≠ [] ∧
      ∀ rest', (∀ c ∈ rest'.head?, ¬ c.isDigit) →
        wholeDigits? (whole ++ rest') = some (whole, rest') := by
  unfold wholeDigits? at h
  split at h
  · cases h
  · cases h
    refine ⟨rfl, List.forall_mem_singleton.2 rfl, List.cons_ne_nil _ _, ?_⟩
    intro rest' _
    rfl
  · next c after hzero =>
    split at h
    · next hc =>
      rw [Option.some.injEq] at h
      obtain ⟨hsplit, hdigits⟩ := spanDigits_eq h
      cases whole with
      | nil =>
        unfold spanDigits at h
        rw [List.takeWhile_cons_of_pos hc] at h
        cases h
      | cons d whole =>
        cases hsplit
        refine ⟨rfl, hdigits, List.cons_ne_nil _ _, ?_⟩
        intro rest' hrest'
        change wholeDigits? (c :: (whole ++ rest')) = _
        unfold wholeDigits?
        split
        · contradiction
        · next heq =>
          cases heq
          exact (hzero rfl).elim
        · next heq =>
          cases heq
          rw [if_pos hc]
          exact congrArg some (spanDigits_append hdigits hrest')
    · cases h

theorem placeDigits_eq {cs places rest : List Char} (h : placeDigits cs = (places, rest)) :
    ∃ text, cs = text ++ rest ∧ (∀ c ∈ text, IsNumberChar c) ∧ (∀ c ∈ text.head?, c = '.') ∧
      ∀ rest', (∀ c ∈ rest'.head?, ¬ c.isDigit ∧ c ≠ '.') →
        placeDigits (text ++ rest') = (places, rest') := by
  have hnone : ∀ rest' : List Char, (∀ c ∈ rest'.head?, ¬ c.isDigit ∧ c ≠ '.') →
      placeDigits ([] ++ rest') = ([], rest') := by
    intro rest' hrest'
    change placeDigits rest' = _
    unfold placeDigits
    split
    · exact ((hrest' _ rfl).2 rfl).elim
    · rfl
  unfold placeDigits at h
  split at h
  · next d after =>
    split at h
    · next hd =>
      obtain ⟨hsplit, hdigits⟩ := spanDigits_eq h
      refine ⟨'.' :: places, ?_, ?_, ?_, ?_⟩
      · rw [hsplit]
        rfl
      · intro c hc
        rcases List.mem_cons.1 hc with rfl | hc
        · exact .inr (by decide)
        · exact .inl (hdigits c hc)
      · intro c hc
        cases hc
        rfl
      · intro rest' hrest'
        cases places with
        | nil =>
          unfold spanDigits at h
          rw [List.takeWhile_cons_of_pos hd] at h
          cases h
        | cons c places =>
          cases hsplit
          change placeDigits ('.' :: d :: (places ++ rest')) = _
          change (if d.isDigit then _ else _) = _
          rw [if_pos hd]
          exact spanDigits_append hdigits fun c hc => (hrest' c hc).1
    · cases h
      exact ⟨[], rfl, nofun, nofun, hnone⟩
  · cases h
    exact ⟨[], rfl, nofun, nofun, hnone⟩

/-- The sign of an exponent, and the text after it. -/
def splitPower : List Char → Bool × List Char
  | '-' :: rest => (true, rest)
  | '+' :: rest => (false, rest)
  | rest => (false, rest)

theorem splitPower_eq (cs : List Char) :
    ∃ sign, cs = sign ++ (splitPower cs).2 ∧ (∀ c ∈ sign, IsNumberChar c) ∧
      ∀ d rest, d.isDigit → splitPower (sign ++ d :: rest) = ((splitPower cs).1, d :: rest) := by
  unfold splitPower
  split
  · refine ⟨['-'], rfl, fun c hc => .inr ?_, fun _ _ _ => rfl⟩
    rw [List.mem_singleton.1 hc]
    decide
  · refine ⟨['+'], rfl, fun c hc => .inr ?_, fun _ _ _ => rfl⟩
    rw [List.mem_singleton.1 hc]
    decide
  · refine ⟨[], rfl, nofun, ?_⟩
    intro d rest hd
    rw [List.nil_append]
    split
    · next heq =>
      cases heq
      cases hd
    · next heq =>
      cases heq
      cases hd
    · rfl

theorem exponentDigits_cons {e : Char} (he : e = 'e' ∨ e = 'E') (cs : List Char) :
    exponentDigits (e :: cs) =
      if (spanDigits (splitPower cs).2).1.isEmpty then (none, e :: cs)
      else (some ((splitPower cs).1, (spanDigits (splitPower cs).2).1),
        (spanDigits (splitPower cs).2).2) := by
  unfold splitPower
  split
  · rw [exponentDigits, if_pos he]
  · rw [exponentDigits, if_pos he]
  · next hminus hplus =>
    rw [exponentDigits, if_pos he]
    · exact hminus
    · exact hplus

theorem exponentDigits_eq {cs rest : List Char} {exponent : Option (Bool × List Char)}
    (h : exponentDigits cs = (exponent, rest)) :
    ∃ text, cs = text ++ rest ∧ (∀ c ∈ text, IsNumberChar c) ∧
      (∀ c ∈ text.head?, c = 'e' ∨ c = 'E') ∧
      ∀ rest', EndsNumber rest' → exponentDigits (text ++ rest') = (exponent, rest') := by
  have hnone : ∀ rest', EndsNumber rest' → exponentDigits ([] ++ rest') = (none, rest') := by
    intro rest' hrest'
    change exponentDigits rest' = _
    unfold exponentDigits
    split
    · rfl
    · next e after =>
      obtain ⟨_, _, he, hE⟩ := hrest' e rfl
      rw [if_neg (not_or.2 ⟨he, hE⟩)]
  cases cs with
  | nil =>
    cases h
    exact ⟨[], rfl, nofun, nofun, hnone⟩
  | cons e after =>
    by_cases he : e = 'e' ∨ e = 'E'
    · rw [exponentDigits_cons he] at h
      split at h
      · cases h
        exact ⟨[], rfl, nofun, nofun, hnone⟩
      · next hdigits =>
        cases h
        obtain ⟨sign, hsign, hchars, hread⟩ := splitPower_eq after
        -- From here on the sign and the digits are known by what has been shown of them only.
        generalize splitPower after = power at *
        obtain ⟨hsplit, hall⟩ := spanDigits_eq (Prod.eta (spanDigits power.2)).symm
        generalize spanDigits power.2 = span at *
        obtain ⟨d, digits, hd⟩ := List.exists_cons_of_ne_nil (mt List.isEmpty_iff.2 hdigits)
        refine ⟨e :: (sign ++ span.1), ?_, ?_, ?_, ?_⟩
        · rw [hsign, hsplit]
          simp
        · intro c hc
          rcases List.mem_cons.1 hc with rfl | hc
          · right
            rcases he with rfl | rfl <;> decide
          · rcases List.mem_append.1 hc with hc | hc
            · exact hchars c hc
            · exact .inl (hall c hc)
        · rintro c ⟨⟩
          exact he
        · intro rest' hrest'
          have hspan : spanDigits (span.1 ++ rest') = (span.1, rest') :=
            spanDigits_append hall fun c hc => (hrest' c hc).1
          rw [List.cons_append, exponentDigits_cons he, List.append_assoc]
          rw [hd] at hspan hall hdigits ⊢
          rw [List.cons_append, hread d _ (hall d List.mem_cons_self)]
          rw [List.cons_append] at hspan
          dsimp only
          rw [hspan, if_neg hdigits]
    · unfold exponentDigits at h
      dsimp only at h
      rw [if_neg he] at h
      cases h
      exact ⟨[], rfl, nofun, nofun, hnone⟩

theorem unsignedNumber?_eq_some {negative : Bool} {cs rest : List Char} {v : Json}
    (h : unsignedNumber? negative cs = some (.ok (v, rest))) :
    ∃ piece, cs = piece ++ rest ∧ (∀ c ∈ piece, IsNumberChar c) ∧
      (∃ c ∈ piece.head?, c.isDigit) ∧ ((∃ n, v = .int n) ∨ ∃ x, v = .float x) ∧
      ∀ rest', EndsNumber rest' →
        unsignedNumber? negative (piece ++ rest') = some (.ok (v, rest')) := by
  unfold unsignedNumber? at h ⊢
  obtain ⟨⟨whole, afterWhole⟩, hwhole, h⟩ := Option.map_eq_some_iff.1 h
  obtain ⟨places, afterPlaces, hplaces⟩ : ∃ places afterPlaces,
      placeDigits afterWhole = (places, afterPlaces) := ⟨_, _, rfl⟩
  obtain ⟨exponent, rest, hexponent⟩ : ∃ exponent rest,
      exponentDigits afterPlaces = (exponent, rest) := ⟨_, _, rfl⟩
  dsimp only at h
  rw [hplaces] at h
  dsimp only at h
  rw [hexponent] at h
  dsimp only at h
  cases hvalue : numberOf negative whole places exponent with
  | error stop =>
    rw [hvalue] at h
    cases h
  | ok w =>
    rw [hvalue] at h
    cases h
    -- The number is its whole digits, a point with digits and an exponent. Each of them ends where
    -- the next one starts, as that starts with another kind of character.
    obtain ⟨rfl, hdigits, hne, hreadWhole⟩ := wholeDigits?_eq_some hwhole
    obtain ⟨point, rfl, hpoint, hpointHead, hreadPlaces⟩ := placeDigits_eq hplaces
    obtain ⟨power, rfl, hpower, hpowerHead, hreadPower⟩ := exponentDigits_eq hexponent
    refine ⟨whole ++ point ++ power, by simp, ?_, ?_, numberOf_eq_ok hvalue, ?_⟩
    · intro c hc
      rw [List.mem_append, List.mem_append] at hc
      rcases hc with (hc | hc) | hc
      · exact .inl (hdigits c hc)
      · exact hpoint c hc
      · exact hpower c hc
    · obtain ⟨c, digits, rfl⟩ := List.exists_cons_of_ne_nil hne
      exact ⟨c, rfl, hdigits c List.mem_cons_self⟩
    · intro rest' hrest'
      have hafterPlaces : ∀ c ∈ (power ++ rest').head?, ¬ c.isDigit ∧ c ≠ '.' := by
        intro c hc
        cases power with
        | nil => exact ⟨(hrest' c hc).1, (hrest' c hc).2.1⟩
        | cons e power =>
          rcases hpowerHead c hc with rfl | rfl <;> decide
      have hafterWhole : ∀ c ∈ (point ++ (power ++ rest')).head?, ¬ c.isDigit := by
        intro c hc
        cases point with
        | nil => exact (hafterPlaces c hc).1
        | cons d point =>
          rw [hpointHead c hc]
          decide
      rw [List.append_assoc, List.append_assoc, hreadWhole _ hafterWhole]
      dsimp only [Option.map_some]
      rw [hreadPlaces _ hafterPlaces]
      dsimp only
      rw [hreadPower _ hrest', hvalue]
      rfl

theorem splitSign_eq (cs : List Char) :
    (∃ unsigned, cs = '-' :: unsigned ∧ splitSign cs = (true, unsigned)) ∨
      splitSign cs = (false, cs) := by
  unfold splitSign
  split
  · exact .inl ⟨_, rfl, rfl⟩
  · exact .inr rfl

theorem splitSign_of_isDigit {c : Char} (h : c.isDigit) (rest : List Char) :
    splitSign (c :: rest) = (false, c :: rest) := by
  rcases splitSign_eq (c :: rest) with ⟨_, heq, _⟩ | hsplit
  · cases heq
    cases h
  · exact hsplit

theorem number_sound {cs rest : List Char} {v : Json} (h : number cs = .ok (v, rest)) :
    ∃ piece, cs = piece ++ rest ∧ NumberText piece v := by
  rw [number_eq] at h
  cases hread : unsignedNumber? (splitSign cs).1 (splitSign cs).2 with
  | none =>
    rw [hread] at h
    cases h
  | some reading =>
    rw [hread] at h
    cases h
    obtain ⟨piece, hpiece, hchars, ⟨c, hc, hdigit⟩, hvalue, hreads⟩ := unsignedNumber?_eq_some hread
    obtain ⟨tail, rfl⟩ : ∃ tail, piece = c :: tail := List.head?_eq_some_iff.1 hc
    -- A sign belongs to the piece, and is taken off again when the piece is read.
    rcases splitSign_eq cs with ⟨unsigned, rfl, hsign⟩ | hsign
    · rw [hsign] at hpiece hreads
      refine ⟨'-' :: c :: tail, congrArg ('-' :: ·) hpiece, hvalue, ⟨c, tail, hdigit, .inr rfl⟩, ?_, ?_⟩
      · intro d hd
        rcases List.mem_cons.1 hd with rfl | hd
        · exact .inr (by decide)
        · exact hchars d hd
      · intro rest' hrest'
        rw [number_eq]
        change (unsignedNumber? true ((c :: tail) ++ rest')).getD _ = _
        rw [hreads rest' hrest']
        rfl
    · rw [hsign] at hpiece hreads
      refine ⟨c :: tail, hpiece, hvalue, ⟨c, tail, hdigit, .inl rfl⟩, hchars, ?_⟩
      intro rest' hrest'
      rw [number_eq, List.cons_append, splitSign_of_isDigit hdigit]
      change (unsignedNumber? false ((c :: tail) ++ rest')).getD _ = _
      rw [hreads rest' hrest']
      rfl

end Json
end LintRemedy
