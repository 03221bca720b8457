import LintRemedy.Proofs.Json.NumberText
import LintRemedy.Proofs.Json.StringText

/-!
This module contains the grammar of JSON texts, and the two directions in which the decoder agrees
with it: what is read at the start of a text is the text of a value, and the text of a value is read
wherever it stands.
-/

namespace LintRemedy
namespace Json

/-- Blanks between the parts of a JSON text. -/
def Blanks (cs : List Char) : Prop :=
  ∀ c ∈ cs, isSpace c

def words : List (List Char × Json) :=
  [("null".toList, null), ("true".toList, bool true), ("false".toList, bool false),
    ("NaN".toList, float .nan), ("Infinity".toList, float (.infinite false)),
    ("-Infinity".toList, float (.infinite true))]

mutual

/-- The texts of a value with a number of lists and objects that may be open in it. -/
inductive ValueText : (depth : Nat) → List Char → Json → Prop where
  | string {depth body cs} (text : StringText body cs) :
      ValueText depth ('"' :: body) (str (String.ofList cs))
  | number {depth piece v} (text : NumberText piece v) : ValueText depth piece v
  | word {depth piece v} (text : (piece, v) ∈ words) : ValueText depth piece v
  | emptyObject {depth blanks} (h : Blanks blanks) :
      ValueText (depth + 1) ('{' :: (blanks ++ ['}'])) (obj [])
  | object {depth blanks piece fields} (h : Blanks blanks) (text : MembersText depth piece fields) :
      ValueText (depth + 1) ('{' :: (blanks ++ piece)) (obj (distinctFields fields))
  | emptyArray {depth blanks} (h : Blanks blanks) :
      ValueText (depth + 1) ('[' :: (blanks ++ [']'])) (arr [])
  | array {depth blanks piece items} (h : Blanks blanks) (text : ElementsText depth piece items) :
      ValueText (depth + 1) ('[' :: (blanks ++ piece)) (arr items)

/-- The texts of the fields of an object, up to the closing brace. -/
inductive MembersText : (depth : Nat) → List Char → List (String × Json) → Prop where
  | last {depth body name a b piece v c} (text : StringText body name) (ha : Blanks a)
      (hb : Blanks b) (value : ValueText depth piece v) (hc : Blanks c) :
      MembersText depth ('"' :: (body ++ (a ++ ':' :: (b ++ (piece ++ (c ++ ['}']))))))
        [(String.ofList name, v)]
  | more {depth body name a b piece v c d others fields} (text : StringText body name)
      (ha : Blanks a) (hb : Blanks b) (value : ValueText depth piece v) (hc : Blanks c)
      (hd : Blanks d) (rest : MembersText depth others fields) :
      MembersText depth
        ('"' :: (body ++ (a ++ ':' :: (b ++ (piece ++ (c ++ ',' :: (d ++ others)))))))
        ((String.ofList name, v) :: fields)

/-- The texts of the items of an array, up to the closing bracket. -/
inductive ElementsText : (depth : Nat) → List Char → List Json → Prop where
  | last {depth piece v a} (value : ValueText depth piece v) (ha : Blanks a) :
      ElementsText depth (piece ++ (a ++ [']'])) [v]
  | more {depth piece v a b others items} (value : ValueText depth piece v) (ha : Blanks a)
      (hb : Blanks b) (rest : ElementsText depth others items) :
      ElementsText depth (piece ++ (a ++ ',' :: (b ++ others))) (v :: items)

end

theorem exists_blanks (cs : List Char) : ∃ blanks, cs = blanks ++ skipSpace cs ∧ Blanks blanks :=
  ⟨cs.takeWhile isSpace, List.takeWhile_append_dropWhile.symm,
    fun c hc => List.all_eq_true.1 List.all_takeWhile c hc⟩

theorem string_sound {text rest : List Char} {s : String} (h : string text = .ok (s, rest)) :
    ∃ body cs, text = body ++ rest ∧ StringText body cs ∧ String.ofList cs = s := by
  unfold string at h
  split at h
  · next cs rest hbody =>
    cases h
    obtain ⟨body, hsplit, htext⟩ := stringBody_sound hbody
    exact ⟨body, cs, hsplit, htext, rfl⟩
  · cases h

/-- What is read with a budget is the text of a value, of fields or of items. -/
structure ReadsText (budget : Nat) : Prop where
  value : ∀ {depth cs v rest}, value budget depth cs = .ok (v, rest) →
    ∃ piece, cs = piece ++ rest ∧ ValueText depth piece v
  members : ∀ {depth cs fields rest}, members budget depth cs = .ok (fields, rest) →
    ∃ piece, cs = piece ++ rest ∧ MembersText depth piece fields
  elements : ∀ {depth cs items rest}, elements budget depth cs = .ok (items, rest) →
    ∃ piece, cs = piece ++ rest ∧ ElementsText depth piece items

theorem ReadsText.zero : ReadsText 0 where
  value h := by cases h
  members h := by cases h
  elements h := by cases h

theorem ReadsText.value_succ {budget depth : Nat} {cs rest : List Char} {v : Json}
    (sound : ReadsText budget) (h : Json.value (budget + 1) depth cs = .ok (v, rest)) :
    ∃ piece, cs = piece ++ rest ∧ ValueText depth piece v := by
  -- The cases are those of the reader: a string, an object, an array, the six words and a number.
  unfold Json.value at h
  split at h
  · split at h
    · next hstring =>
      cases h
      obtain ⟨body, cs, hsplit, htext, rfl⟩ := string_sound hstring
      exact ⟨'"' :: body, congrArg ('"' :: ·) hsplit, .string htext⟩
    · cases h
  · next after =>
    split at h
    · cases h
    · obtain ⟨blanks, hblanks, hall⟩ := exists_blanks after
      split at h
      · next hclose =>
        cases h
        rw [hclose] at hblanks
        refine ⟨_, ?_, .emptyObject hall⟩
        rw [hblanks]
        simp
      · split at h
        · next hmembers =>
          cases h
          obtain ⟨piece, hpiece, htext⟩ := sound.members hmembers
          refine ⟨_, ?_, .object hall htext⟩
          rw [hblanks, hpiece]
          simp
        · cases h
  · next after =>
    split at h
    · cases h
    · obtain ⟨blanks, hblanks, hall⟩ := exists_blanks after
      split at h
      · next hclose =>
        cases h
        rw [hclose] at hblanks
        refine ⟨_, ?_, .emptyArray hall⟩
        rw [hblanks]
        simp
      · split at h
        · next helements =>
          cases h
          obtain ⟨piece, hpiece, htext⟩ := sound.elements helements
          refine ⟨_, ?_, .array hall htext⟩
          rw [hblanks, hpiece]
          simp
        · cases h
  · cases h
    exact ⟨"null".toList, rfl, .word (by simp [words])⟩
  · cases h
    exact ⟨"true".toList, rfl, .word (by simp [words])⟩
  · cases h
    exact ⟨"false".toList, rfl, .word (by simp [words])⟩
  · cases h
    exact ⟨"NaN".toList, rfl, .word (by simp [words])⟩
  · cases h
    exact ⟨"Infinity".toList, rfl, .word (by simp [words])⟩
  · cases h
    exact ⟨"-Infinity".toList, rfl, .word (by simp [words])⟩
  · obtain ⟨piece, hpiece, htext⟩ := number_sound h
    exact ⟨piece, hpiece, .number htext⟩

theorem ReadsText.members_succ {budget depth : Nat} {cs rest : List Char}
    {fields : List (String × Json)} (sound : ReadsText budget)
    (h : Json.members (budget + 1) depth cs = .ok (fields, rest)) :
    ∃ piece, cs = piece ++ rest ∧ MembersText depth piece fields := by
  unfold Json.members at h
  split at h
  · next opened =>
    split at h
    · cases h
    · next name named hname =>
      obtain ⟨body, chars, rfl, hbody, rfl⟩ := string_sound hname
      obtain ⟨a, ha, hallA⟩ := exists_blanks named
      split at h
      · next colon hcolon =>
        rw [hcolon] at ha
        obtain ⟨b, hb, hallB⟩ := exists_blanks colon
        split at h
        · cases h
        · next v valued hvalue =>
          obtain ⟨piece, hpiece, htext⟩ := sound.value hvalue
          obtain ⟨c, hc, hallC⟩ := exists_blanks valued
          rw [hpiece] at hb
          split at h
          · next closed hclosed =>
            cases h
            rw [hclosed] at hc
            refine ⟨_, ?_, .last hbody hallA hallB htext hallC⟩
            rw [ha, hb, hc]
            simp
          · next more hmore =>
            rw [hmore] at hc
            obtain ⟨d, hd, hallD⟩ := exists_blanks more
            split at h
            · next others hothers =>
              cases h
              obtain ⟨piece', hpiece', htext'⟩ := sound.members hothers
              refine ⟨_, ?_, .more hbody hallA hallB htext hallC hallD htext'⟩
              rw [ha, hb, hc, hd, hpiece']
              simp
            · cases h
          · cases h
      · cases h
  · cases h

theorem ReadsText.elements_succ {budget depth : Nat} {cs rest : List Char} {items : List Json}
    (sound : ReadsText budget) (h : Json.elements (budget + 1) depth cs = .ok (items, rest)) :
    ∃ piece, cs = piece ++ rest ∧ ElementsText depth piece items := by
  unfold Json.elements at h
  split at h
  · cases h
  · next v valued hvalue =>
    obtain ⟨piece, rfl, htext⟩ := sound.value hvalue
    obtain ⟨a, ha, hallA⟩ := exists_blanks valued
    split at h
    · next closed hclosed =>
      cases h
      rw [hclosed] at ha
      refine ⟨_, ?_, .last htext hallA⟩
      rw [ha]
      simp
    · next more hmore =>
      rw [hmore] at ha
      obtain ⟨b, hb, hallB⟩ := exists_blanks more
      split at h
      · next others hothers =>
        cases h
        obtain ⟨piece', hpiece', htext'⟩ := sound.elements hothers
        refine ⟨_, ?_, .more htext hallA hallB htext'⟩
        rw [ha, hb, hpiece']
        simp
      · cases h
    · cases h

theorem readsText (budget : Nat) : ReadsText budget := by
  induction budget with
  | zero => exact .zero
  | succ budget ih =>
    exact ⟨ih.value_succ, ih.members_succ, ih.elements_succ⟩

theorem skipSpace_append {blanks cs : List Char} (h : Blanks blanks)
    (hcs : ∀ c ∈ cs.head?, ¬ isSpace c) : skipSpace (blanks ++ cs) = cs := by
  unfold skipSpace
  rw [List.dropWhile_append_of_pos h]
  cases cs with
  | nil => rfl
  | cons c cs => exact List.dropWhile_cons_of_neg (hcs c rfl)

theorem endsNumber_blanks {blanks rest : List Char} {c : Char} (h : Blanks blanks)
    (hc : EndsNumber (c :: rest)) : EndsNumber (blanks ++ c :: rest) := by
  intro d hd
  cases blanks with
  | nil => exact hc d hd
  | cons e blanks =>
    cases hd
    have hspace := h d List.mem_cons_self
    refine ⟨?_, ?_, ?_, ?_⟩
    · intro hdigit
      simp only [isSpace, Bool.or_eq_true, beq_iff_eq] at hspace
      rcases hspace with ((rfl | rfl) | rfl) | rfl <;> cases hdigit
    all_goals
      rintro rfl
      cases hspace

theorem endsNumber_cons {c : Char} {rest : List Char} (h : c = ',' ∨ c = '}' ∨ c = ']') :
    EndsNumber (c :: rest) := by
  rintro _ ⟨⟩
  rcases h with rfl | rfl | rfl <;> exact ⟨by decide, by decide, by decide, by decide⟩

def StartsValue (c : Char) : Prop :=
  ¬ isSpace c ∧ c ≠ ']' ∧ c ≠ '\ufeff'

theorem startsValue_of_isDigit {c : Char} (h : c.isDigit) : StartsValue c := by
  refine ⟨?_, ?_, ?_⟩
  · intro hspace
    simp only [isSpace, Bool.or_eq_true, beq_iff_eq] at hspace
    rcases hspace with ((rfl | rfl) | rfl) | rfl <;> cases h
  all_goals
    rintro rfl
    cases h

theorem ValueText.starts {depth : Nat} {piece : List Char} {v : Json} (h : ValueText depth piece v) :
    ∃ c tail, piece = c :: tail ∧ StartsValue c := by
  cases h with
  | string => exact ⟨_, _, rfl, by decide, by decide, by decide⟩
  | emptyObject | object => exact ⟨_, _, rfl, by decide, by decide, by decide⟩
  | emptyArray | array => exact ⟨_, _, rfl, by decide, by decide, by decide⟩
  | number text =>
    obtain ⟨c, tail, hdigit, rfl | rfl⟩ := text.starts
    · exact ⟨c, tail, rfl, startsValue_of_isDigit hdigit⟩
    · exact ⟨'-', c :: tail, rfl, by decide, by decide, by decide⟩
  | word text =>
    simp only [words, List.mem_cons, Prod.mk.injEq, List.not_mem_nil, or_false] at text
    rcases text with ⟨rfl, _⟩ | ⟨rfl, _⟩ | ⟨rfl, _⟩ | ⟨rfl, _⟩ | ⟨rfl, _⟩ | ⟨rfl, _⟩
    all_goals exact ⟨_, _, rfl, by decide, by decide, by decide⟩

theorem MembersText.starts {depth : Nat} {piece : List Char} {fields : List (String × Json)}
    (h : MembersText depth piece fields) : ∃ tail, piece = '"' :: tail := by
  cases h with
  | last | more => exact ⟨_, rfl⟩

theorem ElementsText.starts {depth : Nat} {piece : List Char} {items : List Json}
    (h : ElementsText depth piece items) : ∃ c tail, piece = c :: tail ∧ StartsValue c := by
  cases h with
  | last value | more value =>
    obtain ⟨c, tail, rfl, hc⟩ := value.starts
    exact ⟨c, _, rfl, hc⟩

theorem value_number {budget depth : Nat} {piece : List Char} {v : Json} (h : NumberText piece v)
    (rest : List Char) : value (budget + 1) depth (piece ++ rest) = number (piece ++ rest) := by
  obtain ⟨c, tail, hc, rfl | rfl⟩ := h.starts
  · change value (budget + 1) depth (c :: (tail ++ rest)) = number (c :: (tail ++ rest))
    generalize tail ++ rest = after
    unfold value
    split
    case h_10 => rfl
    all_goals
      next heq =>
      cases heq
      cases hc
  · change value (budget + 1) depth ('-' :: c :: (tail ++ rest)) = number ('-' :: c :: (tail ++ rest))
    generalize tail ++ rest = after
    unfold value
    split
    case h_10 => rfl
    -- The one word with a sign has a letter behind it, where the number has a digit.
    case h_9 heq =>
      cases heq
      cases hc
    all_goals
      next heq =>
      cases heq

theorem value_word {budget depth : Nat} {piece : List Char} {v : Json} (h : (piece, v) ∈ words)
    (rest : List Char) : value (budget + 1) depth (piece ++ rest) = .ok (v, rest) := by
  simp only [words, List.mem_cons, Prod.mk.injEq, List.not_mem_nil, or_false] at h
  rcases h with ⟨rfl, rfl⟩ | ⟨rfl, rfl⟩ | ⟨rfl, rfl⟩ | ⟨rfl, rfl⟩ | ⟨rfl, rfl⟩ | ⟨rfl, rfl⟩
  all_goals rfl

theorem string_reads {body cs : List Char} (h : StringText body cs) (rest : List Char) :
    string (body ++ rest) = .ok (String.ofList cs, rest) := by
  unfold string
  rw [h.reads]

theorem skipSpace_mark {blanks rest : List Char} {c : Char} (h : Blanks blanks)
    (hc : ¬ isSpace c) : skipSpace (blanks ++ c :: rest) = c :: rest := by
  apply skipSpace_append h
  rintro _ ⟨⟩
  exact hc

theorem value_object {budget depth : Nat} {blanks piece rest : List Char}
    {fields : List (String × Json)} (hblanks : Blanks blanks) (hpiece : ∃ tail, piece = '"' :: tail)
    (hmembers : members budget depth (piece ++ rest) = .ok (fields, rest)) :
    value (budget + 1) (depth + 1) ('{' :: (blanks ++ (piece ++ rest))) =
      .ok (obj (distinctFields fields), rest) := by
  obtain ⟨tail, rfl⟩ := hpiece
  rw [List.cons_append] at hmembers ⊢
  rw [value, skipSpace_mark hblanks (by decide)]
  split
  · next heq => cases heq
  · rw [hmembers]

theorem value_array {budget depth : Nat} {blanks piece rest : List Char} {items : List Json}
    (hblanks : Blanks blanks) (hpiece : ∃ c tail, piece = c :: tail ∧ StartsValue c)
    (helements : elements budget depth (piece ++ rest) = .ok (items, rest)) :
    value (budget + 1) (depth + 1) ('[' :: (blanks ++ (piece ++ rest))) =
      .ok (arr items, rest) := by
  obtain ⟨c, tail, rfl, hc⟩ := hpiece
  rw [List.cons_append] at helements ⊢
  rw [value, skipSpace_mark hblanks hc.1]
  split
  · next heq =>
    cases heq
    exact (hc.2.1 rfl).elim
  · rw [helements]

theorem members_field {budget depth : Nat} {body name a b piece rest : List Char} {v : Json}
    (text : StringText body name) (ha : Blanks a) (hb : Blanks b)
    (hpiece : ∃ c tail, piece = c :: tail ∧ StartsValue c)
    (hvalue : value budget depth (piece ++ rest) = .ok (v, rest)) :
    members (budget + 1) depth ('"' :: (body ++ (a ++ ':' :: (b ++ (piece ++ rest))))) =
      match skipSpace rest with
      | '}' :: rest => .ok ([(String.ofList name, v)], rest)
      | ',' :: rest =>
        match members budget depth (skipSpace rest) with
        | .ok (fields, rest) => .ok ((String.ofList name, v) :: fields, rest)
        | .error stop => .error stop
      | rest => stopAt .noComma rest := by
  have hcolon : skipSpace (a ++ ':' :: (b ++ (piece ++ rest))) = ':' :: (b ++ (piece ++ rest)) := by
    apply skipSpace_append ha
    rintro c ⟨⟩
    decide
  have hstart : skipSpace (b ++ (piece ++ rest)) = piece ++ rest := by
    apply skipSpace_append hb
    obtain ⟨c, tail, rfl, hc⟩ := hpiece
    rintro d ⟨⟩
    exact hc.1
  rw [members, string_reads text]
  dsimp only
  rw [hcolon]
  split
  · next heq =>
    cases heq
    -- The value is generalized, as it stands in the condition of a match.
    generalize hread : value budget depth (skipSpace (b ++ (piece ++ rest))) = reading
    rw [hstart, hvalue] at hread
    cases hread
    rfl
  · next hne => exact (hne _ rfl).elim

mutual

/-- The text of a value is read wherever it stands, with any budget that suffices for it. -/
theorem ValueText.reads {depth budget : Nat} {piece : List Char} {v : Json}
    (h : ValueText depth piece v) (hbudget : 2 * piece.length ≤ budget) {rest : List Char}
    (hrest : EndsNumber rest) : value budget depth (piece ++ rest) = .ok (v, rest) := by
  obtain ⟨budget, rfl⟩ : ∃ b, budget = b + 1 := by
    obtain ⟨c, tail, rfl, _⟩ := h.starts
    exact Nat.exists_eq_add_one.2 (by simp at hbudget; omega)
  -- Every level uses up two of the budget, and every level has a character of its own at least.
  cases h with
  | string text =>
    rw [List.cons_append, value, string_reads text]
  | number text =>
    rw [value_number text, text.reads rest hrest]
  | word text => exact value_word text rest
  | emptyObject hblanks =>
    rw [List.cons_append, List.append_assoc, value, List.singleton_append,
      skipSpace_mark hblanks (by decide)]
    rfl
  | object hblanks text =>
    rw [List.cons_append, List.append_assoc]
    apply value_object hblanks text.starts
    apply text.reads
    simp only [List.length_cons, List.length_append] at hbudget
    omega
  | emptyArray hblanks =>
    rw [List.cons_append, List.append_assoc, value, List.singleton_append,
      skipSpace_mark hblanks (by decide)]
    rfl
  | array hblanks text =>
    rw [List.cons_append, List.append_assoc]
    apply value_array hblanks text.starts
    apply text.reads
    simp only [List.length_cons, List.length_append] at hbudget
    omega
termination_by piece.length

theorem MembersText.reads {depth budget : Nat} {piece : List Char} {fields : List (String × Json)}
    (h : MembersText depth piece fields) (hbudget : 2 * piece.length ≤ budget) {rest : List Char} :
    members budget depth (piece ++ rest) = .ok (fields, rest) := by
  obtain ⟨budget, rfl⟩ : ∃ b, budget = b + 1 := by
    obtain ⟨tail, rfl⟩ := h.starts
    rw [List.length_cons] at hbudget
    exact Nat.exists_eq_add_one.2 (by omega)
  cases h with
  | last text ha hb value hc =>
    simp only [List.length_cons, List.length_append, List.length_nil] at hbudget
    simp only [List.cons_append, List.append_assoc, List.nil_append]
    rw [members_field text ha hb value.starts]
    · rw [skipSpace_mark hc (by decide)]
      rfl
    · apply value.reads
      · omega
      · exact endsNumber_blanks hc (endsNumber_cons (.inr (.inl rfl)))
  | more text ha hb value hc hd others =>
    obtain ⟨tail, rfl⟩ := others.starts
    simp only [List.length_cons, List.length_append] at hbudget
    simp only [List.cons_append, List.append_assoc]
    rw [members_field text ha hb value.starts]
    · rw [skipSpace_mark hc (by decide)]
      split
      · next heq => cases heq
      · next heq =>
        cases heq
        rw [skipSpace_mark hd (by decide), ← List.cons_append, others.reads]
        rw [List.length_cons]
        omega
      · next hne => exact (hne _ rfl).elim
    · apply value.reads
      · omega
      · exact endsNumber_blanks hc (endsNumber_cons (.inl rfl))
termination_by piece.length

theorem ElementsText.reads {depth budget : Nat} {piece : List Char} {items : List Json}
    (h : ElementsText depth piece items) (hbudget : 2 * piece.length ≤ budget) {rest : List Char} :
    elements budget depth (piece ++ rest) = .ok (items, rest) := by
  obtain ⟨budget, rfl⟩ : ∃ b, budget = b + 1 := by
    obtain ⟨c, tail, rfl, _⟩ := h.starts
    rw [List.length_cons] at hbudget
    exact Nat.exists_eq_add_one.2 (by omega)
  cases h with
  | last value ha =>
    simp only [List.length_cons, List.length_append, List.length_nil] at hbudget
    simp only [List.cons_append, List.append_assoc, List.nil_append]
    rw [elements, value.reads (by omega) (endsNumber_blanks ha (endsNumber_cons (.inr (.inr rfl))))]
    dsimp only
    rw [skipSpace_mark ha (by decide)]
    rfl
  | more value ha hb others =>
    obtain ⟨c, tail, rfl, hc⟩ := others.starts
    simp only [List.length_cons, List.length_append] at hbudget
    simp only [List.cons_append, List.append_assoc]
    rw [elements, value.reads (by omega) (endsNumber_blanks ha (endsNumber_cons (.inl rfl)))]
    dsimp only
    rw [skipSpace_mark ha (by decide)]
    split
    · next heq => cases heq
    · next heq =>
      cases heq
      rw [skipSpace_mark hb hc.1, ← List.cons_append, others.reads]
      rw [List.length_cons]
      omega
    · next hne => exact (hne _ rfl).elim
termination_by piece.length

end

theorem endsNumber_of_blanks {blanks : List Char} (h : Blanks blanks) : EndsNumber blanks := by
  cases blanks with
  | nil => nofun
  | cons c blanks =>
    intro d hd
    have hmark : EndsNumber (c :: (blanks ++ [','])) :=
      endsNumber_blanks h (endsNumber_cons (.inl rfl))
    exact hmark d hd

/-- The decoder reads exactly the texts of values, with blanks around them. -/
theorem decode_eq_ok_iff {cs : List Char} {v : Json} :
    decode cs = .ok v ↔ ∃ a piece b, cs = a ++ (piece ++ b) ∧ Blanks a ∧ Blanks b ∧
      ValueText maxDepth piece v := by
  constructor
  · intro h
    unfold decode at h
    split at h
    · cases h
    · unfold decodeMarkless at h
      split at h
      · cases h
      · next w rest hstart =>
        obtain ⟨piece, hpiece, htext⟩ := (readsText _).value hstart
        obtain ⟨a, ha, hallA⟩ := exists_blanks cs
        obtain ⟨b, hb, hallB⟩ := exists_blanks rest
        split at h
        · next hend =>
          cases h
          rw [hend, List.append_nil] at hb
          refine ⟨a, piece, b, ?_, hallA, hallB, htext⟩
          rw [← hb, ← hpiece]
          exact ha
        · cases h
  · rintro ⟨a, piece, b, rfl, ha, hb, htext⟩
    obtain ⟨c, tail, rfl, hc⟩ := htext.starts
    -- A byte order mark is no blank, and no value starts with one.
    have hmark : ∀ rest, a ++ ((c :: tail) ++ b) ≠ '\ufeff' :: rest := by
      intro rest heq
      cases a with
      | nil => exact hc.2.2 (List.cons.inj heq).1
      | cons d a =>
        have hspace := ha d List.mem_cons_self
        rw [(List.cons.inj heq).1] at hspace
        cases hspace
    have hstart : skipSpace (a ++ ((c :: tail) ++ b)) = (c :: tail) ++ b := skipSpace_mark ha hc.1
    have hend : skipSpace b = [] := by
      have hall : skipSpace (b ++ []) = [] := skipSpace_append hb nofun
      rw [List.append_nil] at hall
      exact hall
    unfold decode
    split
    · next heq => exact (hmark _ heq).elim
    · unfold decodeMarkless decodeStart
      rw [hstart, htext.reads _ (endsNumber_of_blanks hb)]
      · dsimp only
        rw [hend]
      · rw [List.length_append]
        omega

end Json
end LintRemedy
