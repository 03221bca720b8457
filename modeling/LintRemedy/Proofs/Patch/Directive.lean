import LintRemedy.Proofs.Patch.LineComment

/-!
This module contains what the suppression of a rule in a file makes of the directive at its top. A
header is extended by its first characters, without a look at the directive that it is. So there are
files in which other rules come into force again, or in which another comment is changed, and they are
told apart here from those in which the suppression is only added.
-/

namespace LintRemedy
namespace Text

/-- A character that is white space in the language of the files. -/
def isSpace (c : Char) : Bool :=
  let n := c.toNat
  (9 ≤ n && n ≤ 13) || n == 32 || n == 0xA0 || n == 0x1680 || (0x2000 ≤ n && n ≤ 0x200A)
    || n == 0x2028 || n == 0x2029 || n == 0x202F || n == 0x205F || n == 0x3000 || n == 0xFEFF

variable {a b : Char} {before cs rest after : List Char}

/-- A text is cut below what has no occurrence and does not begin one. -/
theorem cut?_append (hcs : ¬ [a, b] <:+: cs) (hrest : cs.getLast? = some a → rest.head? ≠ some b) :
    cut? [a, b] (cs ++ rest) =
      (cut? [a, b] rest).map fun (before, after) => (cs ++ before, after) := by
  induction cs with
  | nil => simp
  | cons c cs ih =>
    have hnone : after? [a, b] (c :: (cs ++ rest)) = none := by
      cases hafter : after? [a, b] (c :: (cs ++ rest)) with
      | none => rfl
      | some after =>
        have heq := after?_eq_some_iff.1 hafter
        cases cs with
        | nil =>
          simp only [List.nil_append, List.cons_append, List.cons.injEq] at heq
          exact absurd (by simp [heq.2]) (hrest (by simp [heq.1]))
        | cons d cs =>
          simp only [List.cons_append, List.nil_append, List.cons.injEq] at heq
          rw [heq.1, heq.2.1] at hcs
          exact absurd ⟨[], cs, rfl⟩ hcs
    have hrest' : cs.getLast? = some a → rest.head? ≠ some b := by
      intro hlast
      apply hrest
      simp [List.getLast?_cons, hlast]
    have htail := ih (fun h => hcs (h.trans (List.suffix_cons c cs).isInfix)) hrest'
    rw [List.cons_append, cut?, hnone]
    dsimp only
    rw [htail, Option.map_map]
    rfl

theorem trimWhile_append {p : Char → Bool} (hbefore : ∀ c ∈ before, p c) (hcs : ∀ c ∈ cs, ¬ p c)
    (hafter : ∀ c ∈ after, p c) : trimWhile p (before ++ cs ++ after) = cs := by
  have hkeep : ∀ ds : List Char, (∀ c ∈ ds, ¬ p c) → ds.dropWhile p = ds := by
    intro ds hds
    cases ds with
    | nil => rfl
    | cons d ds => exact List.dropWhile_cons_of_neg (hds d List.mem_cons_self)
  have hend : dropEndWhile p (cs ++ after) = cs := by
    unfold dropEndWhile
    rw [List.reverse_append, List.dropWhile_append_of_pos (by simpa using hafter),
      hkeep cs.reverse (by simpa using hcs), List.reverse_reverse]
  unfold trimWhile
  rw [List.append_assoc, List.dropWhile_append_of_pos hbefore]
  cases cs with
  | nil =>
    have hnil : (after ++ []).dropWhile p = [] := List.dropWhile_append_of_pos hafter
    rw [List.append_nil] at hnil
    rw [List.nil_append, hnil]
    rfl
  | cons c cs =>
    rw [List.cons_append, List.dropWhile_cons_of_neg (hcs c List.mem_cons_self)]
    exact hend

end Text

namespace Edit

open Text

def ruleNames (list : List Char) : List (List Char) :=
  ((splitAt ',' list).map (trimWhile isSpace)).filter (· ≠ [])

/-- A directive that suppresses rules in a file, with the text below its comment. -/
structure Directive where
  rules : List (List Char)
  rest : List Char
deriving DecidableEq, Repr

namespace Directive

/-- The directive in the block comment at the very top of a file. -/
def atTop? (content : List Char) : Option Directive := do
  let comment ← after? ['/', '*'] content
  let (body, rest) ← cut? ['*', '/'] comment
  let list ← after? "eslint-disable".toList (body.dropWhile isSpace)
  -- The words of other directives begin alike.
  if list.head?.all isSpace then some ⟨ruleNames list, rest⟩ else none

/-- An empty list stands for every rule. -/
def Disables (directive : Directive) (rule : List Char) : Prop :=
  directive.rules = [] ∨ rule ∈ directive.rules

end Directive

/-- The suppression of a rule in a file keeps all that is suppressed at its top, and the text below. -/
def OnlyAdds (rule content new : List Char) : Prop :=
  ∃ header, Directive.atTop? new = some header ∧ header.Disables rule ∧
    match Directive.atTop? content with
    | some old => (∀ r, old.Disables r → header.Disables r) ∧ old.rest <:+ header.rest
    | none => (∀ r, header.Disables r → r = rule) ∧
        header.rest = (LineEnding.ofText content).mark ++ content

/-- A file in which a rule can be suppressed by an extension of its first characters: its header names
rules and is spelled as it is here, or there is no comment that begins like a header. Where a header is
spelled in another way, it may name no other rule, since only the new one counts. -/
def Extendable (rule content : List Char) : Prop :=
  match Directive.atTop? content with
  | some old =>
    if fileMark <+: content then old.rules = [] ↔ rule = []
    else rule = [] ∨ (old.rules ≠ [] ∧ ∀ r ∈ old.rules, r = rule)
  | none => rule ≠ [] ∧ ¬ fileMark <+: content

/-- A text that can stand in a list of rules. -/
structure RuleName (rule : List Char) : Prop where
  no_space : ∀ c ∈ rule, ¬ isSpace c
  no_comma : ',' ∉ rule
  no_end : ¬ ['*', '/'] <:+: rule

variable {rule content rest list : List Char}

theorem ruleNames_append_comma (list list' : List Char) :
    ruleNames (list ++ ',' :: list') = ruleNames list ++ ruleNames list' := by
  simp [ruleNames, splitAt_append_cons]

theorem RuleName.ruleNames_eq (hrule : RuleName rule) (after : List Char)
    (hafter : ∀ c ∈ after, c = ' ') :
    ruleNames (' ' :: rule ++ after) = [rule].filter (· ≠ []) := by
  have hcomma : ',' ∉ ' ' :: rule ++ after := by
    intro hmem
    simp only [List.cons_append, List.mem_cons, List.mem_append, Char.reduceEq, false_or] at hmem
    cases hmem with
    | inl hmem => exact hrule.no_comma hmem
    | inr hmem => exact absurd (hafter _ hmem) (by decide)
  have htrim : trimWhile isSpace ([' '] ++ rule ++ after) = rule := by
    apply trimWhile_append
    · simp
      decide
    · exact hrule.no_space
    · intro c hc
      rw [hafter c hc]
      decide
  unfold ruleNames
  rw [splitAt_of_not_mem hcomma, List.map_singleton]
  rw [List.singleton_append] at htrim
  rw [htrim]

theorem nil_not_mem_ruleNames : [] ∉ ruleNames list := by
  simp [ruleNames]

theorem word_eq : "eslint-disable".toList = 'e' :: "slint-disable".toList := by
  decide +kernel

theorem fileMark_eq : fileMark = ['/', '*'] ++ (' ' :: "eslint-disable".toList) := by
  decide +kernel

/-- A comment that begins like a header is a directive if white space comes next. -/
theorem atTop?_fileMark_append (rest : List Char) : Directive.atTop? (fileMark ++ rest) =
    (cut? ['*', '/'] rest).bind fun (list, below) =>
      if list.head?.all isSpace then some ⟨ruleNames list, below⟩ else none := by
  have hcomment : after? ['/', '*'] (fileMark ++ rest) =
      some (' ' :: "eslint-disable".toList ++ rest) := by
    rw [after?_eq_some_iff, fileMark_eq, List.append_assoc]
  have hcut : cut? ['*', '/'] (' ' :: "eslint-disable".toList ++ rest) = _ :=
    cut?_append (by decide +kernel) (fun h => absurd h (by decide +kernel))
  unfold Directive.atTop?
  rw [hcomment, Option.bind_eq_bind, Option.bind_some, hcut]
  cases cut? ['*', '/'] rest with
  | none => rfl
  | some parts =>
    obtain ⟨list, below⟩ := parts
    have hspace : (' ' :: "eslint-disable".toList ++ list).dropWhile isSpace =
        "eslint-disable".toList ++ list := by
      rw [List.cons_append, List.dropWhile_cons_of_pos (by decide), word_eq, List.cons_append,
        List.dropWhile_cons_of_neg (by decide)]
    have hword : after? "eslint-disable".toList
        ((' ' :: "eslint-disable".toList ++ list).dropWhile isSpace) = some list := by
      rw [after?_eq_some_iff, hspace]
    dsimp only [Option.map_some, Option.bind_eq_bind, Option.bind_some]
    rw [hword]
    rfl

theorem RuleName.no_end_space (hrule : RuleName rule) : ¬ ['*', '/'] <:+: ' ' :: rule := by
  intro hend
  cases List.infix_cons_iff.1 hend with
  | inl hbegins => simp at hbegins
  | inr hinfix => exact hrule.no_end hinfix

theorem Directive.rest_suffix {d : Directive} (h : atTop? content = some d) : d.rest <:+ content := by
  unfold atTop? at h
  simp only [Option.bind_eq_bind, Option.bind_eq_some_iff] at h
  obtain ⟨comment, hcomment, ⟨body, below⟩, hcut, list, hlist, h⟩ := h
  split at h
  · cases h
    rw [after?_eq_some_iff.1 hcomment, eq_of_cut? hcut, ← List.append_assoc]
    exact List.suffix_append _ below
  · cases h

theorem atTop?_extended (hrule : RuleName rule) (rest : List Char) :
    Directive.atTop? (fileMark ++ ' ' :: rule ++ ',' :: rest) =
      (cut? ['*', '/'] rest).map fun (list, below) =>
        ⟨[rule].filter (· ≠ []) ++ ruleNames list, below⟩ := by
  have hcomma : cut? ['*', '/'] ([','] ++ rest) = _ := cut?_append (by decide) (by simp)
  have hcut : cut? ['*', '/'] (' ' :: rule ++ ',' :: rest) = _ :=
    cut?_append hrule.no_end_space (by simp)
  rw [List.singleton_append] at hcomma
  rw [List.append_assoc, atTop?_fileMark_append, hcut, hcomma]
  cases cut? ['*', '/'] rest with
  | none => rfl
  | some parts =>
    obtain ⟨list, below⟩ := parts
    have hspace : (' ' :: rule ++ ([','] ++ list)).head?.all isSpace = true := by
      rfl
    have hnames := hrule.ruleNames_eq [] (by simp)
    rw [List.append_nil] at hnames
    dsimp only [Option.map_some, Option.bind_some]
    rw [if_pos hspace, List.singleton_append, ruleNames_append_comma, hnames]

theorem fileHeader_eq (ending : LineEnding) (hrule : RuleName rule) :
    fileHeader ending rule =
      fileMark ++ (' ' :: rule ++ [' ']) ++ (['*', '/'] ++ ending.mark) := by
  have hkeep : ∀ cs : List Char, '\n' ∉ cs →
      cs.flatMap (fun c => if c = '\n' then ending.mark else [c]) = cs := by
    intro cs
    induction cs with
    | nil => intro _; rfl
    | cons c cs ih =>
      intro h
      rw [List.mem_cons, not_or] at h
      rw [List.flatMap_cons, if_neg (Ne.symm h.1), ih h.2]
      rfl
  have hfeed : '\n' ∉ rule := fun h => hrule.no_space _ h (by decide)
  have hmark : '\n' ∉ fileMark := by decide +kernel
  have hend : " */\n".toList = [' '] ++ ['*', '/'] ++ ['\n'] := by decide +kernel
  unfold fileHeader
  rw [hend, List.append_assoc, List.flatMap_append, List.flatMap_append, hkeep fileMark hmark]
  rw [List.flatMap_append, hkeep (' ' :: rule) (by simp [hfeed])]
  simp

theorem atTop?_fileHeader (ending : LineEnding) (hrule : RuleName rule) (content : List Char) :
    Directive.atTop? (fileHeader ending rule ++ content) =
      some ⟨[rule].filter (· ≠ []), ending.mark ++ content⟩ := by
  have hend : cut? ['*', '/'] (['*', '/'] ++ (ending.mark ++ content)) =
      some ([], ending.mark ++ content) := by
    simp [cut?, after?]
  have hspace : cut? ['*', '/'] ([' '] ++ (['*', '/'] ++ (ending.mark ++ content))) = _ :=
    cut?_append (by decide) (by simp)
  have hcut : cut? ['*', '/'] (' ' :: rule ++ ([' '] ++ (['*', '/'] ++ (ending.mark ++ content)))) = _ :=
    cut?_append hrule.no_end_space (by simp)
  rw [hend] at hspace
  rw [hspace] at hcut
  rw [fileHeader_eq ending hrule]
  simp only [List.append_assoc]
  rw [atTop?_fileMark_append, hcut]
  dsimp only [Option.map_some, Option.bind_some]
  rw [List.append_nil, hrule.ruleNames_eq [' '] (by simp)]
  rfl

section Disables

variable {names : List (List Char)} {below below' : List Char}

/-- An extended list is for all rules that the old one is for, exactly if that one has names. -/
theorem disables_extended_iff (hnames : [] ∉ names) :
    (Directive.Disables ⟨[rule].filter (· ≠ []) ++ names, below⟩ rule ∧
      ∀ r, Directive.Disables ⟨names, below'⟩ r →
        Directive.Disables ⟨[rule].filter (· ≠ []) ++ names, below⟩ r) ↔
      (names = [] ↔ rule = []) := by
  unfold Directive.Disables
  cases rule with
  | nil => simp [hnames]
  | cons c rule =>
    simp only [ne_eq, reduceCtorEq, not_false_eq_true, decide_true, List.filter_cons_of_pos,
      List.filter_nil, List.cons_append, List.nil_append, List.mem_cons, true_or, or_true, true_and,
      false_or, iff_false]
    constructor
    · intro h hnil
      -- The empty name is in no list, so a list without names is left to be the reason.
      cases h [] (.inl hnil) with
      | inl heq => cases heq
      | inr hmem => exact hnames hmem
    · intro hne r hr
      cases hr with
      | inl hnil => exact absurd hnil hne
      | inr hmem => exact .inr hmem

/-- A list of one rule is for all rules that the old one is for, exactly if that one has no other
names. -/
theorem disables_single_iff :
    (Directive.Disables ⟨[rule].filter (· ≠ []), below⟩ rule ∧
      ∀ r, Directive.Disables ⟨names, below'⟩ r →
        Directive.Disables ⟨[rule].filter (· ≠ []), below⟩ r) ↔
      rule = [] ∨ (names ≠ [] ∧ ∀ r ∈ names, r = rule) := by
  unfold Directive.Disables
  cases rule with
  | nil => simp
  | cons c rule =>
    simp only [ne_eq, reduceCtorEq, not_false_eq_true, decide_true, List.filter_cons_of_pos,
      List.filter_nil, List.mem_singleton, true_and, or_true, false_or]
    constructor
    · intro h
      refine ⟨fun hnil => ?_, fun r hr => h r (.inr hr)⟩
      cases h [] (.inl hnil)
    · intro h r hr
      cases hr with
      | inl hnil => exact absurd hnil h.1
      | inr hmem => exact h.2 r hmem

theorem disables_only_iff :
    (Directive.Disables ⟨[rule].filter (· ≠ []), below⟩ rule ∧
      ∀ r, Directive.Disables ⟨[rule].filter (· ≠ []), below⟩ r → r = rule) ↔ rule ≠ [] := by
  unfold Directive.Disables
  cases rule with
  | nil =>
    simp only [ne_eq, not_true_eq_false, iff_false]
    intro h
    cases h.2 [' '] (.inl rfl)
  | cons c rule => simp

end Disables

/-- An extension keeps a directive that names rules, and no other comment. -/
theorem onlyAdds_extended (hrule : RuleName rule) (rest : List Char) :
    OnlyAdds rule (fileMark ++ rest) (fileMark ++ ' ' :: rule ++ ',' :: rest) ↔
      Extendable rule (fileMark ++ rest) := by
  have hbegins : fileMark <+: fileMark ++ rest := List.prefix_append fileMark rest
  unfold OnlyAdds Extendable
  rw [atTop?_extended hrule, atTop?_fileMark_append]
  cases hcut : cut? ['*', '/'] rest with
  | none => simp
  | some parts =>
    obtain ⟨list, below⟩ := parts
    dsimp only [Option.map_some, Option.bind_some]
    by_cases hspace : list.head?.all isSpace = true
    · rw [if_pos hspace]
      simp only [hbegins, if_true, Option.some.injEq, exists_eq_left', List.suffix_refl, and_true]
      exact disables_extended_iff nil_not_mem_ruleNames
    · -- What follows the comment cannot hold the comment itself.
      have hlength : below ≠ (LineEnding.ofText (fileMark ++ rest)).mark ++ (fileMark ++ rest) := by
        intro heq
        have hlt := congrArg List.length heq
        rw [eq_of_cut? hcut] at hlt
        simp only [List.length_append, List.length_cons, List.length_nil] at hlt
        omega
      rw [if_neg hspace]
      simp only [hbegins, hlength, Option.some.injEq, exists_eq_left', and_false, not_true_eq_false]

/-- A new header keeps a directive that names no other rule, and all other text. -/
theorem onlyAdds_header (hrule : RuleName rule) (h : ¬ fileMark <+: content) :
    OnlyAdds rule content (fileHeader (.ofText content) rule ++ content) ↔
      Extendable rule content := by
  unfold OnlyAdds Extendable
  rw [atTop?_fileHeader _ hrule]
  simp only [Option.some.injEq, exists_eq_left', h, if_false, not_false_eq_true, and_true]
  cases htop : Directive.atTop? content with
  | none => exact disables_only_iff
  | some old =>
    have hrest : old.rest <:+ (LineEnding.ofText content).mark ++ content :=
      (Directive.rest_suffix htop).trans (List.suffix_append _ content)
    simp only [hrest, and_true]
    exact disables_single_iff

theorem onlyAdds_iff (hrule : RuleName rule) :
    OnlyAdds rule content (suppressFile rule content) ↔ Extendable rule content := by
  unfold suppressFile
  cases hafter : after? fileMark content with
  | some rest =>
    rw [after?_eq_some_iff.1 hafter]
    exact onlyAdds_extended hrule rest
  | none =>
    apply onlyAdds_header hrule
    intro hbegins
    obtain ⟨rest, hcontent⟩ := hbegins
    rw [after?_eq_some_iff.2 hcontent.symm] at hafter
    cases hafter

end Edit

namespace Patch

variable {file rule : String} {world world' : World}

/-- A rule that gets suppressed in a file is just added to what was suppressed at its top, exactly in
the files whose first characters can be extended. -/
theorem suppressFile_onlyAdds_iff (hrule : Edit.RuleName rule.toList)
    (h : suppressFile file rule world = .ok true world') :
    ∃ content new, world.files.readText file = .ok content ∧ world'.files.readText file = .ok new ∧
      (Edit.OnlyAdds rule.toList content.toList new.toList ↔
        Edit.Extendable rule.toList content.toList) := by
  obtain ⟨files, hedit, hfiles⟩ := commit_eq_ok_true h
  obtain ⟨content, edited, hread, hedited, hwrite⟩ := revised_eq_ok_some hedit
  rw [Option.some.injEq] at hedited
  refine ⟨content, String.ofList edited, hread, ?_, ?_⟩
  · rw [hfiles]
    exact Files.readText_of_editText hwrite
  · rw [String.toList_ofList, ← hedited]
    exact Edit.onlyAdds_iff hrule

theorem suppressFile_of_readText {content : String} (rule : String)
    (hread : world.files.readText file = .ok content) (writable : world.files.Writable file)
    (encodable : world.files.Encodable
      (String.ofList (Edit.suppressFile rule.toList content.toList))) :
    ∃ world', suppressFile file rule world = .ok true world' ∧ world'.files.readText file =
      .ok (String.ofList (Edit.suppressFile rule.toList content.toList)) := by
  obtain ⟨files, hwrite, hdone⟩ := commit_revised_of_some
    (fun content => some (Edit.suppressFile rule.toList content)) hread writable rfl encodable
  exact ⟨_, hdone, Files.readText_of_editText hwrite⟩

theorem suppressFile_onlyAdds_listed :
    ∃ world' new, suppressFile "/w/a.js" "no-y" (holding "/* eslint-disable no-x */\r\na();\r\n") =
        .ok true world' ∧
      world'.files.readText "/w/a.js" = .ok new ∧
      Edit.OnlyAdds "no-y".toList "/* eslint-disable no-x */\r\na();\r\n".toList new.toList := by
  have hspace : "no-y".toList.all (!Text.isSpace ·) = true := by decide +kernel
  have hrule : Edit.RuleName "no-y".toList := by
    refine ⟨?_, by decide +kernel, by decide +kernel⟩
    intro c hc
    simpa using List.all_eq_true.1 hspace c hc
  have htop : Edit.Directive.atTop? "/* eslint-disable no-x */\r\na();\r\n".toList =
      some ⟨["no-x".toList], "\r\na();\r\n".toList⟩ := by decide +kernel
  obtain ⟨world', hdone, _⟩ :=
    suppressFile_of_readText "no-y" (holding_readText _) (holding_writable _)
      (holding_encodable _ _)
  obtain ⟨content, new, hread, hnew, honly⟩ := suppressFile_onlyAdds_iff hrule hdone
  rw [holding_readText, Except.ok.injEq] at hread
  rw [← hread] at honly
  refine ⟨world', new, hdone, hnew, honly.2 ?_⟩
  unfold Edit.Extendable
  rw [htop]
  decide +kernel

/-- A comment for the next line becomes a part of a header. -/
theorem suppressFile_nextLine :
    ∃ world', suppressFile "/w/a.js" "no-var"
        (holding "/* eslint-disable-next-line no-alert */\nalert(1);\n") = .ok true world' ∧
      world'.files.readText "/w/a.js" =
        .ok "/* eslint-disable no-var,-next-line no-alert */\nalert(1);\n" ∧
      ¬ Edit.OnlyAdds "no-var".toList "/* eslint-disable-next-line no-alert */\nalert(1);\n".toList
        "/* eslint-disable no-var,-next-line no-alert */\nalert(1);\n".toList := by
  have hedit : Edit.suppressFile "no-var".toList
      "/* eslint-disable-next-line no-alert */\nalert(1);\n".toList =
      "/* eslint-disable no-var,-next-line no-alert */\nalert(1);\n".toList := by decide +kernel
  have hnone : Edit.Directive.atTop? "/* eslint-disable-next-line no-alert */\nalert(1);\n".toList =
      none := by decide +kernel
  have htop : Edit.Directive.atTop?
      "/* eslint-disable no-var,-next-line no-alert */\nalert(1);\n".toList =
      some ⟨["no-var".toList, "-next-line no-alert".toList], "\nalert(1);\n".toList⟩ := by
    decide +kernel
  obtain ⟨world', hdone, hnew⟩ :=
    suppressFile_of_readText "no-var" (holding_readText _) (holding_writable _)
      (holding_encodable _ _)
  rw [hedit, String.ofList_toList] at hnew
  refine ⟨world', hdone, hnew, ?_⟩
  intro honly
  obtain ⟨header, hheader, _, hrest⟩ := honly
  rw [htop, Option.some.injEq] at hheader
  rw [hnone, ← hheader] at hrest
  exact absurd hrest.2 (by decide +kernel)

end Patch
end LintRemedy
