import LintRemedy.Text.Blank

/-!
This module contains the splitting of a command line into words by the quoting rules of a shell:
blanks part words, single quotes keep everything, double quotes keep everything but a backslash
before a quote or a backslash, and a backslash outside quotes keeps the next character.
-/

namespace LintRemedy
namespace Text

/-- Why a command line cannot be split. -/
inductive ShellFault where
  | unclosedQuote
  | unfinishedEscape
deriving DecidableEq, Repr

def ShellFault.message : ShellFault → String
  | unclosedQuote => "No closing quotation"
  | unfinishedEscape => "No escaped character"

def isShellBlank (c : Char) : Bool :=
  c == ' ' || c == '\t' || c == '\r' || c == '\n'

def shellWords (s : String) : Except ShellFault (List String) :=
  between s.toList
where
  between : List Char → Except ShellFault (List String)
    | [] => .ok []
    | '\'' :: cs => single [] cs
    | '"' :: cs => double [] cs
    | '\\' :: cs => escape [] cs
    | c :: cs => if isShellBlank c then between cs else word [c] cs
  /-- Inside a word, whose characters so far come last first. -/
  word (acc : List Char) : List Char → Except ShellFault (List String)
    | [] => .ok [String.ofList acc.reverse]
    | '\'' :: cs => single acc cs
    | '"' :: cs => double acc cs
    | '\\' :: cs => escape acc cs
    | c :: cs =>
      if isShellBlank c then (String.ofList acc.reverse :: ·) <$> between cs
      else word (c :: acc) cs
  /-- After a backslash outside quotes. -/
  escape (acc : List Char) : List Char → Except ShellFault (List String)
    | [] => .error .unfinishedEscape
    | c :: cs => word (c :: acc) cs
  /-- Inside single quotes. -/
  single (acc : List Char) : List Char → Except ShellFault (List String)
    | [] => .error .unclosedQuote
    | '\'' :: cs => word acc cs
    | c :: cs => single (c :: acc) cs
  /-- Inside double quotes. -/
  double (acc : List Char) : List Char → Except ShellFault (List String)
    | [] => .error .unclosedQuote
    | '"' :: cs => word acc cs
    | ['\\'] => .error .unfinishedEscape
    | '\\' :: c :: cs =>
      if c = '"' ∨ c = '\\' then double (c :: acc) cs else double (c :: '\\' :: acc) cs
    | c :: cs => double (c :: acc) cs

end Text
end LintRemedy
