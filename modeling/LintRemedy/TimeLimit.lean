import LintRemedy.Json.Kind

/-!
This module contains limits of time. A limit may be given by any value, and most of those that are
no numbers turn out to be wrong only when the limit is looked at.
-/

namespace LintRemedy

inductive TimeLimit where
  /-- A binary number of seconds. -/
  | seconds (count : Binary64)
  /-- A whole number of seconds. -/
  | wholeSeconds (count : Int)
  /-- A value that is no number. Without a value there is no limit. -/
  | other (kind : ValueKind)
deriving DecidableEq, Repr

inductive TimeLimitFault where
  | tooLarge
  /-- The value cannot be shown as a number. -/
  | notNumeric (kind : ValueKind)
  /-- The value cannot be compared with a number. -/
  | notOrdered (kind : ValueKind)
deriving DecidableEq, Repr

def TimeLimitFault.message : TimeLimitFault → String
  | tooLarge => "int too large to convert to float"
  | notNumeric .text => "Unknown format code 'f' for object of type 'str'"
  | notNumeric kind => "unsupported format string passed to " ++ kind.name ++ ".__format__"
  | notOrdered kind =>
    "'<=' not supported between instances of '" ++ kind.name ++ "' and 'int'"

namespace TimeLimit

def ofJson : Json → TimeLimit
  | .float count => seconds count
  | .int count => wholeSeconds count
  | .bool b => wholeSeconds (if b then 1 else 0)
  | v => other (.of v)

def number : TimeLimit → Except TimeLimitFault Binary64
  | seconds count => .ok count
  | wholeSeconds count =>
    match Binary64.ofInt count with
    | .infinite _ => .error .tooLarge
    | count => .ok count
  | other kind => .error (.notNumeric kind)

def isOver : TimeLimit → Except TimeLimitFault Bool
  | seconds count => .ok count.isAtMostZero
  | wholeSeconds count =>
    if count ≤ 0 then .ok true else (fun _ => false) <$> number (wholeSeconds count)
  | other .null => .ok false
  | other kind => .error (.notOrdered kind)

end TimeLimit
end LintRemedy
