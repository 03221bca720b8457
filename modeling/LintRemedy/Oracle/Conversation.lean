/-!
This module contains the conversation with the oracle: its handle and the file that it is about. The
conversation about one file is dropped before work on another one starts.
-/

namespace LintRemedy

structure Conversation where
  handle : Option String := none
  file : Option String := none
  resets : Nat := 0
deriving DecidableEq, Repr

namespace Conversation

/-- Takes over the handle of a reply, unless it has none. -/
def update (handle : Option String) (conversation : Conversation) : Conversation :=
  match handle with
  | none => conversation
  | some h => if h = "" then conversation else { conversation with handle := some h }

def reset (conversation : Conversation) : Conversation :=
  { conversation with handle := none, resets := conversation.resets + 1 }

/-- Turns to a file, and tells whether the conversation was dropped for it. That is so if the work
was on another file before. -/
def turnTo (file : Option String) (conversation : Conversation) : Bool × Conversation :=
  match file with
  | none => (false, conversation)
  | some name =>
    if name = "" ∨ conversation.file = some name then (false, conversation)
    else
      let turned := { conversation with file := some name }
      match conversation.file with
      | none => (false, turned)
      | some _ => (true, turned.reset)

end Conversation
end LintRemedy
