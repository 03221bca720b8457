import LintRemedy.Text.Quoted

/-!
This module contains the ASCII characters, and the codes that stand for other characters in a text
that is made of them only.
-/

namespace LintRemedy
namespace Text

def isAscii (c : Char) : Bool :=
  c.toNat < 128

/-- The text with codes for all characters beyond ASCII. -/
def toAscii (cs : List Char) : List Char :=
  cs.flatMap fun c => if isAscii c then [c] else charCode c

end Text
end LintRemedy
