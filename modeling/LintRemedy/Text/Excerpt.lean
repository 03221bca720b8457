/-!
This module contains the shortening of long texts: their start and their end, with dots between.
-/

namespace LintRemedy
namespace Text

/-- The characters at the start of a text that take at most this many bytes. -/
def takeBytes (limit : Nat) : List Char → List Char
  | [] => []
  | c :: cs => if c.utf8Size ≤ limit then c :: takeBytes (limit - c.utf8Size) cs else []

/-- A text of more than 50 bytes is shown by its first 25 and its last 24 bytes, without the
characters that are cut in two. -/
def excerpt (s : String) : String :=
  if s.utf8ByteSize ≤ 50 then s
  else
    let cs := s.toList
    String.ofList (takeBytes 25 cs) ++ "..." ++ String.ofList (takeBytes 24 cs.reverse).reverse

end Text
end LintRemedy
