import LintRemedy.Text.Encoding

/-!
This module contains the reading of bytes as UTF-32 text. A number that belongs to pairs of code
units is read as the replacement character.
-/

namespace LintRemedy
namespace Text

/-- The characters of bytes that start at a position. -/
def decodeUtf32 (order : ByteOrder) (position : Nat) : List UInt8 → Except BytesFault (List Char)
  | [] => .ok []
  | a :: b :: c :: d :: rest =>
    let code := order.value [a, b, c, d]
    if code < 0x110000 then (codeChar code :: ·) <$> decodeUtf32 order (position + 4) rest
    else .error ⟨.utf32 order, a, position, 4, .outOfRange⟩
  | first :: rest => .error ⟨.utf32 order, first, position, rest.length + 1, .truncated⟩

end Text
end LintRemedy
