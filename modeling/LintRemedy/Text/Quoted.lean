import LintRemedy.Text.Encoding
import LintRemedy.Text.Printable

/-!
This module contains the quoted form of text, in which every character is visible: quotes around it,
a backslash before quotes and backslashes, and codes in place of unprintable characters.
-/

namespace LintRemedy
namespace Text

/-- The lower-case hexadecimal digits of `n`, padded with zeros to a width. -/
def hexDigits (width n : Nat) : List Char :=
  let digits := Nat.toDigits 16 n
  List.replicate (width - digits.length) '0' ++ digits

/-- The quote around a text: the single one, unless the text holds single quotes and no double
ones. -/
def quoteFor (cs : List Char) : Char :=
  if cs.contains '\'' && !cs.contains '"' then '"' else '\''

/-- The code of a character, as short as its number allows. -/
def charCode (c : Char) : List Char :=
  let code := codePoint c
  if code < 0x100 then '\\' :: 'x' :: hexDigits 2 code
  else if code < 0x10000 then '\\' :: 'u' :: hexDigits 4 code
  else '\\' :: 'U' :: hexDigits 8 code

/-- The form of one character between quotes of the given kind. -/
def quoteChar (quote c : Char) : List Char :=
  if c = quote || c = '\\' then ['\\', c]
  else if c = '\t' then ['\\', 't']
  else if c = '\n' then ['\\', 'n']
  else if c = '\r' then ['\\', 'r']
  else if isPrintable c then [c]
  else charCode c

def quote (cs : List Char) : List Char :=
  let mark := quoteFor cs
  mark :: cs.flatMap (quoteChar mark) ++ [mark]

def quoted (s : String) : String :=
  String.ofList (quote s.toList)

end Text
end LintRemedy
