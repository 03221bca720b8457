import LintRemedy.HostName.Label

/-!
This module contains the names of hosts: their form in ASCII, and the check of a name in that form.
-/

namespace LintRemedy
namespace HostName

def isDot (c : Char) : Bool :=
  c == '.' || c == '\u3002' || c == '\uff0e' || c == '\uff61'

/-- The labels of a host name. A dot at the end separates nothing. -/
def labels (host : List Char) : List (List Char) :=
  let labels := Text.splitAt '.' (host.map fun c => if isDot c then '.' else c)
  if labels.getLast? = some [] then labels.dropLast else labels

/-- The form of a host name in ASCII, in lower case, if it has one that is not too long. -/
def toAscii? (host : String) : Option String := do
  let name := (Text.lowered host).toList
  guard (name.length ≤ maxLength)
  let ascii ← (labels name).mapM asciiLabel?
  let last := if name.getLast?.any isDot then ['.'] else []
  let joined := (ascii.intersperse ['.']).flatten ++ last
  guard (joined.length < maxLength + last.length)
  return String.ofList joined

/-- The fault of a host name in ASCII that begins with an encoded label. All other ones are taken as
they are. -/
def fault? (host : String) : Option LabelFault :=
  let name := host.toList
  if (Text.after? encodedMark name).isNone then none
  else if maxLength < name.length then some .malformed
  else (labels name).findSome? asciiLabelFault?

end HostName
end LintRemedy
