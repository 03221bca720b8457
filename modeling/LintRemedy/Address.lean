import LintRemedy.HostName.Basic
import LintRemedy.Number.Numeral
import LintRemedy.Text.Percent
import LintRemedy.Text.Search

/-!
This module contains references to places on the net: their parts, their reading from text, and
their normal form, in which every part has codes where it needs them and the path takes no step
back.
-/

namespace LintRemedy

inductive AddressFault where
  | unprintable (character : Char) (position : Nat)
  | tooLong
  | partTooLong (part : String)
  | relativePath
  | doubleSlash
  | leadingColon
  | badTcpPort (text : String)
  | badHost (text : String)
  | badLongHost (text : String)
  | badHostName (text : String)
deriving DecidableEq, Repr

def AddressFault.message : AddressFault → String
  | unprintable character position =>
    "Invalid non-printable ASCII character in URL, " ++ Text.quoted character.toString
      ++ " at position " ++ toString position ++ "."
  | tooLong => "URL too long"
  | partTooLong part => "URL component '" ++ part ++ "' too long"
  | relativePath => "For absolute URLs, path must be empty or begin with '/'"
  | doubleSlash => "Relative URLs cannot have a path starting with '//'"
  | leadingColon => "Relative URLs cannot have a path starting with ':'"
  | badTcpPort text => "Invalid port: " ++ Text.quoted text
  | badHost text => "Invalid IPv4 address: " ++ Text.quoted text
  | badLongHost text => "Invalid IPv6 address: " ++ Text.quoted text
  | badHostName text => "Invalid IDNA hostname: " ++ Text.quoted text

/-- An address, or a part of one that is seen from another address. -/
structure Address where
  /-- The scheme in lower case, empty if there is none. -/
  scheme : String := ""
  /-- What stands before an at sign in front of the host. -/
  user : String := ""
  /-- The host in lower case, empty if there is none. -/
  host : String := ""
  /-- The TCP number after the host, unless it is the standard one of the scheme. -/
  tcpPort : Option Int := none
  path : String
  query : Option String := none
  fragment : Option String := none
deriving DecidableEq, Repr

namespace Address

/-- The most characters of an address and of each of its parts. -/
def maxLength : Nat := 65536

/-- Whether a character has no place in an address. -/
def isUnprintable (c : Char) : Bool :=
  c.toNat < 0x20 || c.toNat == 0x7F

/-- The first fault in the length and the characters of a text. -/
def textFault? (text : List Char) : Option AddressFault :=
  if maxLength < text.length then some .tooLong
  else
    match text.dropWhile (!isUnprintable ·) with
    | c :: rest => some (.unprintable c (text.length - rest.length - 1))
    | [] => none

/-- The scheme before the first colon and what follows it, if the text starts with one. -/
def takeScheme (text : List Char) : List Char × List Char :=
  let isSchemeChar := fun (c : Char) => c.isAlphanum || c == '+' || c == '.' || c == '-'
  let name := text.takeWhile isSchemeChar
  match name, text.drop name.length with
  | [], ':' :: rest => ([], rest)
  | first :: _, ':' :: rest => if first.isAlpha then (name, rest) else ([], text)
  | _, _ => ([], text)

/-- The authority after two slashes and what follows it, if the text starts with one. -/
def takeAuthority : List Char → List Char × List Char
  | '/' :: '/' :: rest =>
    let isInside := fun (c : Char) => c ≠ '/' && c ≠ '?' && c ≠ '#'
    (rest.takeWhile isInside, rest.dropWhile isInside)
  | text => ([], text)

/-- What follows a mark up to the next of the given characters, and the rest. -/
def takePart (mark : Char) (isEnd : Char → Bool) : List Char → Option (List Char) × List Char
  | [] => (none, [])
  | c :: rest =>
    if c = mark then (some (rest.takeWhile (!isEnd ·)), rest.dropWhile (!isEnd ·))
    else (none, c :: rest)

/-- Whether a host has the form of four numbers with dots between them. -/
def isFourNumbers (host : List Char) : Bool :=
  let parts := Text.splitAt '.' host
  parts.length = 4 && parts.all fun part => !part.isEmpty && part.all (·.isDigit)

/-- Whether a host is an address of four numbers below 256 without zeros in front. -/
def isFourBytes (host : List Char) : Bool :=
  isFourNumbers host && (Text.splitAt '.' host).all fun part =>
    part.length ≤ 3 && (part.head? ≠ some '0' || part.length = 1) && Numeral.value part < 256

/-- Whether a part of a long host is one to four hexadecimal digits. -/
def isHexGroup (part : List Char) : Bool :=
  !part.isEmpty && part.length ≤ 4
    && part.all fun c => c.isDigit || ('a' ≤ c && c ≤ 'f') || ('A' ≤ c && c ≤ 'F')

/-- The groups of a long host, with four numbers at its end as two groups. -/
def hexGroups? (host : List Char) : Option (List (List Char)) :=
  let groups := Text.splitAt ':' host
  let last := groups.getLast?.getD []
  if groups.length < 3 then none
  else if ¬ last.contains '.' then some groups
  else if isFourBytes last then some (groups.dropLast ++ [['0'], ['0']])
  else none

/-- Whether groups are eight, or fewer with one gap between two colons, which stands for the missing
ones. -/
def areEightGroups (groups : List (List Char)) : Bool :=
  let inner := groups.drop 1 |>.dropLast
  let first := groups.head?.getD []
  let last := groups.getLast?.getD []
  if inner.all (!·.isEmpty) then groups.length = 8 && groups.all isHexGroup
  else
    let before := (groups.take 1 ++ inner.takeWhile (!·.isEmpty)).filter (!·.isEmpty)
    let after := ((inner.dropWhile (!·.isEmpty)).drop 1 ++ [last]).filter (!·.isEmpty)
    inner.countP (·.isEmpty) = 1
      && (!first.isEmpty || before.isEmpty) && (!last.isEmpty || after.isEmpty)
      && before.length + after.length < 8 && (before ++ after).all isHexGroup

/-- Whether a host without its brackets is an address of eight groups, with the name of a zone after
a percent sign if there is one. -/
def isLongHost (host : List Char) : Bool :=
  let zone := host.dropWhile (· ≠ '%')
  (zone.isEmpty || (zone.length ≠ 1 && !(zone.drop 1).contains '%'))
    && (hexGroups? (host.takeWhile (· ≠ '%'))).any areEightGroups

/-- The user before the last at sign and what follows it. -/
def takeUser (authority : List Char) : List Char × List Char :=
  let after := (authority.reverse.takeWhile (· ≠ '@')).reverse
  (authority.take (authority.length - after.length - 1), after)

/-- The host in brackets or before the first colon, and the number after it. -/
def splitHost (text : List Char) : List Char × List Char :=
  let bracketed := (text.reverse.dropWhile (· ≠ ']')).reverse
  let host :=
    if text.head? = some '[' ∧ ¬ bracketed.isEmpty then bracketed
    else text.takeWhile (· ≠ ':')
  (host, match text.drop host.length with
    | ':' :: digits => digits
    | digits => digits)

/-- The TCP numbers that need not be named. -/
def standardTcpPort? (scheme : String) : Option Int :=
  if scheme = "http" ∨ scheme = "ws" then some 80
  else if scheme = "https" ∨ scheme = "wss" then some 443
  else if scheme = "ftp" then some 21
  else none

/-- The normal form of a host. Brackets around it are taken off, and a name beyond ASCII has its
form in ASCII. -/
def normalHost (host : List Char) : Except AddressFault String :=
  if isFourNumbers host then
    if isFourBytes host then .ok (String.ofList host) else .error (.badHost (String.ofList host))
  else if host.head? = some '[' ∧ host.getLast? = some ']' then
    let inner := (host.drop 1).dropLast
    if isLongHost inner then .ok (String.ofList inner)
    else .error (.badLongHost (String.ofList host))
  else if host.all Text.isAscii then
    .ok (Text.encodePercent Text.isHostChar (Text.lowered (String.ofList host)))
  else
    match HostName.toAscii? (String.ofList host) with
    | some name => .ok name
    | none => .error (.badHostName (String.ofList host))

/-- The TCP number that a text spells, unless it is the standard one of a scheme. -/
def normalTcpPort (scheme : String) (digits : List Char) : Except AddressFault (Option Int) :=
  if digits.isEmpty then .ok none
  else
    match Numeral.toInt (String.ofList digits) with
    | .error _ => .error (.badTcpPort (String.ofList digits))
    | .ok number => .ok (if standardTcpPort? scheme = some number then none else some number)

/-- Adds a component to the components so far, which come last first: `.` is left out, and `..`
takes one back unless only the start of the path is there. -/
def push (done : List (List Char)) (component : List Char) : List (List Char) :=
  if component = ['.'] then done
  else if component = ['.', '.'] then (if done = [] ∨ done = [[]] then done else done.tail)
  else component :: done

/-- The path without components that stay or step back. -/
def normalPath (path : List Char) : String :=
  let components := ((Text.splitAt '/' path).foldl push []).reverse
  String.ofList (List.intersperse ['/'] components).flatten

/-- The fault of a path after a scheme and an authority that are there or not. -/
def pathFault? (hasScheme hasAuthority : Bool) (path : List Char) : Option AddressFault :=
  match path with
  | [] => none
  | first :: rest =>
    if hasAuthority ∧ first ≠ '/' then some .relativePath
    else if hasScheme ∨ hasAuthority then none
    else if first = '/' ∧ rest.head? = some '/' then some .doubleSlash
    else if first = ':' then some .leadingColon
    else none

def hasAuthority (address : Address) : Bool :=
  address.user ≠ "" || address.host ≠ "" || address.tcpPort.isSome

def withNormalPath (address : Address) (path : List Char) : Except AddressFault Address :=
  let hasScheme : Bool := address.scheme ≠ ""
  match pathFault? hasScheme address.hasAuthority path with
  | some fault => .error fault
  | none =>
    let path :=
      if hasScheme ∨ address.hasAuthority then normalPath path else String.ofList path
    .ok { address with path := Text.encodePercent Text.isPathChar path }

def parse (text : String) : Except AddressFault Address := do
  let cs := text.toList
  if let some fault := textFault? cs then throw fault
  let (scheme, rest) := takeScheme cs
  let (authority, rest) := takeAuthority rest
  let isPathEnd := fun (c : Char) => c == '?' || c == '#'
  let path := rest.takeWhile (!isPathEnd ·)
  let (query, rest) := takePart '?' (· == '#') (rest.dropWhile (!isPathEnd ·))
  let (fragment, _) := takePart '#' (fun _ => false) rest
  let scheme := Text.lowered (String.ofList scheme)
  let (user, place) := takeUser authority
  let (host, digits) := splitHost place
  let host ← normalHost host
  let tcpPort ← normalTcpPort scheme digits
  let encode := fun (isSafe : Char → Bool) (cs : List Char) =>
    Text.encodePercent isSafe (String.ofList cs)
  let address : Address := {
    scheme, host, tcpPort
    user := String.ofList user
    path := ""
    query := query.map (encode Text.isQueryChar)
    fragment := fragment.map (encode Text.isFragmentChar) }
  address.withNormalPath path

/-- The host of an address, with the TCP number where it is not the standard one. -/
def netLocation (address : Address) : String :=
  (if address.host.toList.contains ':' then "[" ++ address.host ++ "]" else address.host)
    ++ address.tcpPort.elim "" fun n => ":" ++ toString n

def text (address : Address) : String :=
  let user := if address.user = "" then "" else address.user ++ "@"
  (if address.scheme = "" then "" else address.scheme ++ ":")
    ++ (if address.hasAuthority then "//" ++ user ++ address.netLocation else "")
    ++ address.path ++ (address.query.elim "" ("?" ++ ·)) ++ (address.fragment.elim "" ("#" ++ ·))

def lengthFault? (path : String) (query : Option String) : Option AddressFault :=
  if maxLength < path.length then some (.partTooLong "path")
  else if maxLength < (query.getD "").length then some (.partTooLong "query")
  else none

/-- The address with another query. No part may be too long. -/
def withQuery (address : Address) (query : String) : Except AddressFault Address :=
  match lengthFault? address.path (some query) with
  | some fault => .error fault
  | none =>
    if maxLength < (address.fragment.getD "").length then .error (.partTooLong "fragment")
    else .ok { address with query := some query }

/-- Whether an address names a scheme and a host, so that it is seen from nowhere else. -/
def isAbsolute (address : Address) : Bool :=
  address.scheme ≠ "" && address.host ≠ ""

/-- The address seen from the root of another one, without its fragment. Slashes at its start have
no meaning. -/
def seenFrom (base address : Address) : Except AddressFault Address :=
  if address.isAbsolute then .ok address
  else
    let path := '/' :: address.path.toList.dropWhile (· = '/')
    match lengthFault? (String.ofList path) address.query with
    | some fault => .error fault
    | none => { base with query := address.query, fragment := none }.withNormalPath path

/-- The text that a path stands for. An empty path is that of the root. -/
def plainPath (address : Address) : String :=
  Text.decodePercent (if address.path = "" then "/" else address.path)

end Address
end LintRemedy
