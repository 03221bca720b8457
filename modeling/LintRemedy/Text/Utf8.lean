import LintRemedy.Text.Encoding

/-!
This module contains the reading of bytes as UTF-8 text: the strict reading, the lenient one that
puts a replacement character in the place of every maximal invalid part, and one that tells the
first invalid part but lets halves of pairs pass.
-/

namespace LintRemedy
namespace Text

/-- What the start of a byte sequence holds. -/
inductive Utf8Step where
  /-- A character of this many bytes. -/
  | char (c : Char) (size : Nat)
  /-- An invalid part of this many bytes. -/
  | invalid (size : Nat)
deriving DecidableEq, Repr

/-- The bounds for the second byte of a sequence with this first byte. They keep out overlong forms,
surrogates and values past U+10FFFF. -/
def secondByteBounds (first : Nat) : Nat × Nat :=
  if first = 0xE0 then (0xA0, 0xBF)
  else if first = 0xED then (0x80, 0x9F)
  else if first = 0xF0 then (0x90, 0xBF)
  else if first = 0xF4 then (0x80, 0x8F)
  else (0x80, 0xBF)

/-- The number of bytes that a first byte announces, zero for a byte that starts nothing. -/
def sequenceSize (first : Nat) : Nat :=
  if first < 0x80 then 1
  else if 0xC2 ≤ first ∧ first ≤ 0xDF then 2
  else if 0xE0 ≤ first ∧ first ≤ 0xEF then 3
  else if 0xF0 ≤ first ∧ first ≤ 0xF4 then 4
  else 0

/-- How many bytes at the start of the list are continuation bytes, at most `limit`. -/
def continuationRun (limit : Nat) (bytes : List UInt8) : Nat :=
  ((bytes.take limit).takeWhile fun b => 0x80 ≤ b && b ≤ 0xBF).length

/-- The reading of the first character of a byte sequence. -/
def utf8Step (first : UInt8) (rest : List UInt8) : Utf8Step :=
  let lead := first.toNat
  let size := sequenceSize lead
  if size = 0 then .invalid 1
  else if size = 1 then .char (Char.ofNat lead) 1
  else
    let (low, high) := secondByteBounds lead
    match rest with
    | [] => .invalid 1
    | second :: more =>
      if second.toNat < low ∨ high < second.toNat then .invalid 1
      else
        let run := continuationRun (size - 2) more
        if run < size - 2 then .invalid (run + 2)
        else
          let start := lead % Nat.pow 2 (7 - size)
          let code := (second :: more.take (size - 2)).foldl
            (fun code byte => code * 64 + byte.toNat % 64) start
          .char (Char.ofNat code) size

/-- The characters of a byte sequence, with the replacement for its invalid parts. -/
def decodeUtf8 : (bytes : List UInt8) → List Char
  | [] => []
  | first :: rest =>
    match utf8Step first rest with
    | .char c size => c :: decodeUtf8 (rest.drop (size - 1))
    | .invalid size => replacement :: decodeUtf8 (rest.drop (size - 1))
termination_by bytes => bytes.length
decreasing_by
  all_goals
    simp only [List.length_drop, List.length_cons]
    omega

/-- The characters of a byte sequence, if all of it is valid. -/
def decodeUtf8? : (bytes : List UInt8) → Option (List Char)
  | [] => some []
  | first :: rest =>
    match utf8Step first rest with
    | .char c size => (decodeUtf8? (rest.drop (size - 1))).map (c :: ·)
    | .invalid _ => none
termination_by bytes => bytes.length
decreasing_by
  simp only [List.length_drop, List.length_cons]
  omega

/-- What follows half of a pair that is encoded like a character, in three bytes. -/
def afterHalf? : List UInt8 → Option (List UInt8)
  | first :: second :: third :: rest =>
    if first = 0xED ∧ 0xA0 ≤ second ∧ second ≤ 0xBF ∧ 0x80 ≤ third ∧ third ≤ 0xBF then some rest
    else none
  | _ => none

theorem length_of_afterHalf? {bytes rest : List UInt8} (h : afterHalf? bytes = some rest) :
    rest.length + 3 = bytes.length := by
  unfold afterHalf? at h
  split at h
  · split at h
    · simp_all
    · simp at h
  · simp at h

/-- The characters of bytes that start at a position. Half of a pair that stands alone is read as
the replacement character. -/
def decodeUtf8From (position : Nat) : (bytes : List UInt8) → Except BytesFault (List Char)
  | [] => .ok []
  | first :: rest =>
    match h : afterHalf? (first :: rest) with
    | some after => (replacement :: ·) <$> decodeUtf8From (position + 3) after
    | none =>
      match utf8Step first rest with
      | .char c size => (c :: ·) <$> decodeUtf8From (position + size) (rest.drop (size - 1))
      | .invalid size =>
        let cause : BytesCause :=
          if sequenceSize first.toNat = 0 then .badStart
          else if rest.length + 1 = size then .cutOff
          else .badContinuation
        .error ⟨.utf8, first, position, size, cause⟩
termination_by bytes => bytes.length
decreasing_by
  · have := length_of_afterHalf? h
    omega
  · simp only [List.length_drop, List.length_cons]
    omega

/-- The bytes that a text of hexadecimal digits names, two digits a byte. -/
def hexBytes? : List Char → Option (List UInt8)
  | [] => some []
  | [_] => none
  | high :: low :: rest => do
    let value ← hexValue? high
    let value' ← hexValue? low
    let bytes ← hexBytes? rest
    return UInt8.ofNat (value * 16 + value') :: bytes
where
  hexValue? (c : Char) : Option Nat :=
    if c.isDigit then some (c.toNat - 48)
    else if 'a' ≤ c ∧ c ≤ 'f' then some (c.toNat - 87)
    else if 'A' ≤ c ∧ c ≤ 'F' then some (c.toNat - 55)
    else none

end Text
end LintRemedy
