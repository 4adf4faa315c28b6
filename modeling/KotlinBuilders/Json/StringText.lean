import KotlinBuilders.Json.Fault

/-!
# Strings in a JSON text

A string is kept the way it is written: single bytes, escapes of single
characters and escapes of sixteen-bit units, and how it ends.  Only a string
that is wanted is decoded.  Decoding joins surrogate pairs and asks that the
bytes, taken together, are UTF-8; a string that is skipped only has to end well.
-/

namespace KotlinBuilders.Json

/-- One piece of a string as it is written. -/
inductive Piece where
  | byte (b : UInt8)
  | escaped (b : UInt8)
  | unit (n : Nat)
  deriving DecidableEq, Repr

/-- How a string ends: at its closing mark, at the end of the whole text, or
before something that it cannot have. -/
inductive StringEnd where
  | closed
  | cut
  | control
  | badEscape
  | badUnit
  deriving DecidableEq, Repr

/-- A string as it is written. -/
structure StringText where
  pieces : List Piece
  ending : StringEnd
  deriving DecidableEq, Repr

namespace StringText

/-- The string with one more piece in front. -/
def prepend (piece : Piece) (string : StringText) : StringText :=
  ⟨piece :: string.pieces, string.ending⟩

/-- A string without pieces. -/
def ended (ending : StringEnd) : StringText := ⟨[], ending⟩

end StringText

/-- The byte that a letter after a backslash stands for. -/
def escapedByte? (b : UInt8) : Option UInt8 :=
  if b = 34 ∨ b = 92 ∨ b = 47 then some b
  else if b = 98 then some 8
  else if b = 102 then some 12
  else if b = 110 then some 10
  else if b = 114 then some 13
  else if b = 116 then some 9
  else none

/-- The value of a hexadecimal digit. -/
def hexValue? (b : UInt8) : Option Nat :=
  if 48 ≤ b ∧ b ≤ 57 then some (b.toNat - 48)
  else if 97 ≤ b ∧ b ≤ 102 then some (b.toNat - 87)
  else if 65 ≤ b ∧ b ≤ 70 then some (b.toNat - 55)
  else none

/-- The sixteen-bit unit of four hexadecimal digits. -/
def unitValue? (a b c d : UInt8) : Option Nat := do
  let a ← hexValue? a
  let b ← hexValue? b
  let c ← hexValue? c
  let d ← hexValue? d
  return ((a * 16 + b) * 16 + c) * 16 + d

/-- The string after an opening mark, and the rest. -/
def scanString : List UInt8 → StringText × List UInt8
  | [] => (.ended .cut, [])
  | b :: rest =>
    if b = 34 then (.ended .closed, rest)
    else if b < 32 then (.ended .control, rest)
    else if b = 92 then
      match rest with
      | [] => (.ended .cut, [])
      | letter :: rest =>
        if letter = 117 then
          match rest with
          | a :: b :: c :: d :: rest =>
            match unitValue? a b c d with
            | some n =>
              ((scanString rest).1.prepend (.unit n), (scanString rest).2)
            | none => (.ended .badUnit, rest)
          | _ => (.ended .cut, [])
        else
          match escapedByte? letter with
          | some b =>
            ((scanString rest).1.prepend (.escaped b), (scanString rest).2)
          | none => (.ended .badEscape, rest)
    else ((scanString rest).1.prepend (.byte b), (scanString rest).2)

/-- Scanning a string leaves at most what it was given. -/
theorem length_scanString_le (text : List UInt8) :
    (scanString text).2.length ≤ text.length := by
  fun_induction scanString text <;> simp_all <;> omega

/-- The first unit of a surrogate pair. -/
def isLeading (n : Nat) : Bool := 0xd800 ≤ n && n < 0xdc00

/-- The second unit of a surrogate pair. -/
def isTrailing (n : Nat) : Bool := 0xdc00 ≤ n && n < 0xe000

/-- The code point of a surrogate pair. -/
def pairValue (leading trailing : Nat) : Nat :=
  0x10000 + (leading - 0xd800) * 0x400 + (trailing - 0xdc00)

/-- The UTF-8 bytes of a code point. -/
def pointBytes (n : Nat) : List UInt8 := String.utf8EncodeChar (Char.ofNat n)

/-- The fault of a string that ends in a given way, if that is one. -/
def StringEnd.fault? : StringEnd → Option Fault
  | .closed => none
  | .cut => some .stringCut
  | .control => some .controlCharacter
  | .badEscape => some .invalidEscape
  | .badUnit => some .invalidEscape

/-- The fault of a string that ends in a given way after the first unit of a
surrogate pair. -/
def StringEnd.faultInPair : StringEnd → Fault
  | .cut => .stringCut
  | .badUnit => .invalidEscape
  | _ => .brokenSurrogatePair

/-- The bytes of the pieces of a string that ends in a given way. -/
def piecesBytes (ending : StringEnd) : List Piece → Except Fault (List UInt8)
  | [] =>
    match ending.fault? with
    | none => .ok []
    | some fault => .error fault
  | .byte b :: rest => (piecesBytes ending rest).map (b :: ·)
  | .escaped b :: rest => (piecesBytes ending rest).map (b :: ·)
  | .unit n :: rest =>
    if isTrailing n then .error .loneSurrogate
    else if isLeading n then
      match rest with
      | [] => .error ending.faultInPair
      | .unit m :: rest =>
        if isTrailing m
          then (piecesBytes ending rest).map (pointBytes (pairValue n m) ++ ·)
        else .error .loneSurrogate
      | _ :: _ => .error .brokenSurrogatePair
    else (piecesBytes ending rest).map (pointBytes n ++ ·)

namespace StringText

/-- The text of a string. -/
def decode (string : StringText) : Except Fault String :=
  match piecesBytes string.ending string.pieces with
  | .ok bytes =>
    match String.fromUTF8? ⟨bytes.toArray⟩ with
    | some text => .ok text
    | none => .error .invalidCodePoint
  | .error fault => .error fault

/-- The fault of a string that is skipped, if it has one. -/
def faultSkipped? (string : StringText) : Option Fault := string.ending.fault?

end StringText

end KotlinBuilders.Json
