import KotlinBuilders.Json.Number
import KotlinBuilders.Json.StringText

/-!
# Tokens of a JSON text

A text falls into brackets, separators, words, numbers and strings; white space
between them is dropped.  Cutting a text into tokens never fails: a word, number
or string that is not well formed is a token that says so, and a byte that
begins none of them is a stray one.
-/

namespace KotlinBuilders.Json

/-- The three words. -/
inductive Word where
  | null
  | bool (value : Bool)
  deriving DecidableEq, Repr

/-- What a word is called in a refusal. -/
def Word.found : Word → Found
  | .null => .null
  | .bool value => .bool value

/-- One token of a text. -/
inductive Token where
  | openList
  | closeList
  | openObject
  | closeObject
  | comma
  | colon
  | word (word : Word) (ending : Ending)
  | number (number : NumberText)
  | string (string : StringText)
  | stray
  deriving DecidableEq, Repr

/-- How a text continues a word of which the given bytes are missing, and the
rest. -/
def scanWord : (missing : List UInt8) → List UInt8 → Ending × List UInt8
  | [], text => (.complete, text)
  | _ :: _, [] => (.cut, [])
  | b :: missing, c :: rest => if b = c then scanWord missing rest
      else (.broken, rest)

/-- Scanning a keyword leaves at most what it was given. -/
theorem length_scanWord_le (missing text : List UInt8) :
    (scanWord missing text).2.length ≤ text.length := by
  fun_induction scanWord missing text <;> simp_all
  omega

/-- Whether a byte is white space between tokens. -/
def isSpace (b : UInt8) : Bool := b == 32 || b == 10 || b == 9 || b == 13

/-- The word that a letter begins, and what has to follow it. -/
def wordFrom? (b : UInt8) : Option (Word × List UInt8) :=
  if b = 110 then some (.null, [117, 108, 108])
  else if b = 116 then some (.bool true, [114, 117, 101])
  else if b = 102 then some (.bool false, [97, 108, 115, 101])
  else none

/-- The token that is a single byte. -/
def single? (b : UInt8) : Option Token :=
  if b = 91 then some .openList
  else if b = 93 then some .closeList
  else if b = 123 then some .openObject
  else if b = 125 then some .closeObject
  else if b = 44 then some .comma
  else if b = 58 then some .colon
  else none

/-- The token that begins with a byte which is not white space, and the rest. -/
def scanToken (b : UInt8) (rest : List UInt8) : Token × List UInt8 :=
  match single? b, wordFrom? b with
  | some token, _ => (token, rest)
  | none, some (word, missing) =>
    let scanned := scanWord missing rest
    (.word word scanned.1, scanned.2)
  | none, none =>
    if b = 34 then
      let scanned := scanString rest
      (.string scanned.1, scanned.2)
    else if b = 45 then
      let scanned := scanMagnitude { isNegative := true } rest
      (.number scanned.1, scanned.2)
    else if isDigit b then
      let scanned := scanMagnitude {} (b :: rest)
      (.number scanned.1, scanned.2)
    else (.stray, rest)

/-- Scanning a token leaves at most what follows its first byte. -/
theorem length_scanToken_le (b : UInt8) (rest : List UInt8) :
    (scanToken b rest).2.length ≤ rest.length := by
  unfold scanToken
  repeat' split
  · simp
  · exact length_scanWord_le _ _
  · exact length_scanString_le _
  · exact length_scanMagnitude_le _ _
  · next digit => exact length_scanMagnitude_cons_le _ _ digit
  · simp

/-- The tokens of a text. -/
def tokens : List UInt8 → List Token
  | [] => []
  | b :: rest =>
    if isSpace b then tokens rest
    else (scanToken b rest).1 :: tokens (scanToken b rest).2
termination_by text => text.length
decreasing_by
  · simp
  · exact Nat.lt_succ_of_le (length_scanToken_le b rest)

end KotlinBuilders.Json
