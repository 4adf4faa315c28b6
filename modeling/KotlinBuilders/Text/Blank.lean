import KotlinBuilders.Text.Ranges

/-!
# Blank characters and trimming

Blank characters are those with the Unicode property `White_Space`: the six
ASCII ones, next line, the no-break space and the spaces and separators of the
general punctuation.  The zero-width space, the zero-width no-break space and
the Mongolian vowel separator are not among them.

`trim` drops the blank characters at both ends and nothing else.
-/

namespace KotlinBuilders.Text

/-- The code points with the property `White_Space`. -/
def blankRanges : Ranges :=
  [(0x9, 0xd), (0x20, 0x20), (0x85, 0x85), (0xa0, 0xa0), (0x1680, 0x1680),
    (0x2000, 0x200a), (0x2028, 0x2029), (0x202f, 0x202f), (0x205f, 0x205f),
    (0x3000, 0x3000)]

/-- Whether a character is white space. -/
def isBlank (c : Char) : Bool := blankRanges.holds c

/-- The text without the blank characters it begins with. -/
def trimStart (text : List Char) : List Char := text.dropWhile isBlank

/-- The text without the blank characters it ends with. -/
def trimEnd (text : List Char) : List Char := (trimStart text.reverse).reverse

/-- The text without the blank characters at its two ends. -/
def trim (text : List Char) : List Char := trimEnd (trimStart text)

@[simp] theorem trim_nil : trim [] = [] := rfl

/-- Dropping leading blanks never lengthens a text. -/
theorem length_trimStart_le (text : List Char) :
    (trimStart text).length ≤ text.length :=
  (List.dropWhile_sublist _).length_le

/-- Dropping trailing blanks never lengthens a text. -/
theorem length_trimEnd_le (text : List Char) :
    (trimEnd text).length ≤ text.length := by
  simpa [trimEnd] using length_trimStart_le text.reverse

/-- Trimming never lengthens a text. -/
theorem length_trim_le (text : List Char) : (trim text).length ≤ text.length :=
  Nat.le_trans (length_trimEnd_le _) (length_trimStart_le _)

end KotlinBuilders.Text

namespace String

/-- The text without the blank characters at its two ends. -/
def trimBlank (text : String) : String :=
  ofList (KotlinBuilders.Text.trim text.toList)

end String
