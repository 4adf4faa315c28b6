import KotlinBuilders.Text.Emoji
import KotlinBuilders.Text.Ligature

/-!
# How many columns a text takes

A text takes the columns of its characters, except where several of them are
shown as one: as a picture, as a flag or as a ligature.  Whether a character is
part of such a group depends on what comes after it, so a text is measured from
its end on, and `Sequel` is what a character has to know about the characters
after it.

A picture is a character that is one by itself or that a selector asks for as
one.  It takes two columns together with the skin tone after it, and so do
several pictures with a joiner between each two of them.  A text of plain Latin
letters takes as many columns as it has characters (`width_of_le`).
-/

namespace KotlinBuilders.Text

/-- What the rest of a text begins with. -/
inductive Opening where
  /-- Nothing that matters to the character before it. -/
  | other
  | ligature (ending : Ending)
  /-- The second half of a Kirat Rai vowel: the sign e, or what is written like
  the sign ai. -/
  | vowelE
  | vowelAi
  | skinTone
  /-- One regional indicator, or several. -/
  | indicator
  | indicators
  | picture
  /-- A joiner and a picture, with what belongs to a picture before the joiner
  as far as it was met. -/
  | joined
  | joinedKeycap
  | joinedIndicator
  | joinedIndicators (isEven : Bool)
  | joinedTags (letters digits : Nat)
  deriving DecidableEq, Repr

/-- What a character has to know about the characters after it: what they begin
with, and whether a selector asks for the character as a picture, as narrow text
or in a wide form. -/
structure Sequel where
  opening : Opening := .other
  asksPicture : Bool := false
  asksText : Bool := false
  asksWide : Bool := false
  deriving DecidableEq, Repr

/-- The selector that asks for a wide form. -/
def wideSelector : Char := '\ufe01'

/-- The selector that asks for text. -/
def textSelector : Char := '\ufe0e'

/-- The selector that asks for a picture. -/
def pictureSelector : Char := '\ufe0f'

/-- Whether the character is a quotation mark, which has a wide form. -/
def isCurlyQuote (c : Char) : Bool := c == '\u2018' || c == '\u2019'
  || c == '\u201c' || c == '\u201d'

namespace Opening

/-- What a character begins when it is not part of what comes after it. -/
def ofChar (c : Char) : Opening :=
  if isEmoji c then picture
  else if isSkinTone c then skinTone
  else if isIndicator c then indicator
  else if c.toNat == 0x16d67 then vowelE
  else if c.toNat == 0x16d68 then vowelAi
  else match Ending.ofChar? c with
    | some ending => ligature ending
    | none => other

/-- Whether a selector leaves the opening as it is. -/
def isLigature : Opening → Bool
  | ligature _ => true
  | _ => false

/-- Whether a picture would join the opening. -/
def isJoined : Opening → Bool
  | joined | joinedKeycap => true
  | _ => false

/-- The opening of the rest of a ligature, if there is any. -/
def ofEnding? : Option Ending → Opening
  | some ending => ligature ending
  | none => other

/-- Whether a number of letters and digits between a flag and its end name a
region. -/
def areRegion (letters digits : Nat) : Bool :=
  digits == 3 || (digits == 0 && 3 ≤ letters && letters ≤ 6)

/-- What a character before a joined picture with tags adds to the columns, and
what it begins. -/
def joinTag? (letters digits : Nat) (c : Char) : Option (Int × Opening) :=
  if 0xe0061 ≤ c.toNat ∧ c.toNat ≤ 0xe007a ∧ digits = 0
    ∧ letters < 6 then some (0, joinedTags (letters + 1) 0)
  else if 0xe0030 ≤ c.toNat ∧ c.toNat ≤ 0xe0039 ∧ digits = 0
    ∧ letters ≤ 4 then some (0, joinedTags 0 1)
  else if 0xe0030 ≤ c.toNat ∧ c.toNat ≤ 0xe0039 ∧ 0 < digits
    ∧ digits < 3 then some (0, joinedTags 0 (digits + 1))
  else if c.toNat = 0x1f3f4 ∧ areRegion letters digits then some (0, picture)
  else none

/-- What a character adds to the columns of the group that an opening is part
of, and what it begins; nothing if it is not part of that group.  The flags
before a joiner are counted in pairs from the joiner on, and the last of them
belongs to the joined picture. -/
def join? (opening : Opening) (c : Char) : Option (Int × Opening) :=
  match opening with
  | ligature ending => (ending.join? c).map fun (columns, rest?) =>
      (columns, ofEnding? rest?)
  | vowelE =>
    if c.toNat = 0x16d63 ∨ c.toNat = 0x16d69 then some (0, other)
    else if c.toNat = 0x16d67 then some (0, vowelAi)
    else if c.toNat = 0x16d68 then some (1, vowelE)
    else none
  | vowelAi => if c.toNat = 0x16d63 then some (0, other) else none
  | skinTone =>
    if takesSkinTone c then some (0, picture)
    else if c = joiner then some (0, joined)
    else none
  | indicator => if isIndicator c then some (1, indicators) else none
  | indicators =>
    if isIndicator c then some (1, indicators)
    else if c = joiner then some (0, joined)
    else none
  | picture => if c = joiner then some (0, joined) else none
  | joined =>
    if c = '\u20e3' then some (0, joinedKeycap)
    else if isIndicator c then some (1, joinedIndicator)
    else if isSkinTone c then some (0, skinTone)
    else if c.toNat = 0xe007f then some (0, joinedTags 0 0)
    else if isEmoji c then some (0, picture)
    else none
  | joinedIndicator =>
    if isIndicator c then some (-1, joinedIndicators true) else none
  | joinedIndicators isEven =>
    if isIndicator c
      then some (if isEven then 3 else -1, joinedIndicators !isEven)
    else if c = joiner then some (0, joined)
    else none
  | joinedTags letters digits => joinTag? letters digits c
  | other | joinedKeycap => none

end Opening

namespace Sequel

/-- The sequel behind the selector for pictures. -/
def askPicture (sequel : Sequel) : Sequel :=
  if sequel.opening.isLigature || sequel.opening.isJoined
    then { sequel with asksPicture := true }
  else { asksPicture := true }

/-- The sequel behind the selector for text. -/
def askText (sequel : Sequel) : Sequel :=
  if sequel.opening.isLigature then { sequel with asksText := true }
    else { asksText := true }

/-- The sequel behind the selector for wide forms. -/
def askWide (sequel : Sequel) : Sequel :=
  if sequel.opening.isLigature then { sequel with asksWide := true }
    else { asksWide := true }

/-- The sequel for a character that cannot be the picture asked for. -/
def refusePicture (sequel : Sequel) : Sequel :=
  if !sequel.asksPicture then sequel
  else if sequel.opening.isLigature then { sequel with asksPicture := false }
  else {}

end Sequel

/-- What a character adds to the columns of a text, and the sequel that it makes
for the character before it. -/
def measure (c : Char) (sequel : Sequel) : Int × Sequel :=
  if sequel.asksPicture && takesPictureStyle c then
    (if sequel.opening.isJoined then 0 else 2, { opening := .picture })
  else
    let sequel := sequel.refusePicture
    if c.toNat ≤ 0xa0 then (1, {})
    else if c = pictureSelector then (0, sequel.askPicture)
    else if c = textSelector then (0, sequel.askText)
    else if c = wideSelector then (0, sequel.askWide)
    else if sequel.asksText && takesTextStyle c then (1, {})
    else if sequel.asksWide && isCurlyQuote c then (2, {})
    else match sequel.opening.join? c with
      | some (added, opening) => (added, { opening })
      | none => (columns c, { opening := .ofChar c })

/-- The columns of a text, and its sequel for a character before it. -/
def measureAll : List Char → Int × Sequel
  | [] => (0, {})
  | c :: rest =>
    let (columns, sequel) := measureAll rest
    let (added, sequel) := measure c sequel
    (added + columns, sequel)

/-- The number of columns that a text takes. -/
def width (text : List Char) : Nat := (measureAll text).1.toNat

/-- Up to the no-break space a character takes one column and leaves the state
at its start. -/
theorem measure_of_le {c : Char} (h : c.toNat ≤ 0xa0) :
    measure c {} = (1, {}) := by
  simp [measure, h]

/-- A text of characters up to the no-break space takes a column for each of
them. -/
theorem measureAll_of_le {text : List Char} (h : ∀ c ∈ text, c.toNat ≤ 0xa0) :
    measureAll text = ((text.length : Int), {}) := by
  induction text with
  | nil => rfl
  | cons c rest ih =>
    have hrest := ih fun d hd => h d (List.mem_cons_of_mem c hd)
    have hc := measure_of_le (h c List.mem_cons_self)
    simp only [measureAll, hrest, hc, List.length_cons]
    grind

@[simp] theorem width_nil : width [] = 0 := rfl

/-- Where no character is part of a group, each takes one column. -/
theorem width_of_le {text : List Char} (h : ∀ c ∈ text, c.toNat ≤ 0xa0) :
    width text = text.length := by
  simp [width, measureAll_of_le h]

end KotlinBuilders.Text
