/-!
# The text between controls

A terminal takes some characters not as text but as controls.  A control
sequence begins with the escape character; the characters after it say what kind
of sequence it is, and every kind has an end of its own.  A new escape character
begins a new sequence, and two other controls end any sequence at once.

`visible` keeps what a page without controls can show of a text: neither
sequences nor single controls, tabs and line ends apart.  A text without
controls is kept as it is (`visible_of_isShown`).
-/

namespace KotlinBuilders.Text

/-- A control sequence, as far as it was read. -/
inductive ControlSequence where
  /-- The escape character, with nothing after it that tells the kind. -/
  | escape
  /-- A sequence that ends with its next letter or digit. -/
  | selection
  /-- A sequence of parameters, which ends with a letter. -/
  | parameters
  /-- A text for the terminal itself, which ends with a bell. -/
  | command
  /-- What stands in front of a text for a device: nothing so far, numbers, or
  marks after them. -/
  | deviceHead
  | deviceNumbers
  | deviceMarks
  /-- A text for a device, which ends with a string terminator. -/
  | content
  deriving DecidableEq, Repr

/-- Where a character of a text stands: in the text itself, in a control
sequence, or in text that interrupts one. -/
inductive Passage where
  | text
  | inside (sequence : ControlSequence)
  | interrupting (sequence : ControlSequence)
  deriving DecidableEq, Repr

/-- The escape character. -/
def escapeChar : Char := '\x1b'

/-- Whether the character is a tab or ends a line or a page. -/
def isLayout (c : Char) : Bool :=
  c == '\t' || c == '\n' || c == '\x0c' || c == '\r'

/-- Whether the character is shown where no sequence is open. -/
def isShown (c : Char) : Bool := isLayout c || (0x20 ≤ c.toNat && c ≠ '\x7f')

/-- Whether the character ends any sequence. -/
def isCancel (c : Char) : Bool := c == '\x18' || c == '\x1a'

/-- Whether the code point of the character is between two others. -/
def isBetween (first last : Nat) (c : Char) : Bool :=
  first ≤ c.toNat && c.toNat ≤ last

/-- Whether the byte of the string terminator is among the bytes of the
character. -/
def holdsTerminator (c : Char) : Bool := (String.utf8EncodeChar c).contains 0x9c

namespace ControlSequence

/-- Whether tabs and line ends are shown inside the sequence. -/
def showsLayout : ControlSequence → Bool
  | escape | selection | parameters => true
  | command | deviceHead | deviceNumbers | deviceMarks | content => false

/-- What follows a character that is not shown inside a sequence. -/
def after (sequence : ControlSequence) (c : Char) : Passage :=
  match sequence with
  | escape =>
    if c = '[' then .inside parameters
    else if c = ']' then .inside command
    else if c = 'P' then .inside deviceHead
    else if c = 'X' ∨ c = '^' ∨ c = '_' then .inside content
    else if isBetween 0x20 0x2f c then .inside selection
    else if isBetween 0x30 0x7e c then .text
    else .inside escape
  | selection => if isBetween 0x30 0x7e c then .text else .inside selection
  | parameters => if isBetween 0x40 0x7e c then .text else .inside parameters
  | command => if c = '\x07' then .text else .inside command
  | deviceHead =>
    if isBetween 0x20 0x2f c then .inside deviceMarks
    else if isBetween 0x30 0x3f c then .inside deviceNumbers
    else if isBetween 0x40 0x7e c then .inside content
    else .inside deviceHead
  | deviceNumbers =>
    if isBetween 0x20 0x2f c then .inside deviceMarks
    else if isBetween 0x3c 0x7e c then .inside content
    else .inside deviceNumbers
  | deviceMarks => if isBetween 0x30 0x7e c then .inside content
      else .inside deviceMarks
  | content => if holdsTerminator c then .text else .inside content

end ControlSequence

namespace Passage

/-- What follows a character that is shown where no sequence is open, and
whether it is shown here. -/
def stepShown (passage : Passage) (c : Char) : Passage × Bool :=
  match passage with
  | text => (text, true)
  | interrupting sequence =>
    (if c.toNat < 0x80 then interrupting sequence else text, true)
  | inside sequence =>
    if sequence.showsLayout && isLayout c then (interrupting sequence, true)
      else (sequence.after c, false)

/-- What follows a control. -/
def stepHidden (passage : Passage) (c : Char) : Passage :=
  if c = escapeChar then inside .escape
  else if isCancel c then text
  else match passage with
    | text => text
    | inside sequence | interrupting sequence => sequence.after c

/-- What follows a character, and whether it is shown. -/
def step (passage : Passage) (c : Char) : Passage × Bool :=
  if isShown c then passage.stepShown c else (passage.stepHidden c, false)

end Passage

/-- What is shown of the rest of a text. -/
def visibleFrom (passage : Passage) : List Char → List Char
  | [] => []
  | c :: rest =>
    let (next, shows) := passage.step c
    if shows then c :: visibleFrom next rest else visibleFrom next rest

/-- What is shown of a text. -/
def visible (text : List Char) : List Char := visibleFrom .text text

/-- In plain text a character that is shown is kept, and plain text goes on. -/
theorem step_text_of_isShown {c : Char} (h : isShown c = true) :
    Passage.step .text c = (.text, true) := by
  simp [Passage.step, Passage.stepShown, h]

/-- A text without controls is shown as it is. -/
theorem visible_of_isShown {text : List Char}
    (h : ∀ c ∈ text, isShown c = true) : visible text = text := by
  unfold visible
  induction text with
  | nil => rfl
  | cons c rest ih =>
    have hc := step_text_of_isShown (h c List.mem_cons_self)
    have hrest := ih fun d hd => h d (List.mem_cons_of_mem c hd)
    simp [visibleFrom, hc, hrest]

end KotlinBuilders.Text
