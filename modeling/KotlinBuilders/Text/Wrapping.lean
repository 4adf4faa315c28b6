import KotlinBuilders.Text.Width

/-!
# Wrapping a line

A line that is too wide is wrapped at its spaces.  Words fill a line as long as
they fit; a line that has room for less than two more characters is full at
once, and so is one whose next word does not fit when at most two characters are
free.  A word that is wider than a whole line is cut where the line ends.

Each step uses up part of the words or else ends a line (`wrapWords` counts
both).
-/

namespace KotlinBuilders.Text

/-- The least room that is worth keeping at the end of a line. -/
def leastRoom : Nat := 2

/-- The longest front of a word that fits, and the rest. -/
def cutFitting (room : Nat) : List Char → List Char × List Char
  | [] => ([], [])
  | c :: rest =>
    if columns c ≤ room then
      let (front, back) := cutFitting (room - columns c) rest
      (c :: front, back)
    else ([], c :: rest)

/-- The front of a word that fits, but at least one character, and the rest. -/
def cutWord (room : Nat) : List Char → List Char × List Char
  | [] => ([], [])
  | c :: rest =>
    let (front, back) := cutFitting (room - columns c) rest
    (c :: front, back)

/-- The two parts of a cut at the room left are the word. -/
theorem cutFitting_append (room : Nat) (word : List Char) :
    (cutFitting room word).1 ++ (cutFitting room word).2 = word := by
  induction word generalizing room with
  | nil => rfl
  | cons c rest ih =>
    unfold cutFitting
    split
    · simp [ih]
    · rfl

/-- The two parts of a cut word are the word. -/
theorem cutWord_append (room : Nat) (word : List Char) :
    (cutWord room word).1 ++ (cutWord room word).2 = word := by
  cases word with
  | nil => rfl
  | cons c rest => simp [cutWord, cutFitting_append]

/-- Cutting a word that is not empty leaves a shorter one. -/
theorem length_cutWord_lt {room : Nat} {word : List Char} (h : word ≠ []) :
    (cutWord room word).2.length < word.length := by
  cases word with
  | nil => exact absurd rfl h
  | cons c rest =>
    have := congrArg List.length (cutFitting_append (room - columns c) rest)
    simp only [cutWord, List.length_append, List.length_cons] at this ⊢
    omega

/-- A line with a word added to it. -/
def addWord (line word : List Char) : List Char :=
  if line.isEmpty then word else line ++ ' ' :: word

/-- The room that a line leaves for another word. -/
def roomAfter (limit : Nat) (line : List Char) : Nat :=
  limit - width line - if line.isEmpty then 0 else 1

/-- Whether a line leaves too little room to go on with it. -/
def isFull (limit : Nat) (line : List Char) : Bool :=
  limit - leastRoom < width line

/-- The characters of the words, each word counted as one more. -/
def wordWeight : List (List Char) → Nat
  | [] => 0
  | word :: rest => word.length + 1 + wordWeight rest

/-- The lines that words fill, the first of which has begun. -/
def wrapWords (limit : Nat) (line : List Char) (words : List (List Char)) :
    List (List Char) :=
  match words with
  | [] => if line.isEmpty then [] else [line]
  | word :: rest =>
    if width (addWord line word) ≤ limit then
      if isFull limit (addWord line word)
        then addWord line word :: wrapWords limit [] rest
      else wrapWords limit (addWord line word) rest
    else if !line.isEmpty ∧ roomAfter limit line ≤ leastRoom
      then line :: wrapWords limit [] (word :: rest)
    else if _hword : limit < width word then
      let cut := cutWord (roomAfter limit line) word
      addWord line cut.1 :: wrapWords limit [] (cut.2 :: rest)
    else if isFull limit word then line :: word :: wrapWords limit [] rest
    else line :: wrapWords limit word rest
termination_by 2 * wordWeight words + if line.isEmpty then 0 else 1
decreasing_by
  all_goals simp only [wordWeight, List.isEmpty_nil]
  · split <;> omega
  · split <;> split <;> omega
  · simp_all
  · have hne : word ≠ [] := by rintro rfl; simp at _hword
    have := @length_cutWord_lt (roomAfter limit line) word hne
    split <;> omega
  · split <;> omega
  · split <;> split <;> omega

/-- A line wrapped to a width. -/
def wrapLine (limit : Nat) (line : List Char) : List (List Char) :=
  if width line ≤ limit then [line] else wrapWords limit [] (line.splitOn ' ')

end KotlinBuilders.Text
