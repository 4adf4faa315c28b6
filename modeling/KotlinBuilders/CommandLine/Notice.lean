/-!
# Notices

A notice is a text for the one who typed the command line.  Its parts can stand
out, each for what it is; how they do so is decided where the notice is printed.
-/

namespace KotlinBuilders.CommandLine

/-- What a part of a notice is. -/
inductive Emphasis where
  | heading
  | usage
  | literal
  | placeholder
  | error
  | valid
  | invalid
  deriving DecidableEq, Repr

/-- A part of a notice. -/
inductive Part where
  | plain (text : String)
  | emphatic (emphasis : Emphasis) (text : String)
  deriving DecidableEq, Repr

/-- The text of a part. -/
def Part.text : Part → String
  | plain text => text
  | emphatic _ text => text

/-- A text in parts. -/
abbrev Notice := List Part

namespace Notice

/-- The text of a notice. -/
def text (notice : Notice) : String := String.join (notice.map Part.text)

/-- The number of characters of a notice. -/
def length (notice : Notice) : Nat := notice.text.length

/-- Notices with line ends between them. -/
def ofLines (lines : List Notice) : Notice :=
  List.intercalate [.plain "\n"] lines

end Notice

end KotlinBuilders.CommandLine
