/-!
# Brackets

A type, and a listing of members, nests three pairs of brackets: angle, round
and square.  What matters of a text is the sequence of its bracket marks.  One
character needs its neighbour: `>` right after `-` is the head of an arrow, as
in `(Int) -> String`, and makes no mark.

`isBalanced` runs over the marks with the brackets that are still open,
innermost first, and asks that every closing mark meets its own opening one and
that none is left open at the end.
-/

namespace KotlinBuilders.Text

/-- The three pairs of brackets. -/
inductive Bracket where
  | angle
  | round
  | square
  deriving DecidableEq, Repr

/-- One of the two halves of a bracket pair. -/
inductive Mark where
  | opening (bracket : Bracket)
  | closing (bracket : Bracket)
  deriving DecidableEq, Repr

/-- The half of a pair that a character is, when nothing stands before it. -/
def Mark.ofChar? : Char → Option Mark
  | '<' => some (.opening .angle)
  | '(' => some (.opening .round)
  | '[' => some (.opening .square)
  | '>' => some (.closing .angle)
  | ')' => some (.closing .round)
  | ']' => some (.closing .square)
  | _ => none

/-- The mark that a character makes right after another one.  The head of an
arrow makes none. -/
def markAfter (before : Option Char) (c : Char) : Option Mark :=
  if c = '>' ∧ before = some '-' then none else Mark.ofChar? c

/-- The bracket marks of a text that follows the character `before`. -/
def marksAfter (before : Option Char) : List Char → List Mark
  | [] => []
  | c :: rest => (markAfter before c).toList ++ marksAfter (some c) rest

/-- The bracket marks of a text, in order. -/
def marks (text : List Char) : List Mark := marksAfter none text

/-- Whether the marks close every bracket, those still `unclosed` included,
innermost first. -/
def closeAll : (unclosed : List Bracket) → List Mark → Bool
  | unclosed, [] => unclosed.isEmpty
  | unclosed, .opening bracket :: rest => closeAll (bracket :: unclosed) rest
  | [], .closing _ :: _ => false
  | last :: unclosed, .closing bracket :: rest =>
    last = bracket && closeAll unclosed rest

/-- Whether every bracket is closed, in order. -/
def isBalanced (text : List Char) : Bool := closeAll [] (marks text)

@[simp] theorem isBalanced_nil : isBalanced [] = true := rfl

end KotlinBuilders.Text
