/-!
# Pieces of source code

Source code is a list of pieces: lines, blank lines, and the opening and closing
lines of blocks.  Writing the pieces one after the other keeps the text so far
and the number of blocks that are open; a line is indented by four spaces for
each of them, and a blank line is empty.  A block that closes where none is open
is written at depth zero.
-/

namespace KotlinBuilders

/-- One piece of source code. -/
inductive Code where
  | line (text : String)
  | blank
  | opening (header : String)
  | closing
  deriving DecidableEq, Repr

/-- The text so far and the number of open blocks. -/
structure Page where
  text : String := ""
  depth : Nat := 0
  deriving DecidableEq, Repr

namespace Page

/-- The indentation at a depth. -/
def indentation (depth : Nat) : String :=
  String.ofList (List.replicate (4 * depth) ' ')

/-- A line at a depth, with its end. -/
def indented (depth : Nat) (text : String) : String :=
  (if text.isEmpty then "" else indentation depth ++ text) ++ "\n"

/-- The page with a line added. -/
def addLine (page : Page) (text : String) : Page :=
  { page with text := page.text ++ indented page.depth text }

/-- The page with a piece of code added. -/
def write (page : Page) : Code → Page
  | .line text => page.addLine text
  | .blank => page.addLine ""
  | .opening header =>
    { page.addLine (header ++ " \x7b") with depth := page.depth + 1 }
  | .closing => { page with depth := page.depth - 1 }.addLine "\x7d"

/-- The page with several pieces of code added. -/
def writeAll (page : Page) (codes : List Code) : Page := codes.foldl write page

end Page

/-- The text of a whole piece of source code. -/
def renderCode (codes : List Code) : String := (({} : Page).writeAll codes).text

end KotlinBuilders
