import KotlinBuilders.Text.Wrapping

/-!
# Tables

A table is printed between two border lines, with an unbroken line below its
header.  Each column has a blank on both sides and one more between itself and
the next.

The columns share the width of the page.  Those whose widest cell fits into an
equal share get what they need, and what they leave makes the share of the
others larger.  Of the rest, those that a wrapped text leaves much room in are
narrowed to their longest line.  Those still left share equally.  Every decision
is made from left to right, with the share that is left at that moment.
-/

namespace KotlinBuilders.Text

/-- The side at which the text of a cell stands. -/
inductive Side where
  | left
  | right
  deriving DecidableEq, Repr

/-- A cell of a table. -/
structure Cell where
  text : String
  side : Side := .left
  deriving DecidableEq, Repr

/-- A table.  A row may have fewer cells than the header; the others are
blank. -/
structure Table where
  header : List String
  rows : List (List Cell)
  deriving Repr

/-- The lines of a cell as it was given. -/
def Cell.lines (cell : Cell) : List (List Char) := cell.text.toList.splitOn '\n'

/-- The lines of a cell, wrapped to a limit. -/
def Cell.wrapped (cell : Cell) (limit : Nat) : List (List Char) :=
  cell.lines.flatMap (wrapLine limit)

/-- The width of the widest line. -/
def widest (lines : List (List Char)) : Nat := (lines.map width).foldl max 0

/-! ## The widths of the columns -/

/-- A column, and its width as soon as it is decided. -/
structure Column where
  cells : List Cell
  width? : Option Nat := none

namespace Column

/-- The width of the column when nothing is wrapped. -/
def natural (column : Column) : Nat := widest (column.cells.flatMap Cell.lines)

/-- The width of the column when its lines are wrapped to a limit. -/
def wrapped (column : Column) (limit : Nat) : Nat :=
  widest (column.cells.flatMap fun cell => cell.wrapped limit)

end Column

/-- The columns of a table, the header's cell first. -/
def Table.columns (table : Table) : List Column :=
  table.header.zipIdx.map fun (title, index) =>
    { cells := { text := title }
        :: table.rows.filterMap fun row => row[index]? }

/-- A rule gives an undecided column a width, or leaves it undecided, knowing
the room that is left and how many columns share it. -/
abbrev WidthRule := Nat → Nat → Column → Option Nat

/-- A column that fits into an equal share gets its natural width. -/
def fitRule : WidthRule := fun room sharers column =>
  if column.natural ≤ room / sharers then some column.natural else none

/-- The room in a line that is worth giving to other columns. -/
def muchRoom : Nat := 3

/-- A column whose wrapped lines leave much of an equal share free gets the
width of the longest. -/
def narrowRule : WidthRule := fun room sharers column =>
  if column.wrapped (room / sharers) + muchRoom ≤ room / sharers
    then some (column.wrapped (room / sharers)) else none

/-- Every column gets an equal share, rounded up. -/
def shareRule : WidthRule :=
  fun room sharers _ => some ((room + sharers - 1) / sharers)

/-- One pass of a rule over the columns, from left to right. -/
def applyRule (rule : WidthRule) (room sharers : Nat) :
    List Column → List Column
  | [] => []
  | column :: others =>
    match column.width? with
    | some _ => column :: applyRule rule room sharers others
    | none =>
      match rule room sharers column with
      | some width => { column with width? := some width }
          :: applyRule rule (room - width) (sharers - 1) others
      | none => column :: applyRule rule room sharers others

/-- One pass of a rule over the columns of a page with the given room. -/
def passRule (rule : WidthRule) (room : Nat) (columns : List Column) :
    List Column :=
  let decided := (columns.filterMap Column.width?).foldl (· + ·) 0
  let sharers := (columns.filter fun column => column.width?.isNone).length
  applyRule rule (room - decided) sharers columns

/-- A number of passes of a rule. -/
def passes (rule : WidthRule) (room : Nat) : Nat → List Column → List Column
  | 0, columns => columns
  | count + 1, columns => passes rule room count (passRule rule room columns)

/-- The room that the texts of a number of columns have on a page. -/
def roomOf (page columns : Nat) : Nat := page - (columns - 1) - 2 * columns

/-- The widths of the columns.  There are as many passes of a rule as columns,
so the last one decides nothing new. -/
def Table.widths (table : Table) (page : Nat) : List Nat :=
  let columns := table.columns
  let room := roomOf page columns.length
  let fitted := passes fitRule room columns.length columns
  let narrowed := passes narrowRule room columns.length fitted
  (passRule shareRule room narrowed).map fun column => column.width?.getD 0

/-! ## Printing -/

/-- A number of blanks. -/
def blanks (count : Nat) : List Char := List.replicate count ' '

/-- A line that stands at one side of its column. -/
def alignLine (limit : Nat) (side : Side) (line : List Char) : List Char :=
  match side with
  | .left => line ++ blanks (limit - width line)
  | .right => blanks (limit - width line) ++ line

/-- The lines of a cell in its column, with a blank on both sides. -/
def Cell.print (cell : Cell) (limit : Nat) : List (List Char) :=
  (cell.wrapped limit).map fun line =>
    ' ' :: alignLine limit cell.side line ++ [' ']

/-- The lines of the cell in a column of a row; none where the row ends before
the column. -/
def cellLines (row : List Cell) (index limit : Nat) : List (List Char) :=
  match row[index]? with
  | some cell => cell.print limit
  | none => []

/-- The lines of a row.  What a cell does not reach is blank. -/
def printRow (widths : List Nat) (row : List Cell) : List (List Char) :=
  let cells := widths.zipIdx.map fun (limit, index) =>
    (limit, cellLines row index limit)
  let height := (cells.map fun cell => cell.2.length).foldl max 0
  (List.range height).map fun index =>
    [' '].intercalate (cells.map fun (limit, lines) =>
      (lines[index]?).getD (blanks (limit + 2)))

/-- The character of the lines between the parts of a table. -/
def ruleChar : Char := '─'

/-- The line above and below the table. -/
def border (widths : List Nat) : List Char :=
  [' '].intercalate (widths.map fun width =>
    List.replicate (width + 2) ruleChar)

/-- The line below the header. -/
def headerRule (widths : List Nat) : List Char :=
  List.replicate (border widths).length ruleChar

/-- The lines of the table on a page of the given width. -/
def Table.print (table : Table) (page : Nat) : String :=
  let widths := table.widths page
  let header := table.header.map fun title => ({ text := title } : Cell)
  let lines := border widths :: printRow widths header
    ++ headerRule widths :: table.rows.flatMap (printRow widths)
    ++ [border widths]
  String.ofList (['\n'].intercalate lines)

end KotlinBuilders.Text
