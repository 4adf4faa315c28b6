import KotlinBuilders.Batch.Run
import KotlinBuilders.Text.Digits
import KotlinBuilders.Text.Table

/-!
# Overviews of a dump

One table has a row for each declaration, sorted by name; the other has a row
for each field.  A declaration that cannot be converted has one row in both.
-/

namespace KotlinBuilders.CommandLine

open Text (Cell Table)

/-- The wording of a truth value. -/
def yesNo (value : Bool) : String := if value then "yes" else "no"

/-- The row of a declaration: its name and package, how many fields it has and
whether it gets a factory. -/
def declarationRow (summary : Summary) : List Cell :=
  let count := match summary.fields with
    | .ok fields => Text.decimal fields.length
    | .error _ => "skipped"
  [{ text := summary.name }, { text := summary.package },
    { text := count, side := .right },
    { text := yesNo summary.hasFactory }]

/-- The table of declarations. -/
def declarationsTable (summaries : List Summary) : Table where
  header := ["DECLARATION", "PACKAGE", "FIELDS", "FACTORY"]
  rows :=
    (summaries.mergeSort fun a b => decide (a.name ≤ b.name)).map declarationRow

/-- The row of a field of a declaration. -/
def fieldRow (declaration : String) (field : Field) : List Cell :=
  [{ text := declaration }, { text := field.name.raw },
    { text := field.kind.typeRef.render },
    { text := field.kind.label },
    { text := field.kind.initializer?.getD "lateinit" },
    { text := yesNo field.isOptional }]

/-- The rows of the fields of a declaration. -/
def fieldRows (summary : Summary) : List (List Cell) :=
  match summary.fields with
  | .ok fields => fields.map (fieldRow summary.name)
  | .error failure =>
    [[{ text := summary.name }, { text := "skipped: " ++ failure.message }]]

/-- The table of fields. -/
def fieldsTable (summaries : List Summary) : Table where
  header := ["DECLARATION", "FIELD", "TYPE", "KIND", "INITIAL", "OPTIONAL"]
  rows := summaries.flatMap fieldRows

end KotlinBuilders.CommandLine
