import KotlinBuilders.Text.Letter
import KotlinBuilders.Text.Uppercase

/-!
# Names as they stand in Kotlin source

A name that is a plain identifier, and no hard keyword, stands for itself; any
other name is put between backticks.  An accessor is named by a verb and the
capitalized name of its field, and only the whole of it is escaped: a field `in`
is written between backticks, but its setter `setIn` is not.
-/

namespace KotlinBuilders

/-- The words that Kotlin never accepts as a name. -/
def hardKeywords : List String :=
  ["as", "break", "class", "continue", "do", "else", "false", "for", "fun",
    "if", "in", "interface", "is", "null", "object", "package", "return",
    "super", "this", "throw", "true", "try", "typealias", "typeof", "val",
    "var", "when", "while"]

/-- A letter or an underscore, and after it only letters, numerals and
underscores. -/
def isPlainIdentifier : List Char → Bool
  | [] => false
  | first :: rest =>
    (Text.isLetter first || first == '_') &&
      rest.all fun c => Text.isLetter c || Text.isNumeral c || c == '_'

/-- Whether a name has to be put between backticks. -/
def needsEscape (name : String) : Bool :=
  hardKeywords.contains name || !isPlainIdentifier name.toList

/-- A name as it stands in source text. -/
def identifier (name : String) : String :=
  if needsEscape name then "`" ++ name ++ "`" else name

/-- The name of a builder field, as its declaration spells it. -/
structure FieldName where
  raw : String
  deriving DecidableEq, Repr, Inhabited

namespace FieldName

/-- The name as it stands in source text. -/
def identifier (name : FieldName) : String := KotlinBuilders.identifier name.raw

/-- The name of the field's accessor, such as `setName` or `withName`. -/
def accessor (name : FieldName) (verb : String) : String :=
  KotlinBuilders.identifier (verb
    ++ String.ofList (Text.capitalize name.raw.toList))

end FieldName

end KotlinBuilders
