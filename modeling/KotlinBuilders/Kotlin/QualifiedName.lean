import KotlinBuilders.Text.Blank
import KotlinBuilders.Text.Cut

/-!
# Qualified names

A qualified name is a package and a simple name.  The text of one is read at its
last dot; a text without dots names something outside every package.
-/

namespace KotlinBuilders

/-- A package and a simple name; the package may be empty. -/
structure QualifiedName where
  package : String
  simpleName : String
  deriving DecidableEq, Repr, Inhabited

namespace QualifiedName

/-- Reads a name whose text is already trimmed. -/
def ofTrimmed (text : List Char) : QualifiedName :=
  match Text.cutAtLast '.' text with
  | some (package, simpleName) =>
    ⟨String.ofList package, String.ofList simpleName⟩
  | none => ⟨"", String.ofList text⟩

/-- Reads a name, cutting its trimmed text at the last dot. -/
def ofText (text : List Char) : QualifiedName := ofTrimmed (Text.trim text)

/-- The package and the simple name joined by a dot, or the simple name
alone. -/
def render (name : QualifiedName) : String :=
  if name.package.isEmpty then name.simpleName
    else name.package ++ "." ++ name.simpleName

end QualifiedName

end KotlinBuilders
