import KotlinBuilders.Collection.NameSet
import KotlinBuilders.Kotlin.TypeRef

/-!
# Imports and name clashes

A file of a package imports the outermost class of every type that it does not
see by itself.  Two types of one outermost name in different packages clash,
because only one of them can be imported under that name.  Types of the file's
own package and of the packages that are imported by default keep their short
names; every other type in a clash is written with its qualified name, which
needs no import.
-/

namespace KotlinBuilders

namespace TypeRef

/-- The name under which a file imports the type: its package and outermost
class. -/
def importName (type : TypeRef) : String :=
  type.package ++ "." ++ type.outermost

/-- Whether a file of a package has to import the type. -/
def needsImport (package : String) (type : TypeRef) : Bool :=
  !type.isImplicit && type.package != package

/-- The names that a file of a package imports for the type and its
arguments. -/
def imports (package : String) (type : TypeRef) : List String :=
  (type.nodes.filter (needsImport package)).map importName

mutual

/-- The type in which every node with an import name in the set is written by
its qualified name. -/
def qualify (qualified : NameSet) : TypeRef → TypeRef
  | ⟨package, simpleName, arguments, nullable⟩ =>
    let type : TypeRef :=
      ⟨package, simpleName, qualifyAll qualified arguments, nullable⟩
    if !package.isEmpty && qualified.contains type.importName then
      { type with package := "", simpleName := type.qualifiedName }
    else type

/-- Several types, each with the nodes of the set written by their qualified
names. -/
def qualifyAll (qualified : NameSet) : List TypeRef → List TypeRef
  | [] => []
  | type :: types => qualify qualified type :: qualifyAll qualified types

end

/-- The list form qualifies each type in its place. -/
theorem qualifyAll_eq (qualified : NameSet) (types : List TypeRef) :
    qualifyAll qualified types = types.map (qualify qualified) := by
  induction types with
  | nil => rfl
  | cons type types ih => simp [qualifyAll, ih]

/-- Two types of one outermost name in different packages. -/
def clashesWith (type other : TypeRef) : Bool :=
  type.outermost == other.outermost && type.package != other.package

end TypeRef

/-- The import names of the types that clash with another one of the list, at
any depth, and that a file of the package would have to import. -/
def clashingImports (package : String) (types : List TypeRef) : NameSet :=
  let packaged := (types.flatMap TypeRef.nodes).filter (!·.package.isEmpty)
  let clashing := packaged.filter fun type => packaged.any type.clashesWith
  NameSet.ofList ((clashing.filter (TypeRef.needsImport package)).map
    TypeRef.importName)

end KotlinBuilders
