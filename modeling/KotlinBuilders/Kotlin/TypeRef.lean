import KotlinBuilders.Kotlin.QualifiedName

/-!
# References to Kotlin types

A type reference names a class, gives it arguments and says whether it admits
`null`.  Nullability is a flag and not part of the name, so setting it twice is
the same as setting it once.  A nested class has a dotted simple name, such as
`Map.Entry`; what a file imports for it is the outermost class.

`TypeRef.nodes` lists a reference together with all that stand in its arguments,
each before its own arguments.
-/

namespace KotlinBuilders

/-- A reference to a Kotlin type. -/
structure TypeRef where
  package : String
  simpleName : String
  arguments : List TypeRef
  nullable : Bool
  deriving Repr, BEq, Inhabited

/-- The package of the basic types. -/
def kotlinPackage : String := "kotlin"

/-- The package of the standard containers. -/
def collectionsPackage : String := "kotlin.collections"

namespace TypeRef

/-- A non-null type without arguments. -/
def named (package simpleName : String) : TypeRef :=
  ⟨package, simpleName, [], false⟩

/-- A basic type. -/
def kotlin (simpleName : String) : TypeRef := named kotlinPackage simpleName

/-- The non-null type with a qualified name. -/
def ofName (name : QualifiedName) : TypeRef :=
  named name.package name.simpleName

/-- The type with the given arguments in place of its own. -/
def parameterizedBy (type : TypeRef) (arguments : List TypeRef) : TypeRef :=
  { type with arguments }

/-- The type with the given nullability in place of its own. -/
def withNullable (type : TypeRef) (nullable : Bool) : TypeRef :=
  { type with nullable }

/-- The class of a given name inside this one, without arguments and
non-null. -/
def nested (type : TypeRef) (simpleName : String) : TypeRef :=
  named type.package (type.simpleName ++ "." ++ simpleName)

/-- The package and the simple name joined by a dot, or the simple name
alone. -/
def qualifiedName (type : TypeRef) : String :=
  (QualifiedName.mk type.package type.simpleName).render

/-- Whether every file sees the type without an import: it has no package, or
one that is imported by default. -/
def isImplicit (type : TypeRef) : Bool :=
  type.package.isEmpty || type.package == kotlinPackage
    || type.package == collectionsPackage

/-- The simple name up to its first dot. -/
def outermost (type : TypeRef) : String :=
  String.ofList (type.simpleName.toList.takeWhile (· != '.'))

mutual

/-- The reference and all those in its arguments, each before its own
arguments. -/
def nodes : TypeRef → List TypeRef
  | ⟨package, simpleName, arguments, nullable⟩ =>
    ⟨package, simpleName, arguments, nullable⟩ :: nodesOfAll arguments

/-- The nodes of several references, one after the other. -/
def nodesOfAll : List TypeRef → List TypeRef
  | [] => []
  | type :: types => nodes type ++ nodesOfAll types

end

mutual

/-- The reference in source text: the simple name, the arguments, and a question
mark where `null` is admitted. -/
def render : TypeRef → String
  | ⟨_, simpleName, arguments, nullable⟩ =>
    simpleName
      ++ (if arguments.isEmpty then ""
        else "<" ++ ", ".intercalate (renderAll arguments) ++ ">")
      ++ (if nullable then "?" else "")

/-- Several references in source text. -/
def renderAll : List TypeRef → List String
  | [] => []
  | type :: types => render type :: renderAll types

end

/-- The nodes of a list of types are those of its members, in order. -/
theorem nodesOfAll_eq (types : List TypeRef) :
    nodesOfAll types = types.flatMap nodes := by
  induction types with
  | nil => rfl
  | cons type types ih => simp [nodesOfAll, ih]

/-- The nodes of a type are the type itself and then its arguments' nodes. -/
theorem nodes_eq (type : TypeRef) :
    type.nodes = type :: type.arguments.flatMap nodes := by
  cases type
  simp [nodes, nodesOfAll_eq]

@[simp] theorem withNullable_withNullable (type : TypeRef) (a b : Bool) :
    (type.withNullable a).withNullable b = type.withNullable b := rfl

end TypeRef

end KotlinBuilders
