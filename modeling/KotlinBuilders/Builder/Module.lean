import KotlinBuilders.Kind.Slot
import KotlinBuilders.Kotlin.Imports

/-!
# Builder modules

A module describes the file that is generated for one declaration: the builder
class with a property and a setter for each field, its `build` function, and the
factory on the declaration's companion object, if there is one.

`build` calls the constructor.  With optional fields it first asks which of them
were given a value: the first branch whose checks all hold says which arguments
are passed, and the fallback passes the required ones alone.
-/

namespace KotlinBuilders

/-- A type parameter and its bounds. -/
structure TypeVariable where
  name : String
  bounds : List TypeRef
  deriving Repr, Inhabited

/-- The type that a type parameter stands for. -/
def TypeVariable.type (typeVariable : TypeVariable) : TypeRef :=
  TypeRef.named "" typeVariable.name

/-- The slot of a field. -/
structure Property where
  name : FieldName
  type : TypeRef
  modifiers : List Modifier
  initializer? : Option String
  deriving Repr, Inhabited

/-- Whether a property is declared without a value. -/
def Property.isDeferred (property : Property) : Bool :=
  property.modifiers.contains .isLateinit

/-- The function that gives a slot its value. -/
structure Setter where
  name : String
  field : FieldName
  type : TypeRef
  deriving Repr, Inhabited

/-- A call of the declaration's constructor with named arguments. -/
structure ConstructorCall where
  target : String
  arguments : List FieldName
  deriving DecidableEq, Repr, Inhabited

/-- A call that is made when all checks hold. -/
structure Branch where
  checks : List PresenceCheck
  call : ConstructorCall
  deriving Repr, Inhabited

/-- What the `build` function does. -/
inductive BuildBody where
  | direct (call : ConstructorCall)
  | guarded (branches : List Branch) (fallback : ConstructorCall)
  deriving Repr, Inhabited

/-- The number of calls that a body can make. -/
def BuildBody.branchCount : BuildBody → Nat
  | direct _ => 1
  | guarded branches _ => branches.length + 1

/-- The branches of a body that have checks. -/
def BuildBody.branches : BuildBody → List Branch
  | direct _ => []
  | guarded branches _ => branches

/-- The builder class. -/
structure BuilderClass where
  name : String
  typeVariables : List TypeVariable
  properties : List Property
  setters : List Setter
  returnType : TypeRef
  body : BuildBody
  deriving Repr, Inhabited

/-- The type of the builder itself. -/
def BuilderClass.selfType (builder : BuilderClass) : TypeRef :=
  ⟨"", builder.name, builder.typeVariables.map TypeVariable.type, false⟩

/-- The function on the companion object that makes a builder. -/
structure Factory where
  name : String
  receiver : TypeRef
  returns : TypeRef
  typeVariables : List TypeVariable
  deriving Repr, Inhabited

/-- The file that is generated for a declaration. -/
structure Module where
  package : String
  fileName : String
  imports : NameSet
  factory? : Option Factory
  builder : BuilderClass

end KotlinBuilders
