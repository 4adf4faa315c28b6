import KotlinBuilders.Builder.Module
import KotlinBuilders.Builder.Subsets
import KotlinBuilders.Conversion.Fields

/-!
# From fields to builder modules

The types that a module writes down are the field types, the bounds of the type
parameters and the declaration itself.  Where two of them clash, those that
would need an import are written by their qualified names, and what is left is
imported.  A type parameter without bounds is bound to `Any`, so that a slot of
its type can be deferred.

The branches of `build` run through the sets of optional fields from the largest
to the smallest; the first branch that holds therefore passes every field that
was given a value.
-/

namespace KotlinBuilders

/-- The verb that setters begin with. -/
inductive SetterStyle where
  | setVerb
  | withVerb
  deriving DecidableEq, Repr

/-- The verb of a style. -/
def SetterStyle.verb : SetterStyle → String
  | .setVerb => "set"
  | .withVerb => "with"

/-- How the generated things are named. -/
structure Naming where
  style : SetterStyle := .setVerb
  factoryName : String := "builder"
  builderSuffix : String := "Builder"
  fileSuffix : String := "Extension"
  deriving Repr, Inhabited

/-- The bounds of a type parameter of a declaration. -/
def boundTypes (declaration : String) (parameter : TypeParameter) :
    Except ConversionFailure (List TypeRef) :=
  if parameter.bounds.isEmpty then .ok [TypeRef.kotlin "Any"]
  else
    match parameter.bounds.mapM (classify {} []) with
    | .ok kinds => .ok (kinds.map Kind.typeRef)
    | .error cause =>
      .error (.unclassified declaration ("<" ++ parameter.name ++ ">") cause)

/-- The type parameters of a declaration with their bounds. -/
def typeVariables (declaration : Declaration) :
    Except ConversionFailure (List TypeVariable) :=
  declaration.typeParameters.mapM fun parameter => do
    let bounds ← boundTypes declaration.name parameter
    return ⟨parameter.name, bounds⟩

/-- The slot of a field, its type in the given spelling. -/
def fieldProperty (field : Field) (type : TypeRef) : Property :=
  ⟨field.name, type, field.kind.modifiers, field.kind.initializer?⟩

/-- The setter of a field, its type in the given spelling. -/
def fieldSetter (style : SetterStyle) (field : Field)
    (type : TypeRef) : Setter :=
  ⟨field.name.accessor style.verb, field.name, type⟩

/-- The call that passes the required fields and the chosen ones. -/
def callWith (target : String) (fields chosen : List Field) :
    ConstructorCall where
  target := target
  arguments := (fields.filter fun field =>
    !field.isOptional || chosen.any fun other =>
      other.name == field.name).map Field.name

/-- The branch for a set of optional fields. -/
def branchFor (target : String) (fields chosen : List Field) : Branch where
  checks := chosen.map fun field => field.kind.presenceCheck field.name
  call := callWith target fields chosen

/-- What `build` does for the given fields. -/
def buildBody (target : String) (fields : List Field) : BuildBody :=
  let optional := fields.filter Field.isOptional
  if optional.isEmpty then .direct (callWith target fields [])
  else .guarded ((descendingSubsets optional).map (branchFor target fields))
    (callWith target fields [])

/-- The class of the companion object that is extended. -/
def companionName : String := "Companion"

/-- The module of a declaration with the given type parameters and fields. -/
def assemble (naming : Naming) (declaration : Declaration)
    (typeVars : List TypeVariable) (fields : List Field) : Module :=
  let package := declaration.package
  let target : TypeRef :=
    ⟨package, declaration.name, typeVars.map TypeVariable.type, false⟩
  let types := fields.map fun field => field.kind.typeRef
  let clashes := clashingImports package
    (types ++ typeVars.flatMap TypeVariable.bounds ++ [target])
  let typeVars := typeVars.map fun typeVariable =>
    { typeVariable with
        bounds := typeVariable.bounds.map (TypeRef.qualify clashes) }
  let types := types.map (TypeRef.qualify clashes)
  let builder : BuilderClass := {
    name := declaration.name ++ naming.builderSuffix
    typeVariables := typeVars
    properties := List.zipWith fieldProperty fields types
    setters := List.zipWith (fieldSetter naming.style) fields types
    returnType := target
    body := buildBody declaration.name fields }
  { package
    fileName := declaration.name ++ naming.fileSuffix
    imports :=
      NameSet.ofList ((types ++ typeVars.flatMap TypeVariable.bounds).flatMap
        (TypeRef.imports package))
    factory? :=
      if declaration.wantsFactory then
        some {
          name := naming.factoryName
          receiver :=
            (TypeRef.named package declaration.name).nested companionName
          returns := builder.selfType
          typeVariables := typeVars }
      else none
    builder }

/-- The module of a declaration with the given fields. -/
def synthesize (naming : Naming) (declaration : Declaration)
    (fields : List Field) :
    Except ConversionFailure Module := do
  let typeVars ← typeVariables declaration
  return assemble naming declaration typeVars fields

/-- A declaration's module, with its fields and what was noted about them. -/
structure Conversion where
  model : Module
  fields : List Field
  warnings : List Warning

/-- Converts a declaration; it gets a whole module or none. -/
def convert (naming : Naming) (knownTypes : NameSet)
    (declaration : Declaration) :
    Except ConversionFailure Conversion := do
  let conversion ← declaration.convertFields knownTypes
  let model ← synthesize naming declaration conversion.fields
  return ⟨model, conversion.fields, conversion.warnings⟩

end KotlinBuilders
