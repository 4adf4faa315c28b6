import KotlinBuilders.Builder.Module
import KotlinBuilders.Kotlin.Code

/-!
# Modules as Kotlin source

A module becomes a list of pieces of code: the header of the file, its package
and imports, the factory, and the builder class.  A type parameter with one
bound carries it in its list; one with more has them in a `where` clause.
-/

namespace KotlinBuilders

/-- Several texts joined by a comma and a space. -/
def commaList (texts : List String) : String := ", ".intercalate texts

/-- The generator that is named where none is given. -/
def generatorName : String := "databuilder-gen"

/-- What the comment above a file says. -/
structure FileHeader where
  source : String
  generator : String := generatorName
  deriving DecidableEq, Repr

/-- The lines of the comment. -/
def FileHeader.lines (header : FileHeader) : List String :=
  ["// Generated by " ++ header.generator ++ ". Do not edit.",
    "// Source: " ++ header.source]

/-- A type parameter with one of its bounds. -/
def TypeVariable.constraint (typeVariable : TypeVariable)
    (bound : TypeRef) : String :=
  typeVariable.name ++ " : " ++ bound.render

/-- A type parameter as it stands in a list; a single bound stands with it. -/
def TypeVariable.inList (typeVariable : TypeVariable) : String :=
  match typeVariable.bounds with
  | [bound] => typeVariable.constraint bound
  | _ => typeVariable.name

/-- The type parameters in angle brackets, or nothing. -/
def typeParameterList (typeVars : List TypeVariable) : String :=
  if typeVars.isEmpty then ""
    else "<" ++ commaList (typeVars.map TypeVariable.inList) ++ ">"

/-- The bounds of the type parameters with more than one. -/
def severalBounds (typeVars : List TypeVariable) : List String :=
  (typeVars.filter fun typeVariable => typeVariable.bounds.length > 1).flatMap
      fun typeVariable =>
    typeVariable.bounds.map typeVariable.constraint

/-- The clause with the bounds of the type parameters with more than one, or
nothing. -/
def whereClause (typeVars : List TypeVariable) : String :=
  let constraints := commaList (severalBounds typeVars)
  if constraints.isEmpty then "" else " where " ++ constraints

/-- A call in source text; each argument is passed by its name. -/
def ConstructorCall.render (call : ConstructorCall) : String :=
  call.target ++ "("
    ++ commaList (call.arguments.map fun name =>
      name.identifier ++ " = this." ++ name.identifier) ++ ")"

/-- The condition of a branch. -/
def Branch.condition (branch : Branch) : String :=
  " && ".intercalate (branch.checks.map PresenceCheck.render)

/-- The line that declares a slot. -/
def Property.line (property : Property) : String :=
  " ".intercalate (property.modifiers.map Modifier.word) ++ " var "
    ++ property.name.identifier ++ ": "
    ++ property.type.render
    ++ match property.initializer? with
      | some literal => " = " ++ literal
      | none => ""

/-- The line of a setter that returns the builder's own type. -/
def Setter.line (setter : Setter) (selfType : TypeRef) : String :=
  let name := setter.field.identifier
  "fun " ++ setter.name ++ "(" ++ name ++ ": " ++ setter.type.render ++ "): "
    ++ selfType.render
    ++ " = apply \x7b this." ++ name ++ " = " ++ name ++ " \x7d"

/-- The line of a factory. -/
def Factory.line (factory : Factory) : String :=
  let parameters := typeParameterList factory.typeVariables
  "fun " ++ (if parameters.isEmpty then "" else parameters ++ " ")
    ++ factory.receiver.render ++ "."
    ++ factory.name ++ "(): " ++ factory.returns.render
    ++ whereClause factory.typeVariables ++ " = "
    ++ factory.returns.simpleName ++ "()"

/-- The line of a branch. -/
def Branch.line (branch : Branch) : String :=
  branch.condition ++ " -> " ++ branch.call.render

/-- What stands in the `build` function. -/
def BuildBody.code : BuildBody → List Code
  | .direct call => [.line ("return " ++ call.render)]
  | .guarded branches fallback =>
    [.opening "return when"] ++ branches.map (.line ·.line)
      ++ [.line ("else -> " ++ fallback.render), .closing]

namespace BuilderClass

/-- The lines of the slots, with a blank line after them. -/
def propertyCode (builder : BuilderClass) : List Code :=
  builder.properties.map (.line ·.line) ++ if builder.properties.isEmpty
    then [] else [.blank]

/-- The lines of the setters, each with a blank line after it. -/
def setterCode (builder : BuilderClass) : List Code :=
  builder.setters.flatMap fun setter =>
    [.line (setter.line builder.selfType), .blank]

/-- The `build` function. -/
def buildCode (builder : BuilderClass) : List Code :=
  [.opening ("fun build(): " ++ builder.returnType.render)]
    ++ builder.body.code ++ [.closing]

/-- The line that opens the class. -/
def headline (builder : BuilderClass) : String :=
  "class " ++ builder.name ++ typeParameterList builder.typeVariables
    ++ whereClause builder.typeVariables

/-- The whole class. -/
def code (builder : BuilderClass) : List Code :=
  [.opening builder.headline] ++ builder.propertyCode ++ builder.setterCode
    ++ builder.buildCode ++ [.closing]

end BuilderClass

namespace Module

/-- The lines above the class: comment, package, imports and factory, each group
with a blank line after it. -/
def preamble (model : Module) (header? : Option FileHeader) : List Code :=
  (match header? with
    | some header => header.lines.map .line ++ [.blank]
    | none => [])
  ++ (if model.package.isEmpty then []
    else [.line ("package " ++ model.package), .blank])
  ++ (if model.imports.isEmpty then []
    else model.imports.toList.map (fun name =>
      .line ("import " ++ name)) ++ [.blank])
  ++ match model.factory? with
    | some factory => [.line factory.line, .blank]
    | none => []

/-- The pieces of a module's source code. -/
def code (model : Module) (header? : Option FileHeader) : List Code :=
  model.preamble header? ++ model.builder.code

/-- The source text of a module. -/
def render (model : Module) (header? : Option FileHeader) : String :=
  renderCode (model.code header?)

end Module

end KotlinBuilders
