import KotlinBuilders.Builder.Module
import KotlinBuilders.Json.Value

/-!
# Modules as JSON

The model of a module holds everything that its source text depends on.  Field
names stand in it as they were declared, without backticks, and a missing
factory or initializer is `null`.
-/

namespace KotlinBuilders

namespace TypeRef

mutual

/-- A type reference as JSON. -/
def toJson : TypeRef → Json
  | ⟨package, simpleName, arguments, nullable⟩ =>
    .object [("package", .string package), ("simple_name", .string simpleName),
      ("arguments", .list (toJsonAll arguments)), ("nullable", .bool nullable)]

/-- Several type references as JSON. -/
def toJsonAll : List TypeRef → List Json
  | [] => []
  | type :: types => toJson type :: toJsonAll types

end

/-- The list form of the writer writes each type in its place. -/
theorem toJsonAll_eq (types : List TypeRef) :
    toJsonAll types = types.map toJson := by
  induction types with
  | nil => rfl
  | cons type types ih => simp [toJsonAll, ih]

end TypeRef

/-- A field name as JSON. -/
def FieldName.toJson (name : FieldName) : Json := .string name.raw

/-- A type parameter as JSON. -/
def TypeVariable.toJson (typeVariable : TypeVariable) : Json :=
  .object [("name", .string typeVariable.name),
    ("bounds", .list (typeVariable.bounds.map TypeRef.toJson))]

/-- A slot as JSON. -/
def Property.toJson (property : Property) : Json :=
  .object [("name", property.name.toJson), ("type_name", property.type.toJson),
    ("modifiers", Json.ofTexts (property.modifiers.map Modifier.word)),
    ("initializer", Json.ofText? property.initializer?)]

/-- A setter as JSON. -/
def Setter.toJson (setter : Setter) : Json :=
  .object [("name", .string setter.name), ("field", setter.field.toJson),
    ("parameter_type", setter.type.toJson)]

/-- A call as JSON. -/
def ConstructorCall.toJson (call : ConstructorCall) : Json :=
  .object [("target", .string call.target),
    ("arguments", .list (call.arguments.map FieldName.toJson))]

/-- A check as JSON. -/
def PresenceCheck.toJson : PresenceCheck → Json
  | .initialized field =>
    .object [("check", .string "initialized"), ("field", field.toJson)]
  | .differs field literal =>
    .object [("check", .string "differs"), ("field", field.toJson),
      ("literal", .string literal)]

/-- A branch as JSON. -/
def Branch.toJson (branch : Branch) : Json :=
  .object [("checks", .list (branch.checks.map PresenceCheck.toJson)),
    ("call", branch.call.toJson)]

/-- The body of `build` as JSON. -/
def BuildBody.toJson : BuildBody → Json
  | .direct call => .object [("body", .string "direct"), ("call", call.toJson)]
  | .guarded branches fallback =>
    .object [("body", .string "guarded"),
      ("branches", .list (branches.map Branch.toJson)),
      ("fallback", fallback.toJson)]

/-- The builder class as JSON. -/
def BuilderClass.toJson (builder : BuilderClass) : Json :=
  .object [("name", .string builder.name),
    ("type_parameters", .list (builder.typeVariables.map TypeVariable.toJson)),
    ("properties", .list (builder.properties.map Property.toJson)),
    ("setters", .list (builder.setters.map Setter.toJson)),
    ("build_function", .object [("return_type", builder.returnType.toJson),
      ("body", builder.body.toJson)])]

/-- A factory as JSON. -/
def Factory.toJson (factory : Factory) : Json :=
  .object [("name", .string factory.name),
    ("receiver", factory.receiver.toJson),
    ("returns", factory.returns.toJson),
    ("type_parameters", .list (factory.typeVariables.map TypeVariable.toJson))]

/-- A module as JSON. -/
def Module.toJson (model : Module) : Json :=
  .object [("package", .string model.package),
    ("file_name", .string model.fileName),
    ("imports", Json.ofTexts model.imports.toList),
    ("factory", (model.factory?.map Factory.toJson).getD .null),
    ("builder", model.builder.toJson)]

end KotlinBuilders
