import KotlinBuilders.Host.Declaration
import KotlinBuilders.Json.Value

/-!
# Dumps as JSON

A dump is written with every key present, in the order in which its fields are
declared; what is absent is `null`.
-/

namespace KotlinBuilders

/-- A type parameter as JSON. -/
def TypeParameter.toJson (parameter : TypeParameter) : Json :=
  .object [("name", .string parameter.name),
    ("bounds", Json.ofTexts parameter.bounds)]

/-- A constructor parameter as JSON. -/
def Parameter.toJson (parameter : Parameter) : Json :=
  .object [("name", .string parameter.name), ("type", .string parameter.type),
    ("has_default", .bool parameter.hasDefault),
    ("nullable", .bool parameter.nullable)]

/-- An alias as JSON. -/
def Alias.toJson (marker : Alias) : Json :=
  .object [("target", .string marker.target),
    ("default_value", .string marker.literal)]

/-- The markers of a field as JSON. -/
def Markers.toJson (markers : Markers) : Json :=
  .object [("nullable", .bool markers.nullable),
    ("mutable", .bool markers.isMutable),
    ("unsigned", .bool markers.isUnsigned),
    ("alias", (markers.alias?.map Alias.toJson).getD .null),
    ("generic_nullable", .list (markers.genericNullable.map .bool))]

/-- Constructor parameters as JSON. -/
def parametersToJson (parameters : List Parameter) : Json :=
  .list (parameters.map Parameter.toJson)

/-- A declaration as JSON. -/
def Declaration.toJson (declaration : Declaration) : Json :=
  .object [("name", .string declaration.name),
    ("package", .string declaration.package),
    ("type_parameters", .list
      (declaration.typeParameters.map TypeParameter.toJson)),
    ("parameters", (declaration.parameters?.map parametersToJson).getD .null),
    ("members", Json.ofText? declaration.listing?),
    ("markers", .object (declaration.markers.entries.map fun entry =>
      (entry.1, entry.2.toJson))),
    ("creator", .object [("companionable", .bool declaration.companionable)]),
    ("has_companion", .bool declaration.hasCompanion)]

/-- A dump as JSON. -/
def Dump.toJson (dump : Dump) : Json :=
  .object [("declarations", .list (dump.declarations.map Declaration.toJson)),
    ("known_types", Json.ofTexts dump.knownTypes.toList)]

end KotlinBuilders
