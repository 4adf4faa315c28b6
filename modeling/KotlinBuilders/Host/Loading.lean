import KotlinBuilders.Host.Declaration
import KotlinBuilders.Json.Schema

/-!
# Loading dumps

The schemas say how a dump is written as JSON; `Dump.load` reads one from the
bytes of a text.  Only the names of declarations, type parameters and
parameters, the types of parameters and the targets of aliases have to be given.
-/

namespace KotlinBuilders

open Json (Schema Fields)

/-- A text that is empty when absent. -/
def textSchema : Schema := .text ""

/-- How a type parameter is written. -/
def typeParameterSchema : Schema :=
  .record "TypeParameter" <|
    .field "name" true textSchema <|
    .field "bounds" false (.list textSchema) .none

/-- How a constructor parameter is written. -/
def parameterSchema : Schema :=
  .record "Parameter" <|
    .field "name" true textSchema <|
    .field "type" true textSchema <|
    .field "has_default" false .flag <|
    .field "nullable" false .flag .none

/-- How an alias is written. -/
def aliasSchema : Schema :=
  .record "AliasMarker" <|
    .field "target" true textSchema <|
    .field "default_value" false (.text aliasPlaceholder) .none

/-- How the markers of a field are written. -/
def markersSchema : Schema :=
  .record "MarkerSet" <|
    .field "nullable" false .flag <|
    .field "mutable" false .flag <|
    .field "unsigned" false .flag <|
    .field "alias" false (.optional aliasSchema) <|
    .field "generic_nullable" false (.list .flag) .none

/-- How the markers of a declaration are written. -/
def creatorSchema : Schema :=
  .record "CreatorMarker" <|
    .field "companionable" false .flag .none

/-- How a declaration is written. -/
def declarationSchema : Schema :=
  .record "Declaration" <|
    .field "name" true textSchema <|
    .field "package" false textSchema <|
    .field "type_parameters" false (.list typeParameterSchema) <|
    .field "parameters" false (.optional (.list parameterSchema)) <|
    .field "members" false (.optional textSchema) <|
    .field "markers" false (.table markersSchema) <|
    .field "creator" false creatorSchema <|
    .field "has_companion" false .flag .none

/-- How a dump is written. -/
def dumpSchema : Schema :=
  .record "HostDump" <|
    .field "declarations" false (.list declarationSchema) <|
    .field "known_types" false (.list textSchema) .none

/-- The type parameter that a value stands for. -/
def TypeParameter.ofValue : typeParameterSchema.Value → TypeParameter
  | (name, bounds, ()) => { name, bounds }

/-- The constructor parameter that a value stands for. -/
def Parameter.ofValue : parameterSchema.Value → Parameter
  | (name, type, hasDefault, nullable, ()) =>
    { name, type, hasDefault, nullable }

/-- The alias that a value stands for. -/
def Alias.ofValue : aliasSchema.Value → Alias
  | (target, literal, ()) => { target, literal }

/-- The markers that a value stands for. -/
def Markers.ofValue : markersSchema.Value → Markers
  | (nullable, isMutable, isUnsigned, alias?, genericNullable, ()) =>
    { nullable, isMutable, isUnsigned,
      alias? := Option.map Alias.ofValue alias?, genericNullable }

/-- The declaration that a value stands for. -/
def Declaration.ofValue : declarationSchema.Value → Declaration
  | (name, package, typeParameters, parameters?, listing?, markers,
      (companionable, ()), hasCompanion, ()) =>
    { name, package
      typeParameters := List.map TypeParameter.ofValue typeParameters
      parameters? := Option.map (List.map Parameter.ofValue) parameters?
      listing?
      markers := Catalog.map Markers.ofValue markers
      companionable, hasCompanion }

/-- The dump that a value stands for. -/
def Dump.ofValue : dumpSchema.Value → Dump
  | (declarations, knownTypes, ()) =>
    { declarations := List.map Declaration.ofValue declarations,
      knownTypes := NameSet.ofList knownTypes }

/-- A dump that does not load. -/
structure LoadFailure where
  refusal : Json.Refusal
  deriving DecidableEq, Repr

namespace LoadFailure

/-- The path of the place where loading failed. -/
def path (failure : LoadFailure) : String := Json.pathText failure.refusal.path

/-- The wording of the failure. -/
def message (failure : LoadFailure) : String :=
  "invalid host dump at path " ++ failure.path ++ ": "
    ++ failure.refusal.fault.message

end LoadFailure

namespace Dump

/-- The dump that the bytes of a text write. -/
def load (text : List UInt8) : Except LoadFailure Dump :=
  match dumpSchema.read (Json.Node.ofBytes text) with
  | .ok value => .ok (ofValue value)
  | .error refusal => .error ⟨refusal⟩

/-- The dump that a text writes. -/
def loadText (text : String) : Except LoadFailure Dump :=
  load text.toUTF8.data.toList

end Dump

end KotlinBuilders
