import KotlinBuilders.Conversion.Failure
import KotlinBuilders.Conversion.Warning
import KotlinBuilders.Host.Declaration
import KotlinBuilders.Host.Listing
import KotlinBuilders.Kotlin.Identifier

/-!
# Fields of a declaration

A declaration's constructor parameters become classified fields.  Parameters
recovered from a listing are treated like given ones without a default that are
not nullable.  An alias marker whose target the host knows puts the target in
place of the declared type; any other alias is noted and left aside.

The warnings are a function of the declaration and of the known types alone
(`fieldWarnings`, `unknownMarkerWarnings`); only a conversion that succeeds has
any.
-/

namespace KotlinBuilders

/-- A constructor parameter with its classified type. -/
structure Field where
  name : FieldName
  declaredType : String
  hasDefault : Bool
  kind : Kind
  deriving Repr

/-- Whether the constructor can be called without the field. -/
def Field.isOptional (field : Field) : Bool := field.hasDefault

/-- The parameter that a listing's member stands for. -/
def Member.parameter (member : Member) : Parameter :=
  { name := member.name, type := member.type }

namespace Declaration

/-- The constructor parameters, as given or as recovered from the listing. -/
def constructorParameters (declaration : Declaration) :
    Except ConversionFailure (List Parameter) :=
  match declaration.parameters?, declaration.listing? with
  | some parameters, _ => .ok parameters
  | none, some listing =>
    match parseListing declaration.name listing with
    | some members => .ok (members.map Member.parameter)
    | none => .error (.listingMismatch declaration.name)
  | none, none => .error (.noParameters declaration.name)

end Declaration

/-- The kind of an alias whose target the host knows. -/
def resolvedAlias? (knownTypes : NameSet) (nullable : Bool) (marker : Alias) :
    Option Kind :=
  (resolve? knownTypes marker.target).map fun target =>
    Kind.aliasOf (TypeRef.ofName target) marker.explicitLiteral? nullable

/-- The kind of a parameter's type under the markers of its field. -/
def fieldKind (knownTypes : NameSet) (markers : Markers)
    (parameter : Parameter) : Except ArityMismatch Kind :=
  let nullable := parameter.nullable || markers.nullable
  match markers.alias?.bind (resolvedAlias? knownTypes nullable) with
  | some kind => .ok kind
  | none =>
    classify ⟨nullable, markers.isMutable, markers.isUnsigned⟩
      markers.genericNullable parameter.type

/-- The field of a parameter. -/
def convertField (knownTypes : NameSet) (declaration : Declaration)
    (parameter : Parameter) :
    Except ConversionFailure Field :=
  match fieldKind knownTypes (declaration.markersOf parameter.name)
      parameter with
  | .ok kind =>
    .ok ⟨⟨parameter.name⟩, parameter.type, parameter.hasDefault, kind⟩
  | .error cause => .error (.unclassified declaration.name parameter.name cause)

/-- The fields of parameters, whose names must differ from one another and from
the names before them. -/
def convertFields (knownTypes : NameSet) (declaration : Declaration) :
    (before : List String) → List Parameter →
      Except ConversionFailure (List Field)
  | _, [] => .ok []
  | before, parameter :: parameters =>
    if before.contains parameter.name then
      .error (.duplicateField declaration.name parameter.name)
    else do
      let field ← convertField knownTypes declaration parameter
      let fields ← convertFields knownTypes declaration
          (parameter.name :: before) parameters
      return field :: fields

/-- The warnings about a parameter's declared type and its alias. -/
def fieldWarnings (knownTypes : NameSet) (declaration : Declaration)
    (parameter : Parameter) : List Warning :=
  let malformed :=
    if Text.isBalanced parameter.type.toList then []
    else [.malformedGenerics declaration.name parameter.name parameter.type]
  let unresolved :=
    match (declaration.markersOf parameter.name).alias? with
    | some marker =>
      if (resolve? knownTypes marker.target).isSome then []
      else [.unresolvedAlias declaration.name parameter.name marker.target]
    | none => []
  malformed ++ unresolved

/-- The warnings about markers on no parameter. -/
def unknownMarkerWarnings (declaration : Declaration)
    (parameters : List Parameter) : List Warning :=
  let strangers := declaration.markers.names.filter fun name =>
    !(parameters.map Parameter.name).contains name
  strangers.map (.unknownMarkerField declaration.name)

/-- The fields of a declaration and what was noted about them. -/
structure FieldConversion where
  fields : List Field
  warnings : List Warning
  deriving Repr

namespace Declaration

/-- The fields of a declaration and the warnings about them. -/
def convertFields (knownTypes : NameSet) (declaration : Declaration) :
    Except ConversionFailure FieldConversion := do
  let parameters ← declaration.constructorParameters
  let fields ← KotlinBuilders.convertFields knownTypes declaration [] parameters
  return {
    fields
    warnings := parameters.flatMap (fieldWarnings knownTypes declaration)
      ++ unknownMarkerWarnings declaration parameters }

end Declaration

end KotlinBuilders
