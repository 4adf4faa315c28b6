import KotlinBuilders.Collection.Catalog
import KotlinBuilders.Collection.NameSet
import KotlinBuilders.Kotlin.QualifiedName

/-!
# What a host says about its declarations

A dump lists the declarations that want a builder, together with the names of
all types that the host can resolve.  A declaration gives its constructor
parameters where the host has symbol information, and otherwise the printed
listing of its members.  Markers refine single fields by name.
-/

namespace KotlinBuilders

/-- The literal of an alias that names none. -/
def aliasPlaceholder : String := "null"

/-- A marker that puts a concrete type in place of the declared one. -/
structure Alias where
  target : String
  literal : String := aliasPlaceholder
  deriving DecidableEq, Repr

namespace Alias

/-- The literal to start a slot from, unless it is blank or the placeholder. -/
def explicitLiteral? (marker : Alias) : Option String :=
  if marker.literal.trimBlank = ""
    ∨ marker.literal.trimBlank = aliasPlaceholder then none
  else some marker.literal.trimBlank

end Alias

/-- The markers of one field. -/
structure Markers where
  nullable : Bool := false
  isMutable : Bool := false
  isUnsigned : Bool := false
  alias? : Option Alias := none
  genericNullable : List Bool := []
  deriving DecidableEq, Repr

namespace Markers

instance : Inhabited Markers := ⟨{}⟩

/-- The markers of a field that has none. -/
def none : Markers := {}

/-- Whether nothing is marked. -/
def isEmpty (markers : Markers) : Bool := markers == none

end Markers

/-- A type parameter and its bounds in host notation. -/
structure TypeParameter where
  name : String
  bounds : List String := []
  deriving DecidableEq, Repr

/-- A constructor parameter; its type is in host notation. -/
structure Parameter where
  name : String
  type : String
  hasDefault : Bool := false
  nullable : Bool := false
  deriving DecidableEq, Repr

/-- A declaration that wants a builder. -/
structure Declaration where
  name : String
  package : String := ""
  typeParameters : List TypeParameter := []
  parameters? : Option (List Parameter) := none
  listing? : Option String := none
  markers : Catalog Markers := .empty
  companionable : Bool := false
  hasCompanion : Bool := false

namespace Declaration

instance : Inhabited Declaration := ⟨{ name := "" }⟩

/-- The markers of a field. -/
def markersOf (declaration : Declaration) (field : String) : Markers :=
  (declaration.markers.get? field).getD Markers.none

/-- Whether the companion object gets a factory. -/
def wantsFactory (declaration : Declaration) : Bool :=
  declaration.hasCompanion && declaration.companionable

end Declaration

/-- The declarations of a host and the types it can resolve. -/
structure Dump where
  declarations : List Declaration := []
  knownTypes : NameSet := ∅

namespace Dump

instance : Inhabited Dump := ⟨{}⟩

/-- The first declaration of a name. -/
def declaration? (dump : Dump) (name : String) : Option Declaration :=
  dump.declarations.find? fun declaration => declaration.name == name

end Dump

/-- The name of a type among the known ones; white space around it does not
count. -/
def resolve? (knownTypes : NameSet) (name : String) : Option QualifiedName :=
  if knownTypes.contains name.trimBlank
    then some (QualifiedName.ofText name.toList) else none

end KotlinBuilders
