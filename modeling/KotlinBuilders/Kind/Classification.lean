import KotlinBuilders.Host.HostType
import KotlinBuilders.Kind.Basic

/-!
# From host types to kinds

Classifying a host type looks its names up in the tables of primitives, library
types and containers; a name in none of them is a custom type.  The only failure
is a known container with the wrong number of type arguments.

The flags say how the outermost type is to be read and reach no type inside it.
The types inside have their own nullability, one slot each, in the order in
which they begin in the text; a type takes its slot and hands the next
`nestedCount` ones to the types inside it.  A missing slot says non-null.
-/

namespace KotlinBuilders

/-- How the outermost type is to be read. -/
structure TypeFlags where
  nullable : Bool := false
  isMutable : Bool := false
  isUnsigned : Bool := false
  deriving DecidableEq, Repr, Inhabited

/-- The flags of a type inside another one. -/
def TypeFlags.nested (nullable : Bool) : TypeFlags := { nullable }

/-- A known container with the wrong number of type arguments. -/
structure ArityMismatch where
  outer : String
  expected : Nat
  found : Nat
  deriving DecidableEq, Repr, Inhabited

/-- The wording of the mismatch. -/
def ArityMismatch.message (mismatch : ArityMismatch) : String :=
  "'" ++ mismatch.outer ++ "' takes " ++ toString mismatch.expected
    ++ " type argument(s), found "
    ++ toString mismatch.found

/-- A known generic type.  Some are mutable whatever the flags say. -/
inductive Container where
  | enumeration
  | comparable
  | collection (family : CollectionFamily) (alwaysMutable : Bool)
  | map (family : MapFamily) (alwaysMutable : Bool)
  deriving DecidableEq, Repr

namespace Container

/-- The number of type arguments. -/
def arity : Container → Nat
  | .map .. => 2
  | _ => 1

/-- The known containers and the names they go by. -/
def table : List (Container × List String) :=
  [(.enumeration, ["java.lang.Enum", "kotlin.Enum"]),
    (.comparable, ["java.lang.Comparable", "kotlin.Comparable"]),
    (.collection .iterable false,
      ["java.lang.Iterable", "kotlin.collections.Iterable"]),
    (.collection .iterable true, ["kotlin.collections.MutableIterable"]),
    (.collection .collection false,
      ["java.util.Collection", "kotlin.collections.Collection"]),
    (.collection .collection true, ["kotlin.collections.MutableCollection"]),
    (.collection .list false, ["java.util.List", "kotlin.collections.List"]),
    (.collection .list true, ["kotlin.collections.MutableList"]),
    (.collection .set false, ["java.util.Set", "kotlin.collections.Set"]),
    (.collection .set true, ["kotlin.collections.MutableSet"]),
    (.map .map false, ["java.util.Map", "kotlin.collections.Map"]),
    (.map .map true, ["kotlin.collections.MutableMap"]),
    (.map .entry false,
      ["java.util.Map.Entry", "java.util.Map$Entry",
        "kotlin.collections.Map.Entry"]),
    (.map .entry true, ["kotlin.collections.MutableMap.MutableEntry"])]

/-- The container of a name. -/
def ofName? (name : String) : Option Container :=
  (table.find? fun entry => entry.2.contains name).map Prod.fst

/-- The kind of a container of the given arguments. -/
def kind? (flags : TypeFlags) : Container → List Kind → Option Kind
  | .enumeration, [element] => some (.enumeration element flags.nullable)
  | .comparable, [element] => some (.comparable element flags.nullable)
  | .collection family always, [element] =>
    some (.collection family (always || flags.isMutable) element flags.nullable)
  | .map family always, [key, value] =>
    some (.map family (always || flags.isMutable) key value flags.nullable)
  | _, _ => none

/-- A container of the right number of arguments has a kind, and no other one
has. -/
theorem isSome_kind? (flags : TypeFlags) (container : Container)
    (arguments : List Kind) :
    (container.kind? flags arguments).isSome
      = decide (arguments.length = container.arity) := by
  rcases arguments with _ | ⟨a, _ | ⟨b, _ | ⟨c, rest⟩⟩⟩ <;> cases container <;>
    simp [kind?, arity]

end Container

namespace Kind

/-- The unsigned form of a primitive type, where the flags ask for it and there
is one. -/
def unsignedForm? (flags : TypeFlags) (type : Primitive) : Option Unsigned :=
  if flags.isUnsigned then type.unsigned? else none

/-- The kind of a primitive type. -/
def ofPrimitive (flags : TypeFlags) (type : Primitive) : Kind :=
  match unsignedForm? flags type with
  | some form => .unsigned form flags.nullable
  | none => .primitive type flags.nullable

/-- The kind of an array of the virtual machine's primitives. -/
def ofPrimitiveArray (flags : TypeFlags) (element : Primitive) : Kind :=
  match ((unsignedForm? flags element).map Unsigned.array).or
      element.array? with
  | some type => .primitiveArray type flags.nullable
  | none => .array (.primitive element false) flags.nullable

/-- The library types without arguments and the names they go by. -/
def libraryTable (nullable : Bool) : List (Kind × List String) :=
  [(.wellKnown .charSequence nullable,
    ["java.lang.CharSequence", "kotlin.CharSequence"]), (.wellKnown .throwable
      nullable, ["java.lang.Throwable", "kotlin.Throwable"]),
    (.wellKnown .annotationType nullable,
      ["java.lang.annotation.Annotation", "kotlin.Annotation"]),
    (.wellKnown .number nullable, ["java.lang.Number", "kotlin.Number"]),
    (.nothing, ["java.lang.Void", "kotlin.Nothing"]),
    (.unit, ["kotlin.Unit"]),
    (.any nullable, ["java.lang.Object", "kotlin.Any"])]

/-- The kind of a library type without arguments. -/
def ofLibraryName? (flags : TypeFlags) (name : String) : Option Kind :=
  ((libraryTable flags.nullable).find? fun entry =>
    entry.2.contains name).map Prod.fst

/-- The name of a custom type: cut at the last dot before the first angle
bracket, so that what stands between brackets stays with the simple name. -/
def customName (text : List Char) : QualifiedName :=
  let head := text.takeWhile (· != '<')
  match Text.cutAtLast '.' head with
  | some (package, simpleName) =>
    ⟨String.ofList package,
      String.ofList (simpleName ++ text.dropWhile (· != '<'))⟩
  | none => ⟨"", String.ofList text⟩

/-- The kind of a type that is neither an array nor generic. -/
def ofName (flags : TypeFlags) (name : List Char) : Kind :=
  match Primitive.ofSpelling? (String.ofList name) with
  | some type => ofPrimitive flags type
  | none =>
    match ofLibraryName? flags (String.ofList name) with
    | some kind => kind
    | none => .custom (customName name) [] flags.nullable

/-- A text that is kept as it is, as the name of a type. -/
def opaqueType (text : List Char) (nullable : Bool) : Kind :=
  .custom ⟨"", String.ofList text⟩ [] nullable

/-- The kind of a generic type of the given arguments. -/
def ofGeneric (flags : TypeFlags) (outer : List Char) (arguments : List Kind) :
    Except ArityMismatch Kind :=
  match Container.ofName? (String.ofList outer) with
  | some container =>
    match container.kind? flags arguments with
    | some kind => .ok kind
    | none => .error ⟨String.ofList outer, container.arity, arguments.length⟩
  | none => .ok (.custom (QualifiedName.ofText outer) arguments flags.nullable)

end Kind

/-- The nullability that the first slot says. -/
def firstSlot (slots : List Bool) : Bool := slots.headD false

namespace HostType

mutual

/-- The kind of a type. -/
def classify (flags : TypeFlags) (slots : List Bool) :
    HostType → Except ArityMismatch Kind
  | .blank => .ok .unit
  | .wildcard => .ok (.any true)
  | .named name => .ok (Kind.ofName flags name)
  | .primitiveArray element => .ok (Kind.ofPrimitiveArray flags element)
  | .arrayOf element => do
    let kind ← classify (.nested (firstSlot slots)) slots.tail element
    return .array kind flags.nullable
  | .applied outer arguments => do
    let kinds ← classifyAll slots arguments
    Kind.ofGeneric flags outer kinds
  | .brokenGeneric outer arguments =>
    .ok (.custom (QualifiedName.ofText outer)
      (arguments.map (Kind.opaqueType · false)) flags.nullable)
  | .brokenName text => .ok (Kind.opaqueType text flags.nullable)

/-- The kinds of the types inside another one, one after the other. -/
def classifyAll (slots : List Bool) :
    List HostType → Except ArityMismatch (List Kind)
  | [] => .ok []
  | type :: types => do
    let kind ← classify (.nested (firstSlot slots)) slots.tail type
    let kinds ← classifyAll (slots.drop (type.nestedCount + 1)) types
    return kind :: kinds

end

end HostType

/-- The kind of a type in host notation. -/
def classify (flags : TypeFlags) (slots : List Bool) (type : String) :
    Except ArityMismatch Kind :=
  (HostType.ofText type.toList).classify flags slots

end KotlinBuilders
