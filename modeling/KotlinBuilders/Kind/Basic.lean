import KotlinBuilders.Kind.Primitive
import KotlinBuilders.Kotlin.TypeRef

/-!
# Kinds of field types

A field's type is classified into a kind: what it is made of, and whether it
admits `null`.  `Unit` and `Nothing` never admit it, so they carry no flag.  An
alias stands for a type that a marker names in place of the declared one.

Everything else about a kind is a function of it: the label, the type reference
and the literal that a builder slot can start from.
-/

namespace KotlinBuilders

/-- Library types without arguments that are neither primitives nor
containers. -/
inductive WellKnown where
  | charSequence
  | throwable
  | annotationType
  | number
  deriving DecidableEq, Repr

namespace WellKnown

/-- The name of the type. -/
def name : WellKnown → String
  | charSequence => "CharSequence"
  | throwable => "Throwable"
  | annotationType => "Annotation"
  | number => "Number"

/-- The literal that a slot of the type starts from, if there is one. -/
def literal? : WellKnown → Option String
  | charSequence => some "\"\""
  | _ => none

end WellKnown

/-- The containers of one element type. -/
inductive CollectionFamily where
  | iterable
  | collection
  | list
  | set
  deriving DecidableEq, Repr

namespace CollectionFamily

/-- The name of the read-only container. -/
def name : CollectionFamily → String
  | iterable => "Iterable"
  | collection => "Collection"
  | list => "List"
  | set => "Set"

/-- The name of the read-only or of the mutable container. -/
def className (family : CollectionFamily) (isMutable : Bool) : String :=
  if isMutable then "Mutable" ++ family.name else family.name

end CollectionFamily

/-- The containers of keys and values. -/
inductive MapFamily where
  | map
  | entry
  deriving DecidableEq, Repr

namespace MapFamily

/-- The name of the family. -/
def name : MapFamily → String
  | map => "Map"
  | entry => "MapEntry"

/-- The name of the read-only or of the mutable container. -/
def className : MapFamily → Bool → String
  | map, false => "Map"
  | map, true => "MutableMap"
  | entry, false => "Map.Entry"
  | entry, true => "MutableMap.MutableEntry"

end MapFamily

/-- A classified field type. -/
inductive Kind where
  | primitive (type : Primitive) (nullable : Bool)
  | unsigned (type : Unsigned) (nullable : Bool)
  | primitiveArray (type : PrimitiveArray) (nullable : Bool)
  | array (element : Kind) (nullable : Bool)
  | wellKnown (type : WellKnown) (nullable : Bool)
  | collection (family : CollectionFamily) (isMutable : Bool) (element : Kind)
      (nullable : Bool)
  | map (family : MapFamily) (isMutable : Bool) (key value : Kind)
      (nullable : Bool)
  | comparable (element : Kind) (nullable : Bool)
  | enumeration (element : Kind) (nullable : Bool)
  | custom (name : QualifiedName) (arguments : List Kind) (nullable : Bool)
  | aliased (target : TypeRef) (literal? : Option String) (nullable : Bool)
  | unit
  | nothing
  | any (nullable : Bool)
  deriving Repr, Inhabited

namespace Kind

/-- Whether the type admits `null`. -/
def nullable : Kind → Bool
  | .primitive _ n | .unsigned _ n | .primitiveArray _ n | .array _ n
      | .wellKnown _ n => n
  | .collection _ _ _ n | .map _ _ _ _ n | .comparable _ n
      | .enumeration _ n => n
  | .custom _ _ n | .aliased _ _ n | .any n => n
  | .unit | .nothing => false

/-- A short word for what the type is made of. -/
def label : Kind → String
  | .primitive .. => "primitive"
  | .unsigned .. => "unsigned"
  | .primitiveArray .. => "primitive_array"
  | .array .. => "array"
  | .wellKnown .. => "well_known"
  | .collection .. => "collection"
  | .map .. => "map"
  | .comparable .. => "comparable"
  | .enumeration .. => "enum"
  | .custom .. => "custom"
  | .aliased .. => "alias"
  | .unit => "unit"
  | .nothing => "nothing"
  | .any _ => "any"

/-- The literal that a slot of the type could start from, `null` left aside. -/
def literal? : Kind → Option String
  | .primitive type _ => some type.zero
  | .unsigned type _ => some type.zero
  | .wellKnown type _ => type.literal?
  | .aliased _ literal? _ => literal?
  | .unit => some "Unit"
  | .nothing => some "Nothing"
  | _ => none

mutual

/-- The reference to the type. -/
def typeRef : Kind → TypeRef
  | .primitive type nullable => (TypeRef.kotlin type.name).withNullable nullable
  | .unsigned type nullable => (TypeRef.kotlin type.name).withNullable nullable
  | .primitiveArray type nullable =>
    (TypeRef.kotlin type.name).withNullable nullable
  | .array element nullable =>
    ⟨kotlinPackage, "Array", [typeRef element], nullable⟩
  | .wellKnown type nullable => (TypeRef.kotlin type.name).withNullable nullable
  | .collection family isMutable element nullable =>
    ⟨collectionsPackage, family.className isMutable,
      [typeRef element], nullable⟩
  | .map family isMutable key value nullable =>
    ⟨collectionsPackage, family.className isMutable,
      [typeRef key, typeRef value], nullable⟩
  | .comparable element nullable =>
    ⟨kotlinPackage, "Comparable", [typeRef element], nullable⟩
  | .enumeration element nullable =>
    ⟨kotlinPackage, "Enum", [typeRef element], nullable⟩
  | .custom name arguments nullable =>
    ⟨name.package, name.simpleName, typeRefs arguments, nullable⟩
  | .aliased target _ nullable => target.withNullable nullable
  | .unit => TypeRef.kotlin "Unit"
  | .nothing => TypeRef.kotlin "Nothing"
  | .any nullable => (TypeRef.kotlin "Any").withNullable nullable

/-- The references to several types. -/
def typeRefs : List Kind → List TypeRef
  | [] => []
  | kind :: kinds => typeRef kind :: typeRefs kinds

end

/-- The list form reads the type of each kind in its place. -/
theorem typeRefs_eq (kinds : List Kind) :
    typeRefs kinds = kinds.map typeRef := by
  induction kinds with
  | nil => rfl
  | cons kind kinds ih => simp [typeRefs, ih]

/-- The reference to the type without `null`. -/
def baseType (kind : Kind) : TypeRef := kind.typeRef.withNullable false

/-- The kind of an alias.  The target itself is non-null; what admits `null` is
the alias. -/
def aliasOf (target : TypeRef) (literal? : Option String)
    (nullable : Bool) : Kind :=
  .aliased (target.withNullable false) literal? nullable

/-- The reference admits `null` exactly when the kind does. -/
@[simp] theorem nullable_typeRef (kind : Kind) :
    kind.typeRef.nullable = kind.nullable := by
  cases kind <;> simp [typeRef, nullable, TypeRef.withNullable, TypeRef.kotlin,
    TypeRef.named]

end Kind

end KotlinBuilders
