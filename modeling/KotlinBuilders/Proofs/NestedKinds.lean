import KotlinBuilders.Kind.Classification

/-!
# What flags and slots decide

The flags of a classification say how the outermost type is read, the slots
which of the types inside it admit `null`.  What the flags do is one change of
the kind that the type has without them, `Kind.readWith`, which leaves the types
inside alone (`classify_eq_map_readWith`).  What the slots do is to set the mark
for `null` of a type inside, which is gone when all these marks are erased
(`map_nonNull_classify`).  Neither has a say in whether a type can be
classified, nor in how that fails.

Together, two classifications of a text fail alike or give kinds of one shape,
and when they have the same slots, also the same kinds inside.  This is
`classify_shape_parts`.
-/

namespace KotlinBuilders

/-- The signed form of an unsigned integer. -/
def Unsigned.signed : Unsigned → Primitive
  | uByte => .byte
  | uShort => .short
  | uInt => .int
  | uLong => .long

/-- The signed form of an unsigned number is the type that it is the form of. -/
theorem Unsigned.signed_of_unsigned? {type : Primitive} {form : Unsigned}
    (hform : type.unsigned? = some form) :
    form.signed = type := by
  cases type <;> cases hform <;> rfl

namespace PrimitiveArray

/-- The array of signed integers for one of unsigned integers; any other array
is itself. -/
def signed : PrimitiveArray → PrimitiveArray
  | uByteArray => byteArray
  | uShortArray => shortArray
  | uIntArray => intArray
  | uLongArray => longArray
  | type => type

/-- The array of unsigned integers for one of signed integers; any other array
is itself. -/
def unsigned : PrimitiveArray → PrimitiveArray
  | byteArray => uByteArray
  | shortArray => uShortArray
  | intArray => uIntArray
  | longArray => uLongArray
  | type => type

/-- Whether an array is unsigned or not, its signed form is the same. -/
theorem signed_unsigned (type : PrimitiveArray) :
    type.unsigned.signed = type.signed := by cases type <;> rfl

end PrimitiveArray

namespace Kind

/-- The kinds of the types directly inside the type.  What is inside these is
part of them. -/
def parts : Kind → List Kind
  | .array element _ | .collection _ _ element _ | .comparable element _
      | .enumeration element _ => [element]
  | .map _ _ key value _ => [key, value]
  | .custom _ arguments _ => arguments
  | _ => []

mutual

/-- The kind with each mark for `null` erased, its own and those inside it. -/
def nonNull : Kind → Kind
  | .primitive type _ => .primitive type false
  | .unsigned type _ => .unsigned type false
  | .primitiveArray type _ => .primitiveArray type false
  | .array element _ => .array (nonNull element) false
  | .wellKnown type _ => .wellKnown type false
  | .collection family isMutable element _ =>
    .collection family isMutable (nonNull element) false
  | .map family isMutable key value _ =>
    .map family isMutable (nonNull key) (nonNull value) false
  | .comparable element _ => .comparable (nonNull element) false
  | .enumeration element _ => .enumeration (nonNull element) false
  | .custom name arguments _ => .custom name (nonNullAll arguments) false
  | .aliased target literal? _ => .aliased target literal? false
  | .unit => .unit
  | .nothing => .nothing
  | .any _ => .any false

def nonNullAll : List Kind → List Kind
  | [] => []
  | kind :: kinds => nonNull kind :: nonNullAll kinds

end

/-- The kind without a mark for mutability on its own container and without the
difference between its own signed and unsigned integers.  The types inside keep
theirs. -/
def plain : Kind → Kind
  | .unsigned type nullable => .primitive type.signed nullable
  | .primitiveArray type nullable => .primitiveArray type.signed nullable
  | .collection family _ element nullable =>
    .collection family false element nullable
  | .map family _ key value nullable => .map family false key value nullable
  | kind => kind

/-- The kind with all that flags and slots decide erased: every mark for `null`,
and at the outermost type the mark for mutability and the sign. -/
def shape (kind : Kind) : Kind := kind.nonNull.plain

/-- The kind that a type gets with the flags, from the one that it gets without.
A wildcard admits `null` anyway. -/
def readWith (flags : TypeFlags) : Kind → Kind
  | .primitive type _ => ofPrimitive flags type
  | .unsigned type _ => .unsigned type flags.nullable
  | .primitiveArray type _ =>
    .primitiveArray (if flags.isUnsigned then type.unsigned else type)
      flags.nullable
  | .array element _ => .array element flags.nullable
  | .wellKnown type _ => .wellKnown type flags.nullable
  | .collection family isMutable element _ =>
    .collection family (isMutable || flags.isMutable) element flags.nullable
  | .map family isMutable key value _ =>
    .map family (isMutable || flags.isMutable) key value flags.nullable
  | .comparable element _ => .comparable element flags.nullable
  | .enumeration element _ => .enumeration element flags.nullable
  | .custom name arguments _ => .custom name arguments flags.nullable
  | .aliased target literal? _ => .aliased target literal? flags.nullable
  | .unit => .unit
  | .nothing => .nothing
  | .any nullable => .any (nullable || flags.nullable)

end Kind

/-! ## The flags -/

section Flags

variable (flags : TypeFlags)

/-- A container with flags is the one without, read with the flags. -/
theorem Container.kind?_eq_readWith (container : Container)
    (arguments : List Kind) :
    container.kind? flags arguments
      = (container.kind? {} arguments).map (Kind.readWith flags) := by
  rcases arguments with _ | ⟨a, _ | ⟨b, _ | ⟨c, rest⟩⟩⟩ <;> cases container <;>
    simp [kind?, Kind.readWith]

namespace Kind

/-- An array of a primitive type with flags is the one without, read with the
flags. -/
theorem ofPrimitiveArray_eq_readWith (element : Primitive) :
    ofPrimitiveArray flags element
      = (ofPrimitiveArray {} element).readWith flags := by
  obtain ⟨nullable, isMutable, isUnsigned⟩ := flags
  cases element <;> cases isUnsigned <;> rfl

/-- A library type with flags is the one without, read with the flags. -/
theorem ofLibraryName?_eq_readWith (name : String) :
    ofLibraryName? flags name
      = (ofLibraryName? {} name).map (readWith flags) := by
  have htable : libraryTable flags.nullable
      = (libraryTable false).map fun entry =>
        (entry.1.readWith flags, entry.2) := rfl
  simp only [ofLibraryName?, htable, List.find?_map, Option.map_map]
  rfl

/-- The kind of a plain name with flags is the one without, read with the
flags. -/
theorem ofName_eq_readWith (name : List Char) :
    ofName flags name = (ofName {} name).readWith flags := by
  unfold ofName
  cases Primitive.ofSpelling? (String.ofList name) with
  | some type => rfl
  | none =>
    simp only [ofLibraryName?_eq_readWith flags]
    cases ofLibraryName? {} (String.ofList name) <;> rfl

/-- A generic type with flags is the one without, read with the flags; its
arguments are the same. -/
theorem ofGeneric_eq_readWith (outer : List Char) (arguments : List Kind) :
    ofGeneric flags outer arguments
      = readWith flags <$> ofGeneric {} outer arguments := by
  unfold ofGeneric
  cases Container.ofName? (String.ofList outer) with
  | none => rfl
  | some container =>
    simp only [container.kind?_eq_readWith flags]
    cases container.kind? {} arguments <;> rfl

/-- The flags change no type inside. -/
theorem parts_readWith (kind : Kind) :
    (kind.readWith flags).parts = kind.parts := by
  cases kind with
  | primitive type =>
    simp only [readWith, ofPrimitive]
    split <;> rfl
  | _ => rfl

/-- The flags change nothing but what the shape leaves out. -/
theorem shape_readWith (kind : Kind) :
    (kind.readWith flags).shape = kind.shape := by
  cases kind with
  | primitive type =>
    simp only [readWith, ofPrimitive]
    split
    · next form hform =>
      have hunsigned : type.unsigned? = some form := by
        unfold unsignedForm? at hform
        split at hform
        · exact hform
        · cases hform
      simp only [shape, nonNull, plain, Unsigned.signed_of_unsigned? hunsigned]
    · rfl
  | primitiveArray type =>
    simp only [readWith]
    split
    · simp only [shape, nonNull, plain, type.signed_unsigned]
    · rfl
  | _ => rfl

/-- The flag of a type inside another one is only its mark for `null`. -/
theorem nonNull_readWith_nested (nullable : Bool) (kind : Kind) :
    (kind.readWith (.nested nullable)).nonNull = kind.nonNull := by
  cases kind <;>
    simp [readWith, TypeFlags.nested, ofPrimitive, unsignedForm?, nonNull]

end Kind

namespace HostType

/-- **The flags change the outermost type alone.** -/
theorem classify_eq_map_readWith (slots : List Bool) (type : HostType) :
    type.classify flags slots = Kind.readWith flags
      <$> type.classify {} slots := by
  cases type with
  | named name => exact congrArg Except.ok (Kind.ofName_eq_readWith flags name)
  | primitiveArray element =>
    exact congrArg Except.ok (Kind.ofPrimitiveArray_eq_readWith flags element)
  | arrayOf element =>
    rw [classify, classify, map_bind]
    rfl
  | applied outer arguments =>
    simp only [classify, map_bind, Kind.ofGeneric_eq_readWith flags]
  | _ => rfl

end HostType

end Flags

/-! ## The slots -/

/-- The list form erases the marks of each kind in its place. -/
theorem Kind.nonNullAll_eq (kinds : List Kind) :
    nonNullAll kinds = kinds.map nonNull := by
  induction kinds with
  | nil => rfl
  | cons kind kinds ih => rw [nonNullAll, ih, List.map_cons]

/-- Erasing the marks for `null` goes through a container to its arguments. -/
theorem Container.map_nonNull_kind? (container : Container)
    (arguments : List Kind) :
    (container.kind? {} arguments).map Kind.nonNull
      = container.kind? {} (arguments.map Kind.nonNull) := by
  rcases arguments with _ | ⟨a, _ | ⟨b, _ | ⟨c, rest⟩⟩⟩ <;> cases container <;>
    simp [kind?, Kind.nonNull]

/-- Erasing the marks for `null` goes through a generic type to its
arguments. -/
theorem Kind.map_nonNull_ofGeneric (outer : List Char) (arguments : List Kind) :
    nonNull <$> ofGeneric {} outer arguments
      = ofGeneric {} outer (arguments.map nonNull) := by
  unfold ofGeneric
  cases Container.ofName? (String.ofList outer) with
  | none =>
    rw [← nonNullAll_eq]
    rfl
  | some container =>
    simp only [← container.map_nonNull_kind?, List.length_map]
    cases container.kind? {} arguments <;> rfl

namespace HostType

section Erased

-- Once the marks are erased, a type with others inside it is classified by what
-- these are, also erased.

variable (slots : List Bool)

/-- Without its marks for `null` an array is one of its element without them. -/
theorem map_nonNull_classify_arrayOf (element : HostType) :
    Kind.nonNull <$> (HostType.arrayOf element).classify {} slots
      = (Kind.array · false) <$> Kind.nonNull
        <$> element.classify (.nested (firstSlot slots)) slots.tail := by
  rw [classify, map_bind, Functor.map_map]
  rfl

/-- Without its marks for `null` a generic type is that of its arguments without
them. -/
theorem map_nonNull_classify_applied (outer : List Char)
    (arguments : List HostType) :
    Kind.nonNull <$> (HostType.applied outer arguments).classify {} slots
      = List.map Kind.nonNull <$> classifyAll slots arguments
        >>= Kind.ofGeneric {} outer := by
  rw [classify, map_bind, bind_map_left]
  simp only [Kind.map_nonNull_ofGeneric]

/-- Without their marks for `null` types are classified one after the other. -/
theorem map_nonNull_classifyAll_cons (type : HostType) (types : List HostType) :
    List.map Kind.nonNull <$> classifyAll slots (type :: types)
      = Kind.nonNull <$> type.classify (.nested (firstSlot slots)) slots.tail
        >>= fun kind =>
          (kind :: ·) <$> List.map Kind.nonNull
              <$> classifyAll (slots.drop (type.nestedCount + 1)) types := by
  rw [classifyAll, map_bind, bind_map_left]
  simp only [map_bind, Functor.map_map]
  rfl

end Erased

mutual

/-- **The slots decide the marks for `null` alone.** -/
theorem map_nonNull_classify (slots slots' : List Bool) : (type : HostType) →
    Kind.nonNull <$> type.classify {} slots
      = Kind.nonNull <$> type.classify {} slots'
  | .blank | .wildcard | .named _ | .primitiveArray _ | .brokenGeneric ..
      | .brokenName _ => by simp only [classify]
  | .arrayOf element => by
    rw [map_nonNull_classify_arrayOf, map_nonNull_classify_arrayOf,
      map_nonNull_classify_nested slots slots' element]
  | .applied outer arguments => by
    rw [map_nonNull_classify_applied, map_nonNull_classify_applied,
      map_nonNull_classifyAll slots slots' arguments]

/-- Whatever the slots, a nested type is the same without its marks for
`null`. -/
theorem map_nonNull_classify_nested (slots slots' : List Bool)
    (type : HostType) :
    Kind.nonNull <$> type.classify (.nested (firstSlot slots)) slots.tail
      = Kind.nonNull
        <$> type.classify (.nested (firstSlot slots')) slots'.tail := by
  rw [classify_eq_map_readWith, Functor.map_map,
    classify_eq_map_readWith (.nested _) slots'.tail, Functor.map_map]
  simp only [Kind.nonNull_readWith_nested]
  exact map_nonNull_classify slots.tail slots'.tail type

/-- Whatever the slots, several types are the same without their marks for
`null`. -/
theorem map_nonNull_classifyAll (slots slots' : List Bool) :
    (types : List HostType) →
      List.map Kind.nonNull <$> classifyAll slots types
        = List.map Kind.nonNull <$> classifyAll slots' types
  | [] => rfl
  | type :: types => by
    rw [map_nonNull_classifyAll_cons, map_nonNull_classifyAll_cons,
      map_nonNull_classify_nested slots slots' type,
      map_nonNull_classifyAll (slots.drop (type.nestedCount + 1))
        (slots'.drop (type.nestedCount + 1)) types]

end

end HostType

/-- **Flags and slots decide marks and a sign, and nothing else.**  Two
classifications of a text fail with the same mismatch or give kinds that are the
same when every mark for `null` is erased, and at the outermost type the mark
for mutability and the sign of an integer or of an array of integers.  If they
have the same slots, then the types inside are classified the same: no flag
reaches them. -/
theorem classify_shape_parts (type : String) (flags flags' : TypeFlags)
    (slots slots' : List Bool) :
    Kind.shape <$> classify flags slots type
      = Kind.shape <$> classify flags' slots' type
      ∧ Kind.parts <$> classify flags slots type
        = Kind.parts <$> classify flags' slots type := by
  have hflags : ∀ flags slots, classify flags slots type = Kind.readWith flags
      <$> classify {} slots type :=
    fun flags slots => HostType.classify_eq_map_readWith flags slots _
  constructor
  · have hshape : ∀ flags slots,
        Kind.shape <$> classify flags slots type = Kind.plain <$> Kind.nonNull
        <$> classify {} slots type := by
      intro flags slots
      rw [hflags, Functor.map_map, Functor.map_map]
      simp only [Kind.shape_readWith]
      rfl
    have hslots : Kind.nonNull <$> classify {} slots type
        = Kind.nonNull <$> classify {} slots' type :=
      HostType.map_nonNull_classify slots slots' _
    rw [hshape, hshape, hslots]
  · rw [hflags flags, hflags flags', Functor.map_map, Functor.map_map]
    simp only [Kind.parts_readWith]

end KotlinBuilders
