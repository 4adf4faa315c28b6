import KotlinBuilders.Kind.Classification
import KotlinBuilders.Proofs.HostNotation

/-!
# Names that classification knows

Three tables are asked one after the other: the spellings of the primitives, the
names of the library types and the names of the containers.  No name stands in
two of them or twice in one, so a name gives back what it is a name of
(`ofSpelling?_of_mem`, `ofLibraryName?_of_mem`, `ofName?_of_hasName`), and any
other name is in none.

The containers that are mutable whatever is asked for are the ones whose names
say so (`isAlwaysMutable_of_hasName`).
-/

namespace KotlinBuilders

/-- The library types without arguments, by meaning. -/
inductive LibraryType where
  | wellKnown (type : WellKnown)
  | object
  | void
  | unit
  deriving DecidableEq, Repr

namespace LibraryType

/-- The names that the type goes by. -/
def names : LibraryType → List String
  | wellKnown .charSequence => ["java.lang.CharSequence", "kotlin.CharSequence"]
  | wellKnown .throwable => ["java.lang.Throwable", "kotlin.Throwable"]
  | wellKnown .annotationType =>
    ["java.lang.annotation.Annotation", "kotlin.Annotation"]
  | wellKnown .number => ["java.lang.Number", "kotlin.Number"]
  | object => ["java.lang.Object", "kotlin.Any"]
  | void => ["java.lang.Void", "kotlin.Nothing"]
  | unit => ["kotlin.Unit"]

/-- The kind of the type.  Two of them never admit `null`. -/
def kind (nullable : Bool) : LibraryType → Kind
  | wellKnown type => .wellKnown type nullable
  | object => .any nullable
  | void => .nothing
  | unit => .unit

end LibraryType

/-- A name that a container goes by. -/
def Container.HasName (container : Container) (name : String) : Prop :=
  ∃ names, (container, names) ∈ Container.table ∧ name ∈ names

/-- What the names of the mutable containers begin with. -/
def mutablePrefix : List Char := "kotlin.collections.Mutable".toList

/-- Whether a name is that of a mutable container. -/
def isMutableName (name : String) : Bool := mutablePrefix.isPrefixOf name.toList

/-- Whether a container is mutable whatever the flags say. -/
def Container.isAlwaysMutable : Container → Bool
  | .collection _ always | .map _ always => always
  | _ => false

/-- A name of a primitive type, of a library type or of a container. -/
def IsKnownName (name : String) : Prop :=
  (∃ type : Primitive, name ∈ type.spellings)
    ∨ (∃ type : LibraryType, name ∈ type.names)
    ∨ ∃ container : Container, container.HasName name

/-- A primitive type is found by each of its spellings. -/
theorem ofSpelling?_of_mem {type : Primitive} {spelling : String}
    (hspelling : spelling ∈ type.spellings) :
    Primitive.ofSpelling? spelling = some type := by
  revert spelling
  cases type <;> decide

/-- A spelling of a primitive type is the name of a type. -/
theorem isTypeName_of_mem_spellings {type : Primitive} {spelling : String}
    (hspelling : spelling ∈ type.spellings) :
    IsTypeName spelling.toList := by
  revert spelling
  cases type <;> simp only [Primitive.spellings, Primitive.keyword?,
    Option.toList_some, Option.toList_none, List.cons_append, List.nil_append,
    List.forall_mem_cons, Primitive.box, Primitive.name] <;>
    with_reducible and_intros <;>
    first
      | exact isTypeName_literal rfl rfl
      | exact isTypeName_of_letters rfl rfl
      | simp

/-- A keyword is a spelling. -/
theorem ofSpelling?_of_ofKeyword? {type : Primitive} {text : String}
    (hfound : Primitive.ofKeyword? text = some type) :
    Primitive.ofSpelling? text = some type := by
  have hkeyword := HostType.keyword?_of_ofKeyword? hfound
  exact ofSpelling?_of_mem (by simp [Primitive.spellings, hkeyword])

/-- No name of a library type is a spelling of a primitive type. -/
theorem ofSpelling?_libraryName {type : LibraryType} {spelling : String}
    (hspelling : spelling ∈ type.names) :
    Primitive.ofSpelling? spelling = none := by
  revert spelling
  rcases type with (_ | _ | _ | _) | _ | _ | _ <;> decide

/-- A name of a library type is the name of a type. -/
theorem isTypeName_of_mem_names {type : LibraryType} {spelling : String}
    (hspelling : spelling ∈ type.names) :
    IsTypeName spelling.toList := by
  revert spelling
  rcases type with (_ | _ | _ | _) | _ | _ | _ <;>
    simp only [LibraryType.names, List.forall_mem_cons] <;>
    with_reducible and_intros <;>
    first | exact isTypeName_literal rfl rfl | simp

/-- A library type is found by each of its names. -/
theorem ofLibraryName?_of_mem {type : LibraryType} {spelling : String}
    (hspelling : spelling ∈ type.names) (flags : TypeFlags) :
    Kind.ofLibraryName? flags spelling = some (type.kind flags.nullable) := by
  revert spelling
  rcases type with (_ | _ | _ | _) | _ | _ | _ <;>
    simp [LibraryType.names, Kind.ofLibraryName?, Kind.libraryTable,
      LibraryType.kind]

/-- Only library types are found under library names. -/
theorem exists_of_ofLibraryName? {flags : TypeFlags}
    {name : String} {kind : Kind}
    (hkind : Kind.ofLibraryName? flags name = some kind) :
    ∃ type : LibraryType, type.kind flags.nullable = kind := by
  obtain ⟨entry, hentry, rfl⟩ := Option.map_eq_some_iff.1 hkind
  have hmem := List.mem_of_find?_eq_some hentry
  simp only [Kind.libraryTable, List.mem_cons, List.not_mem_nil,
    or_false] at hmem
  rcases hmem with rfl | rfl | rfl | rfl | rfl | rfl | rfl
  · exact ⟨.wellKnown .charSequence, rfl⟩
  · exact ⟨.wellKnown .throwable, rfl⟩
  · exact ⟨.wellKnown .annotationType, rfl⟩
  · exact ⟨.wellKnown .number, rfl⟩
  · exact ⟨.void, rfl⟩
  · exact ⟨.unit, rfl⟩
  · exact ⟨.object, rfl⟩

/-- A container is found by each of its names. -/
theorem ofName?_of_hasName {container : Container} {name : String}
    (hname : container.HasName name) :
    Container.ofName? name = some container := by
  have htable : ∀ entry ∈ Container.table, ∀ name ∈ entry.2,
      Container.ofName? name = some entry.1 := by decide
  obtain ⟨names, hentry, hmem⟩ := hname
  exact htable _ hentry _ hmem

/-- The name that a container is found by is one of its own. -/
theorem hasName_of_ofName? {container : Container} {name : String}
    (hname : Container.ofName? name = some container) :
    container.HasName name := by
  obtain ⟨entry, hentry, rfl⟩ := Option.map_eq_some_iff.1 hname
  have hlisted := List.find?_some hentry
  exact ⟨entry.2, List.mem_of_find?_eq_some hentry, by simpa using hlisted⟩

/-- A name of a container is the name of a type. -/
theorem isTypeName_of_hasName {container : Container} {name : String}
    (hname : container.HasName name) :
    IsTypeName name.toList := by
  have htable : ∀ entry ∈ Container.table, ∀ name ∈ entry.2,
      IsTypeName name.toList := by
    simp only [Container.table, List.forall_mem_cons]
    with_reducible and_intros <;>
      first | exact isTypeName_literal rfl rfl | simp
  obtain ⟨names, hentry, hmem⟩ := hname
  exact htable _ hentry _ hmem

/-- A container is mutable by its name alone if the name says so. -/
theorem isAlwaysMutable_of_hasName {container : Container} {name : String}
    (hname : container.HasName name) :
    container.isAlwaysMutable = isMutableName name := by
  have hliteral : ∀ {letters : List Char} {always : Bool},
      mutablePrefix.isPrefixOf letters = always →
      always = isMutableName (String.ofList letters) := by
    intro letters always hbegins
    rw [isMutableName, String.toList_ofList, hbegins]
  have htable : ∀ entry ∈ Container.table, ∀ name ∈ entry.2,
      entry.1.isAlwaysMutable = isMutableName name := by
    simp only [Container.table, List.forall_mem_cons]
    with_reducible and_intros <;> first | exact hliteral rfl | simp
  obtain ⟨names, hentry, hmem⟩ := hname
  exact htable _ hentry _ hmem

variable {name : String}

/-- A text with a bracket in it is not the name of anything known. -/
theorem not_isKnownName_of_mem {c : Char} (hc : c ∈ name.toList)
    (hmark : Text.Mark.ofChar? c ≠ none) :
    ¬IsKnownName name := by
  intro hknown
  have hname : IsTypeName name.toList := by
    rcases hknown with
      ⟨type, hspelling⟩ | ⟨type, hspelling⟩ | ⟨container, hspelling⟩
    · exact isTypeName_of_mem_spellings hspelling
    · exact isTypeName_of_mem_names hspelling
    · exact isTypeName_of_hasName hspelling
  exact hmark (hname.2 c hc).2.1

/-- No primitive type is found by an unknown name. -/
theorem ofSpelling?_unknown (hunknown : ¬IsKnownName name) :
    Primitive.ofSpelling? name = none := by
  refine List.find?_eq_none.2 fun type _ hmem => hunknown (.inl ⟨type, ?_⟩)
  simpa using hmem

/-- No library type is found by an unknown name. -/
theorem ofLibraryName?_unknown (hunknown : ¬IsKnownName name)
    (flags : TypeFlags) :
    Kind.ofLibraryName? flags name = none := by
  have hno : ∀ type : LibraryType, name ∉ type.names :=
    fun type hmem => hunknown (.inr (.inl ⟨type, hmem⟩))
  have hcharSequence := hno (.wellKnown .charSequence)
  have hthrowable := hno (.wellKnown .throwable)
  have hannotation := hno (.wellKnown .annotationType)
  have hnumber := hno (.wellKnown .number)
  have hobject := hno .object
  have hvoid := hno .void
  have hunit := hno .unit
  simp only [LibraryType.names] at *
  simp [Kind.ofLibraryName?, Kind.libraryTable, *]

/-- No container is found by an unknown name. -/
theorem ofName?_unknown (hunknown : ¬IsKnownName name) :
    Container.ofName? name = none := by
  rw [Container.ofName?, List.find?_eq_none.2, Option.map_none]
  intro entry hentry hmem
  exact hunknown (.inr (.inr ⟨entry.1, entry.2, hentry, by simpa using hmem⟩))

end KotlinBuilders
