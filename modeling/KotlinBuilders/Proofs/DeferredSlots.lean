import KotlinBuilders.Proofs.ImportPaths
import KotlinBuilders.Proofs.ImportShadowing

/-!
# Which slots are deferred though their types forbid it

Values of a few basic types are kept unboxed, so that nothing can stand for a
missing one.  A slot of such a type has to start from a literal.  Whether a slot
is deferred depends on the kind of its field, and only a custom kind or an alias
can be deferred and have an unboxed type (`Kind.hidesUnboxed_iff`).

There are three ways to such a kind.  No table has the names of the unsigned
numbers, although a marker gives them a literal
(`Kind.hidesUnboxed_ofName_iff`); a name with arguments is looked for among the
containers only (`Kind.hidesUnboxed_ofGeneric_iff`); and the target of an alias
is not looked for at all.  The main statement is `deferred_unboxed_iff`: these
are all.  `not_forall_deferred_boxed` has a declaration with slots of this kind.
-/

namespace KotlinBuilders

/-- The names of the primitive types, `String` left aside. -/
def primitiveNames : List String :=
  ["Boolean", "Byte", "Short", "Int", "Long", "Char", "Float", "Double"]

/-- The names of the unsigned numbers. -/
def unsignedNames : List String := ["UByte", "UShort", "UInt", "ULong"]

/-- The names of the types that no slot may be deferred for. -/
def unboxedNames : List String := primitiveNames ++ unsignedNames

/-- Whether a type is one that no slot may be deferred for. -/
def TypeRef.IsUnboxed (type : TypeRef) : Prop := type.package = kotlinPackage
  ∧ type.simpleName ∈ unboxedNames

instance (type : TypeRef) : Decidable type.IsUnboxed :=
  inferInstanceAs (Decidable (_ ∧ _))

/-- Whether a text is the full name of one of the given basic types. -/
def IsKotlinName (names : List String) (text : List Char) : Prop :=
  ∃ name ∈ names, ("kotlin." ++ name).toList = text

instance (names : List String) (text : List Char) :
    Decidable (IsKotlinName names text) :=
  inferInstanceAs (Decidable (∃ name ∈ names, _))

namespace QualifiedName

/-- A name is read as a basic type exactly when it is written with the package
and a dot. -/
theorem ofTrimmed_isKotlinName_iff {names : List String}
    (hplain : ∀ name ∈ names, '.' ∉ name.toList) {text : List Char} :
    (ofTrimmed text).package = kotlinPackage
      ∧ (ofTrimmed text).simpleName ∈ names ↔ IsKotlinName names text := by
  have hwritten : ∀ name : String, ("kotlin." ++ name).toList
      = kotlinPackage.toList ++ '.' :: name.toList := by
    simp [kotlinPackage]
  constructor
  · rintro ⟨hpackage, hname⟩
    refine ⟨_, hname, ?_⟩
    rw [hwritten, ← hpackage]
    exact append_ofTrimmed (by simp [hpackage, kotlinPackage])
  · rintro ⟨name, hname, rfl⟩
    rw [hwritten, ofTrimmed, Text.cutAtLast_append (hplain name hname)]
    simpa using hname

end QualifiedName

namespace Kind

variable {flags : TypeFlags}

/-- The custom kinds and the aliases that are deferred and unboxed. -/
def HidesUnboxed : Kind → Prop
  | .custom name _ nullable => nullable = false ∧ name.package = kotlinPackage
      ∧ name.simpleName ∈ unboxedNames
  | .aliased target literal? nullable => nullable = false ∧ literal? = none
      ∧ target.IsUnboxed
  | _ => False

/-- **Only a custom kind or an alias can be deferred and unboxed.** -/
theorem hidesUnboxed_iff {kind : Kind} : kind.isDeferred = true
    ∧ kind.typeRef.IsUnboxed ↔ kind.HidesUnboxed := by
  cases kind with
  | custom name arguments nullable =>
    simp [isDeferred, Kind.nullable, literal?, typeRef,
      TypeRef.IsUnboxed, HidesUnboxed]
  | aliased target literal? nullable =>
    simp [isDeferred, Kind.nullable, Kind.literal?, typeRef, TypeRef.IsUnboxed,
      TypeRef.withNullable, HidesUnboxed, and_assoc]
  | primitive | unsigned | unit | nothing =>
    simp [isDeferred, literal?, HidesUnboxed]
  | wellKnown type =>
    cases type <;> simp [typeRef, TypeRef.IsUnboxed, TypeRef.withNullable,
      TypeRef.kotlin, TypeRef.named, WellKnown.name, unboxedNames,
      primitiveNames, unsignedNames, HidesUnboxed]
  | primitiveArray type =>
    cases type <;> simp [typeRef, TypeRef.IsUnboxed, TypeRef.withNullable,
      TypeRef.kotlin, TypeRef.named, PrimitiveArray.name, unboxedNames,
      primitiveNames, unsignedNames, HidesUnboxed]
  | collection | map =>
    simp [typeRef, TypeRef.IsUnboxed, kotlinPackage,
      collectionsPackage, HidesUnboxed]
  | array | comparable | enumeration | any =>
    simp [typeRef, TypeRef.IsUnboxed, TypeRef.withNullable, TypeRef.kotlin,
      TypeRef.named, unboxedNames, primitiveNames, unsignedNames, HidesUnboxed]

/-- A custom type has the name of a basic one exactly when that name is written
out and nothing behind it. -/
theorem customName_isKotlinName_iff {names : List String}
    (hplain : ∀ name ∈ names, '.' ∉ name.toList ∧ '<' ∉ name.toList)
    {text : List Char} :
    (customName text).package = kotlinPackage
      ∧ (customName text).simpleName ∈ names ↔ IsKotlinName names text := by
  by_cases hangle : '<' ∈ text
  · obtain ⟨front, back, rfl, habsent⟩ := List.eq_append_cons_of_mem hangle
    have hname :
        '<' ∈ (customName (front ++ '<' :: back)).simpleName.toList := by
      rw [customName_angle habsent]
      simp
    constructor
    · rintro ⟨-, hmem⟩
      exact absurd hname (hplain _ hmem).2
    · rintro ⟨name, hmem, htext⟩
      rw [← htext] at hangle
      exact absurd (by simpa using hangle) (hplain name hmem).2
  · rw [TypeTree.customName_of_not_mem hangle]
    exact QualifiedName.ofTrimmed_isKotlinName_iff fun name hname =>
      (hplain name hname).1

/-- The names of unboxed types have neither dots nor angle brackets. -/
theorem dot_angle_not_mem_unboxedNames :
    ∀ name ∈ unboxedNames, '.' ∉ name.toList ∧ '<' ∉ name.toList := by
  decide

/-- A library type is no basic one. -/
theorem not_hidesUnboxed_ofLibraryName? {name : String} {kind : Kind}
    (hkind : ofLibraryName? flags name = some kind) :
    ¬kind.HidesUnboxed := by
  obtain ⟨type, rfl⟩ := exists_of_ofLibraryName? hkind
  cases type <;> exact not_false

/-- The kind of a primitive type hides nothing. -/
theorem not_hidesUnboxed_ofPrimitive (type : Primitive) :
    ¬(ofPrimitive flags type).HidesUnboxed := by
  unfold ofPrimitive
  split <;> exact not_false

/-- The kind of an array of a primitive type hides nothing. -/
theorem not_hidesUnboxed_ofPrimitiveArray (element : Primitive) :
    ¬(ofPrimitiveArray flags element).HidesUnboxed := by
  unfold ofPrimitiveArray
  split <;> exact not_false

/-- No table has the name of an unsigned number. -/
theorem ofName_of_unsigned (flags : TypeFlags) {name : List Char}
    (hname : IsKotlinName unsignedNames name) :
    Primitive.ofSpelling? (String.ofList name) = none
      ∧ ofLibraryName? flags (String.ofList name) = none := by
  obtain ⟨known, hknown, rfl⟩ := hname
  rw [String.ofList_toList]
  have hspelling : ∀ known ∈ unsignedNames,
      Primitive.ofSpelling? ("kotlin." ++ known) = none := by decide
  refine ⟨hspelling known hknown, ?_⟩
  simp only [unsignedNames, List.mem_cons, List.not_mem_nil, or_false] at hknown
  rcases hknown with rfl | rfl | rfl | rfl <;>
    simp [ofLibraryName?, libraryTable]

/-- The basic type that no table has the name of is an unsigned number. -/
theorem isKotlinName_unsigned_iff {name : List Char}
    (hspelling : Primitive.ofSpelling? (String.ofList name) = none) :
    IsKotlinName unboxedNames name ↔ IsKotlinName unsignedNames name := by
  have hsigned : ∀ known ∈ primitiveNames,
      Primitive.ofSpelling? ("kotlin." ++ known) ≠ none := by decide
  constructor
  · rintro ⟨known, hknown, rfl⟩
    rw [String.ofList_toList] at hspelling
    exact ⟨known, (List.mem_append.1 hknown).resolve_left fun hmem =>
      hsigned known hmem hspelling, rfl⟩
  · rintro ⟨known, hknown, rfl⟩
    exact ⟨known, List.mem_append_right _ hknown, rfl⟩

/-- **A name alone hides an unsigned number and nothing else**, because the
tables have the names of all other basic types. -/
theorem hidesUnboxed_ofName_iff {name : List Char} :
    (ofName flags name).HidesUnboxed ↔ flags.nullable = false
      ∧ IsKotlinName unsignedNames name := by
  rw [ofName]
  cases hspelling : Primitive.ofSpelling? (String.ofList name) with
  | some type =>
    have hno : ¬IsKotlinName unsignedNames name := fun hname => by
      simp [(ofName_of_unsigned flags hname).1] at hspelling
    simp only [not_hidesUnboxed_ofPrimitive, hno, and_false]
  | none =>
    cases hlibrary : ofLibraryName? flags (String.ofList name) with
    | some kind =>
      have hno : ¬IsKotlinName unsignedNames name := fun hname => by
        simp [(ofName_of_unsigned flags hname).2] at hlibrary
      simp only [not_hidesUnboxed_ofLibraryName? hlibrary, hno, and_false]
    | none =>
      change flags.nullable = false ∧ (customName name).package = kotlinPackage
        ∧ (customName name).simpleName ∈ unboxedNames ↔ _
      rw [customName_isKotlinName_iff dot_angle_not_mem_unboxedNames,
        isKotlinName_unsigned_iff hspelling]

/-- A custom type hides that it is unboxed when it admits no `null` and bears
the full name of an unboxed type. -/
theorem hidesUnboxed_custom_iff {outer : List Char} {arguments : List Kind}
    {nullable : Bool} :
    (custom (QualifiedName.ofText outer) arguments nullable).HidesUnboxed ↔
      nullable = false ∧ IsKotlinName unboxedNames (Text.trim outer) := by
  rw [HidesUnboxed, QualifiedName.ofText,
    QualifiedName.ofTrimmed_isKotlinName_iff]
  exact fun name hname => (dot_angle_not_mem_unboxedNames name hname).1

/-- The name of a container is no basic one. -/
theorem not_isKotlinName_of_ofName? {outer : List Char} {container : Container}
    (hcontainer : Container.ofName? (String.ofList outer) = some container) :
    ¬IsKotlinName unboxedNames (Text.trim outer) := by
  obtain ⟨entry, hfound, -⟩ := Option.map_eq_some_iff.1 hcontainer
  have hname : String.ofList outer ∈ entry.2 := by
    simpa using List.find?_some hfound
  have houter : IsTypeName outer := by
    simpa using isTypeName_of_hasName ⟨entry.2,
      List.mem_of_find?_eq_some hfound, hname⟩
  have habsent : ∀ known ∈ unboxedNames, Container.ofName? ("kotlin." ++ known)
      = none := by decide +kernel
  rintro ⟨known, hknown, hsame⟩
  rw [houter.isTypeText.trimmed] at hsame
  rw [← hsame, String.ofList_toList, habsent known hknown] at hcontainer
  cases hcontainer

/-- **A name with arguments hides every basic type**, because only the
containers are looked for. -/
theorem hidesUnboxed_ofGeneric_iff {outer : List Char}
    {arguments : List Kind} {kind : Kind}
    (hkind : ofGeneric flags outer arguments = .ok kind) :
    kind.HidesUnboxed ↔ flags.nullable = false
      ∧ IsKotlinName unboxedNames (Text.trim outer) := by
  unfold ofGeneric at hkind
  split at hkind
  · next container hcontainer =>
    split at hkind
    · next found hfound =>
      obtain rfl := Except.ok.inj hkind
      have hkept : ¬found.HidesUnboxed := by
        unfold Container.kind? at hfound
        split at hfound <;> cases hfound <;> exact not_false
      simp only [hkept, not_isKotlinName_of_ofName? hcontainer, and_false]
    · cases hkind
  · obtain rfl := Except.ok.inj hkind
    exact hidesUnboxed_custom_iff

end Kind

/-- Whether a type is unboxed although classification takes its outermost name
for that of a class: an unsigned number, or any unboxed type with arguments. -/
def Outline.HidesUnboxed : Outline → Prop
  | .named name => IsKotlinName unsignedNames name
  | .applied outer _ | .brokenGeneric outer _ =>
    IsKotlinName unboxedNames (Text.trim outer)
  | _ => False

instance : (outline : Outline) → Decidable outline.HidesUnboxed
  | .named _ | .applied .. | .brokenGeneric .. =>
    inferInstanceAs (Decidable (IsKotlinName _ _))
  | .blank | .wildcard | .primitiveArray _ | .arrayOf _
      | .brokenName _ => .isFalse id

/-- **Which types hide that they are unboxed.** -/
theorem hidesUnboxed_of_classify {flags : TypeFlags} {slots : List Bool}
    {type : String} {kind : Kind}
    (hkind : classify flags slots type = .ok kind) :
    kind.HidesUnboxed ↔ flags.nullable = false
      ∧ (Outline.ofText type.toList).HidesUnboxed := by
  rw [classify, HostType.ofText_eq] at hkind
  cases houtline : Outline.ofText type.toList with
  | named name =>
    rw [houtline] at hkind
    obtain rfl := Except.ok.inj hkind
    exact Kind.hidesUnboxed_ofName_iff
  | applied outer arguments =>
    rw [houtline, HostType.ofOutline, HostType.classify] at hkind
    obtain ⟨kinds, -, hkind⟩ := bind_eq_ok_iff.1 hkind
    exact Kind.hidesUnboxed_ofGeneric_iff hkind
  | brokenGeneric outer arguments =>
    rw [houtline] at hkind
    obtain rfl := Except.ok.inj hkind
    exact Kind.hidesUnboxed_custom_iff
  | brokenName text =>
    rw [houtline] at hkind
    obtain rfl := Except.ok.inj hkind
    simp [Kind.opaqueType, Kind.HidesUnboxed, kotlinPackage,
      Outline.HidesUnboxed]
  | arrayOf element =>
    rw [houtline, HostType.ofOutline, HostType.classify] at hkind
    obtain ⟨inner, -, hkind⟩ := bind_eq_ok_iff.1 hkind
    obtain rfl := Except.ok.inj hkind
    simp [Kind.HidesUnboxed, Outline.HidesUnboxed]
  | primitiveArray element =>
    rw [houtline] at hkind
    obtain rfl := Except.ok.inj hkind
    simp [Kind.not_hidesUnboxed_ofPrimitiveArray, Outline.HidesUnboxed]
  | blank | wildcard =>
    rw [houtline] at hkind
    obtain rfl := Except.ok.inj hkind
    simp [Kind.HidesUnboxed, Outline.HidesUnboxed]

/-- The alias of a field, if the host knows its target. -/
def Markers.knownAlias? (knownTypes : NameSet) (markers : Markers) :
    Option Alias :=
  markers.alias?.filter fun marker => (resolve? knownTypes marker.target).isSome

/-- Whether an alias puts an unboxed type in place of the declared one and gives
no literal for it. -/
def Alias.HidesUnboxed (marker : Alias) : Prop :=
  marker.explicitLiteral? = none
    ∧ IsKotlinName unboxedNames (Text.trim marker.target.toList)

instance (marker : Alias) : Decidable marker.HidesUnboxed :=
  inferInstanceAs (Decidable (_ ∧ _))

/-- Whether a field's type is hidden to be unboxed, by the alias that counts or
else as it was declared. -/
def Markers.HidesUnboxed (knownTypes : NameSet) (type : String)
    (markers : Markers) : Prop :=
  match markers.knownAlias? knownTypes with
  | .some marker => marker.HidesUnboxed
  | .none => (Outline.ofText type.toList).HidesUnboxed

instance (knownTypes : NameSet) (type : String) (markers : Markers) :
    Decidable (markers.HidesUnboxed knownTypes type) :=
  match halias : markers.knownAlias? knownTypes with
  | some marker =>
    decidable_of_iff marker.HidesUnboxed
      (by simp only [Markers.HidesUnboxed, halias])
  | none =>
    decidable_of_iff (Outline.ofText type.toList).HidesUnboxed
      (by simp only [Markers.HidesUnboxed, halias])

/-- Whether a parameter admits no `null` and hides that its type is unboxed. -/
def Declaration.HidesUnboxed (declaration : Declaration) (knownTypes : NameSet)
    (parameter : Parameter) : Prop :=
  (parameter.nullable || (declaration.markersOf parameter.name).nullable)
    = false
    ∧ (declaration.markersOf parameter.name).HidesUnboxed knownTypes
      parameter.type

instance (declaration : Declaration) (knownTypes : NameSet)
    (parameter : Parameter) :
    Decidable (declaration.HidesUnboxed knownTypes parameter) :=
  inferInstanceAs (Decidable (_ ∧ _))

section Conversion

variable {naming : Naming} {knownTypes : NameSet} {declaration : Declaration}

/-- A known target is what its trimmed text names. -/
theorem isUnboxed_of_resolve? {name : String} {target : QualifiedName}
    (htarget : resolve? knownTypes name = some target) :
    (TypeRef.ofName target).IsUnboxed ↔
      IsKotlinName unboxedNames (Text.trim name.toList) := by
  unfold resolve? at htarget
  split at htarget
  · obtain rfl := Option.some.inj htarget
    exact QualifiedName.ofTrimmed_isKotlinName_iff fun known hknown =>
      (Kind.dot_angle_not_mem_unboxedNames known hknown).1
  · cases htarget

/-- **Which parameters hide that their type is unboxed.** -/
theorem hidesUnboxed_of_fieldKind {parameter : Parameter} {kind : Kind}
    (hkind : fieldKind knownTypes (declaration.markersOf parameter.name)
      parameter = .ok kind) :
    kind.HidesUnboxed ↔ declaration.HidesUnboxed knownTypes parameter := by
  unfold Declaration.HidesUnboxed
  generalize declaration.markersOf parameter.name = markers at hkind
  simp only [fieldKind] at hkind
  -- The alias counts if there is one and its target is known.
  cases halias : markers.alias? with
  | none =>
    rw [halias] at hkind
    simp only [Markers.HidesUnboxed, Markers.knownAlias?, halias,
      Option.filter_none]
    exact hidesUnboxed_of_classify hkind
  | some marker =>
    rw [halias] at hkind
    simp only [Option.bind_some, resolvedAlias?] at hkind
    cases htarget : resolve? knownTypes marker.target with
    | none =>
      rw [htarget] at hkind
      simp only [Markers.HidesUnboxed, Markers.knownAlias?, halias,
        Option.filter_some, htarget, Option.isSome_none,
        Bool.false_eq_true, if_false]
      exact hidesUnboxed_of_classify hkind
    | some target =>
      rw [htarget] at hkind
      obtain rfl := Except.ok.inj hkind
      simp only [Markers.HidesUnboxed, Markers.knownAlias?, halias,
        Option.filter_some, htarget, Option.isSome_some, if_true]
      rw [Alias.HidesUnboxed, ← isUnboxed_of_resolve? htarget]
      rfl

/-- Qualifying clashing types leaves the basic types alone, and makes no other
type one of them. -/
theorem isUnboxed_qualify_iff {package : String} {types : List TypeRef}
    {type : TypeRef} :
    (type.qualify (clashingImports package types)).IsUnboxed ↔
      type.IsUnboxed := by
  have hkept : type.package = kotlinPackage →
      type.importName ∉ clashingImports package types := by
    intro hkotlin hmem
    obtain ⟨other, -, hneeds, hsame, -⟩ := mem_clashingImports.1 hmem
    obtain ⟨-, hforeign, -⟩ := TypeRef.needsImport_iff.1 hneeds
    exact hforeign ((TypeRef.eq_of_importName_eq hsame).1.trans hkotlin)
  constructor
  · rintro ⟨hpackage, hname⟩
    have hshort :
        (type.qualify (clashingImports package types)).package ≠ "" := by
      simp [hpackage, kotlinPackage]
    obtain ⟨hpackage', hname', -⟩ := TypeRef.qualify_of_package_ne hshort
    exact ⟨hpackage' ▸ hpackage, hname' ▸ hname⟩
  · rintro ⟨hpackage, hname⟩
    obtain ⟨hpackage', hname'⟩ := TypeRef.qualify_of_not_mem (hkept hpackage)
    exact ⟨hpackage'.trans hpackage, hname' ▸ hname⟩

/-- **Which slots are deferred though their types forbid it.**  A converted
declaration has a property for each of its parameters.  The property is deferred
and of an unboxed type exactly where the parameter hides the type: it admits no
`null`, and the type is an unsigned number written by its full name, a basic
type written with arguments, or the target of a known alias that gives no
literal. -/
theorem deferred_unboxed_iff {conversion : Conversion}
    (hconversion : convert naming knownTypes declaration = .ok conversion) :
    ∃ parameters, declaration.constructorParameters = .ok parameters
      ∧ List.Forall₂
          (fun parameter property => property.name.raw = parameter.name
            ∧ (property.isDeferred = true ∧ property.type.IsUnboxed ↔
              declaration.HidesUnboxed knownTypes parameter))
          parameters conversion.model.builder.properties := by
  obtain ⟨hfields, hmodel⟩ := convert_eq_ok_iff.1 hconversion
  obtain ⟨typeVars, -, hassemble⟩ := synthesize_eq_ok_iff.1 hmodel
  obtain ⟨parameters, hparameters, -, hconverted, -⟩ :=
    Declaration.convertFields_eq_ok_iff.1 hfields
  refine ⟨parameters, hparameters, ?_⟩
  rw [← hassemble, properties_assemble, List.forall₂_map_right_iff]
  refine hconverted.imp fun parameter field hfield =>
    ⟨(convertField_eq_ok hfield).1, ?_⟩
  rw [isDeferred_fieldProperty, fieldProperty, moduleClashes,
    isUnboxed_qualify_iff, Kind.hidesUnboxed_iff]
  exact hidesUnboxed_of_fieldKind (fieldKind_of_convertField hfield)

end Conversion

/-- A declaration with slots of unboxed types: of a primitive one, of an
unsigned number that admits no `null` and of one that does, of two aliases, the
second with a literal, and of a primitive type with an argument. -/
def meterDeclaration : Declaration :=
  { name := "Meter", package := "com.meters",
    parameters? := some
      [{ name := "reading", type := "long" },
        { name := "size", type := "kotlin.UInt" },
        { name := "peak", type := "kotlin.UInt", nullable := true },
        { name := "limit", type := "com.meters.Limit" },
        { name := "rate", type := "com.meters.Rate" },
        { name := "step", type := "kotlin.Int<T>" }],
    markers := Catalog.ofList
      [("limit", { alias? := some { target := "kotlin.Int" } }),
        ("rate", { alias? := some { target := " kotlin.Double ",
                                    literal := "1.0" } })] }

/-- The types that the host of the declaration knows. -/
def meterTypes : NameSet := NameSet.ofList ["kotlin.Double", "kotlin.Int"]

/-- Three of the slots are deferred though their types forbid it, each in a way
of its own. -/
theorem deferred_unboxed_meter :
    ∃ conversion, convert {} meterTypes meterDeclaration = .ok conversion
      ∧ conversion.model.builder.properties.map
          (fun property =>
            decide (property.isDeferred = true ∧ property.type.IsUnboxed))
        = [false, true, false, true, false, true] := by
  have hshown : (convert {} meterTypes meterDeclaration).toOption.map
      (fun _ => true) = some true := by
    decide +kernel
  obtain ⟨conversion, hconversion, -⟩ := exists_ok_of_map_toOption hshown
  obtain ⟨parameters, hparameters, hproperties⟩ :=
    deferred_unboxed_iff hconversion
  obtain rfl := Except.ok.inj hparameters
  refine ⟨conversion, hconversion, ?_⟩
  have hhidden := map_eq_of_forall₂
    (fun property : Property =>
      decide (property.isDeferred = true ∧ property.type.IsUnboxed))
    (fun parameter =>
      decide (meterDeclaration.HidesUnboxed meterTypes parameter)) hproperties
    fun _ _ hproperty => decide_eq_decide.2 hproperty.2
  rw [hhidden]
  decide +kernel

/-- **A deferred slot can be of a type that forbids it.**  The slots of an
unsigned number, of an alias and of a primitive type with an argument are
declared without a value. -/
theorem not_forall_deferred_boxed :
    (convert {} meterTypes meterDeclaration).toOption.map (fun conversion =>
        (conversion.model.builder.properties.filter Property.isDeferred).map
          fun property =>
            (property.name.raw, property.type.qualifiedName,
              property.modifiers.map Modifier.word))
        = some [("size", "kotlin.UInt", ["private", "lateinit"]),
          ("limit", "kotlin.Int", ["private", "lateinit"]),
          ("step", "kotlin.Int", ["private", "lateinit"])]
      ∧ "UInt" ∈ unboxedNames ∧ "Int" ∈ unboxedNames :=
  ⟨by decide +kernel, by decide, by decide⟩

end KotlinBuilders
