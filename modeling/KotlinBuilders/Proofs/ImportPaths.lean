import KotlinBuilders.Proofs.RunAccounts
import KotlinBuilders.Proofs.TypeTrees

/-!
# Which names are imported

An import is made from a package and an outermost class, which were cut out of a
text.  For a type that is made of names, of arrays and of type arguments, each
cut falls into one of the names, and the two parts put together are the whole
name again (`toList_importName_ofTrimmed`).  Classification hands no text that
is not such a name to an import (`HostType.importsFrom_of_classify`), so what a
module imports was written down by the host (`imports_written`).

A class inside a generic class is different.  Its text goes on behind the
closing bracket, so it is kept as one name, and the outermost class is cut from
a text with a bracket in it (`exists_importName_of_inner`).  Where its package
is a foreign one, the import is no name at all
(`not_forall_imports_isTypeName`).
-/

namespace KotlinBuilders

namespace HostType

mutual

/-- The names of classes that a type is written with. -/
def names : HostType → List (List Char)
  | .named name => [name]
  | .arrayOf element => names element
  | .applied outer arguments => outer :: namesOfAll arguments
  | _ => []

/-- The names of classes that several types are written with. -/
def namesOfAll : List HostType → List (List Char)
  | [] => []
  | type :: types => names type ++ namesOfAll types

end

mutual

/-- The names that a writable type is written with are names of types. -/
theorem isTypeName_of_mem_names :
    {type : HostType} → (htype : type.IsWritable) →
      ∀ name ∈ type.names, IsTypeName name
  | .named name, htype => by
    rw [names, List.forall_mem_singleton]
    exact htype
  | .primitiveArray _, _ => by simp [names]
  | .arrayOf _, htype => by
    rw [names]
    exact isTypeName_of_mem_names htype.1
  | .applied _ _, htype => by
    rw [names, List.forall_mem_cons]
    exact ⟨htype.1, isTypeName_of_mem_namesOfAll htype.2⟩

/-- The names that several writable types are written with are names of
types. -/
theorem isTypeName_of_mem_namesOfAll : {types : List HostType} →
    (htypes : AllWritable types) → ∀ name ∈ namesOfAll types, IsTypeName name
  | [], _ => List.forall_mem_nil _
  | _ :: _, htypes => by
    rw [namesOfAll, List.forall_mem_append]
    exact ⟨isTypeName_of_mem_names htypes.1,
      isTypeName_of_mem_namesOfAll htypes.2⟩

end

end HostType

namespace QualifiedName

/-- The simple name is what follows the last dot. -/
theorem not_mem_simpleName_ofTrimmed (text : List Char) :
    '.' ∉ (ofTrimmed text).simpleName.toList := by
  unfold ofTrimmed
  split
  · next hcut =>
    rw [String.toList_ofList]
    exact Text.not_mem_of_cutAtLast hcut
  · next hnone =>
    rw [String.toList_ofList]
    exact Text.not_mem_of_cutAtLast_eq_none hnone

/-- A name in a package is the package, a dot and the simple name. -/
theorem append_ofTrimmed {text : List Char}
    (hpackage : (ofTrimmed text).package ≠ "") :
    (ofTrimmed text).package.toList
      ++ '.' :: (ofTrimmed text).simpleName.toList = text := by
  unfold ofTrimmed at hpackage ⊢
  split at hpackage
  · next hcut => simp [Text.eq_of_cutAtLast hcut]
  · exact absurd rfl hpackage

/-- Blanks behind a name do not reach its package. -/
theorem package_ofTrimmed_append {text gap : List Char}
    (hgap : Text.AllBlank gap) :
    (ofTrimmed (text ++ gap)).package = (ofTrimmed text).package := by
  have hdot : '.' ∉ gap := fun hmem => absurd (hgap _ hmem) (by decide)
  cases hcut : Text.cutAtLast '.' text with
  | none =>
    have habsent : '.' ∉ text ++ gap := by
      rw [List.mem_append, not_or]
      exact ⟨Text.not_mem_of_cutAtLast_eq_none hcut, hdot⟩
    rw [ofTrimmed, ofTrimmed, hcut, Text.cutAtLast_eq_none habsent]
  | some parts =>
    obtain ⟨package, simpleName⟩ := parts
    have habsent : '.' ∉ simpleName ++ gap := by
      rw [List.mem_append, not_or]
      exact ⟨Text.not_mem_of_cutAtLast hcut, hdot⟩
    have htext : text ++ gap = package ++ '.' :: (simpleName ++ gap) := by
      simp [Text.eq_of_cutAtLast hcut]
    rw [ofTrimmed, ofTrimmed, hcut, htext, Text.cutAtLast_append habsent]

end QualifiedName

namespace TypeRef

variable {names : List (List Char)} {type : TypeRef}

/-- Whatever a file could have to import for the type, it is one of the given
names. -/
def ImportsFrom (names : List (List Char)) (type : TypeRef) : Prop :=
  ∀ node ∈ type.nodes, node.isImplicit = false → node.importName.toList ∈ names

/-- The imports of a type are its own and those of its arguments. -/
theorem importsFrom_iff :
    type.ImportsFrom names ↔
      (type.isImplicit = false → type.importName.toList ∈ names)
        ∧ ∀ argument ∈ type.arguments, argument.ImportsFrom names := by
  rw [ImportsFrom, nodes_eq, List.forall_mem_cons, and_congr_right_iff]
  intro _
  simp only [List.mem_flatMap, forall_exists_index, and_imp]
  constructor
  · intro hall argument hargument node hnode
    exact hall node argument hargument hnode
  · intro hall node argument hargument hnode
    exact hall argument hargument node hnode

/-- A type that imports from some names imports from more of them. -/
theorem ImportsFrom.mono {others : List (List Char)}
    (htype : type.ImportsFrom names) (hsubset : names ⊆ others) :
    type.ImportsFrom others :=
  fun node hnode hforeign => hsubset (htype node hnode hforeign)

/-- A type of a package that every file sees imports what its arguments do. -/
theorem importsFrom_of_isImplicit (himplicit : type.isImplicit = true)
    (harguments : ∀ argument ∈ type.arguments, argument.ImportsFrom names) :
    type.ImportsFrom names := by
  rw [importsFrom_iff]
  refine ⟨?_, harguments⟩
  intro hforeign
  rw [himplicit] at hforeign
  cases hforeign

/-- **A name is put together again**: cut at its last dot, it is imported as it
was written. -/
theorem toList_importName_ofTrimmed {text : List Char}
    {arguments : List TypeRef} {nullable : Bool} :
    let name := QualifiedName.ofTrimmed text
    let type : TypeRef := ⟨name.package, name.simpleName, arguments, nullable⟩
    type.isImplicit = false → type.importName.toList = text := by
  intro name type hforeign
  have hplain : '.' ∉ type.simpleName.toList :=
    QualifiedName.not_mem_simpleName_ofTrimmed text
  have hpackage : name.package ≠ "" := by
    intro hnone
    simp [isImplicit, type, hnone] at hforeign
  rw [importName, outermost_of_not_mem hplain, String.toList_append,
    String.toList_append, List.append_assoc]
  exact QualifiedName.append_ofTrimmed hpackage

/-- A type whose name is read from one of the given texts imports from them if
its arguments do. -/
theorem importsFrom_ofTrimmed {text : List Char} {arguments : List TypeRef}
    {nullable : Bool} (htext : text ∈ names)
    (harguments : ∀ argument ∈ arguments, argument.ImportsFrom names) :
    let name := QualifiedName.ofTrimmed text
    (⟨name.package, name.simpleName, arguments, nullable⟩ :
        TypeRef).ImportsFrom names := by
  intro name
  rw [importsFrom_iff]
  refine ⟨?_, harguments⟩
  intro hforeign
  rw [toList_importName_ofTrimmed hforeign]
  exact htext

end TypeRef

namespace Kind

variable {flags : TypeFlags} {names : List (List Char)}

/-- A basic type is seen by every file. -/
theorem importsFrom_kotlin (simpleName : String) (nullable : Bool) :
    ((TypeRef.kotlin simpleName).withNullable nullable).ImportsFrom names :=
  TypeRef.importsFrom_of_isImplicit rfl (List.forall_mem_nil _)

/-- A primitive type imports nothing. -/
theorem importsFrom_ofPrimitive (type : Primitive) :
    (ofPrimitive flags type).typeRef.ImportsFrom names := by
  unfold ofPrimitive
  split
  · exact importsFrom_kotlin _ _
  · exact importsFrom_kotlin _ _

/-- A library type without arguments imports nothing. -/
theorem importsFrom_ofLibraryName? {name : String} {kind : Kind}
    (hkind : ofLibraryName? flags name = some kind) :
    kind.typeRef.ImportsFrom names := by
  obtain ⟨type, rfl⟩ := exists_of_ofLibraryName? hkind
  cases type <;> exact importsFrom_kotlin _ _

/-- A plain name imports nothing but itself. -/
theorem importsFrom_ofName {name : List Char} (hname : IsTypeName name) :
    (ofName flags name).typeRef.ImportsFrom [name] := by
  rw [ofName]
  cases Primitive.ofSpelling? (String.ofList name) with
  | some type => exact importsFrom_ofPrimitive type
  | none =>
    cases hlibrary : ofLibraryName? flags (String.ofList name) with
    | some kind => exact importsFrom_ofLibraryName? hlibrary
    | none =>
      rw [typeRef, typeRefs_eq, TypeTree.customName_of_isTypeName hname]
      exact TypeRef.importsFrom_ofTrimmed List.mem_cons_self
        (List.forall_mem_nil _)

/-- An array of a primitive type imports nothing. -/
theorem importsFrom_ofPrimitiveArray (element : Primitive) :
    (ofPrimitiveArray flags element).typeRef.ImportsFrom names := by
  unfold ofPrimitiveArray
  split
  · exact importsFrom_kotlin _ _
  · rw [typeRef]
    refine TypeRef.importsFrom_of_isImplicit rfl
      (List.forall_mem_singleton.2 ?_)
    exact importsFrom_kotlin _ _

/-- A container is a type of the standard packages, applied to its arguments. -/
theorem typeRef_of_kind? {container : Container}
    {arguments : List Kind} {kind : Kind}
    (hkind : container.kind? flags arguments = some kind) :
    kind.typeRef.isImplicit = true
      ∧ kind.typeRef.arguments = arguments.map typeRef := by
  unfold Container.kind? at hkind
  split at hkind <;> cases hkind <;> exact ⟨rfl, rfl⟩

/-- A generic type imports its outer name and what its arguments do. -/
theorem importsFrom_ofGeneric {outer : List Char} {arguments : List Kind}
    {kind : Kind} (houter : IsTypeName outer)
    (harguments : ∀ argument ∈ arguments, argument.typeRef.ImportsFrom names)
    (hkind : ofGeneric flags outer arguments = .ok kind) :
    kind.typeRef.ImportsFrom (outer :: names) := by
  have hwider :
      ∀ type ∈ arguments.map typeRef, type.ImportsFrom (outer :: names) := by
    intro type htype
    obtain ⟨argument, hargument, rfl⟩ := List.mem_map.1 htype
    exact (harguments argument hargument).mono
      (List.subset_cons_self outer names)
  unfold ofGeneric at hkind
  split at hkind
  · split at hkind
    · next found hfound =>
      obtain rfl := Except.ok.inj hkind
      obtain ⟨himplicit, hsame⟩ := typeRef_of_kind? hfound
      exact TypeRef.importsFrom_of_isImplicit himplicit (hsame ▸ hwider)
    · cases hkind
  · obtain rfl := Except.ok.inj hkind
    rw [typeRef, typeRefs_eq, QualifiedName.ofText, houter.isTypeText.trimmed]
    exact TypeRef.importsFrom_ofTrimmed List.mem_cons_self hwider

end Kind

namespace HostType

mutual

/-- **Classification keeps names whole**: what a file could import for a type is
a name that it is written with. -/
theorem importsFrom_of_classify :
    {type : HostType} → (htype : type.IsWritable) → {flags : TypeFlags} →
      {slots : List Bool} → {kind : Kind} →
      (hkind : type.classify flags slots = .ok kind) →
      kind.typeRef.ImportsFrom type.names
  | .named name, htype, flags, slots, kind, hkind => by
    obtain rfl := Except.ok.inj hkind
    exact Kind.importsFrom_ofName htype
  | .primitiveArray element, _, flags, slots, kind, hkind => by
    obtain rfl := Except.ok.inj hkind
    exact Kind.importsFrom_ofPrimitiveArray element
  | .arrayOf element, htype, flags, slots, kind, hkind => by
    rw [classify] at hkind
    obtain ⟨inner, hinner, hkind⟩ := bind_eq_ok_iff.1 hkind
    obtain rfl := Except.ok.inj hkind
    have helement := importsFrom_of_classify htype.1 hinner
    exact TypeRef.importsFrom_of_isImplicit rfl
      (List.forall_mem_singleton.2 helement)
  | .applied outer arguments, htype, flags, slots, kind, hkind => by
    rw [classify] at hkind
    obtain ⟨kinds, hkinds, hkind⟩ := bind_eq_ok_iff.1 hkind
    exact Kind.importsFrom_ofGeneric htype.1
      (importsFrom_of_classifyAll htype.2 hkinds) hkind

/-- Types that are classified one by one import from their own names. -/
theorem importsFrom_of_classifyAll : {types : List HostType} →
    (htypes : AllWritable types) → {slots : List Bool} → {kinds : List Kind} →
    (hkinds : classifyAll slots types = .ok kinds) →
      ∀ kind ∈ kinds, kind.typeRef.ImportsFrom (namesOfAll types)
  | [], _, slots, kinds, hkinds => by
    obtain rfl := Except.ok.inj hkinds
    exact List.forall_mem_nil _
  | type :: types, htypes, slots, kinds, hkinds => by
    rw [classifyAll] at hkinds
    obtain ⟨first, hfirst, hkinds⟩ := bind_eq_ok_iff.1 hkinds
    obtain ⟨others, hothers, hkinds⟩ := bind_eq_ok_iff.1 hkinds
    obtain rfl := Except.ok.inj hkinds
    rw [List.forall_mem_cons]
    constructor
    · exact (importsFrom_of_classify htypes.1 hfirst).mono
        (List.subset_append_left _ _)
    · intro kind hkind
      exact (importsFrom_of_classifyAll htypes.2 hothers kind hkind).mono
        (List.subset_append_right _ _)

end

end HostType

/-- A text that a host writes a type of names, arrays and type arguments as. -/
def IsPlainType (text : String) : Prop := ∃ type : HostType, type.IsWritable
  ∧ type.WrittenAs text.toList

/-- The names of classes that a text in host notation holds. -/
def typeNames (text : String) : List (List Char) :=
  (HostType.ofText text.toList).names

/-- The names of one text are among those of all. -/
theorem typeNames_subset {texts : List String} {text : String}
    (htext : text ∈ texts) :
    typeNames text ⊆ texts.flatMap typeNames := by
  intro name hname
  exact List.mem_flatMap.2 ⟨text, htext, hname⟩

/-- The names that a plain text holds are names of types. -/
theorem isTypeName_of_mem_typeNames {text : String} (htext : IsPlainType text) :
    ∀ name ∈ typeNames text, IsTypeName name := by
  obtain ⟨type, htype, hwritten⟩ := htext
  rw [typeNames, HostType.ofText_of_writtenAs htype hwritten]
  exact HostType.isTypeName_of_mem_names htype

/-- A plain text that is classified imports from the names it holds. -/
theorem importsFrom_of_classify {text : String} (htext : IsPlainType text)
    {flags : TypeFlags} {slots : List Bool} {kind : Kind}
    (hkind : classify flags slots text = .ok kind) :
    kind.typeRef.ImportsFrom (typeNames text) := by
  obtain ⟨type, htype, hwritten⟩ := htext
  rw [classify, HostType.ofText_of_writtenAs htype hwritten] at hkind
  rw [typeNames, HostType.ofText_of_writtenAs htype hwritten]
  exact HostType.importsFrom_of_classify htype hkind

section Conversion

variable {naming : Naming} {knownTypes : NameSet} {declaration : Declaration}

/-- The target of an alias is imported under the name that the host knows. -/
theorem importsFrom_of_resolvedAlias? {nullable : Bool}
    {marker : Alias} {kind : Kind}
    (hkind : resolvedAlias? knownTypes nullable marker = some kind) :
    kind.typeRef.ImportsFrom (knownTypes.toList.map String.toList) := by
  obtain ⟨target, htarget, rfl⟩ := Option.map_eq_some_iff.1 hkind
  unfold resolve? at htarget
  split at htarget
  · next hknown =>
    obtain rfl := Option.some.inj htarget
    have hmem : Text.trim marker.target.toList
        ∈ knownTypes.toList.map String.toList := by
      refine List.mem_map.2 ⟨_, NameSet.contains_iff.1 hknown, ?_⟩
      rw [String.trimBlank, String.toList_ofList]
    exact TypeRef.importsFrom_ofTrimmed hmem (List.forall_mem_nil _)
  · cases htarget

/-- A field imports known names and names of its declared type. -/
theorem importsFrom_of_convertField {parameter : Parameter} {field : Field}
    (hfield : convertField knownTypes declaration parameter = .ok field)
    (hplain : IsPlainType field.declaredType) :
    field.kind.typeRef.ImportsFrom (knownTypes.toList.map String.toList
      ++ typeNames field.declaredType) := by
  rcases kind_of_convertField hfield with
    ⟨nullable, marker, hkind⟩ | ⟨flags, slots, hkind⟩
  · exact (importsFrom_of_resolvedAlias? hkind).mono
      (List.subset_append_left _ _)
  · exact (importsFrom_of_classify hplain hkind).mono
      (List.subset_append_right _ _)

/-- The bounds of a type parameter import names that they are written with. -/
theorem importsFrom_of_boundTypes {owner : String} {parameter : TypeParameter}
    {bounds : List TypeRef} (hbounds : boundTypes owner parameter = .ok bounds)
    (hplain : ∀ text ∈ parameter.bounds, IsPlainType text) :
    ∀ type ∈ bounds, type.ImportsFrom (parameter.bounds.flatMap typeNames) := by
  intro type htype
  unfold boundTypes at hbounds
  split at hbounds
  · obtain rfl := Except.ok.inj hbounds
    rw [List.mem_singleton.1 htype]
    exact Kind.importsFrom_kotlin _ false
  · split at hbounds
    · next kinds hkinds =>
      obtain rfl := Except.ok.inj hbounds
      obtain ⟨kind, hkind, rfl⟩ := List.mem_map.1 htype
      obtain ⟨text, htext, hclassified⟩ :=
        exists_of_mem_forall₂ (forall₂_of_mapM hkinds) hkind
      exact (importsFrom_of_classify (hplain text htext) hclassified).mono
        (typeNames_subset htext)
    · cases hbounds

/-- The bounds of a declaration's type parameters import names that they are
written with. -/
theorem importsFrom_of_typeVariables {typeVars : List TypeVariable}
    (htypeVars : typeVariables declaration = .ok typeVars)
    (hplain : ∀ text ∈ declaration.typeParameters.flatMap TypeParameter.bounds,
      IsPlainType text) :
    ∀ type ∈ typeVars.flatMap TypeVariable.bounds,
      type.ImportsFrom ((declaration.typeParameters.flatMap
        TypeParameter.bounds).flatMap typeNames) := by
  intro type htype
  obtain ⟨typeVariable, htypeVariable, hbound⟩ := List.mem_flatMap.1 htype
  obtain ⟨parameter, hparameter, hmade⟩ :=
    exists_of_mem_forall₂ (forall₂_of_mapM htypeVars) htypeVariable
  obtain ⟨bounds, hclassified, hsame⟩ := bind_eq_ok_iff.1 hmade
  obtain rfl := Except.ok.inj hsame
  have hstated : ∀ text ∈ parameter.bounds,
      text ∈ declaration.typeParameters.flatMap TypeParameter.bounds := by
    intro text htext
    exact List.mem_flatMap.2 ⟨parameter, hparameter, htext⟩
  have himports := importsFrom_of_boundTypes hclassified
    (fun text htext => hplain text (hstated text htext)) type hbound
  refine himports.mono ?_
  intro name hname
  obtain ⟨text, htext, hname⟩ := List.mem_flatMap.1 hname
  exact typeNames_subset (hstated text htext) hname

/-- The texts of the types that the fields and the bounds of a declaration are
given. -/
def typeTexts (declaration : Declaration) (fields : List Field) : List String :=
  fields.map Field.declaredType
    ++ declaration.typeParameters.flatMap TypeParameter.bounds

/-- The source types of a converted declaration import known names and names
that its types are written with. -/
theorem importsFrom_sourceTypes {conversion : FieldConversion}
    {typeVars : List TypeVariable}
    (hconversion : declaration.convertFields knownTypes = .ok conversion)
    (htypeVars : typeVariables declaration = .ok typeVars)
    (hplain : ∀ text ∈ typeTexts declaration conversion.fields,
      IsPlainType text) :
    ∀ type ∈ sourceTypes typeVars conversion.fields,
      type.ImportsFrom (knownTypes.toList.map String.toList
        ++ (typeTexts declaration conversion.fields).flatMap typeNames) := by
  have hall := List.forall_mem_append.1 hplain
  intro type htype
  rcases List.mem_append.1 htype with hmem | hmem
  · obtain ⟨field, hfield, rfl⟩ := List.mem_map.1 hmem
    obtain ⟨parameters, -, -, hconverted, -⟩ :=
      Declaration.convertFields_eq_ok_iff.1 hconversion
    obtain ⟨parameter, -, hmade⟩ := exists_of_mem_forall₂ hconverted hfield
    have hdeclared :
        field.declaredType ∈ typeTexts declaration conversion.fields :=
      List.mem_append_left _ (List.mem_map_of_mem hfield)
    have himports := importsFrom_of_convertField hmade (hplain _ hdeclared)
    refine himports.mono
      (List.append_subset.2 ⟨List.subset_append_left _ _, ?_⟩)
    exact List.subset_append_of_subset_right _ (typeNames_subset hdeclared)
  · refine (importsFrom_of_typeVariables htypeVars hall.2 type hmem).mono ?_
    rw [typeTexts, List.flatMap_append]
    exact List.subset_append_of_subset_right _ (List.subset_append_right _ _)

/-- **Imports are names that were written.**  Where the types of the fields and
the bounds are made of names, arrays and type arguments, and the host knows its
types by names, every import of the module is a name: one that the host knows,
or one that stands in a field's type or in a bound. -/
theorem imports_written {conversion : Conversion}
    (hconversion : convert naming knownTypes declaration = .ok conversion)
    (hplain : ∀ text ∈ typeTexts declaration conversion.fields,
      IsPlainType text)
    (hknown : ∀ name ∈ knownTypes, IsTypeName name.toList) :
    ∀ name ∈ conversion.model.imports,
      IsTypeName name.toList
        ∧ (name ∈ knownTypes
          ∨ ∃ text ∈ typeTexts declaration conversion.fields,
            name.toList ∈ typeNames text) := by
  obtain ⟨hfields, hmodel⟩ := convert_eq_ok_iff.1 hconversion
  obtain ⟨typeVars, htypeVars, hassemble⟩ := synthesize_eq_ok_iff.1 hmodel
  intro name hname
  rw [← hassemble] at hname
  obtain ⟨node, hnode, hneeds, rfl, -⟩ := exists_source_of_mem_imports hname
  obtain ⟨type, htype, hnode⟩ := List.mem_flatMap.1 hnode
  have hforeign : node.isImplicit = false := by
    rw [TypeRef.needsImport, Bool.and_eq_true, Bool.not_eq_true'] at hneeds
    exact hneeds.1
  have hwritten := importsFrom_sourceTypes hfields htypeVars hplain type htype
    node hnode hforeign
  rcases List.mem_append.1 hwritten with hmem | hmem
  · obtain ⟨known, hmem, hsame⟩ := List.mem_map.1 hmem
    obtain rfl := String.toList_inj.1 hsame
    exact ⟨hknown _ hmem, .inl hmem⟩
  · obtain ⟨text, htext, hmem⟩ := List.mem_flatMap.1 hmem
    exact ⟨isTypeName_of_mem_typeNames (hplain text htext) _ hmem,
      .inr ⟨text, htext, hmem⟩⟩

end Conversion

/-- A declaration with an array among type arguments, a bound of its own kind,
and an alias. -/
def shelfDeclaration : Declaration :=
  { name := "Shelf", package := "com.shop",
    typeParameters := [⟨"T", ["goods.Item<T>"]⟩],
    parameters? := some
      [{ name := "prices", type := "java.util.Map<goods.Key, goods.Price []>" },
        { name := "label", type := "java.lang.CharSequence" }],
    markers :=
      Catalog.ofList [("label", { alias? := some { target := "text.Label" } })]
        }

/-- The names of both arguments, of the bound and of the alias are imported. -/
theorem imports_written_shelf :
    ∃ conversion,
      convert {} (NameSet.ofList ["text.Label"]) shelfDeclaration
          = .ok conversion
      ∧ conversion.model.imports.toList
        = ["goods.Item", "goods.Key", "goods.Price", "text.Label"]
      ∧ ∀ name ∈ conversion.model.imports, IsTypeName name.toList := by
  have hshown :
      (convert {} (NameSet.ofList ["text.Label"]) shelfDeclaration).toOption.map
        (fun conversion => (conversion.fields.map Field.declaredType,
          conversion.model.imports.toList))
        = some (
          ["java.util.Map<goods.Key, goods.Price []>",
            "java.lang.CharSequence"],
          ["goods.Item", "goods.Key", "goods.Price", "text.Label"]) := by
    decide +kernel
  obtain ⟨conversion, hconversion, hview⟩ := exists_ok_of_map_toOption hshown
  obtain ⟨htypes, himports⟩ := Prod.mk.inj hview
  have hnone : Text.AllBlank [] := Text.allBlank_nil
  have hspace : Text.AllBlank [' '] := Text.allBlank_space
  have hprices : IsPlainType "java.util.Map<goods.Key, goods.Price []>" := by
    refine ⟨.applied "java.util.Map".toList
      [.named "goods.Key".toList, .arrayOf (.named "goods.Price".toList)], ?_,
      ?_⟩
    · refine ⟨isTypeName_literal rfl rfl, isTypeName_literal rfl rfl,
        ⟨isTypeName_literal rfl rfl, ?_⟩, trivial⟩
      intro name hname
      obtain rfl := HostType.named.inj hname
      decide
    · exact .applied
        (.cons (.named _) (.cons (.arrayOf (.named _) hspace) .nil))
        (.cons hnone hspace (.single _)) hnone hnone hnone
  have hlabel : IsPlainType "java.lang.CharSequence" :=
    ⟨.named _, isTypeName_literal rfl rfl, .named _⟩
  have hitem : IsPlainType "goods.Item<T>" := by
    refine ⟨.applied "goods.Item".toList [.named "T".toList], ?_, ?_⟩
    · exact ⟨isTypeName_literal rfl rfl, isTypeName_literal rfl rfl, trivial⟩
    · exact .applied (.cons (.named _) .nil) (.single _) hnone hnone hnone
  have hplain : ∀ text ∈ typeTexts shelfDeclaration conversion.fields,
      IsPlainType text := by
    rw [typeTexts, htypes]
    simp [shelfDeclaration, hprices, hlabel, hitem]
  have hknown :
      ∀ name ∈ NameSet.ofList ["text.Label"], IsTypeName name.toList := by
    intro name hname
    rw [List.mem_singleton.1 (NameSet.mem_ofList.1 hname)]
    exact isTypeName_literal rfl rfl
  exact ⟨conversion, hconversion, himports, fun name hname =>
    (imports_written hconversion hplain hknown name hname).1⟩

section InnerClasses

/-- A type's text with a name behind it looks like the text of a type. -/
theorem IsTypeText.append_name {text name : List Char} (htext : IsTypeText text)
    (hname : IsTypeName name) :
    IsTypeText (text ++ name) where
  toIsPiece := htext.toIsPiece.append hname.isTypeText.toIsPiece
  trimmed := by
    obtain ⟨c, rest, rfl, hc⟩ := htext.head
    refine Text.trim_eq_self_iff.2 ⟨fun d hd => ?_, fun d hd => ?_⟩
    · have hd : c = d := by simpa using hd
      exact hd ▸ hc.1
    · rw [List.getLast?_append_of_ne_nil _ hname.1] at hd
      exact (hname.2 d (List.mem_of_getLast? hd)).1
  nonempty := List.append_ne_nil_of_right_ne_nil _ hname.1
  head := by
    obtain ⟨c, rest, rfl, hc⟩ := htext.head
    exact ⟨c, rest ++ name, rfl, hc⟩
  noDash := by
    rw [List.getLast?_append_of_ne_nil _ hname.1]
    exact hname.isTypeText.noDash

/-- The name of a custom type takes everything from the first angle bracket on
into its simple name. -/
theorem customName_angle {front back : List Char} (habsent : '<' ∉ front) :
    Kind.customName (front ++ '<' :: back)
      = ⟨(QualifiedName.ofTrimmed front).package,
          (QualifiedName.ofTrimmed front).simpleName
          ++ String.ofList ('<' :: back)⟩ := by
  have hplain : ∀ c ∈ front, (c != '<') = true := by
    intro c hc
    simpa using ne_of_mem_of_not_mem hc habsent
  have htake : (front ++ '<' :: back).takeWhile (· != '<') = front := by
    rw [List.takeWhile_append_of_pos hplain]
    simp
  have hdrop : (front ++ '<' :: back).dropWhile (· != '<') = '<' :: back := by
    rw [List.dropWhile_append_of_pos hplain]
    simp
  rw [Kind.customName, htake, hdrop, QualifiedName.ofTrimmed]
  cases Text.cutAtLast '.' front <;> simp

/-- The outermost class is cut out behind the bracket, because no dot stands
between the two. -/
theorem angle_mem_importName {front back : List Char} (habsent : '<' ∉ front)
    (nullable : Bool) :
    '<' ∈ (Kind.custom (Kind.customName (front ++ '<' :: back)) []
      nullable).typeRef.importName.toList := by
  have hplain : ∀ c ∈ (QualifiedName.ofTrimmed front).simpleName.toList,
      (c != '.') = true := by
    intro c hc
    simpa using ne_of_mem_of_not_mem hc
      (QualifiedName.not_mem_simpleName_ofTrimmed front)
  have houtermost :
      '<' ∈ ((QualifiedName.ofTrimmed front).simpleName.toList
        ++ '<' :: back).takeWhile (· != '.') := by
    rw [List.takeWhile_append_of_pos hplain]
    simp
  rw [customName_angle habsent, Kind.typeRef, TypeRef.importName,
    TypeRef.outermost]
  simp only [String.toList_append, String.toList_ofList, List.mem_append]
  exact .inr houtermost

/-- A name that a bracket stands in is read as the name of a custom type. -/
theorem classify_of_angle_mem {text : List Char}
    (hread : HostType.ofText text = .named text) (hangle : '<' ∈ text)
    (flags : TypeFlags) (slots : List Bool) :
    classify flags slots (String.ofList text)
      = .ok (.custom (Kind.customName text) [] flags.nullable) := by
  have hunknown : ¬IsKnownName (String.ofList text) :=
    not_isKnownName_of_mem (by rwa [String.toList_ofList])
      (by simp [Text.Mark.ofChar?])
  rw [classify, String.toList_ofList, hread, HostType.classify, Kind.ofName,
    ofSpelling?_unknown hunknown, ofLibraryName?_unknown hunknown]

/-- **A class inside a generic class has a bracket in its import name.**  The
text of the inner class is kept as one name; its package is that of the generic
class, and its outermost class is cut behind the opening bracket. -/
theorem exists_importName_of_inner {outer text simpleName : List Char}
    {arguments : List HostType}
    (htype : (HostType.applied outer arguments).IsWritable)
    (htext : HostType.WrittenAs (.applied outer arguments) text)
    (hsimple : IsTypeName simpleName) (flags : TypeFlags) (slots : List Bool) :
    ∃ kind, classify flags slots (String.ofList (text ++ '.' :: simpleName))
      = .ok kind
      ∧ kind.typeRef.package = (QualifiedName.ofTrimmed outer).package
      ∧ '<' ∈ kind.typeRef.importName.toList := by
  have hend : IsTypeName ('.' :: simpleName) :=
    ⟨by simp,
      List.forall_mem_cons.2 ⟨isNameChar_of_isNameLetter rfl, hsimple.2⟩⟩
  have hwhole := (HostType.isTypeText_of_writtenAs htype htext).append_name hend
  obtain ⟨last, hlast⟩ :=
    Option.ne_none_iff_exists'.1 (mt List.getLast?_eq_none_iff.1 hend.1)
  have hread : HostType.ofText (text ++ '.' :: simpleName)
      = .named (text ++ '.' :: simpleName) := by
    have hwholeLast : (text ++ '.' :: simpleName).getLast? = some last := by
      rw [List.getLast?_append_of_ne_nil _ hend.1, hlast]
    rw [HostType.ofText_eq, Outline.ofText_of_getLast? hwhole hwholeLast
      (hend.2 last (List.mem_of_getLast? hlast)), HostType.ofOutline]
  obtain ⟨gap, rest, hgap, rfl⟩ : ∃ gap rest, Text.AllBlank gap
      ∧ text = outer ++ gap ++ '<' :: rest := by
    cases htext with
    | applied _ _ hgap => exact ⟨_, _, hgap, rfl⟩
  have habsent := IsTypeName.angle_not_mem_append htype.1 hgap
  refine ⟨_, classify_of_angle_mem hread (by simp) flags slots, ?_, ?_⟩
  · rw [List.append_assoc, List.cons_append,
      customName_angle habsent, Kind.typeRef,
      QualifiedName.package_ofTrimmed_append hgap]
  · rw [List.append_assoc, List.cons_append]
    exact angle_mem_importName habsent flags.nullable

end InnerClasses

/-- A declaration with classes inside generic classes, one of them generic
itself, and with a function. -/
def drawerDeclaration : Declaration :=
  { name := "Drawer", package := "com.shop",
    parameters? := some
      [{ name := "first", type := "lib.Box<lib.Key>.Lid" },
        { name := "second", type := "lib.Box<lib.Key>.Lid<Set<int>>" },
        { name := "third", type := "(int) -> lib.Result" }] }

/-- **Not every import is a name.**  Classes inside generic classes and
functions are imported under texts that hold brackets. -/
theorem not_forall_imports_isTypeName :
    ∃ conversion, convert {} ∅ drawerDeclaration = .ok conversion
      ∧ conversion.model.imports.toList
        = ["(int) -> lib.Result", "lib.Box", "lib.Box<lib", "lib.Key>.Lid"]
      ∧ ¬∀ name ∈ conversion.model.imports, IsTypeName name.toList := by
  have hshown : (convert {} ∅ drawerDeclaration).toOption.map
      (fun conversion => conversion.model.imports.toList)
        = some ["(int) -> lib.Result", "lib.Box", "lib.Box<lib",
          "lib.Key>.Lid"] := by decide +kernel
  obtain ⟨conversion, hconversion, himports⟩ := exists_ok_of_map_toOption hshown
  refine ⟨conversion, hconversion, himports, ?_⟩
  intro hnames
  have hmem : "lib.Box<lib" ∈ conversion.model.imports := by
    simp [NameSet.mem_iff, himports]
  have hangle := (hnames _ hmem).2 '<' (by decide)
  exact absurd hangle.2.1 (by decide)

end KotlinBuilders
