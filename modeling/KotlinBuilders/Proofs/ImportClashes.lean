import KotlinBuilders.Builder.Synthesis
import KotlinBuilders.Proofs.Cutting
import Mathlib.Data.List.Nodup
import Mathlib.Data.List.TakeWhile

/-!
# Imports and clashing names

A module refers to the types of its properties, to the bounds of its type
parameters, and to everything in their arguments.  Writing clashing types by
their qualified names goes through those trees node by node (`nodes_qualify`): a
node either loses its package or stays as it was.  A reference that still has a
package therefore stands for a node that was looked at for clashes and found in
none.

The main statement is `imports_unambiguous`: no two imports bring in the same
simple name, and none brings in the name of a short reference that the file sees
by itself, or of the declaration.
-/

namespace KotlinBuilders

namespace TypeRef

/-- Qualifying a type qualifies its arguments. -/
theorem arguments_qualify (qualified : NameSet) (type : TypeRef) :
    (type.qualify qualified).arguments
      = type.arguments.map (qualify qualified) := by
  cases type
  simp only [qualify, qualifyAll_eq]
  split <;> rfl

/-- Qualifying a type keeps its nullability. -/
@[simp] theorem nullable_qualify (qualified : NameSet) (type : TypeRef) :
    (type.qualify qualified).nullable = type.nullable := by
  cases type
  simp only [qualify]
  split <;> rfl

mutual

/-- Qualifying a type qualifies its nodes one by one and adds or drops none. -/
theorem nodes_qualify (qualified : NameSet) :
    ∀ type : TypeRef, (type.qualify qualified).nodes
      = type.nodes.map (qualify qualified)
  | ⟨package, simpleName, arguments, nullable⟩ => by
    have hall := nodesOfAll_map_qualify qualified arguments
    rw [nodes_eq, arguments_qualify,
      nodes_eq ⟨package, simpleName, arguments, nullable⟩, List.map_cons]
    simp only [← nodesOfAll_eq, hall]

/-- The nodes of qualified types are their nodes, qualified. -/
theorem nodesOfAll_map_qualify (qualified : NameSet) :
    ∀ types : List TypeRef,
      nodesOfAll (types.map (qualify qualified))
        = (nodesOfAll types).map (qualify qualified)
  | [] => rfl
  | type :: types => by
    rw [List.map_cons, nodesOfAll, nodesOfAll, List.map_append,
      nodes_qualify qualified type, nodesOfAll_map_qualify qualified types]

end

/-- A type that keeps a package is spelled as before, and its import name is not
in the set. -/
theorem qualify_of_package_ne {qualified : NameSet} {type : TypeRef}
    (hshort : (type.qualify qualified).package ≠ "") :
    (type.qualify qualified).package = type.package
      ∧ (type.qualify qualified).simpleName = type.simpleName
      ∧ type.importName ∉ qualified := by
  obtain ⟨package, simpleName, arguments, nullable⟩ := type
  simp only [qualify] at hshort ⊢
  split at hshort
  · exact absurd rfl hshort
  · next hkept =>
    rw [if_neg hkept]
    refine ⟨rfl, rfl, fun hmem => hkept ?_⟩
    have hpackage : package ≠ "" := hshort
    simp only [Bool.and_eq_true, Bool.not_eq_true', String.isEmpty_eq_false_iff,
      NameSet.contains_iff]
    exact ⟨hpackage, hmem⟩

/-- The outermost class has no dot in its name. -/
theorem not_mem_outermost (type : TypeRef) : '.' ∉ type.outermost.toList := by
  intro hmem
  rw [outermost, String.toList_ofList] at hmem
  have hne := List.mem_takeWhile_imp hmem
  simp at hne

/-- A simple name without dots is that of the outermost class. -/
theorem outermost_of_not_mem {type : TypeRef}
    (habsent : '.' ∉ type.simpleName.toList) :
    type.outermost = type.simpleName := by
  have hall : type.simpleName.toList.takeWhile (· != '.')
      = type.simpleName.toList :=
    List.takeWhile_eq_self_iff.2 fun c hc =>
      by simpa using ne_of_mem_of_not_mem hc habsent
  rw [outermost, hall, String.ofList_toList]

/-- A type needs an import when it has a package that the file does not see by
itself. -/
theorem needsImport_iff {package : String} {type : TypeRef} :
    type.needsImport package = true ↔
      type.package ≠ "" ∧ type.package ≠ kotlinPackage
        ∧ type.package ≠ collectionsPackage
        ∧ type.package ≠ package := by
  simp [needsImport, isImplicit, and_assoc]

end TypeRef

/-- The simple name under which a file knows an imported type: what follows the
last dot. -/
def importedName (name : String) : String :=
  (QualifiedName.ofTrimmed name.toList).simpleName

/-- An import brings in the name of the outermost class. -/
theorem importedName_importName (type : TypeRef) :
    importedName type.importName = type.outermost := by
  have htext : type.importName.toList
      = type.package.toList ++ '.' :: type.outermost.toList := by
    simp [TypeRef.importName]
  rw [importedName, QualifiedName.ofTrimmed, htext,
    Text.cutAtLast_append type.not_mem_outermost]
  simp

/-- An import clashes when one of the types that need it clashes with another
type of a package. -/
theorem mem_clashingImports {package : String} {types : List TypeRef}
    {name : String} :
    name ∈ clashingImports package types ↔
      ∃ type ∈ types.flatMap TypeRef.nodes, type.needsImport package
        ∧ type.importName = name
        ∧ ∃ other ∈ types.flatMap TypeRef.nodes, other.package ≠ ""
          ∧ type.clashesWith other := by
  simp only [clashingImports, NameSet.mem_ofList, List.mem_map, List.mem_filter,
    List.any_eq_true, Bool.not_eq_true', String.isEmpty_eq_false_iff]
  constructor
  · intro hmem
    obtain ⟨type,
        ⟨⟨⟨htype, hpackage⟩, other, ⟨hother, hotherPackage⟩, hclash⟩, hneeds⟩,
        hname⟩ := hmem
    exact ⟨type, htype, hneeds, hname, other, hother, hotherPackage, hclash⟩
  · intro hclashing
    obtain ⟨type, htype, hneeds, hname, other, hother, hotherPackage, hclash⟩ :=
      hclashing
    exact ⟨type,
      ⟨⟨⟨htype, (TypeRef.needsImport_iff.1 hneeds).1⟩, other,
        ⟨hother, hotherPackage⟩, hclash⟩, hneeds⟩, hname⟩

/-- A type that is imported under a short name shares that name with no type of
another package. -/
theorem package_eq_of_outermost_eq {package : String} {types : List TypeRef}
    {type other : TypeRef} (htype : type ∈ types.flatMap TypeRef.nodes)
    (hneeds : type.needsImport package)
    (hshort : type.importName ∉ clashingImports package types)
    (hother : other ∈ types.flatMap TypeRef.nodes)
    (hpackage : other.package ≠ "") (hname : type.outermost = other.outermost) :
    type.package = other.package := by
  by_contra hne
  have hclash : type.clashesWith other := by
    simp [TypeRef.clashesWith, hname, hne]
  exact hshort (mem_clashingImports.2 ⟨type, htype, hneeds, rfl, other, hother,
    hpackage, hclash⟩)

/-- A set holds each name once. -/
theorem NameSet.nodup_toList (names : NameSet) : names.toList.Nodup := by
  refine names.ascending.imp ?_
  intro name other hlt hsame
  subst other
  exact String.lt_irrefl name hlt

namespace Module

/-- The types of a module's properties and the bounds of its type parameters. -/
def statedTypes (model : Module) : List TypeRef :=
  model.builder.properties.map Property.type
    ++ model.builder.typeVariables.flatMap TypeVariable.bounds

/-- The type references of a module: its stated types with everything in their
arguments. -/
def references (model : Module) : List TypeRef :=
  model.statedTypes.flatMap TypeRef.nodes

end Module

/-- The type that a builder of a declaration makes. -/
def targetType (declaration : Declaration)
    (typeVars : List TypeVariable) : TypeRef :=
  ⟨declaration.package, declaration.name, typeVars.map TypeVariable.type, false⟩

/-- The types of the fields and the bounds, as they are before clashes are
looked at. -/
def sourceTypes (typeVars : List TypeVariable) (fields : List Field) :
    List TypeRef :=
  (fields.map fun field => field.kind.typeRef)
    ++ typeVars.flatMap TypeVariable.bounds

/-- The types among which clashes are looked for: the source types and the
target. -/
def comparedTypes (declaration : Declaration) (typeVars : List TypeVariable)
    (fields : List Field) :
    List TypeRef :=
  sourceTypes typeVars fields ++ [targetType declaration typeVars]

/-- The import names that a declaration's module cannot use. -/
def moduleClashes (declaration : Declaration) (typeVars : List TypeVariable)
    (fields : List Field) : NameSet :=
  clashingImports declaration.package
    (comparedTypes declaration typeVars fields)

/-- A module is assembled once the bounds of the type parameters are
classified. -/
theorem synthesize_eq_ok_iff {naming : Naming} {declaration : Declaration}
    {fields : List Field} {model : Module} :
    synthesize naming declaration fields = .ok model ↔
      ∃ typeVars, typeVariables declaration = .ok typeVars
        ∧ assemble naming declaration typeVars fields = model := by
  unfold synthesize
  cases typeVariables declaration with
  | error failure => simp [bind, Except.bind]
  | ok typeVars => simp [bind, Except.bind, pure, Except.pure]

section Assemble

variable {naming : Naming} {declaration : Declaration}
  {typeVars : List TypeVariable} {fields : List Field}

/-- The source types are among those that are compared. -/
theorem mem_comparedTypes_of_source {source : TypeRef}
    (hsource : source ∈ (sourceTypes typeVars fields).flatMap TypeRef.nodes) :
    source ∈ (comparedTypes declaration typeVars fields).flatMap
      TypeRef.nodes := by
  rw [comparedTypes, List.flatMap_append]
  exact List.mem_append_left _ hsource

/-- The type that the builder makes is among those that are compared. -/
theorem target_mem_comparedTypes :
    targetType declaration typeVars
      ∈ (comparedTypes declaration typeVars fields).flatMap TypeRef.nodes := by
  refine List.mem_flatMap.2 ⟨_, List.mem_append_right _ List.mem_cons_self, ?_⟩
  rw [TypeRef.nodes_eq]
  exact List.mem_cons_self

/-- The properties of a module have the types of the fields, with clashing names
spelled out. -/
theorem properties_assemble :
    (assemble naming declaration typeVars fields).builder.properties
      = fields.map fun field =>
          fieldProperty field (field.kind.typeRef.qualify
              (moduleClashes declaration typeVars fields)) := by
  simp only [assemble, List.map_map, List.zipWith_map_right, List.zipWith_self]
  rfl

/-- The bounds of a module are those of the type parameters, with clashing names
spelled out. -/
theorem bounds_assemble :
    (assemble naming declaration typeVars fields).builder.typeVariables.flatMap
      TypeVariable.bounds
        = (typeVars.flatMap TypeVariable.bounds).map
            (TypeRef.qualify (moduleClashes declaration typeVars fields)) := by
  simp only [assemble, List.flatMap_map, List.map_flatMap]
  rfl

/-- The stated types of an assembled module are the source types without their
clashes. -/
theorem statedTypes_assemble :
    (assemble naming declaration typeVars fields).statedTypes
      = (sourceTypes typeVars fields).map
          (TypeRef.qualify (moduleClashes declaration typeVars fields)) := by
  rw [Module.statedTypes, properties_assemble, bounds_assemble, sourceTypes,
    List.map_append, List.map_map, List.map_map]
  rfl

/-- Every import is that of a reference which the file does not see by itself,
and every such reference has one. -/
theorem mem_imports_assemble {name : String} :
    name ∈ (assemble naming declaration typeVars fields).imports ↔
      ∃ type ∈ (assemble naming declaration typeVars fields).references,
        type.needsImport declaration.package ∧ type.importName = name := by
  have himports : (assemble naming declaration typeVars fields).imports
      = NameSet.ofList
        ((assemble naming declaration typeVars fields).statedTypes.flatMap
          (TypeRef.imports declaration.package)) := by
    rw [statedTypes_assemble, sourceTypes]
    simp only [assemble, List.flatMap_map, List.map_append, List.map_flatMap]
    rfl
  rw [himports, NameSet.mem_ofList, Module.references]
  simp only [TypeRef.imports, List.mem_flatMap, List.mem_map, List.mem_filter]
  constructor
  · intro himported
    obtain ⟨root, hroot, type, ⟨htype, hneeds⟩, hname⟩ := himported
    exact ⟨type, ⟨root, hroot, htype⟩, hneeds, hname⟩
  · intro hreferred
    obtain ⟨type, ⟨root, hroot, htype⟩, hneeds, hname⟩ := hreferred
    exact ⟨root, hroot, type, ⟨htype, hneeds⟩, hname⟩

/-- **Where a short reference comes from.**  A reference that still has a
package stands for a node of a source type that is spelled the same, and the
name that this node is imported by is free of clashes. -/
theorem exists_source_of_mem_references {type : TypeRef}
    (htype : type ∈ (assemble naming declaration typeVars fields).references)
    (hshort : type.package ≠ "") :
    ∃ source ∈ (sourceTypes typeVars fields).flatMap TypeRef.nodes,
      type.package = source.package ∧ type.outermost = source.outermost
        ∧ type.importName ∉ moduleClashes declaration typeVars fields := by
  rw [Module.references, statedTypes_assemble, List.flatMap_map] at htype
  obtain ⟨root, hroot, hnode⟩ := List.mem_flatMap.1 htype
  rw [TypeRef.nodes_qualify] at hnode
  obtain ⟨source, hsource, rfl⟩ := List.mem_map.1 hnode
  obtain ⟨hpackage, hname, hfree⟩ := TypeRef.qualify_of_package_ne hshort
  have houtermost :
      (source.qualify (moduleClashes declaration typeVars fields)).outermost
        = source.outermost := by
    rw [TypeRef.outermost, hname, TypeRef.outermost]
  refine ⟨source, List.mem_flatMap.2 ⟨root, hroot, hsource⟩, hpackage,
    houtermost, ?_⟩
  rwa [TypeRef.importName, hpackage, houtermost]

/-- Every import is that of a node of a source type. -/
theorem exists_source_of_mem_imports {name : String}
    (hname : name ∈ (assemble naming declaration typeVars fields).imports) :
    ∃ source ∈ (sourceTypes typeVars fields).flatMap TypeRef.nodes,
      source.needsImport declaration.package ∧ source.importName = name
        ∧ name ∉ moduleClashes declaration typeVars fields := by
  obtain ⟨type, htype, hneeds, rfl⟩ := mem_imports_assemble.1 hname
  have hneeds' := TypeRef.needsImport_iff.1 hneeds
  obtain ⟨source, hsource, hpackage, houtermost, hfree⟩ :=
    exists_source_of_mem_references htype hneeds'.1
  refine ⟨source, hsource, ?_, ?_, hfree⟩
  · rw [TypeRef.needsImport_iff, ← hpackage]
    exact hneeds'
  · rw [TypeRef.importName, TypeRef.importName, hpackage, houtermost]

/-- An imported reference shares its outermost name with no node of the source
types or of the target that has another package. -/
theorem package_eq_of_imported {type other : TypeRef}
    (htype : type ∈ (assemble naming declaration typeVars fields).references)
    (hneeds : type.needsImport declaration.package)
    (hother :
      other ∈ (comparedTypes declaration typeVars fields).flatMap TypeRef.nodes)
    (hpackage : other.package ≠ "") (hname : type.outermost = other.outermost) :
    type.package = other.package := by
  obtain ⟨source, hsource, hsame, houtermost, hfree⟩ :=
    exists_source_of_mem_references htype (TypeRef.needsImport_iff.1 hneeds).1
  have hsourceNeeds : source.needsImport declaration.package := by
    rw [TypeRef.needsImport_iff] at hneeds ⊢
    rwa [← hsame]
  have hsourceFree :
      source.importName ∉ moduleClashes declaration typeVars fields := by
    rwa [TypeRef.importName, ← hsame, ← houtermost]
  rw [hsame]
  exact package_eq_of_outermost_eq (mem_comparedTypes_of_source hsource)
    hsourceNeeds hsourceFree hother hpackage (houtermost.symm.trans hname)

/-- The name that an import brings in has no dot. -/
theorem not_mem_importedName {name : String}
    (hname : name ∈ (assemble naming declaration typeVars fields).imports) :
    '.' ∉ (importedName name).toList := by
  obtain ⟨type, -, -, rfl⟩ := mem_imports_assemble.1 hname
  rw [importedName_importName]
  exact type.not_mem_outermost

/-- Two imports of one simple name are the same import. -/
theorem eq_of_importedName_eq {name other : String}
    (hname : name ∈ (assemble naming declaration typeVars fields).imports)
    (hother : other ∈ (assemble naming declaration typeVars fields).imports)
    (hsame : importedName name = importedName other) : name = other := by
  obtain ⟨type, htype, hneeds, rfl⟩ := mem_imports_assemble.1 hname
  obtain ⟨type', htype', hneeds', rfl⟩ := mem_imports_assemble.1 hother
  rw [importedName_importName, importedName_importName] at hsame
  have hshort := (TypeRef.needsImport_iff.1 hneeds').1
  obtain ⟨source, hsource, hpackage, houtermost, -⟩ :=
    exists_source_of_mem_references htype' hshort
  have hequal := package_eq_of_imported htype hneeds
    (mem_comparedTypes_of_source hsource) (hpackage ▸ hshort)
    (hsame.trans houtermost)
  rw [TypeRef.importName, TypeRef.importName, hequal, hpackage, hsame]

/-- No import brings in the outermost name of a node that the file sees by
itself. -/
theorem importedName_ne_outermost {name : String}
    (hname : name ∈ (assemble naming declaration typeVars fields).imports)
    {other : TypeRef}
    (hother : other ∈ (comparedTypes declaration typeVars fields).flatMap
      TypeRef.nodes) (hpackage : other.package ≠ "")
    (hseen : other.package = declaration.package ∨ other.package = kotlinPackage
      ∨ other.package = collectionsPackage) :
    importedName name ≠ other.outermost := by
  obtain ⟨type, htype, hneeds, rfl⟩ := mem_imports_assemble.1 hname
  rw [importedName_importName]
  intro hsame
  obtain ⟨-, hkotlin, hcollections, hlocal⟩ := TypeRef.needsImport_iff.1 hneeds
  rw [package_eq_of_imported htype hneeds hother hpackage hsame]
    at hkotlin hcollections hlocal
  rcases hseen with h | h | h
  · exact hlocal h
  · exact hkotlin h
  · exact hcollections h

end Assemble

/-- **Imports are unambiguous and shadow nothing.**  In the module of a
declaration, the simple names that the imports bring in are distinct; none of
them is the outermost name of a reference in short form to a type of the
module's package or of a package imported by default; and in a named package
none is the declaration's own name. -/
theorem imports_unambiguous {naming : Naming} {declaration : Declaration}
    {fields : List Field} {model : Module}
    (hmodel : synthesize naming declaration fields = .ok model) :
    (model.imports.toList.map importedName).Nodup
      ∧ (∀ name ∈ model.imports, ∀ type ∈ model.references,
          type.package ≠ "" →
          type.package = model.package ∨ type.package = kotlinPackage
              ∨ type.package = collectionsPackage →
            importedName name ≠ type.outermost)
      ∧ (model.package ≠ "" → ∀ name ∈ model.imports,
          importedName name ≠ declaration.name
            ∧ importedName name
              ≠ (TypeRef.named model.package declaration.name).outermost) := by
  obtain ⟨typeVars, -, rfl⟩ := synthesize_eq_ok_iff.1 hmodel
  have hpackage : (assemble naming declaration typeVars fields).package
      = declaration.package := rfl
  rw [hpackage]
  refine ⟨?_, ?_, ?_⟩
  · exact (NameSet.nodup_toList _).map_on fun name hname other hother hsame =>
      eq_of_importedName_eq hname hother hsame
  · intro name hname type htype hshort hseen
    obtain ⟨source, hsource, hsame, houtermost, -⟩ :=
      exists_source_of_mem_references htype hshort
    rw [houtermost]
    rw [hsame] at hshort hseen
    exact importedName_ne_outermost hname
      (mem_comparedTypes_of_source hsource) hshort hseen
  · intro hnamed name hname
    have htarget :
        importedName name ≠ (targetType declaration typeVars).outermost :=
      importedName_ne_outermost hname target_mem_comparedTypes hnamed (.inl rfl)
    refine ⟨fun hsame => htarget ?_, htarget⟩
    have hplain : '.' ∉ declaration.name.toList :=
      hsame ▸ not_mem_importedName hname
    rw [hsame, TypeRef.outermost_of_not_mem hplain]
    rfl

/-- A declaration whose field types clash with it, with each other, and with a
type imported by default. -/
def clashingFields : List Field :=
  [⟨⟨"own"⟩, "com.example.Event", false,
    .custom ⟨"com.example", "Event"⟩ [] false⟩,
    ⟨⟨"events"⟩, "java.util.List<com.other.Event>", false,
      .collection .list false (.custom ⟨"com.other", "Event"⟩ [] false) false⟩,
    ⟨⟨"text"⟩, "com.text.String", true, .custom ⟨"com.text", "String"⟩ [] true⟩,
    ⟨⟨"label"⟩, "java.lang.String", false, .primitive .string false⟩,
    ⟨⟨"dog"⟩, "com.animals.Dog.Tail", false,
      .custom ⟨"com.animals", "Dog.Tail"⟩ [] false⟩]

/-- Only the outermost class of the one type without a clash is imported. -/
theorem imports_unambiguous_event :
    ∃ model,
      synthesize {} { name := "Event", package := "com.example" } clashingFields
          = .ok model
      ∧ model.imports.toList = ["com.animals.Dog"]
      ∧ (model.imports.toList.map importedName).Nodup
      ∧ ∀ name ∈ model.imports, importedName name ≠ "Event" := by
  have hmodel : synthesize {} { name := "Event", package := "com.example" }
      clashingFields = .ok _ := rfl
  refine ⟨_, hmodel, ?_, ?_⟩
  · decide +kernel
  · obtain ⟨hdistinct, -, htarget⟩ := imports_unambiguous hmodel
    exact ⟨hdistinct, fun name hname => (htarget (by decide) name hname).1⟩

end KotlinBuilders
