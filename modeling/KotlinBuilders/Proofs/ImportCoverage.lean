import KotlinBuilders.Proofs.FieldConversion
import KotlinBuilders.Proofs.ImportClashes

/-!
# Every type that is written down is in scope

Imports are collected from the types of the properties and from the bounds of
the type parameters.  A module writes types in other places too: the parameters
of its setters, what `build` returns, and the receiver, the result and the
bounds of the factory.  The types of the setters and the bounds of the factory
are those of the properties and of the class (`setterTypes_assemble`), and all
others are made from the declaration, from the builder and from type parameters
(`mem_writtenTypes_assemble`), so nothing there needs an import.

The main statement is `imports_cover`: whatever a module writes can be resolved
in its file, and each of its imports is needed by something that it writes.
-/

namespace KotlinBuilders

/-- The types that a factory writes down. -/
def Factory.writtenTypes (factory : Factory) : List TypeRef :=
  factory.receiver :: factory.returns :: factory.typeVariables.flatMap
    TypeVariable.bounds

/-- The types that a module writes down, wherever they stand. -/
def Module.writtenTypes (model : Module) : List TypeRef :=
  model.builder.properties.map Property.type
    ++ model.builder.setters.map Setter.type
    ++ model.builder.typeVariables.flatMap TypeVariable.bounds
    ++ [model.builder.returnType]
    ++ model.factory?.toList.flatMap Factory.writtenTypes

/-- A type whose every node is outside all packages or in the given one. -/
def TypeRef.IsLocal (package : String) (type : TypeRef) : Prop :=
  ∀ node ∈ type.nodes, node.package = "" ∨ node.package = package

/-- A class of the package, applied to type parameters, is local throughout. -/
theorem isLocal_of_variables {package home simpleName : String}
    {nullable : Bool} (typeVars : List TypeVariable)
    (hhome : home = "" ∨ home = package) :
    (⟨home, simpleName, typeVars.map TypeVariable.type, nullable⟩ :
      TypeRef).IsLocal package := by
  intro node hnode
  rw [TypeRef.nodes_eq, List.mem_cons, List.mem_flatMap] at hnode
  rcases hnode with rfl | ⟨argument, hargument, hnode⟩
  · exact hhome
  · obtain ⟨typeVariable, -, rfl⟩ := List.mem_map.1 hargument
    rw [TypeRef.nodes_eq] at hnode
    have hself : node = typeVariable.type := by
      simpa [TypeVariable.type, TypeRef.named] using hnode
    exact .inl (hself ▸ rfl)

section Assemble

variable {naming : Naming} {declaration : Declaration}
  {typeVars : List TypeVariable} {fields : List Field}

/-- A setter takes what its property holds. -/
theorem setterTypes_assemble :
    (assemble naming declaration typeVars fields).builder.setters.map
      Setter.type
        = (assemble naming declaration typeVars fields).builder.properties.map
          Property.type := by
  simp only [assemble, List.map_map, List.zipWith_map_right, List.zipWith_self]
  rfl

/-- The type that a builder returns is local to the package of its
declaration. -/
theorem isLocal_returnType_assemble :
    (assemble naming declaration typeVars fields).builder.returnType.IsLocal
      declaration.package :=
  isLocal_of_variables typeVars (.inr rfl)

/-- The type of the builder itself is local to every package. -/
theorem isLocal_selfType {package : String} (builder : BuilderClass) :
    builder.selfType.IsLocal package :=
  isLocal_of_variables builder.typeVariables (.inl rfl)

/-- A factory repeats the bounds of the class; its receiver and its result are
local. -/
theorem mem_writtenTypes_factory {factory : Factory}
    (hfactory : (assemble naming declaration typeVars fields).factory?
      = some factory) {type : TypeRef}
    (htype : type ∈ factory.writtenTypes) :
    type ∈ (assemble naming declaration typeVars
      fields).builder.typeVariables.flatMap TypeVariable.bounds
      ∨ type.IsLocal declaration.package := by
  simp only [assemble] at hfactory
  split at hfactory
  · obtain rfl := Option.some.inj hfactory
    simp only [Factory.writtenTypes, List.mem_cons] at htype
    rcases htype with rfl | rfl | hbound
    · exact .inr (isLocal_of_variables [] (.inr rfl))
    · exact .inr (isLocal_selfType _)
    · exact .inl hbound
  · cases hfactory

/-- **Where a written type comes from**: it is one of the types that imports are
collected from, or local. -/
theorem mem_writtenTypes_assemble {type : TypeRef}
    (htype :
      type ∈ (assemble naming declaration typeVars fields).writtenTypes) :
    type ∈ (assemble naming declaration typeVars fields).statedTypes
      ∨ type.IsLocal declaration.package := by
  simp only [Module.writtenTypes, setterTypes_assemble, List.mem_append,
    List.mem_singleton, List.mem_flatMap, Option.mem_toList] at htype
  rw [Module.statedTypes, List.mem_append]
  rcases htype with
    (((hproperty | hsetter) | hbound) | rfl) | ⟨factory, hfactory, hmem⟩
  · exact .inl (.inl hproperty)
  · exact .inl (.inl hsetter)
  · exact .inl (.inr (List.mem_flatMap.2 hbound))
  · exact .inr isLocal_returnType_assemble
  · rcases mem_writtenTypes_factory hfactory hmem with hbound | hlocal
    · exact .inl (.inr hbound)
    · exact .inr hlocal

/-- A reference is seen by every file, or belongs to the package of the module,
or is imported. -/
theorem resolves_of_mem_references {type : TypeRef}
    (htype : type ∈ (assemble naming declaration typeVars fields).references) :
    type.package = "" ∨ type.package = kotlinPackage
      ∨ type.package = collectionsPackage
      ∨ type.package = declaration.package
      ∨ type.importName
        ∈ (assemble naming declaration typeVars fields).imports := by
  by_cases hneeds : type.needsImport declaration.package
  · have himported := mem_imports_assemble.2 ⟨type, htype, hneeds, rfl⟩
    simp [himported]
  · rw [TypeRef.needsImport_iff] at hneeds
    grind

end Assemble

/-- **Imports are complete and none is unused.**  In the module of a
declaration, every node of every type that is written down, in a property, a
setter, a bound, the result of `build` or the factory, is outside all packages,
in a package imported by default or in the module's own, or its outermost class
is imported; and every import names the outermost class of a node of a
property's type or of a bound whose package is none of those. -/
theorem imports_cover {naming : Naming} {declaration : Declaration}
    {fields : List Field} {model : Module}
    (hmodel : synthesize naming declaration fields = .ok model) :
    (∀ type ∈ model.writtenTypes.flatMap TypeRef.nodes,
        type.package = "" ∨ type.package = kotlinPackage
          ∨ type.package = collectionsPackage
          ∨ type.package = model.package ∨ type.importName ∈ model.imports)
      ∧ ∀ name ∈ model.imports, ∃ type ∈ model.references,
          type.package ≠ "" ∧ type.package ≠ kotlinPackage
            ∧ type.package ≠ collectionsPackage
            ∧ type.package ≠ model.package ∧ type.importName = name := by
  obtain ⟨typeVars, -, rfl⟩ := synthesize_eq_ok_iff.1 hmodel
  have hpackage : (assemble naming declaration typeVars fields).package
      = declaration.package := rfl
  rw [hpackage]
  constructor
  · intro type htype
    obtain ⟨root, hroot, hnode⟩ := List.mem_flatMap.1 htype
    rcases mem_writtenTypes_assemble hroot with hstated | hlocal
    · exact resolves_of_mem_references
        (List.mem_flatMap.2 ⟨root, hstated, hnode⟩)
    · rcases hlocal type hnode with hnone | hown
      · exact .inl hnone
      · exact .inr (.inr (.inr (.inl hown)))
  · intro name hname
    obtain ⟨type, htype, hneeds, himport⟩ := mem_imports_assemble.1 hname
    obtain ⟨hpackaged, hkotlin, hcollections, hforeign⟩ :=
      TypeRef.needsImport_iff.1 hneeds
    exact ⟨type, htype, hpackaged, hkotlin, hcollections, hforeign, himport⟩

/-- A declaration with a factory, a bound from another package and one from its
own. -/
def boundedDeclaration : Declaration :=
  { name := "Cage", package := "com.zoo",
    typeParameters :=
      [⟨"T", ["com.animals.Animal<com.law.Owner>", "com.zoo.Visible"]⟩,
        ⟨"U", []⟩],
    companionable := true, hasCompanion := true }

/-- Both nodes of the foreign bound are imported; the factory, which is written
after the class, sees them too. -/
theorem imports_cover_bounds :
    ∃ model, synthesize {} boundedDeclaration clashingFields = .ok model
      ∧ model.imports.toList
        = ["com.animals.Animal", "com.animals.Dog", "com.law.Owner"]
      ∧ (∀ type ∈ model.writtenTypes.flatMap TypeRef.nodes,
          type.package = "com.law" → type.importName ∈ model.imports)
      ∧ ∃ type ∈ model.references, type.package ≠ "com.zoo"
          ∧ type.importName = "com.law.Owner" := by
  have hshown : (synthesize {} boundedDeclaration clashingFields).toOption.map
      (fun m => (m.package, m.imports.toList))
        = some ("com.zoo", ["com.animals.Animal", "com.animals.Dog",
          "com.law.Owner"]) := by decide +kernel
  obtain ⟨model, hmodel, hview⟩ := exists_ok_of_map_toOption hshown
  obtain ⟨hpackage, himports⟩ := Prod.mk.inj hview
  obtain ⟨hcomplete, hused⟩ := imports_cover hmodel
  refine ⟨model, hmodel, himports, ?_, ?_⟩
  · intro type htype hlaw
    rcases hcomplete type htype with h | h | h | h | himported
    · simp [hlaw] at h
    · simp [hlaw, kotlinPackage] at h
    · simp [hlaw, collectionsPackage] at h
    · simp [hlaw, hpackage] at h
    · exact himported
  · have hmem : "com.law.Owner" ∈ model.imports := by
      simp [NameSet.mem_iff, himports]
    obtain ⟨type, htype, -, -, -, hforeign, hname⟩ := hused _ hmem
    exact ⟨type, htype, hpackage ▸ hforeign, hname⟩

end KotlinBuilders
