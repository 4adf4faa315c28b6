import KotlinBuilders.Proofs.FieldConversion
import KotlinBuilders.Proofs.ImportClashes

/-!
# Imports and the names that a file makes itself

Besides the types that it refers to, a file has names of its own: the
declaration that it builds, the builder class and the type parameters
(`Module.ownNames`).  Clashes are looked for among references with a package, so
an own name is compared with only where it is the name of such a reference, and
the declaration is one in a named package.

A foreign type is imported exactly when no reference with a package clashes with
it (`mem_imports_iff_source`).  From this follows when imports and own names
keep apart: every foreign type that goes by an own name has to clash with some
other reference (`imports_avoid_ownNames_iff`).  They do not always
(`not_forall_imports_avoid_ownNames`).
-/

namespace KotlinBuilders

namespace TypeRef

/-- An import name can be taken apart again. -/
theorem eq_of_importName_eq {type other : TypeRef}
    (hsame : type.importName = other.importName) :
    type.package = other.package ∧ type.outermost = other.outermost := by
  have hcut : ∀ t : TypeRef,
      Text.cutAtLast '.' t.importName.toList
        = some (t.package.toList, t.outermost.toList) := by
    intro t
    have htext : t.importName.toList
        = t.package.toList ++ '.' :: t.outermost.toList := by simp [importName]
    rw [htext, Text.cutAtLast_append t.not_mem_outermost]
  have hparts := (hcut type).symm.trans
    ((congrArg (Text.cutAtLast '.' ·.toList) hsame).trans (hcut other))
  obtain ⟨hpackage, houtermost⟩ := Prod.mk.inj (Option.some.inj hparts)
  exact ⟨String.toList_inj.1 hpackage, String.toList_inj.1 houtermost⟩

/-- A type whose import name is not in the set keeps its package and its
name. -/
theorem qualify_of_not_mem {qualified : NameSet} {type : TypeRef}
    (hfree : type.importName ∉ qualified) :
    (type.qualify qualified).package = type.package
      ∧ (type.qualify qualified).simpleName = type.simpleName := by
  obtain ⟨package, simpleName, arguments, nullable⟩ := type
  simp only [qualify]
  split
  · next hclash =>
    rw [Bool.and_eq_true, NameSet.contains_iff] at hclash
    exact absurd hclash.2 hfree
  · exact ⟨rfl, rfl⟩

end TypeRef

/-- An import name cannot be used exactly when the foreign type that has it
clashes with a type of the list. -/
theorem importName_mem_clashingImports {package : String} {types : List TypeRef}
    {type : TypeRef} (htype : type ∈ types.flatMap TypeRef.nodes)
    (hneeds : type.needsImport package) :
    type.importName ∈ clashingImports package types ↔
      ∃ other ∈ types.flatMap TypeRef.nodes, other.package ≠ ""
      ∧ type.clashesWith other := by
  rw [mem_clashingImports]
  constructor
  · rintro ⟨first, -, -, hsame, other, hother, hpackaged, hclash⟩
    obtain ⟨hpackage, houtermost⟩ := TypeRef.eq_of_importName_eq hsame
    refine ⟨other, hother, hpackaged, ?_⟩
    rwa [TypeRef.clashesWith, ← hpackage, ← houtermost]
  · rintro ⟨other, hother, hpackaged, hclash⟩
    exact ⟨type, htype, hneeds, rfl, other, hother, hpackaged, hclash⟩

/-- The names that a module's file makes itself: the declaration, its builder
and the type parameters. -/
def Module.ownNames (model : Module) : List String :=
  model.builder.returnType.simpleName :: model.builder.name
    :: model.builder.typeVariables.map TypeVariable.name

section Assemble

variable {naming : Naming} {declaration : Declaration}
  {typeVars : List TypeVariable} {fields : List Field}

/-- A foreign node of a source type is imported unless its import name is kept
out. -/
theorem importName_mem_imports {source : TypeRef}
    (hsource : source ∈ (sourceTypes typeVars fields).flatMap TypeRef.nodes)
    (hneeds : source.needsImport declaration.package)
    (hfree : source.importName ∉ moduleClashes declaration typeVars fields) :
    source.importName ∈ (assemble naming declaration typeVars
      fields).imports := by
  obtain ⟨hpackage, hname⟩ := TypeRef.qualify_of_not_mem hfree
  have hreferred : source.qualify (moduleClashes declaration typeVars fields)
      ∈ (assemble naming declaration typeVars fields).references := by
    obtain ⟨root, hroot, hnode⟩ := List.mem_flatMap.1 hsource
    rw [Module.references, statedTypes_assemble, List.flatMap_map]
    refine List.mem_flatMap.2 ⟨root, hroot, ?_⟩
    rw [TypeRef.nodes_qualify]
    exact List.mem_map_of_mem hnode
  refine mem_imports_assemble.2 ⟨_, hreferred, ?_, ?_⟩
  · rw [TypeRef.needsImport_iff, hpackage]
    exact TypeRef.needsImport_iff.1 hneeds
  · rw [TypeRef.importName, TypeRef.outermost, hpackage, hname,
      TypeRef.importName, TypeRef.outermost]

/-- **What is imported**: the foreign types that no reference with a package
clashes with. -/
theorem mem_imports_iff_source {name : String} :
    name ∈ (assemble naming declaration typeVars fields).imports ↔
      ∃ source ∈ (sourceTypes typeVars fields).flatMap TypeRef.nodes,
        source.needsImport declaration.package ∧ source.importName = name
          ∧ ¬∃ other ∈ (comparedTypes declaration typeVars fields).flatMap
            TypeRef.nodes,
              other.package ≠ "" ∧ source.clashesWith other := by
  constructor
  · intro hname
    obtain ⟨source, hsource, hneeds, rfl, hfree⟩ :=
      exists_source_of_mem_imports hname
    refine ⟨source, hsource, hneeds, rfl, ?_⟩
    rwa [moduleClashes, importName_mem_clashingImports
      (mem_comparedTypes_of_source hsource) hneeds] at hfree
  · rintro ⟨source, hsource, hneeds, rfl, hfree⟩
    refine importName_mem_imports hsource hneeds ?_
    rwa [moduleClashes, importName_mem_clashingImports
      (mem_comparedTypes_of_source hsource) hneeds]

end Assemble

/-- The own names of a module, from the declaration and the way in which
builders are named. -/
theorem ownNames_of_synthesize {naming : Naming} {declaration : Declaration}
    {fields : List Field} {model : Module}
    (hmodel : synthesize naming declaration fields = .ok model) :
    model.ownNames = declaration.name
      :: (declaration.name ++ naming.builderSuffix)
      :: declaration.typeParameters.map TypeParameter.name := by
  obtain ⟨typeVars, htypeVars, rfl⟩ := synthesize_eq_ok_iff.1 hmodel
  have hkept :
      (assemble naming declaration typeVars fields).builder.typeVariables.map
        TypeVariable.name
        = typeVars.map TypeVariable.name := by
    simp only [assemble, List.map_map]
    rfl
  have hnames : typeVars.map TypeVariable.name
      = declaration.typeParameters.map TypeParameter.name := by
    refine map_eq_of_forall₂ _ _ (forall₂_of_mapM htypeVars) ?_
    intro parameter typeVariable hmade
    obtain ⟨bounds, -, hsame⟩ := bind_eq_ok_iff.1 hmade
    obtain rfl := Except.ok.inj hsame
    rfl
  rw [Module.ownNames, hkept, hnames]
  rfl

/-- **When imports and own names keep apart.**  No import brings in the name of
the declaration, of its builder or of a type parameter exactly when every
foreign type that goes by such a name clashes with a reference to another
package. -/
theorem imports_avoid_ownNames_iff {naming : Naming} {declaration : Declaration}
    {fields : List Field} {model : Module}
    (hmodel : synthesize naming declaration fields = .ok model) :
    ∃ typeVars, typeVariables declaration = .ok typeVars
      ∧ ((∀ name ∈ model.imports, importedName name ∉ model.ownNames) ↔
          ∀ type ∈ (sourceTypes typeVars fields).flatMap TypeRef.nodes,
            type.needsImport declaration.package →
            type.outermost ∈ model.ownNames →
              ∃ other ∈ (comparedTypes declaration typeVars fields).flatMap
                  TypeRef.nodes,
                other.package ≠ "" ∧ type.clashesWith other) := by
  obtain ⟨typeVars, htypeVars, rfl⟩ := synthesize_eq_ok_iff.1 hmodel
  refine ⟨typeVars, htypeVars, ?_⟩
  constructor
  · intro hapart type htype hneeds hown
    by_contra hfree
    refine hapart _
      (mem_imports_iff_source.2 ⟨type, htype, hneeds, rfl, hfree⟩) ?_
    rwa [importedName_importName]
  · intro hclash name hname hown
    obtain ⟨source, hsource, hneeds, rfl, hfree⟩ :=
      mem_imports_iff_source.1 hname
    rw [importedName_importName] at hown
    exact hfree (hclash source hsource hneeds hown)

/-- A declaration of a package with one type parameter. -/
def eventDeclaration (package : String) : Declaration :=
  { name := "Event", package, typeParameters := [⟨"T", []⟩] }

/-- Fields whose types go by the name of a type parameter, two of them in
different packages. -/
def rivalFields : List Field :=
  [⟨⟨"value"⟩, "T", false, .custom ⟨"", "T"⟩ [] false⟩,
    ⟨⟨"first"⟩, "com.lib.T", false, .custom ⟨"com.lib", "T"⟩ [] false⟩,
    ⟨⟨"second"⟩, "com.other.T", false, .custom ⟨"com.other", "T"⟩ [] false⟩,
    ⟨⟨"place"⟩, "com.lib.Place", false, .custom ⟨"com.lib", "Place"⟩ [] false⟩]

/-- The rivals clash with each other, so neither takes the name of the type
parameter. -/
theorem imports_avoid_ownNames_event :
    ∃ model,
      synthesize {} (eventDeclaration "com.example") rivalFields = .ok model
      ∧ model.imports.toList = ["com.lib.Place"]
      ∧ ∀ name ∈ model.imports, importedName name ∉ model.ownNames := by
  have hmodel : synthesize {} (eventDeclaration "com.example") rivalFields
      = .ok _ := rfl
  refine ⟨_, hmodel, by decide +kernel, ?_⟩
  obtain ⟨typeVars, htypeVars, hiff⟩ := imports_avoid_ownNames_iff hmodel
  obtain rfl : typeVars = [⟨"T", [TypeRef.kotlin "Any"]⟩] :=
    Except.ok.inj (htypeVars.symm.trans rfl)
  refine hiff.2 ?_
  decide +kernel

/-- Fields whose types go by the names of a declaration, of its builder and of
its type parameter. -/
def shadowingFields : List Field :=
  [⟨⟨"value"⟩, "T", false, .custom ⟨"", "T"⟩ [] false⟩,
    ⟨⟨"other"⟩, "com.lib.T", false, .custom ⟨"com.lib", "T"⟩ [] false⟩,
    ⟨⟨"draft"⟩, "com.lib.EventBuilder", false,
      .custom ⟨"com.lib", "EventBuilder"⟩ [] false⟩,
    ⟨⟨"parent"⟩, "com.lib.Event", false, .custom ⟨"com.lib", "Event"⟩ [] false⟩]

/-- **Imports can take the names that the file makes itself.**  In a named
package only the declaration is compared with the references; outside all
packages nothing is. -/
theorem not_forall_imports_avoid_ownNames :
    (∃ model,
      synthesize {} (eventDeclaration "com.example") shadowingFields = .ok model
        ∧ model.ownNames = ["Event", "EventBuilder", "T"]
        ∧ model.imports.toList.map importedName = ["EventBuilder", "T"])
      ∧ ∃ model, synthesize {} (eventDeclaration "") shadowingFields = .ok model
        ∧ model.ownNames = ["Event", "EventBuilder", "T"]
        ∧ model.imports.toList.map importedName
          = ["Event", "EventBuilder", "T"] := by
  constructor
  · have hmodel : synthesize {} (eventDeclaration "com.example") shadowingFields
        = .ok _ := rfl
    exact ⟨_, hmodel, by decide +kernel, by decide +kernel⟩
  · have hmodel : synthesize {} (eventDeclaration "") shadowingFields
        = .ok _ := rfl
    exact ⟨_, hmodel, by decide +kernel, by decide +kernel⟩

end KotlinBuilders
