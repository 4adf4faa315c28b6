import KotlinBuilders.Proofs.ImportShadowing

/-!
# One pass resolves all clashes

A type that is qualified stands for the same classes as before: the tree of its
qualified names is unchanged (`TypeRef.nameTree_qualify`).  Each node either
gives up its package, and with it its import, or stays as it was, so qualifying
again changes nothing (`TypeRef.qualify_qualify`) and what is imported is what
was imported, less the names that are written out (`TypeRef.imports_qualify`).

The set of clashes is found once, before anything is qualified.  A node that
keeps its package afterwards was found in no clash, and qualifying gives no node
a package, so no new clash can come up (`clashingImports_qualified`).
-/

namespace KotlinBuilders

/-- A tree of qualified names, each with the mark whether it admits `null`. -/
inductive NameTree where
  | node (name : String) (nullable : Bool) (arguments : List NameTree)
  deriving Repr

namespace TypeRef

mutual

/-- The qualified names of a type and of everything in its arguments, in their
places. -/
def nameTree : TypeRef → NameTree
  | ⟨package, simpleName, arguments, nullable⟩ =>
    .node (QualifiedName.mk package simpleName).render nullable
      (nameTrees arguments)

/-- The trees of several types. -/
def nameTrees : List TypeRef → List NameTree
  | [] => []
  | type :: types => nameTree type :: nameTrees types

end

/-- The list form takes the tree of each type in its place. -/
theorem nameTrees_eq (types : List TypeRef) :
    nameTrees types = types.map nameTree := by
  induction types with
  | nil => rfl
  | cons type types ih => simp [nameTrees, ih]

/-- The tree of a type has the trees of its arguments below its name. -/
theorem nameTree_eq (type : TypeRef) :
    type.nameTree = .node type.qualifiedName type.nullable
      (type.arguments.map nameTree) := by
  cases type
  rw [nameTree, nameTrees_eq]
  rfl

variable {qualified : NameSet} {type : TypeRef}

/-- Whether a type gives up its package. -/
def IsSpelledOut (qualified : NameSet) (type : TypeRef) : Prop :=
  type.package ≠ "" ∧ type.importName ∈ qualified

/-- The test that qualification makes is the one for being spelled out. -/
theorem isSpelledOut_iff :
    (!type.package.isEmpty && qualified.contains type.importName) = true ↔
      type.IsSpelledOut qualified := by
  rw [Bool.and_eq_true, NameSet.contains_iff, Bool.not_eq_true',
    String.isEmpty_eq_false_iff, IsSpelledOut]

/-- A type that gives up its package has its qualified name for a simple
name. -/
theorem qualify_of_isSpelledOut (hspelled : type.IsSpelledOut qualified) :
    type.qualify qualified = ⟨"", type.qualifiedName,
      type.arguments.map (qualify qualified), type.nullable⟩ := by
  cases type
  rw [qualify, qualifyAll_eq]
  exact if_pos (isSpelledOut_iff.2 hspelled)

/-- Every other type changes in its arguments alone. -/
theorem qualify_of_not_isSpelledOut (hkept : ¬type.IsSpelledOut qualified) :
    type.qualify qualified
      = { type with arguments := type.arguments.map (qualify qualified) } := by
  cases type
  rw [qualify, qualifyAll_eq]
  exact if_neg fun hspelled => hkept (isSpelledOut_iff.1 hspelled)

/-- A type keeps its spelling if it keeps its package and its arguments keep
their spelling. -/
theorem qualify_eq_self (hkept : ¬type.IsSpelledOut qualified)
    (harguments : type.arguments.map (qualify qualified) = type.arguments) :
    type.qualify qualified = type := by
  rw [qualify_of_not_isSpelledOut hkept, harguments]
  cases type
  rfl

/-- The qualified name of a type is the same in either spelling. -/
theorem qualifiedName_qualify (qualified : NameSet) (type : TypeRef) :
    (type.qualify qualified).qualifiedName = type.qualifiedName := by
  by_cases hspelled : type.IsSpelledOut qualified
  · rw [qualify_of_isSpelledOut hspelled]
    rfl
  · rw [qualify_of_not_isSpelledOut hspelled]
    rfl

/-- A type that was qualified does not give up a package any more. -/
theorem not_isSpelledOut_qualify (qualified : NameSet) (type : TypeRef) :
    ¬(type.qualify qualified).IsSpelledOut qualified := by
  by_cases hspelled : type.IsSpelledOut qualified
  · rw [qualify_of_isSpelledOut hspelled]
    exact fun hagain => hagain.1 rfl
  · rw [qualify_of_not_isSpelledOut hspelled]
    exact hspelled

mutual

/-- **A qualified type stands for what it stood for**: its shape, nullability
and qualified names are the same. -/
theorem nameTree_qualify (qualified : NameSet) :
    ∀ type : TypeRef, (type.qualify qualified).nameTree = type.nameTree
  | ⟨package, simpleName, arguments, nullable⟩ => by
    rw [nameTree_eq, qualifiedName_qualify, nullable_qualify, arguments_qualify,
      map_nameTree_qualify qualified arguments, ← nameTree_eq]

/-- Qualification changes no tree of a list of types. -/
theorem map_nameTree_qualify (qualified : NameSet) :
    ∀ types : List TypeRef, (types.map (qualify qualified)).map nameTree
      = types.map nameTree
  | [] => rfl
  | type :: types => by
    rw [List.map_cons, List.map_cons, List.map_cons,
      nameTree_qualify qualified type, map_nameTree_qualify qualified types]

end

mutual

/-- **Qualifying twice is qualifying once.** -/
theorem qualify_qualify (qualified : NameSet) :
    ∀ type : TypeRef, (type.qualify qualified).qualify qualified
      = type.qualify qualified
  | ⟨package, simpleName, arguments, nullable⟩ => by
    refine qualify_eq_self (not_isSpelledOut_qualify qualified _) ?_
    rw [arguments_qualify, map_qualify_qualify qualified arguments]

/-- Qualifying a list of types a second time changes nothing. -/
theorem map_qualify_qualify (qualified : NameSet) :
    ∀ types : List TypeRef,
      (types.map (qualify qualified)).map (qualify qualified)
        = types.map (qualify qualified)
  | [] => rfl
  | type :: types => by
    rw [List.map_cons, List.map_cons, qualify_qualify qualified type,
      map_qualify_qualify qualified types]

end

/-- A type that was qualified needs its import still, if it needed one that is
not in the set. -/
theorem needsImport_qualify_iff {package : String} :
    (type.qualify qualified).needsImport package = true ↔
      type.needsImport package = true ∧ type.importName ∉ qualified := by
  by_cases hspelled : type.IsSpelledOut qualified
  · rw [qualify_of_isSpelledOut hspelled]
    exact iff_of_false (fun hneeds => (needsImport_iff.1 hneeds).1 rfl)
      fun hneeds => hneeds.2 hspelled.2
  · rw [qualify_of_not_isSpelledOut hspelled]
    refine ⟨fun hneeds => ⟨hneeds, fun hmem =>
      hspelled ⟨(needsImport_iff.1 hneeds).1, hmem⟩⟩, And.left⟩

/-- A type that still needs an import is imported under the name it had. -/
theorem importName_qualify {package : String}
    (hneeds : (type.qualify qualified).needsImport package = true) :
    (type.qualify qualified).importName = type.importName := by
  have hkept : ¬type.IsSpelledOut qualified :=
    fun hspelled => (needsImport_qualify_iff.1 hneeds).2 hspelled.2
  rw [qualify_of_not_isSpelledOut hkept]
  rfl

/-- Qualification takes exactly the qualified names out of the imports. -/
theorem imports_map_qualify (qualified : NameSet) (package : String)
    (types : List TypeRef) :
    ((types.map (qualify qualified)).filter
        (needsImport package)).map importName
      = ((types.filter (needsImport package)).map importName).filter
        fun name => !qualified.contains name := by
  induction types with
  | nil => rfl
  | cons type types ih =>
    rw [List.map_cons]
    by_cases hneeds : (type.qualify qualified).needsImport package = true
    · obtain ⟨hneeded, hfree⟩ := needsImport_qualify_iff.1 hneeds
      have hkept :
          (fun name => !qualified.contains name) type.importName = true := by
        rwa [Bool.not_eq_true', ← Bool.not_eq_true, NameSet.contains_iff]
      rw [List.filter_cons_of_pos hneeds, List.filter_cons_of_pos hneeded,
        List.map_cons, List.map_cons, importName_qualify hneeds, ih,
        List.filter_cons_of_pos (p := fun name =>
          !qualified.contains name) hkept]
    · rw [List.filter_cons_of_neg hneeds, ih]
      by_cases hneeded : type.needsImport package = true
      · have hmem : type.importName ∈ qualified := by
          by_contra hfree
          exact hneeds (needsImport_qualify_iff.2 ⟨hneeded, hfree⟩)
        rw [List.filter_cons_of_pos hneeded, List.map_cons,
          List.filter_cons_of_neg (by simpa using hmem)]
      · rw [List.filter_cons_of_neg hneeded]

/-- **A qualified type needs the imports that it needed, less those in the
set.** -/
theorem imports_qualify (qualified : NameSet) (package : String)
    (type : TypeRef) :
    (type.qualify qualified).imports package
      = (type.imports package).filter fun name => !qualified.contains name := by
  rw [imports, nodes_qualify, imports_map_qualify, imports]

end TypeRef

/-- Qualification goes through the nodes of a list of types one by one. -/
theorem nodes_map_qualify (qualified : NameSet) (types : List TypeRef) :
    (types.map (TypeRef.qualify qualified)).flatMap TypeRef.nodes
      = (types.flatMap TypeRef.nodes).map (TypeRef.qualify qualified) := by
  rw [← TypeRef.nodesOfAll_eq, ← TypeRef.nodesOfAll_eq,
    TypeRef.nodesOfAll_map_qualify]

/-- **No clash is left.**  Two types that still have packages after qualifying
had them before and were called the same, so if they clash now they did so
before, and then the one to be imported was spelled out. -/
theorem clashingImports_qualified (package : String) (types : List TypeRef) :
    clashingImports package
      (types.map (TypeRef.qualify (clashingImports package types))) = ∅ := by
  refine NameSet.ext_mem fun name =>
    iff_of_false (fun hmem => ?_) NameSet.not_mem_empty
  obtain ⟨type, htype, hneeds, -, other, hother, hpackaged, hclash⟩ :=
    mem_clashingImports.1 hmem
  rw [nodes_map_qualify] at htype hother
  obtain ⟨first, hfirst, rfl⟩ := List.mem_map.1 htype
  obtain ⟨second, hsecond, rfl⟩ := List.mem_map.1 hother
  obtain ⟨hneeded, hfree⟩ := TypeRef.needsImport_qualify_iff.1 hneeds
  obtain ⟨hpackage, hname, -⟩ :=
    TypeRef.qualify_of_package_ne (TypeRef.needsImport_iff.1 hneeds).1
  obtain ⟨hpackage', hname', -⟩ := TypeRef.qualify_of_package_ne hpackaged
  refine hfree ((importName_mem_clashingImports hfirst hneeded).2 ⟨second,
    hsecond, hpackage' ▸ hpackaged, ?_⟩)
  rwa [TypeRef.clashesWith, TypeRef.outermost, TypeRef.outermost, hname, hname',
    hpackage, hpackage'] at hclash

/-- **Qualifying is faithful, and once is enough.**  For every set of import
names, a qualified type has the shape, the nullability and the qualified names
of the type, qualifying it again changes nothing, and in every file it needs the
imports of the type less those in the set.  When the types of a list are
qualified by the clashes among them, no clash is left. -/
theorem qualify_resolves (qualified : NameSet) (package : String)
    (type : TypeRef) (types : List TypeRef) :
    (type.qualify qualified).nameTree = type.nameTree
      ∧ (type.qualify qualified).qualify qualified = type.qualify qualified
      ∧ (type.qualify qualified).imports package
          = (type.imports package).filter (fun name => !qualified.contains name)
      ∧ clashingImports package
          (types.map (TypeRef.qualify (clashingImports package types))) = ∅ :=
  ⟨type.nameTree_qualify qualified, type.qualify_qualify qualified,
    type.imports_qualify qualified package,
    clashingImports_qualified package types⟩

/-- Of three events the local one keeps its short name, inside a list as
well. -/
example :
    let events (package : String) : TypeRef :=
      ⟨collectionsPackage, "List", [.named package "Event"], false⟩
    let types :=
      [events "com.example", events "com.other", .named "com.text" "Event.Kind"]
    let clashes := clashingImports "com.example" types
    clashes.toList = ["com.other.Event", "com.text.Event"]
      ∧ (types.map fun type => (type.qualify clashes).render)
        = ["List<Event>", "List<com.other.Event>", "com.text.Event.Kind"] := by
  decide +kernel

end KotlinBuilders
