import KotlinBuilders.Proofs.KnownNames

/-!
# Types with a nullability at every node

A `TypeTree` is a type as its author means it: every node says whether it admits
`null`, and every name is spelled in one of the ways a host knows.  It
determines a host type (`hostType`), the nullabilities of the types inside it in
the order in which they begin in the text (`nestedSlots`), and the kind that it
should be classified as (`kind`).

The main statement is `classify_text_of_typeTree`: written as a host would, with
blanks wherever they are free, and classified with those slots, the type gets
that kind.  The induction carries a rest of slots behind those of the tree,
because a type hands what it does not use to the types after it
(`classify_hostType`).
-/

namespace KotlinBuilders

/-- A type whose every node says whether it admits `null`. -/
inductive TypeTree where
  | primitive (type : Primitive) (spelling : String) (nullable : Bool)
  | library (type : LibraryType) (spelling : String) (nullable : Bool)
  | primitiveArray (element : Primitive) (type : PrimitiveArray)
      (nullable : Bool)
  | array (element : TypeTree) (nullable : Bool)
  | enumeration (spelling : String) (element : TypeTree) (nullable : Bool)
  | comparable (spelling : String) (element : TypeTree) (nullable : Bool)
  | collection (family : CollectionFamily) (spelling : String)
      (element : TypeTree) (nullable : Bool)
  | map (family : MapFamily) (spelling : String) (key value : TypeTree)
      (nullable : Bool)
  | custom (package? : Option String) (simpleName : String)
      (arguments : List TypeTree) (nullable : Bool)

namespace TypeTree

/-- Whether the type itself admits `null`. -/
def nullable : TypeTree → Bool
  | .primitive _ _ n | .library _ _ n | .primitiveArray _ _ n | .array _ n
      | .enumeration _ _ n => n
  | .comparable _ _ n | .collection _ _ _ n | .map _ _ _ _ n
      | .custom _ _ _ n => n

/-- The name of a custom type; its package, if it has one, stands in front of
the last dot. -/
def customText (package? : Option String) (simpleName : String) : String :=
  match package? with
  | some package => package ++ "." ++ simpleName
  | none => simpleName

/-- A type that is spelled by one of the keywords of the virtual machine. -/
def IsBareKeyword : TypeTree → Prop
  | .primitive type spelling _ => type.keyword? = some spelling
  | _ => False

mutual

/-- Spellings are known ones, custom names are none of them, and no array has a
bare keyword for its element. -/
def WellFormed : TypeTree → Prop
  | .primitive type spelling _ => spelling ∈ type.spellings
  | .library type spelling _ => spelling ∈ type.names
  | .primitiveArray element type _ => element.array? = some type
  | .array element _ => element.WellFormed ∧ ¬element.IsBareKeyword
  | .enumeration spelling element _ => Container.enumeration.HasName spelling
      ∧ element.WellFormed
  | .comparable spelling element _ => Container.comparable.HasName spelling
      ∧ element.WellFormed
  | .collection family spelling element _ =>
    (∃ always, (Container.collection family always).HasName spelling)
      ∧ element.WellFormed
  | .map family spelling key value _ =>
    (∃ always, (Container.map family always).HasName spelling) ∧ key.WellFormed
      ∧ value.WellFormed
  | .custom package? simpleName arguments _ =>
    IsTypeName (customText package? simpleName).toList ∧ '.' ∉ simpleName.toList
      ∧ ¬IsKnownName (customText package? simpleName) ∧ AllWellFormed arguments

def AllWellFormed : List TypeTree → Prop
  | [] => True
  | tree :: trees => tree.WellFormed ∧ AllWellFormed trees

end

mutual

/-- The type in the shape that a host writes. -/
def hostType : TypeTree → HostType
  | .primitive _ spelling _ => .named spelling.toList
  | .library _ spelling _ => .named spelling.toList
  | .primitiveArray element _ _ => .primitiveArray element
  | .array element _ => .arrayOf element.hostType
  | .enumeration spelling element _ =>
    .applied spelling.toList [element.hostType]
  | .comparable spelling element _ =>
    .applied spelling.toList [element.hostType]
  | .collection _ spelling element _ =>
    .applied spelling.toList [element.hostType]
  | .map _ spelling key value _ =>
    .applied spelling.toList [key.hostType, value.hostType]
  | .custom package? simpleName arguments _ =>
    if arguments.isEmpty then .named (customText package? simpleName).toList
    else .applied (customText package? simpleName).toList (hostTypes arguments)

def hostTypes : List TypeTree → List HostType
  | [] => []
  | tree :: trees => tree.hostType :: hostTypes trees

end

mutual

/-- The nullabilities of the types inside a type, each before those of its own
parts. -/
def nestedSlots : TypeTree → List Bool
  | .primitive .. | .library .. | .primitiveArray .. => []
  | .array element _ | .enumeration _ element _ | .comparable _ element _
      | .collection _ _ element _ =>
    element.nullable :: element.nestedSlots
  | .map _ _ key value _ =>
    key.nullable :: (key.nestedSlots ++ value.nullable :: value.nestedSlots)
  | .custom _ _ arguments _ => slots arguments

/-- The nullabilities of several types and of the types inside them. -/
def slots : List TypeTree → List Bool
  | [] => []
  | tree :: trees => tree.nullable :: (tree.nestedSlots ++ slots trees)

end

mutual

/-- The kind of a type.  It is mutable or unsigned as asked for; the types
inside it are neither, unless a name says that they are mutable. -/
def kind (isMutable isUnsigned : Bool) : TypeTree → Kind
  | .primitive type _ nullable =>
    match type.unsigned?, isUnsigned with
    | some form, true => .unsigned form nullable
    | _, _ => .primitive type nullable
  | .library type _ nullable => type.kind nullable
  | .primitiveArray element type nullable =>
    match element.unsigned?, isUnsigned with
    | some form, true => .primitiveArray form.array nullable
    | _, _ => .primitiveArray type nullable
  | .array element nullable => .array (element.kind false false) nullable
  | .enumeration _ element nullable =>
    .enumeration (element.kind false false) nullable
  | .comparable _ element nullable =>
    .comparable (element.kind false false) nullable
  | .collection family spelling element nullable =>
    .collection family (isMutableName spelling || isMutable)
      (element.kind false false) nullable
  | .map family spelling key value nullable =>
    .map family (isMutableName spelling || isMutable) (key.kind false false)
      (value.kind false false) nullable
  | .custom package? simpleName arguments nullable =>
    .custom ⟨package?.getD "", simpleName⟩ (kinds arguments) nullable

def kinds : List TypeTree → List Kind
  | [] => []
  | tree :: trees => tree.kind false false :: kinds trees

end

section HostShape

mutual

/-- A slot is there for each type inside. -/
theorem nestedCount_hostType :
    (tree : TypeTree) → tree.hostType.nestedCount = tree.nestedSlots.length
  | .primitive .. | .library .. | .primitiveArray .. => rfl
  | .array element _ => by
    simp [hostType, nestedSlots, HostType.nestedCount,
      nestedCount_hostType element]
  | .enumeration _ element _ | .comparable _ element _
      | .collection _ _ element _ => by
    simp [hostType, nestedSlots, HostType.nestedCount, HostType.nestedCountAll,
      nestedCount_hostType element]
  | .map _ _ key value _ => by
    simp [hostType, nestedSlots, HostType.nestedCount, HostType.nestedCountAll,
      nestedCount_hostType key, nestedCount_hostType value]
    omega
  | .custom _ _ arguments _ => by
    cases arguments with
    | nil => rfl
    | cons first others =>
      simpa [hostType, nestedSlots, HostType.nestedCount]
        using nestedCountAll_hostTypes (first :: others)

/-- Several trees take as many slots as they have nullabilities. -/
theorem nestedCountAll_hostTypes :
    (trees : List TypeTree) →
      HostType.nestedCountAll (hostTypes trees) = (slots trees).length
  | [] => rfl
  | tree :: trees => by
    simp [hostTypes, slots, HostType.nestedCountAll, nestedCount_hostType tree,
      nestedCountAll_hostTypes trees]
    omega

end

/-- A type that is written as a bare name has that name for its spelling. -/
theorem ofKeyword?_of_hostType_eq {tree : TypeTree} {name : List Char}
    (htree : tree.WellFormed) (hbare : ¬tree.IsBareKeyword)
    (hname : tree.hostType = .named name) :
    Primitive.ofKeyword? (String.ofList name) = none := by
  -- A keyword is a spelling of its primitive, and nothing else is spelled like
  -- one.
  refine Option.eq_none_iff_forall_ne_some.2 fun found hfound => ?_
  have hkeyword := HostType.keyword?_of_ofKeyword? hfound
  have hspelled := ofSpelling?_of_ofKeyword? hfound
  cases tree with
  | primitive type spelling =>
    obtain rfl := HostType.named.inj hname
    rw [String.ofList_toList] at hkeyword hspelled
    obtain rfl :=
      Option.some.inj ((ofSpelling?_of_mem htree).symm.trans hspelled)
    exact hbare hkeyword
  | library type spelling =>
    obtain rfl := HostType.named.inj hname
    rw [String.ofList_toList, ofSpelling?_libraryName htree] at hspelled
    cases hspelled
  | custom package? simpleName arguments =>
    rw [hostType] at hname
    split at hname
    · obtain rfl := HostType.named.inj hname
      rw [String.ofList_toList, ofSpelling?_unknown htree.2.2.1] at hspelled
      cases hspelled
    · exact HostType.noConfusion hname
  | _ => exact HostType.noConfusion hname

mutual

/-- The type of a well formed tree can be written. -/
theorem isWritable_hostType : {tree : TypeTree} → (htree : tree.WellFormed) →
    tree.hostType.IsWritable
  | .primitive .., htree => isTypeName_of_mem_spellings htree
  | .library .., htree => isTypeName_of_mem_names htree
  | .primitiveArray .., _ => trivial
  | .array .., htree =>
    ⟨isWritable_hostType htree.1, fun _ =>
      ofKeyword?_of_hostType_eq htree.1 htree.2⟩
  | .enumeration .., htree | .comparable .., htree =>
    ⟨isTypeName_of_hasName htree.1, isWritable_hostType htree.2, trivial⟩
  | .collection .., ⟨⟨_, hname⟩, helement⟩ =>
    ⟨isTypeName_of_hasName hname, isWritable_hostType helement, trivial⟩
  | .map .., ⟨⟨_, hname⟩, hkey, hvalue⟩ =>
    ⟨isTypeName_of_hasName hname, isWritable_hostType hkey,
      isWritable_hostType hvalue, trivial⟩
  | .custom _ _ arguments _, htree => by
    rw [hostType]
    split
    · exact htree.1
    · exact ⟨htree.1, allWritable_hostTypes htree.2.2.2⟩

/-- The types of well formed trees can be written. -/
theorem allWritable_hostTypes :
    {trees : List TypeTree} → (htrees : AllWellFormed trees) →
      HostType.AllWritable (hostTypes trees)
  | [], _ => trivial
  | _ :: _, htrees =>
    ⟨isWritable_hostType htrees.1, allWritable_hostTypes htrees.2⟩

end

end HostShape

section Classifying

/-- A type takes its own slot and those of the types inside it, and leaves the
rest to the types after it. -/
theorem classifyAll_cons {type : HostType} {types : List HostType}
    {own rest : List Bool} {nullable : Bool} {kind : Kind} {kinds : List Kind}
    (hcount : type.nestedCount = own.length)
    (htype : type.classify (.nested nullable) (own ++ rest) = .ok kind)
    (htypes : HostType.classifyAll rest types = .ok kinds) :
    HostType.classifyAll (nullable :: (own ++ rest)) (type :: types)
      = .ok (kind :: kinds) := by
  have hdrop : (nullable :: (own ++ rest)).drop (type.nestedCount + 1)
      = rest := by simp [hcount]
  simp only [HostType.classifyAll, firstSlot, List.headD_cons, List.tail_cons,
    htype, hdrop, htypes]
  rfl

/-- A single argument is classified by the slot for it and those behind it. -/
theorem classifyAll_singleton {type : HostType} {own rest : List Bool}
    {nullable : Bool} {kind : Kind} (hcount : type.nestedCount = own.length)
    (htype : type.classify (.nested nullable) (own ++ rest) = .ok kind) :
    HostType.classifyAll (nullable :: (own ++ rest)) [type] = .ok [kind] :=
  classifyAll_cons hcount htype (by rw [HostType.classifyAll])

/-- A generic type is classified once its arguments are. -/
theorem classify_applied {flags : TypeFlags} {slots : List Bool}
    {outer : List Char} {arguments : List HostType} {kinds : List Kind}
    (hall : HostType.classifyAll slots arguments = .ok kinds) :
    (HostType.applied outer arguments).classify flags slots
      = Kind.ofGeneric flags outer kinds := by
  rw [HostType.classify, hall]
  rfl

/-- The name of a custom type is read at its last dot. -/
theorem ofTrimmed_customText {package? : Option String} {simpleName : String}
    (hsimple : '.' ∉ simpleName.toList) :
    QualifiedName.ofTrimmed (customText package? simpleName).toList
      = ⟨package?.getD "", simpleName⟩ := by
  cases package? with
  | none =>
    simp [QualifiedName.ofTrimmed, customText, Text.cutAtLast_eq_none hsimple]
  | some package =>
    have htext : (customText (some package) simpleName).toList
        = package.toList ++ '.' :: simpleName.toList := by
      simp [customText]
    simp [QualifiedName.ofTrimmed, htext, Text.cutAtLast_append hsimple]

/-- A name without an angle bracket is read as a whole. -/
theorem customName_of_not_mem {name : List Char} (habsent : '<' ∉ name) :
    Kind.customName name = QualifiedName.ofTrimmed name := by
  have hplain : ∀ c ∈ name, (c != '<') = true :=
    fun c hc => by simpa using ne_of_mem_of_not_mem hc habsent
  have htake : name.takeWhile (· != '<') = name := by
    simpa [List.takeWhile_eq_self_iff] using hplain
  have hdrop : name.dropWhile (· != '<') = [] := by
    simpa [List.dropWhile_eq_nil_iff] using hplain
  rw [Kind.customName, htake, hdrop, QualifiedName.ofTrimmed]
  cases Text.cutAtLast '.' name <;> simp

/-- The name of a type has no arguments to leave aside, so it is the custom name
as a whole. -/
theorem customName_of_isTypeName {name : List Char} (hname : IsTypeName name) :
    Kind.customName name = QualifiedName.ofTrimmed name := by
  refine customName_of_not_mem fun hangle => ?_
  simpa [Text.Mark.ofChar?] using (hname.2 _ hangle).2.1

/-- A generic type of a container's name is the container, if the arguments
fit. -/
theorem ofGeneric_of_hasName {container : Container} {name : String}
    {flags : TypeFlags} {arguments : List Kind} {kind : Kind}
    (hname : container.HasName name)
    (hkind : container.kind? flags arguments = some kind) :
    Kind.ofGeneric flags name.toList arguments = .ok kind := by
  simp [Kind.ofGeneric, ofName?_of_hasName hname, hkind]

/-- An array of a primitive type has the kind of its tree. -/
theorem ofPrimitiveArray_of_array? {element : Primitive} {type : PrimitiveArray}
    (htype : element.array? = some type)
    (isMutable isUnsigned nullable : Bool) :
    Kind.ofPrimitiveArray ⟨nullable, isMutable, isUnsigned⟩ element =
      (primitiveArray element type nullable).kind isMutable isUnsigned := by
  cases isUnsigned <;> cases hform : element.unsigned? <;>
    simp [Kind.ofPrimitiveArray, Kind.unsignedForm?, kind, htype, hform]

/-- A primitive type has the kind of its tree. -/
theorem ofPrimitive_eq (type : Primitive) (spelling : String)
    (isMutable isUnsigned nullable : Bool) :
    Kind.ofPrimitive ⟨nullable, isMutable, isUnsigned⟩ type =
      (primitive type spelling nullable).kind isMutable isUnsigned := by
  cases isUnsigned <;> cases hform : type.unsigned? <;>
    simp [Kind.ofPrimitive, Kind.unsignedForm?, kind, hform]

mutual

/-- A type is classified with the slots in front, whatever slots stand behind
them. -/
theorem classify_hostType : {tree : TypeTree} → (htree : tree.WellFormed) →
    (isMutable isUnsigned : Bool) → (rest : List Bool) →
      tree.hostType.classify ⟨tree.nullable, isMutable, isUnsigned⟩
          (tree.nestedSlots ++ rest)
        = .ok (tree.kind isMutable isUnsigned)
  | .primitive type spelling nullable, htree, isMutable, isUnsigned, rest => by
    simp only [hostType, HostType.classify, Kind.ofName, String.ofList_toList,
      ofSpelling?_of_mem htree]
    rw [TypeTree.nullable, ofPrimitive_eq type spelling]
  | .library type spelling nullable, htree, isMutable, isUnsigned, rest => by
    simp only [hostType, HostType.classify, Kind.ofName, String.ofList_toList,
      ofSpelling?_libraryName htree, ofLibraryName?_of_mem htree]
    rfl
  | .primitiveArray element type nullable, htree, isMutable,
      isUnsigned, rest => by
    rw [hostType, HostType.classify, TypeTree.nullable,
      ofPrimitiveArray_of_array? htree]
  | .array element nullable, htree, isMutable, isUnsigned, rest => by
    have helement := classify_hostType htree.1 false false rest
    simp only [hostType, HostType.classify, nestedSlots, List.cons_append,
      firstSlot, List.headD_cons, List.tail_cons]
    rw [TypeFlags.nested, helement]
    rfl
  | .enumeration _ element _, htree, isMutable, isUnsigned, rest
  | .comparable _ element _, htree, isMutable, isUnsigned, rest => by
    have helement := classify_hostType htree.2 false false rest
    have hall := classifyAll_singleton (nestedCount_hostType element) helement
    exact (classify_applied hall).trans (ofGeneric_of_hasName htree.1 rfl)
  | .collection family spelling element nullable, htree, isMutable,
      isUnsigned, rest => by
    obtain ⟨⟨always, hname⟩, hwellFormed⟩ := htree
    have helement := classify_hostType hwellFormed false false rest
    have hall := classifyAll_singleton (nestedCount_hostType element) helement
    rw [kind, ← isAlwaysMutable_of_hasName hname]
    exact (classify_applied hall).trans (ofGeneric_of_hasName hname rfl)
  | .map family spelling key value nullable, htree, isMutable,
      isUnsigned, rest => by
    obtain ⟨⟨always, hname⟩, hwellFormed, hwellFormed'⟩ := htree
    have hvalue := classify_hostType hwellFormed' false false rest
    have hrest := classifyAll_singleton (nestedCount_hostType value) hvalue
    -- The key leaves the slots of the value, and what stands behind them.
    have hkey := classify_hostType hwellFormed false false
      (value.nullable :: (value.nestedSlots ++ rest))
    have hall := classifyAll_cons (nestedCount_hostType key) hkey hrest
    rw [kind, ← isAlwaysMutable_of_hasName hname, nestedSlots, List.cons_append,
      List.append_assoc]
    exact (classify_applied hall).trans (ofGeneric_of_hasName hname rfl)
  | .custom package? simpleName arguments nullable, htree, isMutable,
      isUnsigned, rest => by
    obtain ⟨hname, hsimple, hunknown, harguments⟩ := htree
    have hall := classifyAll_hostTypes harguments rest
    rw [hostType, kind, nestedSlots]
    split
    · next hempty =>
      obtain rfl := List.isEmpty_iff.1 hempty
      simp only [HostType.classify, Kind.ofName, String.ofList_toList,
        ofSpelling?_unknown hunknown, ofLibraryName?_unknown hunknown,
        customName_of_isTypeName hname, ofTrimmed_customText hsimple]
      rfl
    · rw [classify_applied hall, Kind.ofGeneric, String.ofList_toList,
        ofName?_unknown hunknown, QualifiedName.ofText,
        hname.isTypeText.trimmed, ofTrimmed_customText hsimple]
      rfl

/-- Several well formed trees are classified as their kinds, and the slots
behind theirs are left over. -/
theorem classifyAll_hostTypes : {trees : List TypeTree} →
    (htrees : AllWellFormed trees) → (rest : List Bool) →
      HostType.classifyAll (slots trees ++ rest) (hostTypes trees)
        = .ok (kinds trees)
  | [], _, _ => rfl
  | tree :: trees, htrees, rest => by
    have htree := classify_hostType htrees.1 false false (slots trees ++ rest)
    have hrest := classifyAll_hostTypes htrees.2 rest
    simpa [slots, hostTypes, kinds]
      using classifyAll_cons (nestedCount_hostType tree) htree hrest

end

end Classifying

/-- **Classification finds the kind of every type**, at every node: the text
gives the type back, and each type inside it takes the slot that was meant for
it.  What is asked of the whole type reaches no type inside it. -/
theorem classify_text_of_typeTree {tree : TypeTree} {text : List Char}
    (htree : tree.WellFormed) (htext : HostType.WrittenAs tree.hostType text)
    (isMutable isUnsigned : Bool) :
    classify ⟨tree.nullable, isMutable, isUnsigned⟩ tree.nestedSlots
      (String.ofList text) = .ok (tree.kind isMutable isUnsigned) := by
  have hread := HostType.ofText_of_writtenAs (isWritable_hostType htree) htext
  have hclassified := classify_hostType htree isMutable isUnsigned []
  rw [classify, String.toList_ofList, hread]
  simpa using hclassified

/-- A map from optional names to mutable lists of optional arrays. -/
def nestedTree : TypeTree :=
  .map .map "java.util.Map" (.primitive .string "java.lang.String" true)
    (.collection .list "kotlin.collections.MutableList"
      (.primitiveArray .int .intArray true) false) false

/-- The map of the example, written with blanks, has the kind of its tree. -/
theorem classify_text_of_typeTree_map :
    nestedTree.WellFormed ∧
      classify ⟨false, false, true⟩ [true, false, true]
          "java.util.Map <java.lang.String , kotlin.collections.MutableList< int []>>" =
        .ok (.map .map false (.primitive .string true)
          (.collection .list true (.primitiveArray .intArray true) false)
          false) := by
  have htree : nestedTree.WellFormed :=
    ⟨⟨_, _, List.mem_of_getElem? (i := 10) rfl, List.mem_cons_self⟩,
      by simp [WellFormed, Primitive.spellings, Primitive.box],
      ⟨_, _, List.mem_of_getElem? (i := 7) rfl, List.mem_cons_self⟩, rfl⟩
  have hnone : Text.AllBlank [] := Text.allBlank_nil
  have hspace : Text.AllBlank [' '] := Text.allBlank_space
  have harray :
      HostType.WrittenAs (.primitiveArray .int)
        ("int".toList ++ [' '] ++ arraySuffix) :=
    .primitiveArray rfl hspace
  have hlist :
      HostType.WrittenAs (.applied "kotlin.collections.MutableList".toList
        [.primitiveArray .int]) _ :=
    .applied (.cons harray .nil) (.single _) hnone hspace hnone
  have hmap : HostType.WrittenAs nestedTree.hostType _ :=
    .applied (.cons (.named _) (.cons hlist .nil))
      (.cons hspace hspace (.single _)) hspace hnone hnone
  exact ⟨htree, classify_text_of_typeTree htree hmap false true⟩

end TypeTree

end KotlinBuilders
