import KotlinBuilders.Proofs.FieldConversion
import KotlinBuilders.Proofs.NestedKinds

/-!
# Where the slots go

Every type inside another one takes one slot, and nothing else does: not the
outermost type, not the element of an array of primitives, and not a text that
was kept as it is because its brackets do not balance.  `slotPlaces` lists the
places of the types that take one, in the order of their slots.

A place is an address in the kind, the positions of the parts to go to one after
the other.  Addresses are compared like words, the one that ends first being the
smaller one; this is the order in which a walk meets the parts that goes into
depth first and looks at a type before it looks inside.

The main statement is `slots_reach_places`: the places of the slots stand in
that order, slots behind them are not read, and changing one slot changes
nothing but the mark for `null` at its own place.
-/

namespace KotlinBuilders

/-- The nullability that a slot says.  A missing one says non-null. -/
def slotAt (slots : List Bool) (index : Nat) : Bool := slots.getD index false

@[simp] theorem firstSlot_eq (slots : List Bool) :
    firstSlot slots = slotAt slots 0 := by
  cases slots <;> rfl

@[simp] theorem slotAt_tail (slots : List Bool) (index : Nat) :
    slotAt slots.tail index = slotAt slots (index + 1) := by
  cases slots <;> rfl

@[simp] theorem slotAt_drop (slots : List Bool) (count index : Nat) :
    slotAt (slots.drop count) index = slotAt slots (count + index) := by
  simp [slotAt, List.getD_eq_getElem?_getD]

namespace Kind

/-- The kind at an address. -/
def part? : Kind → List Nat → Option Kind
  | kind, [] => some kind
  | kind, place :: address => kind.parts[place]?.bind (part? · address)

/-- The kind with other parts, as many as it has. -/
def withParts : Kind → List Kind → Kind
  | .array _ nullable, [element] => .array element nullable
  | .collection family isMutable _ nullable, [element] =>
    .collection family isMutable element nullable
  | .map family isMutable _ _ nullable, [key, value] =>
    .map family isMutable key value nullable
  | .comparable _ nullable, [element] => .comparable element nullable
  | .enumeration _ nullable, [element] => .enumeration element nullable
  | .custom name _ nullable, arguments => .custom name arguments nullable
  | kind, _ => kind

/-- The kind with another mark for `null`, if it has one. -/
def withMark (mark : Bool) : Kind → Kind
  | .primitive type _ => .primitive type mark
  | .unsigned type _ => .unsigned type mark
  | .primitiveArray type _ => .primitiveArray type mark
  | .array element _ => .array element mark
  | .wellKnown type _ => .wellKnown type mark
  | .collection family isMutable element _ =>
    .collection family isMutable element mark
  | .map family isMutable key value _ => .map family isMutable key value mark
  | .comparable element _ => .comparable element mark
  | .enumeration element _ => .enumeration element mark
  | .custom name arguments _ => .custom name arguments mark
  | .aliased target literal? _ => .aliased target literal? mark
  | .unit => .unit
  | .nothing => .nothing
  | .any _ => .any mark

/-- The kind with another mark for `null` at an address. -/
def withMarkAt (mark : Bool) : List Nat → Kind → Kind
  | [], kind => kind.withMark mark
  | place :: address, kind =>
    kind.withParts (kind.parts.modify place (withMarkAt mark address))

/-- Inside another type, the flag of a type is its mark. -/
theorem readWith_nested (kind : Kind) (mark mark' : Bool) :
    kind.readWith (.nested mark')
      = (kind.readWith (.nested mark)).withMark
        (kind.readWith (.nested mark')).nullable := by
  cases kind <;> simp [readWith, TypeFlags.nested, ofPrimitive, unsignedForm?,
    withMark, nullable]

/-- A kind with a mark for `null`, or one that leaves no choice: two types never
admit `null`, and a wildcard always does. -/
def Shows (mark : Bool) (kind : Kind) : Prop :=
  kind.nullable = mark ∨ kind = .unit ∨ kind = .nothing ∨ kind = .any true

/-- A kind that is read with the flags of a nested type shows its mark. -/
theorem shows_readWith_nested (kind : Kind) (mark : Bool) :
    (kind.readWith (.nested mark)).Shows mark := by
  cases kind with
  | any always =>
    cases always <;> simp [Shows, readWith, TypeFlags.nested, nullable]
  | _ =>
    simp [Shows, readWith, TypeFlags.nested, ofPrimitive,
      unsignedForm?, nullable]

section Generic

variable {flags : TypeFlags} {outer : List Char}
  {arguments arguments' : List Kind}

/-- The parts of a container are its arguments. -/
theorem parts_of_kind? {container : Container} {kind : Kind}
    (hkind : container.kind? flags arguments = some kind) :
    kind.parts = arguments := by
  unfold Container.kind? at hkind
  split at hkind <;> cases hkind <;> rfl

/-- The parts of a generic type are its arguments. -/
theorem parts_of_ofGeneric {kind : Kind}
    (hkind : ofGeneric flags outer arguments = .ok kind) :
    kind.parts = arguments := by
  unfold ofGeneric at hkind
  split at hkind
  · split at hkind
    · next found hfound =>
      obtain rfl := Except.ok.inj hkind
      exact parts_of_kind? hfound
    · cases hkind
  · obtain rfl := Except.ok.inj hkind
    rfl

/-- A container of other arguments is the one with its parts exchanged. -/
theorem kind?_eq_map_withParts (container : Container)
    (hlength : arguments'.length = arguments.length) :
    container.kind? flags arguments'
      = (container.kind? flags arguments).map (withParts · arguments') :=
  match arguments, arguments', hlength with
  | [], [], _ | [_], [_], _ | [_, _], [_, _], _ => by cases container <;> rfl
  | _ :: _ :: _ :: _, _ :: _ :: _ :: _, _ => by cases container <;> rfl

/-- A generic type of other arguments, as many, is the same type with other
parts. -/
theorem ofGeneric_eq_map_withParts
    (hlength : arguments'.length = arguments.length) :
    ofGeneric flags outer arguments' = (withParts · arguments')
      <$> ofGeneric flags outer arguments := by
  unfold ofGeneric
  cases Container.ofName? (String.ofList outer) with
  | none => rfl
  | some container =>
    simp only [kind?_eq_map_withParts container hlength, hlength]
    cases container.kind? flags arguments <;> rfl

end Generic

end Kind

namespace HostType

mutual

/-- The places of the types inside a type that take a slot, in the order of
their slots. -/
def slotPlaces : HostType → List (List Nat)
  | .arrayOf element => [0] :: (slotPlaces element).map (0 :: ·)
  | .applied _ arguments => (slotPlacesAll arguments).map fun place =>
      place.1 :: place.2
  | _ => []

/-- The places among several types: which of them, and the address in it. -/
def slotPlacesAll : List HostType → List (Nat × List Nat)
  | [] => []
  | type :: types =>
    (0, []) :: (slotPlaces type).map (0, ·)
      ++ (slotPlacesAll types).map fun place => (place.1 + 1, place.2)

end

mutual

/-- There is a place for each nested type. -/
theorem length_slotPlaces :
    (type : HostType) → type.slotPlaces.length = type.nestedCount
  | .arrayOf element => by
    rw [slotPlaces, List.length_cons, List.length_map,
      length_slotPlaces element, nestedCount]
  | .applied _ arguments => by
    rw [slotPlaces, List.length_map,
      length_slotPlacesAll arguments, nestedCount]
  | .blank | .wildcard | .named _ | .primitiveArray _ | .brokenGeneric ..
      | .brokenName _ => rfl

/-- There is a place for each type of a list and for those inside it. -/
theorem length_slotPlacesAll : (types : List HostType) →
    (slotPlacesAll types).length = nestedCountAll types
  | [] => rfl
  | type :: types => by
    simp only [slotPlacesAll, List.length_append, List.length_cons,
      List.length_map, length_slotPlaces type, length_slotPlacesAll types,
      nestedCountAll]

end

/-- One place comes before another: it lies in an earlier type, or in the same
one at a smaller address. -/
def PlaceLt (place later : Nat × List Nat) : Prop :=
  place.1 < later.1 ∨ place.1 = later.1 ∧ place.2 < later.2

/-- No place is the type itself. -/
theorem ne_nil_of_mem_slotPlaces {type : HostType} {place : List Nat}
    (hplace : place ∈ type.slotPlaces) :
    place ≠ [] := by
  intro hnil
  cases type <;> simp [slotPlaces, hnil] at hplace

/-- What lies inside comes after the type itself. -/
theorem nil_lt_of_mem_slotPlaces {type : HostType} {place : List Nat}
    (hplace : place ∈ type.slotPlaces) :
    [] < place := by
  obtain ⟨first, rest, rfl⟩ :=
    List.exists_cons_of_ne_nil (ne_nil_of_mem_slotPlaces hplace)
  exact List.nil_lt_cons first rest

mutual

/-- The places inside a type are in ascending order. -/
theorem pairwise_slotPlaces :
    (type : HostType) → type.slotPlaces.Pairwise (· < ·)
  | .arrayOf element => by
    rw [slotPlaces, List.pairwise_cons, List.pairwise_map]
    constructor
    · intro place hplace
      obtain ⟨address, haddress, rfl⟩ := List.mem_map.1 hplace
      exact List.cons_lt_cons_iff.2
        (.inr ⟨rfl, nil_lt_of_mem_slotPlaces haddress⟩)
    · exact (pairwise_slotPlaces element).imp fun hlt =>
        List.cons_lt_cons_iff.2 (.inr ⟨rfl, hlt⟩)
  | .applied _ arguments => by
    rw [slotPlaces, List.pairwise_map]
    exact (pairwise_slotPlacesAll arguments).imp fun hlt =>
      List.cons_lt_cons_iff.2 hlt
  | .blank | .wildcard | .named _ | .primitiveArray _ | .brokenGeneric ..
      | .brokenName _ => List.Pairwise.nil

/-- The places among several types are in ascending order. -/
theorem pairwise_slotPlacesAll : (types : List HostType) →
    (slotPlacesAll types).Pairwise PlaceLt
  | [] => List.Pairwise.nil
  | type :: types => by
    rw [slotPlacesAll, List.cons_append, List.pairwise_cons,
      List.pairwise_append, List.pairwise_map, List.pairwise_map]
    refine ⟨?_, ?_, ?_, ?_⟩
    · intro place hplace
      rcases List.mem_append.1 hplace with hplace | hplace
      · obtain ⟨address, haddress, rfl⟩ := List.mem_map.1 hplace
        exact .inr ⟨rfl, nil_lt_of_mem_slotPlaces haddress⟩
      · obtain ⟨later, -, rfl⟩ := List.mem_map.1 hplace
        exact .inl (Nat.succ_pos later.1)
    · exact (pairwise_slotPlaces type).imp fun hlt => .inr ⟨rfl, hlt⟩
    · exact (pairwise_slotPlacesAll types).imp fun hlt =>
        hlt.imp Nat.succ_lt_succ (And.imp_left (congrArg Nat.succ))
    · intro place hplace later hlater
      obtain ⟨address, -, rfl⟩ := List.mem_map.1 hplace
      obtain ⟨other, -, rfl⟩ := List.mem_map.1 hlater
      exact .inl (Nat.succ_pos other.1)

end

/-- A slot of several types is the first one's own, or that of a type inside it,
or it comes after all of these. -/
theorem slotPlacesAll_cons_cases {type : HostType} {types : List HostType}
    {index : Nat} {place : Nat × List Nat}
    (hplace : (slotPlacesAll (type :: types))[index]? = some place) :
    (index = 0 ∧ place = (0, []))
      ∨ (∃ inside address, index = inside + 1 ∧ inside < type.nestedCount
          ∧ type.slotPlaces[inside]? = some address ∧ place = (0, address))
      ∨ ∃ later other, index = type.nestedCount + 1 + later
        ∧ (slotPlacesAll types)[later]? = some other
        ∧ place = (other.1 + 1, other.2) := by
  have hcount : ((slotPlaces type).map ((0 : Nat), ·)).length
      = type.nestedCount := by
    rw [List.length_map, length_slotPlaces]
  rw [slotPlacesAll, List.cons_append] at hplace
  cases index with
  | zero => exact .inl ⟨rfl, (Option.some.inj hplace).symm⟩
  | succ inside =>
    rw [List.getElem?_cons_succ] at hplace
    by_cases hinside : inside < type.nestedCount
    · rw [List.getElem?_append_left (hcount ▸ hinside), List.getElem?_map,
        Option.map_eq_some_iff] at hplace
      obtain ⟨address, haddress, rfl⟩ := hplace
      exact .inr (.inl ⟨inside, address, rfl, hinside, haddress, rfl⟩)
    · have hle : type.nestedCount ≤ inside := Nat.le_of_not_lt hinside
      rw [List.getElem?_append_right (hcount ▸ hle), hcount, List.getElem?_map,
        Option.map_eq_some_iff] at hplace
      obtain ⟨other, hother, rfl⟩ := hplace
      exact .inr
        (.inr ⟨inside - type.nestedCount, other, by omega, hother, rfl⟩)

/-! ## What a type reads -/

mutual

/-- **A type reads no slot behind its own.** -/
theorem classify_congr_slots {slots slots' : List Bool} (flags : TypeFlags) :
    (type : HostType) →
      (hsame : ∀ index < type.nestedCount,
        slotAt slots index = slotAt slots' index) →
      type.classify flags slots = type.classify flags slots'
  | .arrayOf element, hsame => by
    have hfirst := hsame 0 (by simp [nestedCount])
    have hrest : ∀ index < element.nestedCount, slotAt slots.tail index
        = slotAt slots'.tail index := by
      intro index hindex
      simpa using hsame (index + 1) (by simpa [nestedCount] using hindex)
    simp only [classify, firstSlot_eq, hfirst,
      classify_congr_slots (.nested (slotAt slots' 0)) element hrest]
  | .applied outer arguments, hsame => by
    rw [classify, classify, classifyAll_congr_slots arguments hsame]
  | .blank, _ | .wildcard, _ | .named _, _ | .primitiveArray _, _
      | .brokenGeneric .., _ | .brokenName _, _ => by
    simp only [classify]

/-- Types are classified alike by slots that say the same of each of them. -/
theorem classifyAll_congr_slots {slots slots' : List Bool} :
    (types : List HostType) → (hsame : ∀ index < nestedCountAll types,
      slotAt slots index = slotAt slots' index) →
      classifyAll slots types = classifyAll slots' types
  | [], _ => rfl
  | type :: types, hsame => by
    simp only [nestedCountAll] at hsame
    have hfirst := hsame 0 (by omega)
    have hinside : ∀ index < type.nestedCount, slotAt slots.tail index
        = slotAt slots'.tail index := by
      intro index hindex
      simpa using hsame (index + 1) (by omega)
    have hrest : ∀ index < nestedCountAll types,
        slotAt (slots.drop (type.nestedCount + 1)) index
          = slotAt (slots'.drop (type.nestedCount + 1)) index := by
      intro index hindex
      simpa using hsame (type.nestedCount + 1 + index) (by omega)
    simp only [classifyAll, firstSlot_eq, hfirst,
      classify_congr_slots (.nested (slotAt slots' 0)) type hinside,
      classifyAll_congr_slots types hrest]

end

/-! ## What a slot changes -/

/-- The slot of a type decides its mark. -/
theorem exists_mark_classify_nested {slots slots' : List Bool} (type : HostType)
    (hsame : ∀ other ≠ 0, slotAt slots other = slotAt slots' other) :
    ∃ mark, type.classify (.nested (slotAt slots' 0)) slots'.tail
      = Kind.withMarkAt mark []
        <$> type.classify (.nested (slotAt slots 0)) slots.tail := by
  have hinside : type.classify {} slots.tail = type.classify {} slots'.tail :=
    classify_congr_slots {} type fun index _ =>
      by simpa using hsame (index + 1) (Nat.succ_ne_zero index)
  rw [classify_eq_map_readWith,
    classify_eq_map_readWith (.nested (slotAt slots 0)), hinside]
  cases type.classify {} slots'.tail with
  | error mismatch => exact ⟨false, rfl⟩
  | ok kind =>
    exact ⟨_, congrArg Except.ok
      (kind.readWith_nested (slotAt slots 0) (slotAt slots' 0))⟩

/-- A change of the element is a change of the array. -/
theorem classify_arrayOf_change {flags : TypeFlags} {element : HostType}
    {slots slots' : List Bool} {mark : Bool} {address : List Nat}
    (helement : element.classify (.nested (slotAt slots' 0)) slots'.tail
      = Kind.withMarkAt mark address
        <$> element.classify (.nested (slotAt slots 0)) slots.tail) :
    (HostType.arrayOf element).classify flags slots'
      = Kind.withMarkAt mark (0 :: address)
        <$> (HostType.arrayOf element).classify flags slots := by
  rw [classify, classify, firstSlot_eq, firstSlot_eq, helement]
  cases element.classify (.nested (slotAt slots 0)) slots.tail <;> rfl

/-- A change of one argument is a change of the generic type. -/
theorem classify_applied_change {flags : TypeFlags} {outer : List Char}
    {arguments : List HostType} {slots slots' : List Bool} {place : Nat}
    {mark : Bool} {address : List Nat}
    (harguments : classifyAll slots' arguments
      = (List.modify · place (Kind.withMarkAt mark address))
        <$> classifyAll slots arguments) :
    (HostType.applied outer arguments).classify flags slots'
      = Kind.withMarkAt mark (place :: address)
        <$> (HostType.applied outer arguments).classify flags slots := by
  rw [classify, classify, harguments]
  cases classifyAll slots arguments with
  | error mismatch => rfl
  | ok kinds =>
    have hlength : (kinds.modify place (Kind.withMarkAt mark address)).length
        = kinds.length := by simp
    refine (Kind.ofGeneric_eq_map_withParts hlength).trans ?_
    show _ = Kind.withMarkAt mark (place :: address)
      <$> Kind.ofGeneric flags outer kinds
    cases hkind : Kind.ofGeneric flags outer kinds with
    | error mismatch => rfl
    | ok kind =>
      have hparts := Kind.parts_of_ofGeneric hkind
      exact congrArg Except.ok (by rw [Kind.withMarkAt, hparts])

section Several

variable {type : HostType} {types : List HostType} {slots slots' : List Bool}
  {change : Kind → Kind}

/-- A change of the first type leaves those after it alone. -/
theorem classifyAll_change_first
    (htype : type.classify (.nested (slotAt slots' 0)) slots'.tail
      = change <$> type.classify (.nested (slotAt slots 0)) slots.tail)
    (htypes : classifyAll (slots'.drop (type.nestedCount + 1)) types
      = classifyAll (slots.drop (type.nestedCount + 1)) types) :
    classifyAll slots' (type :: types) = (List.modify · 0 change)
      <$> classifyAll slots (type :: types) := by
  rw [classifyAll, classifyAll, firstSlot_eq, firstSlot_eq, htype, htypes]
  cases type.classify (.nested (slotAt slots 0)) slots.tail with
  | error mismatch => rfl
  | ok kind =>
    cases classifyAll (slots.drop (type.nestedCount + 1)) types <;> rfl

/-- A change of a type further on leaves the first one alone. -/
theorem classifyAll_change_later {position : Nat}
    (htype : type.classify (.nested (slotAt slots' 0)) slots'.tail
      = type.classify (.nested (slotAt slots 0)) slots.tail)
    (htypes : classifyAll (slots'.drop (type.nestedCount + 1)) types
      = (List.modify · position change)
        <$> classifyAll (slots.drop (type.nestedCount + 1)) types) :
    classifyAll slots' (type :: types)
      = (List.modify · (position + 1) change)
        <$> classifyAll slots (type :: types) := by
  rw [classifyAll, classifyAll, firstSlot_eq, firstSlot_eq, htype, htypes]
  cases type.classify (.nested (slotAt slots 0)) slots.tail with
  | error mismatch => rfl
  | ok kind =>
    cases classifyAll (slots.drop (type.nestedCount + 1)) types <;> rfl

end Several

mutual

/-- **A slot changes a mark, and only at its place.** -/
theorem exists_mark_classify {slots slots' : List Bool} {index : Nat}
    (hsame : ∀ other ≠ index, slotAt slots other = slotAt slots' other)
    (flags : TypeFlags) : (type : HostType) →
      {place : List Nat} → (hplace : type.slotPlaces[index]? = some place) →
        ∃ mark, type.classify flags slots' = Kind.withMarkAt mark place
        <$> type.classify flags slots
  | .arrayOf element, place, hplace => by
    rw [slotPlaces] at hplace
    cases index with
    | zero =>
      obtain rfl := Option.some.inj hplace
      obtain ⟨mark, hmark⟩ := exists_mark_classify_nested element hsame
      exact ⟨mark, classify_arrayOf_change hmark⟩
    | succ index =>
      rw [List.getElem?_cons_succ, List.getElem?_map,
        Option.map_eq_some_iff] at hplace
      obtain ⟨address, haddress, rfl⟩ := hplace
      have hfirst := hsame 0 (Nat.succ_ne_zero index).symm
      have hrest : ∀ other ≠ index, slotAt slots.tail other
          = slotAt slots'.tail other := by
        intro other hother
        simpa using hsame (other + 1) (by omega)
      obtain ⟨mark, hmark⟩ :=
        exists_mark_classify hrest (.nested (slotAt slots 0)) element haddress
      exact ⟨mark, classify_arrayOf_change (by rw [← hfirst]; exact hmark)⟩
  | .applied outer arguments, place, hplace => by
    rw [slotPlaces, List.getElem?_map, Option.map_eq_some_iff] at hplace
    obtain ⟨⟨position, address⟩, hplace, rfl⟩ := hplace
    obtain ⟨mark, hmark⟩ := exists_mark_classifyAll hsame arguments hplace
    exact ⟨mark, classify_applied_change hmark⟩
  | .blank, _, hplace | .wildcard, _, hplace | .named _, _, hplace
      | .primitiveArray _, _, hplace
  | .brokenGeneric .., _, hplace | .brokenName _, _, hplace =>
    by simp [slotPlaces] at hplace

/-- Where slots differ at one index, the kinds of several types differ in the
mark at its place. -/
theorem exists_mark_classifyAll {slots slots' : List Bool} {index : Nat}
    (hsame : ∀ other ≠ index, slotAt slots other = slotAt slots' other) :
    (types : List HostType) → {place : Nat × List Nat} →
      (hplace : (slotPlacesAll types)[index]? = some place) →
        ∃ mark, classifyAll slots' types
          = (List.modify · place.1 (Kind.withMarkAt mark place.2))
            <$> classifyAll slots types
  | [], _, hplace => by simp [slotPlacesAll] at hplace
  | type :: types, place, hplace => by
    rcases slotPlacesAll_cons_cases hplace with
      ⟨rfl, rfl⟩ | ⟨inside, address, rfl, hlt, haddress, rfl⟩
      | ⟨later, other, rfl, hother, rfl⟩
    · obtain ⟨mark, hmark⟩ := exists_mark_classify_nested type hsame
      refine ⟨mark, classifyAll_change_first hmark
        (classifyAll_congr_slots types fun slot _ => ?_).symm⟩
      simpa using hsame (type.nestedCount + 1 + slot) (by omega)
    · have hfirst := hsame 0 (Nat.succ_ne_zero inside).symm
      have hrest : ∀ slot ≠ inside, slotAt slots.tail slot
          = slotAt slots'.tail slot := by
        intro slot hslot
        simpa using hsame (slot + 1) (by omega)
      obtain ⟨mark, hmark⟩ :=
        exists_mark_classify hrest (.nested (slotAt slots 0)) type haddress
      refine ⟨mark, classifyAll_change_first (by rw [← hfirst]; exact hmark)
        (classifyAll_congr_slots types fun slot _ => ?_).symm⟩
      simpa using hsame (type.nestedCount + 1 + slot) (by omega)
    · have hfirst := hsame 0 (by omega)
      have htype : type.classify (.nested (slotAt slots' 0)) slots'.tail
          = type.classify (.nested (slotAt slots 0)) slots.tail := by
        rw [← hfirst]
        refine (classify_congr_slots _ type fun slot hslot => ?_).symm
        simpa using hsame (slot + 1) (by omega)
      have hrest : ∀ slot ≠ later,
          slotAt (slots.drop (type.nestedCount + 1)) slot
            = slotAt (slots'.drop (type.nestedCount + 1)) slot := by
        intro slot hslot
        simpa using hsame (type.nestedCount + 1 + slot) (by omega)
      obtain ⟨mark, hmark⟩ := exists_mark_classifyAll hrest types hother
      exact ⟨mark, classifyAll_change_later htype hmark⟩

end

/-! ## What a slot says -/

/-- A nested type shows its mark. -/
theorem shows_of_classify_nested {type : HostType} {mark : Bool}
    {slots : List Bool} {kind : Kind}
    (hkind : type.classify (.nested mark) slots = .ok kind) :
    kind.Shows mark := by
  rw [classify_eq_map_readWith] at hkind
  cases hplain : type.classify {} slots with
  | error mismatch =>
    rw [hplain] at hkind
    cases hkind
  | ok plain =>
    rw [hplain] at hkind
    obtain rfl := Except.ok.inj hkind
    exact plain.shows_readWith_nested mark

mutual

/-- **At its place, a slot is shown.** -/
theorem exists_part_shows {flags : TypeFlags} {slots : List Bool}
    {index : Nat} : (type : HostType) → {kind : Kind} →
    (hkind : type.classify flags slots = .ok kind) → {place : List Nat} →
      (hplace : type.slotPlaces[index]? = some place) →
        ∃ part, kind.part? place = some part ∧ part.Shows (slotAt slots index)
  | .arrayOf element, kind, hkind, place, hplace => by
    rw [classify, firstSlot_eq] at hkind
    obtain ⟨inner, hinner, hkind⟩ := bind_eq_ok_iff.1 hkind
    obtain rfl := Except.ok.inj hkind
    rw [slotPlaces] at hplace
    cases index with
    | zero =>
      obtain rfl := Option.some.inj hplace
      exact ⟨inner, rfl, shows_of_classify_nested hinner⟩
    | succ index =>
      rw [List.getElem?_cons_succ, List.getElem?_map,
        Option.map_eq_some_iff] at hplace
      obtain ⟨address, haddress, rfl⟩ := hplace
      obtain ⟨part, hpart, hshows⟩ := exists_part_shows element hinner haddress
      exact ⟨part, hpart, by simpa using hshows⟩
  | .applied outer arguments, kind, hkind, place, hplace => by
    rw [classify] at hkind
    obtain ⟨kinds, hkinds, hkind⟩ := bind_eq_ok_iff.1 hkind
    rw [slotPlaces, List.getElem?_map, Option.map_eq_some_iff] at hplace
    obtain ⟨⟨position, address⟩, hplace, rfl⟩ := hplace
    obtain ⟨part, hpart, hshows⟩ := exists_part_showsAll arguments hkinds hplace
    exact ⟨part,
      by rw [Kind.part?, Kind.parts_of_ofGeneric hkind, hpart], hshows⟩
  | .blank, _, _, _, hplace | .wildcard, _, _, _, hplace
      | .named _, _, _, _, hplace
  | .primitiveArray _, _, _, _, hplace | .brokenGeneric .., _, _, _, hplace
      | .brokenName _, _, _, _, hplace => by
    simp [slotPlaces] at hplace

/-- Each slot is shown by the part at its place. -/
theorem exists_part_showsAll {slots : List Bool} {index : Nat} :
    (types : List HostType) → {kinds : List Kind} →
      (hkinds : classifyAll slots types = .ok kinds) →
      {place : Nat × List Nat} →
      (hplace : (slotPlacesAll types)[index]? = some place) →
        ∃ part, kinds[place.1]?.bind (Kind.part? · place.2) = some part
        ∧ part.Shows (slotAt slots index)
  | [], _, _, _, hplace => by simp [slotPlacesAll] at hplace
  | type :: types, kinds, hkinds, place, hplace => by
    rw [classifyAll, firstSlot_eq] at hkinds
    obtain ⟨first, hfirst, hkinds⟩ := bind_eq_ok_iff.1 hkinds
    obtain ⟨others, hothers, hkinds⟩ := bind_eq_ok_iff.1 hkinds
    obtain rfl := Except.ok.inj hkinds
    rcases slotPlacesAll_cons_cases hplace with
      ⟨rfl, rfl⟩ | ⟨inside, address, rfl, -, haddress, rfl⟩
      | ⟨later, other, rfl, hother, rfl⟩
    · exact ⟨first, rfl, shows_of_classify_nested hfirst⟩
    · obtain ⟨part, hpart, hshows⟩ := exists_part_shows type hfirst haddress
      exact ⟨part, hpart, by simpa using hshows⟩
    · obtain ⟨part, hpart, hshows⟩ := exists_part_showsAll types hothers hother
      exact ⟨part, hpart, by simpa using hshows⟩

end

end HostType

/-- **Every slot has a place of its own.**  A type determines which of the types
inside it take a slot, and the slots go to these in the order in which a walk
meets them, never to the outermost type.  Whatever the flags, slots behind them
are not read.  Changing one slot leaves a failure as it is, and in a kind it
changes at most the mark for `null` at the place of the slot, where there is a
part that shows the slot or leaves no choice. -/
theorem slots_reach_places (type : String) :
    let places := (HostType.ofText type.toList).slotPlaces
    places.Pairwise (· < ·) ∧ [] ∉ places
      ∧ (∀ flags slots slots',
          (∀ index < places.length, slotAt slots index = slotAt slots' index) →
            classify flags slots type = classify flags slots' type)
      ∧ ∀ index place, places[index]? = some place → ∀ flags slots,
          (∀ kind, classify flags slots type = .ok kind →
            ∃ part, kind.part? place = some part
              ∧ part.Shows (slotAt slots index))
          ∧ ∀ slots',
            (∀ other ≠ index, slotAt slots other = slotAt slots' other) →
              ∃ mark, classify flags slots' type
                = Kind.withMarkAt mark place <$> classify flags slots type := by
  intro places
  have hordered : places.Pairwise (· < ·) := HostType.pairwise_slotPlaces _
  have hinside : [] ∉ places :=
    fun hnil => HostType.ne_nil_of_mem_slotPlaces hnil rfl
  refine ⟨hordered, hinside, ?_, ?_⟩
  · intro flags slots slots' hsame
    refine HostType.classify_congr_slots flags _ fun index hindex =>
      hsame index ?_
    rwa [HostType.length_slotPlaces]
  · intro index place hplace flags slots
    constructor
    · intro kind hkind
      exact HostType.exists_part_shows _ hkind hplace
    · intro slots' hsame
      exact HostType.exists_mark_classify hsame flags _ hplace

/-- The element of the outer array comes first, then the two arguments, then the
element of the inner array. -/
example : (HostType.ofText "java.util.Map<K,V[]>[]".toList).slotPlaces
    = [[0], [0, 0], [0, 1], [0, 1, 0]] := by
  decide +kernel

end KotlinBuilders
