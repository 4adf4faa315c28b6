import KotlinBuilders.Proofs.FieldConversion
import Mathlib.Data.List.Perm.Subperm
import Mathlib.Data.Option.Basic

/-!
# The fields of a listing

A listing that is accepted has as many component functions as values, and each
of them points to one of the values, but nothing keeps two of them from pointing
to the same one.  That is found out later: two slots of one value make two
parameters of one name, and no declaration may have those.  Where the conversion
to fields succeeds, the component functions therefore point to as many different
values as there are, which are all of them (`perm_range'_of_nodup`).

The main statement is `fields_perm_values`: the fields are the values in another
order, and their types are the arguments of the constructor in its own.
-/

namespace KotlinBuilders

/-- The entries of a listing; none where nothing stands between its brackets. -/
def listedEntries (declaration listing : String) : List ListingEntry :=
  match listingBody? listing.toList with
  | some body => listingEntries declaration.toList body
  | none => []

/-- The value members of a listing, in the order of their declaration. -/
def listedValues (entries : List ListingEntry) : List (List Char) :=
  entries.filterMap ListingEntry.value?

/-- The indices of a listing's component functions, slot by slot. -/
def listedIndices (entries : List ListingEntry) : List Nat :=
  entries.filterMap ListingEntry.component?

/-- The arguments of the constructor that a listing is read with: the first one
with as many as there are values is preferred to the first one. -/
def chosenConstructor? (entries : List ListingEntry) :
    Option (List (List Char)) :=
  let constructors := entries.filterMap ListingEntry.constructor?
  (constructors.find? fun types =>
      types.length == (listedValues entries).length).or
    constructors.head?

section Reading

variable {values : List (List Char)} {entries : List ListingEntry}
  {members : List Member}

/-- Slot by slot, a member is named after the value that backs it and has the
type that the constructor takes. -/
theorem slotMembers?_eq_some {indices : List Nat} {types : List (List Char)}
    (hlength : indices.length = types.length)
    (hmembers : slotMembers? values indices types = some members) :
    members.map (fun member => some member.name.toList)
      = indices.map (backingMember? values)
      ∧ members.map (fun member => member.type.toList) = types := by
  induction indices generalizing types members with
  | nil =>
    obtain rfl := List.length_eq_zero_iff.1 hlength.symm
    cases hmembers
    exact ⟨rfl, rfl⟩
  | cons index indices ih =>
    cases types with
    | nil => cases hlength
    | cons type types =>
      simp only [slotMembers?, bind, Option.bind_eq_some_iff, pure,
        Option.some.injEq] at hmembers
      obtain ⟨name, hname, rest, hrest, rfl⟩ := hmembers
      obtain ⟨hnames, htypes⟩ := ih (Nat.succ.inj hlength) hrest
      simp only [List.map_cons, String.toList_ofList, hname, hnames,
        htypes, and_self]

/-- **What an accepted listing says**: the members have the types of the chosen
constructor, and the component functions, as many as there are values, say which
value each of them is. -/
theorem reconcile?_eq_some (hmembers : reconcile? entries = some members) :
    chosenConstructor? entries
      = some (members.map fun member => member.type.toList)
      ∧ (listedIndices entries).length = (listedValues entries).length
      ∧ members.map (fun member => some member.name.toList)
          = (listedIndices entries).map
            (backingMember? (listedValues entries)) := by
  simp only [reconcile?] at hmembers
  split at hmembers
  · next types hfound =>
    split at hmembers
    · next hindices =>
      have hlength : types.length = (listedValues entries).length := by
        simpa [listedValues] using List.find?_some hfound
      obtain ⟨hnames, htypes⟩ :=
        slotMembers?_eq_some (hindices.trans hlength.symm) hmembers
      have hchosen : chosenConstructor? entries = some types := by
        simp only [chosenConstructor?]
        rw [listedValues, hfound, Option.some_or]
      exact ⟨htypes ▸ hchosen, hindices, hnames⟩
    · cases hmembers
  · cases hmembers

/-- A listing that is parsed has entries that fit together. -/
theorem parseListing_eq_some {declaration listing : String}
    (hmembers : parseListing declaration listing = some members) :
    reconcile? (listedEntries declaration listing) = some members := by
  unfold parseListing at hmembers
  split at hmembers
  · next body hbody =>
    simp only [listedEntries, hbody]
    exact hmembers
  · cases hmembers

/-- Only an index from one up to the number of values points to a value. -/
theorem mem_range'_of_backingMember? {index : Nat} {name : List Char}
    (hname : backingMember? values index = some name) :
    index ∈ List.range' 1 values.length := by
  cases index with
  | zero => cases hname
  | succ place =>
    obtain ⟨hplace, -⟩ := List.getElem?_eq_some_iff.1 hname
    rw [List.mem_range'_1]
    omega

/-- Pointing to the values one after the other gives all of them. -/
theorem map_backingMember?_range' :
    (List.range' 1 values.length).map (backingMember? values)
      = values.map some := by
  refine List.ext_getElem (by simp) fun place hplace _ => ?_
  simp only [List.length_map, List.length_range'] at hplace
  simp [backingMember?, Nat.add_comm 1 place, hplace]

/-- **Pigeonholes.**  As many different indices as there are values point to
every value. -/
theorem perm_range'_of_nodup {indices : List Nat} {count : Nat}
    (hdistinct : indices.Nodup) (hindices : indices ⊆ List.range' 1 count)
    (hlength : indices.length = count) :
    indices.Perm (List.range' 1 count) := by
  have hsubperm : indices.Subperm (List.range' 1 count) :=
    hdistinct.subperm hindices
  exact hsubperm.perm_of_length_le (by simp [hlength])

/-- If the members of a listing have different names, its component functions
count through the values. -/
theorem listedIndices_perm_range' (hmembers : reconcile? entries = some members)
    (hdistinct : (members.map Member.name).Nodup) :
    (listedIndices entries).Perm
      (List.range' 1 (listedValues entries).length) := by
  obtain ⟨-, hlength, hnames⟩ := reconcile?_eq_some hmembers
  refine perm_range'_of_nodup ?_ ?_ hlength
  -- Equal indices would point to one value and so give two members one name.
  · have hnodup :
        (members.map fun member => some member.name.toList).Nodup := by
      have hinjective :
          Function.Injective fun name : String => some name.toList := by
        intro name other hsame
        exact String.toList_injective (Option.some.inj hsame)
      simpa [Function.comp_def] using hdistinct.map hinjective
    rw [hnames] at hnodup
    exact hnodup.of_map _
  · intro index hindex
    have hmem : backingMember? (listedValues entries) index
        ∈ members.map fun member => some member.name.toList := by
      rw [hnames]
      exact List.mem_map_of_mem hindex
    obtain ⟨member, -, hname⟩ := List.mem_map.1 hmem
    exact mem_range'_of_backingMember? hname.symm

end Reading

/-- **The fields are the values of the listing.**  If a declaration that gives
nothing but a listing is converted, the names of its fields are the value
members in another order, in which each value backs exactly one slot, and the
declared types are the arguments of the chosen constructor, slot by slot. -/
theorem fields_perm_values {knownTypes : NameSet} {declaration : Declaration}
    {listing : String} {conversion : FieldConversion}
    (hparameters : declaration.parameters? = none)
    (hlisting : declaration.listing? = some listing)
    (hconversion : declaration.convertFields knownTypes = .ok conversion) :
    let entries := listedEntries declaration.name listing
    (conversion.fields.map fun field => field.name.raw.toList).Perm
        (listedValues entries)
      ∧ (listedIndices entries).Perm
        (List.range' 1 (listedValues entries).length)
      ∧ conversion.fields.map (fun field => some field.name.raw.toList)
          = (listedIndices entries).map (backingMember? (listedValues entries))
      ∧ chosenConstructor? entries = some
          (conversion.fields.map fun field => field.declaredType.toList) := by
  intro entries
  obtain ⟨parameters, hgiven, hdistinct, hfields, -⟩ :=
    Declaration.convertFields_eq_ok_iff.1 hconversion
  simp only [Declaration.constructorParameters, hparameters, hlisting] at hgiven
  split at hgiven
  · next members hparsed =>
    obtain rfl := Except.ok.inj hgiven
    have hmembers := parseListing_eq_some hparsed
    obtain ⟨hchosen, -, hbacking⟩ := reconcile?_eq_some hmembers
    have hindices :
        (listedIndices entries).Perm
          (List.range' 1 (listedValues entries).length) := by
      refine listedIndices_perm_range' hmembers ?_
      simpa [Function.comp_def, Member.parameter] using hdistinct
    have hnames :
        conversion.fields.map (fun field => some field.name.raw.toList)
          = (listedIndices entries).map
            (backingMember? (listedValues entries)) := by
      have hparameters :=
        map_fields_eq (fun field => some field.name.raw.toList)
          (fun parameter => some parameter.name.toList) hfields
          fun _ _ hfield => by rw [(convertField_eq_ok hfield).1]
      rw [hparameters, List.map_map, ← hbacking]
      rfl
    have htypes : conversion.fields.map (fun field => field.declaredType.toList)
        = members.map fun member => member.type.toList := by
      have hparameters := map_fields_eq (fun field => field.declaredType.toList)
        (fun parameter => parameter.type.toList) hfields fun _ _ hfield =>
          by rw [(convertField_eq_ok hfield).2.1]
      rw [hparameters, List.map_map]
      rfl
    refine ⟨?_, hindices, hnames, htypes ▸ hchosen⟩
    -- Both sides are read through `some`, because an index might have pointed
    -- to nothing.
    have hsome :
        ((conversion.fields.map fun field => field.name.raw.toList).map
          some).Perm ((listedValues entries).map some) := by
      rw [List.map_map, ← map_backingMember?_range']
      exact hnames ▸ hindices.map _
    exact (List.map_perm_map_iff (Option.some_injective (List Char))).1 hsome
  · cases hgiven

/-- A listing whose slots stand the other way round and whose first constructor
is too short. -/
def pairListing : String :=
  "[a,Pair(int),b,Pair(int,long[]),component2(),component1()]"

def pairDeclaration : Declaration :=
  { name := "Pair", listing? := some pairListing }

/-- The first slot is the second value, and it takes the first type of the
longer constructor. -/
theorem fields_perm_values_pair :
    ∃ conversion, pairDeclaration.convertFields ∅ = .ok conversion
      ∧ conversion.fields.map (·.name.raw) = ["b", "a"]
      ∧ (conversion.fields.map fun field => field.name.raw.toList).Perm
        [['a'], ['b']]
      ∧ conversion.fields.map (fun field => field.declaredType.toList)
        = ["int".toList, "long[]".toList] := by
  have hshown : (pairDeclaration.convertFields ∅).toOption.map
      (·.fields.map (·.name.raw)) = some ["b", "a"] := by
    decide +kernel
  have hread : listedValues (listedEntries "Pair" pairListing) = [['a'], ['b']]
      ∧ chosenConstructor? (listedEntries "Pair" pairListing)
        = some ["int".toList, "long[]".toList] := by
    decide +kernel
  obtain ⟨conversion, hconversion, hnames⟩ := exists_ok_of_map_toOption hshown
  obtain ⟨hvalues, -, -, htypes⟩ := fields_perm_values rfl rfl hconversion
  exact ⟨conversion, hconversion, hnames, hread.1 ▸ hvalues,
    Option.some.inj (htypes.symm.trans hread.2)⟩

end KotlinBuilders
