import KotlinBuilders.Proofs.ConversionOutcome

/-!
# What is noted while the fields are converted

There are three things to note about a declaration whose fields can be
converted: a declared type whose brackets do not balance, an alias whose target
is unknown, and a marker that is on no field.  `Declaration.Noted` says when
each of them is there.  It goes by the fields that come out and by the markers;
whether the parameters were given or listed makes no difference, and neither
does the kind of a field.

Every note has a place (`Declaration.place`).  The notes on a field come before
those on the fields behind it, the one on its type before the one on its alias,
and the notes on markers come last, in the order of the markers.  The main
statement is `warnings_complete`: the warnings are the notes that are there,
each once and in its place.
-/

namespace KotlinBuilders

/-- In a list without repetition every element has the elements behind it at
higher indices. -/
theorem pairwise_idxOf_lt {names : List String} (hdistinct : names.Nodup) :
    names.Pairwise fun earlier later => names.idxOf earlier
      < names.idxOf later := by
  refine List.pairwise_iff_getElem.2 fun i j hi hj hlt => ?_
  rwa [hdistinct.idxOf_getElem i hi, hdistinct.idxOf_getElem j hj]

namespace Declaration

/-- What there is to note about a declaration with the given fields.  An
unbalanced type is noted even where an alias stands in for it. -/
inductive Noted (knownTypes : NameSet) (declaration : Declaration)
    (fields : List Field) : Warning → Prop
  | malformedGenerics {field : Field} (hfield : field ∈ fields)
      (hunbalanced : Text.isBalanced field.declaredType.toList = false) :
      Noted knownTypes declaration fields
        (.malformedGenerics declaration.name field.name.raw field.declaredType)
  | unresolvedAlias {field : Field} {marker : Alias} (hfield : field ∈ fields)
      (halias : (declaration.markersOf field.name.raw).alias? = some marker)
      (hunknown : marker.target.trimBlank ∉ knownTypes) :
      Noted knownTypes declaration fields
        (.unresolvedAlias declaration.name field.name.raw marker.target)
  | unknownMarkerField {name : String}
      (hmarked : name ∈ declaration.markers.names)
      (hstranger : name ∉ fields.map fun field => field.name.raw) :
      Noted knownTypes declaration fields
        (.unknownMarkerField declaration.name name)

/-- The note on a field's declared type, if its brackets do not balance. -/
def typeNotes (declaration : Declaration) (field : Field) : List Warning :=
  if Text.isBalanced field.declaredType.toList then []
  else [.malformedGenerics declaration.name field.name.raw field.declaredType]

/-- The note on a field's alias, if it has one whose target is unknown. -/
def aliasNotes (knownTypes : NameSet) (declaration : Declaration)
    (field : Field) : List Warning :=
  let unknown? := (declaration.markersOf field.name.raw).alias?.filter
      fun marker =>
    !knownTypes.contains marker.target.trimBlank
  unknown?.toList.map fun marker =>
    .unresolvedAlias declaration.name field.name.raw marker.target

/-- The notes on a field: on its declared type, and then on its alias. -/
def notesOn (knownTypes : NameSet) (declaration : Declaration) (field : Field) :
    List Warning :=
  declaration.typeNotes field ++ declaration.aliasNotes knownTypes field

/-- The names that have markers but are no field's, in the order of the
markers. -/
def strangers (declaration : Declaration) (fields : List Field) : List String :=
  declaration.markers.names.filter fun name =>
    !(fields.map fun field => field.name.raw).contains name

/-- Where a note stands.  Each field has two places, for its type and for its
alias; behind those of all fields each marker has one.  A skipped declaration
has no fields that something could be noted about. -/
def place (declaration : Declaration) (fields : List Field) : Warning → Nat
  | .malformedGenerics _ field _ =>
    2 * (fields.map fun field => field.name.raw).idxOf field
  | .unresolvedAlias _ field _ =>
    2 * (fields.map fun field => field.name.raw).idxOf field + 1
  | .unknownMarkerField _ name =>
    2 * fields.length + declaration.markers.names.idxOf name
  | .declarationSkipped .. => 0

section Notes

variable {knownTypes : NameSet} {declaration : Declaration} {field : Field}
  {fields : List Field} {warning : Warning}

/-- The note on a type is made when its brackets do not balance. -/
theorem mem_typeNotes_iff :
    warning ∈ declaration.typeNotes field ↔
      Text.isBalanced field.declaredType.toList = false
        ∧ warning = .malformedGenerics declaration.name field.name.raw
          field.declaredType := by
  unfold typeNotes
  cases Text.isBalanced field.declaredType.toList <;> simp

/-- The note on an alias is made when its target is unknown. -/
theorem mem_aliasNotes_iff :
    warning ∈ declaration.aliasNotes knownTypes field ↔
      ∃ marker, (declaration.markersOf field.name.raw).alias? = some marker
        ∧ marker.target.trimBlank ∉ knownTypes
        ∧ warning
          = .unresolvedAlias declaration.name field.name.raw marker.target := by
  simp only [aliasNotes, List.mem_map, Option.mem_toList,
    Option.filter_eq_some_iff, Bool.not_eq_true', ← Bool.not_eq_true,
    NameSet.contains_iff, and_assoc, eq_comm (b := warning)]

/-- A stranger is a name with markers that no field has. -/
theorem mem_strangers_iff {name : String} :
    name ∈ declaration.strangers fields ↔
      name ∈ declaration.markers.names
      ∧ name ∉ fields.map fun field => field.name.raw := by
  simp [strangers]

/-- The notes on a field have the two places of the field. -/
theorem place_of_mem_notesOn (fields : List Field)
    (hmem : warning ∈ declaration.notesOn knownTypes field) :
    declaration.place fields warning / 2
      = (fields.map fun field => field.name.raw).idxOf field.name.raw := by
  rcases List.mem_append.1 hmem with htype | halias
  · obtain ⟨-, rfl⟩ := mem_typeNotes_iff.1 htype
    simp only [place]
    omega
  · obtain ⟨marker, -, -, rfl⟩ := mem_aliasNotes_iff.1 halias
    simp only [place]
    omega

/-- The notes on one field are in order: the type comes before the alias. -/
theorem pairwise_notesOn (fields : List Field) :
    (declaration.notesOn knownTypes field).Pairwise fun earlier later =>
      declaration.place fields earlier < declaration.place fields later := by
  refine List.pairwise_append.2 ⟨?_, ?_, ?_⟩
  · unfold typeNotes
    split <;> simp
  · unfold aliasNotes
    cases Option.filter _ _ <;> simp
  · intro first hfirst second hsecond
    obtain ⟨-, rfl⟩ := mem_typeNotes_iff.1 hfirst
    obtain ⟨marker, -, -, rfl⟩ := mem_aliasNotes_iff.1 hsecond
    simp only [place]
    omega

end Notes

section Conversion

variable {knownTypes : NameSet} {declaration : Declaration}
  {conversion : FieldConversion}

/-- The notes on a field are the warnings about its parameter. -/
theorem notesOn_of_convertField {parameter : Parameter} {field : Field}
    (hfield : convertField knownTypes declaration parameter = .ok field) :
    declaration.notesOn knownTypes field
      = fieldWarnings knownTypes declaration parameter := by
  obtain ⟨hname, htype, -⟩ := convertField_eq_ok hfield
  simp only [notesOn, typeNotes, aliasNotes, fieldWarnings, hname, htype]
  congr 1
  cases (declaration.markersOf parameter.name).alias? with
  | none => rfl
  | some marker =>
    cases hknown : knownTypes.contains marker.target.trimBlank <;>
      simp [resolve?, hknown, -NameSet.contains_iff]

/-- **The list of the warnings**, read off the fields that come out. -/
theorem warnings_eq_notes
    (hconversion : declaration.convertFields knownTypes = .ok conversion) :
    conversion.warnings =
      conversion.fields.flatMap (declaration.notesOn knownTypes)
        ++ (declaration.strangers conversion.fields).map
          (.unknownMarkerField declaration.name) := by
  obtain ⟨parameters, -, -, hfields, hwarnings⟩ :=
    Declaration.convertFields_eq_ok_iff.1 hconversion
  have hnames : (conversion.fields.map fun field => field.name.raw)
      = parameters.map Parameter.name :=
    map_fields_eq _ _ hfields fun _ _ hfield => (convertField_eq_ok hfield).1
  have hnotes : conversion.fields.map (declaration.notesOn knownTypes)
      = parameters.map (fieldWarnings knownTypes declaration) :=
    map_fields_eq _ _ hfields fun _ _ hfield => notesOn_of_convertField hfield
  rw [hwarnings, List.flatMap_def, List.flatMap_def, hnotes,
    unknownMarkerWarnings, strangers, hnames]

/-- **What is noted.** -/
theorem mem_warnings_iff
    (hconversion : declaration.convertFields knownTypes = .ok conversion)
    {warning : Warning} :
    warning ∈ conversion.warnings ↔
      declaration.Noted knownTypes conversion.fields warning := by
  rw [warnings_eq_notes hconversion, List.mem_append,
    List.mem_flatMap, List.mem_map]
  constructor
  · intro hmem
    rcases hmem with ⟨field, hfield, hnote⟩ | ⟨name, hname, rfl⟩
    · rcases List.mem_append.1 hnote with htype | halias
      · obtain ⟨hunbalanced, rfl⟩ := mem_typeNotes_iff.1 htype
        exact .malformedGenerics hfield hunbalanced
      · obtain ⟨marker, hmarker, hunknown, rfl⟩ := mem_aliasNotes_iff.1 halias
        exact .unresolvedAlias hfield hmarker hunknown
    · obtain ⟨hmarked, hstranger⟩ := mem_strangers_iff.1 hname
      exact .unknownMarkerField hmarked hstranger
  · intro hnoted
    cases hnoted with
    | malformedGenerics hfield hunbalanced =>
      exact .inl ⟨_, hfield,
        List.mem_append_left _ (mem_typeNotes_iff.2 ⟨hunbalanced, rfl⟩)⟩
    | unresolvedAlias hfield halias hunknown =>
      exact .inl ⟨_, hfield, List.mem_append_right _
        (mem_aliasNotes_iff.2 ⟨_, halias, hunknown, rfl⟩)⟩
    | unknownMarkerField hmarked hstranger =>
      exact .inr ⟨_, mem_strangers_iff.2 ⟨hmarked, hstranger⟩, rfl⟩

/-- **The order of the notes**: field by field, and then marker by marker. -/
theorem pairwise_place_warnings
    (hconversion : declaration.convertFields knownTypes = .ok conversion) :
    conversion.warnings.Pairwise fun earlier later =>
      declaration.place conversion.fields earlier
          < declaration.place conversion.fields later := by
  rw [warnings_eq_notes hconversion]
  rw [List.pairwise_append, List.pairwise_flatMap]
  refine ⟨⟨fun field _ => pairwise_notesOn conversion.fields, ?_⟩, ?_, ?_⟩
  · have hnames := nodup_raw_of_convertFields hconversion
    refine (List.pairwise_map.1 (pairwise_idxOf_lt hnames)).imp ?_
    intro first second hlt warning hwarning other hother
    have hfirst := place_of_mem_notesOn conversion.fields hwarning
    have hsecond := place_of_mem_notesOn conversion.fields hother
    omega
  · refine List.pairwise_map.2 (List.Pairwise.filter _ ?_)
    refine (pairwise_idxOf_lt declaration.markers.distinct).imp fun hlt => ?_
    exact Nat.add_lt_add_left hlt _
  · intro warning hwarning other hother
    obtain ⟨field, hfield, hnote⟩ := List.mem_flatMap.1 hwarning
    obtain ⟨name, -, rfl⟩ := List.mem_map.1 hother
    have hplace := place_of_mem_notesOn conversion.fields hnote
    have hindex := List.idxOf_lt_length_of_mem
      (List.mem_map_of_mem (f := fun field : Field => field.name.raw) hfield)
    rw [List.length_map] at hindex
    rw [place]
    omega

/-- **What there is to note is noted, in order, and nothing else is.**  Where
the fields of a declaration can be converted, which are those of its constructor
parameters and in their order, the warnings are one for each field whose
declared type has unbalanced brackets, whether or not an alias replaces that
type, one for each field with an alias whose trimmed target is unknown, and one
for each marker that is on no field.  They stand in the order of the fields, the
type before the alias, and behind them in the order of the markers, and none is
there twice. -/
theorem warnings_complete
    (hconversion : declaration.convertFields knownTypes = .ok conversion) :
    (∃ parameters, declaration.HasParameters parameters
        ∧ List.Forall₂ declaration.Keeps parameters conversion.fields)
      ∧ conversion.warnings =
          conversion.fields.flatMap (declaration.notesOn knownTypes)
            ++ (declaration.strangers conversion.fields).map
              (.unknownMarkerField declaration.name)
      ∧ (∀ warning, warning ∈ conversion.warnings ↔
        declaration.Noted knownTypes conversion.fields warning)
      ∧ (conversion.warnings.Pairwise fun earlier later =>
          declaration.place conversion.fields earlier
            < declaration.place conversion.fields later)
      ∧ conversion.warnings.Nodup := by
  have hordered := pairwise_place_warnings hconversion
  refine ⟨?_, warnings_eq_notes hconversion, fun _ =>
    mem_warnings_iff hconversion, hordered, hordered.imp ?_⟩
  · obtain ⟨parameters, hparameters, hkeeps, -⟩ :=
      exists_keeps_of_convertFields hconversion
    exact ⟨parameters, hparameters, hkeeps⟩
  · intro earlier later hlt hsame
    rw [hsame] at hlt
    exact Nat.lt_irrefl _ hlt

end Conversion

end Declaration

/-- A declaration with everything there is to note: a broken type that an alias
replaces, another one whose alias leads nowhere, and markers on fields that it
has not. -/
def cargoDeclaration : Declaration :=
  { name := "Cargo"
    listing? :=
      some
        "[crates, Cargo(long, java.util.List<Crate>, com.cargo.Owner), owner, id]"
    parameters? := some [{ name := "crates", type := "java.util.List<Crate" },
      { name := "id", type := "long" }, { name := "owner", type := "Owner>" }]
    markers := .ofList [("pilot", { isMutable := true }),
      ("owner", { alias? := some { target := "Shipper" } }),
      ("crates", { alias? := some { target := " com.cargo.Crates" } }),
      ("route", {})] }

def cargoTypes : NameSet := NameSet.ofList ["com.cargo.Crates"]

/-- The listing is not looked at, and the alias with a known target leaves no
note. -/
theorem warnings_complete_cargo :
    ∃ conversion, cargoDeclaration.convertFields cargoTypes = .ok conversion
      ∧ conversion.warnings =
          [.malformedGenerics "Cargo" "crates" "java.util.List<Crate",
            .malformedGenerics "Cargo" "owner" "Owner>",
            .unresolvedAlias "Cargo" "owner" "Shipper",
            .unknownMarkerField "Cargo" "pilot",
            .unknownMarkerField "Cargo" "route"]
      ∧ conversion.warnings.Nodup
      ∧ ∀ warning, warning ∈ conversion.warnings
          ↔ cargoDeclaration.Noted cargoTypes conversion.fields warning := by
  have hshown :
      (cargoDeclaration.convertFields cargoTypes).toOption.map
          FieldConversion.warnings
        = some [.malformedGenerics "Cargo" "crates" "java.util.List<Crate",
          .malformedGenerics "Cargo" "owner" "Owner>",
          .unresolvedAlias "Cargo" "owner" "Shipper",
          .unknownMarkerField "Cargo" "pilot",
          .unknownMarkerField "Cargo" "route"] := by
    decide +kernel
  obtain ⟨conversion, hconversion, hwarnings⟩ :=
    exists_ok_of_map_toOption hshown
  obtain ⟨-, -, hnoted, -, hdistinct⟩ :=
    Declaration.warnings_complete hconversion
  exact ⟨conversion, hconversion, hwarnings, hdistinct, hnoted⟩

end KotlinBuilders
