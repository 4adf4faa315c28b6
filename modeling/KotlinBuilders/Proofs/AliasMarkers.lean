import KotlinBuilders.Proofs.WarningLists

/-!
# What an alias does to a conversion

Each statement here compares the conversions of two declarations, which come to
the same if they have the same failure or if their results are related
(`Alike`).  Two traversals come to the same when they do so field by field
(`convertFields_alike`).

An alias with a known target makes the kind of its field out of three things:
the target, the literal, and whether the field admits `null`.  Whatever else
differs between two declarations at that field, they come to the same kinds
(`Declaration.convertFields_sameUnderAlias`).  An alias whose target is unknown
is only noted.  Without it the declaration comes to the same fields, and one
warning less (`Declaration.convertFields_withoutAlias`).  Both are in
`alias_marker_outcome`.
-/

namespace KotlinBuilders

/-- Two runs come to the same: they have the same failure, or results that are
related. -/
inductive Alike {ε α β : Type} (related : α → β → Prop) :
    Except ε α → Except ε β → Prop
  | failure (failure : ε) : Alike related (.error failure) (.error failure)
  | result {first : α} {second : β} (hrelated : related first second) :
      Alike related (.ok first) (.ok second)

namespace Alike

variable {ε α β γ δ : Type} {related : α → β → Prop} {first : Except ε α}
  {second : Except ε β}

/-- What is known of the two results may be added to what relates them. -/
theorem imp {stronger : α → β → Prop} (halike : Alike related first second)
    (himp : ∀ a b, first = .ok a → second = .ok b → related a b →
      stronger a b) : Alike stronger first second := by
  cases halike with
  | failure failure => exact .failure failure
  | result hrelated => exact .result (himp _ _ rfl rfl hrelated)

/-- A run comes to the same as itself. -/
theorem of_eq {related : α → α → Prop} {other : Except ε α}
    (hsame : other = first) (hself : ∀ a, first = .ok a → related a a) :
    Alike related first other := by
  subst hsame
  cases other with
  | error failure => exact .failure failure
  | ok a => exact .result (hself a rfl)

/-- Where one run has a result, the other one has a result that is related to
it. -/
theorem exists_of_eq_ok (halike : Alike related first second) {a : α}
    (hfirst : first = .ok a) :
    ∃ b, second = .ok b ∧ related a b := by
  cases halike with
  | failure failure => cases hfirst
  | result hrelated =>
    obtain rfl := Except.ok.inj hfirst
    exact ⟨_, rfl, hrelated⟩

/-- Two steps come to the same if the first ones do, and the second ones do on
what these give. -/
theorem bind {next : α → Except ε γ} {next' : β → Except ε δ}
    {related' : γ → δ → Prop} (halike : Alike related first second)
    (hnext : ∀ a b, related a b → Alike related' (next a) (next' b)) :
    Alike related' (first >>= next) (second >>= next') := by
  cases halike with
  | failure failure => exact .failure failure
  | result hrelated => exact hnext _ _ hrelated

end Alike

section Traversal

variable {knownTypes : NameSet} {declaration other : Declaration}
  {parameters twins : List Parameter} {related : Field → Field → Prop}

/-- Whether two declarations come to the same fields is decided field by
field. -/
theorem convertFields_alike (hname : other.name = declaration.name)
    (hall : List.Forall₂ (fun parameter twin => twin.name = parameter.name
      ∧ Alike related (convertField knownTypes declaration parameter)
        (convertField knownTypes other twin)) parameters twins)
    (before : List String) :
    Alike (List.Forall₂ related)
      (convertFields knownTypes declaration before parameters)
      (convertFields knownTypes other before twins) := by
  -- The names of the two lists are the same, so both have the same names before
  -- every field.
  induction hall generalizing before with
  | nil => exact .result .nil
  | cons hfirst _ ih =>
    obtain ⟨hsame, hfield⟩ := hfirst
    rw [convertFields, convertFields, hsame, hname]
    split
    · exact .failure _
    · apply hfield.bind
      intro field twin hrelated
      apply (ih _).bind
      intro fields twins hfields
      exact .result (.cons hrelated hfields)

/-- Declarations of one name whose parameters come to the same one by one come
to the same as a whole. -/
theorem Declaration.convertFields_alike (hname : other.name = declaration.name)
    (hparameters : declaration.HasParameters parameters)
    (htwins : other.HasParameters twins)
    (hall : List.Forall₂ (fun parameter twin => twin.name = parameter.name
      ∧ Alike related (convertField knownTypes declaration parameter)
        (convertField knownTypes other twin)) parameters twins) :
    Alike
      (fun conversion twin =>
        List.Forall₂ related conversion.fields twin.fields)
      (declaration.convertFields knownTypes)
      (other.convertFields knownTypes) := by
  rw [← Declaration.constructorParameters_eq_ok_iff] at hparameters htwins
  simp only [Declaration.convertFields, hparameters, htwins]
  apply (KotlinBuilders.convertFields_alike hname hall []).bind
  intro fields twins hfields
  exact .result hfields

end Traversal

/-! ## An alias with a known target -/

/-- What counts of an alias: its target, without white space around it, and its
literal, if it gives one. -/
def Alias.content (marker : Alias) : String × Option String :=
  (marker.target.trimBlank, marker.explicitLiteral?)

/-- Aliases with the same content stand for the same kind. -/
theorem Alias.kind_eq_of_content_eq {marker twin : Alias}
    (hcontent : twin.content = marker.content) (nullable : Bool) :
    twin.kind nullable = marker.kind nullable := by
  obtain ⟨htarget, hliteral⟩ := Prod.mk.inj hcontent
  have htrimmed :
      Text.trim twin.target.toList = Text.trim marker.target.toList := by
    have hchars := congrArg String.toList htarget
    simpa [String.trimBlank] using hchars
  rw [Alias.kind, Alias.kind, hliteral, QualifiedName.ofText,
    QualifiedName.ofText, htrimmed]

namespace Declaration

/-- Two declarations with their constructor parameters that are the same except
at the fields of one name.  There only the content of the alias is the same, and
whether the field admits `null`; the declared types, the defaults and all other
markers are free. -/
structure SameUnderAlias (name : String) (declaration other : Declaration)
    (parameters twins : List Parameter) :
    Prop where
  name_eq : other.name = declaration.name
  markers_eq : ∀ field, field ≠ name →
    other.markersOf field = declaration.markersOf field
  content_eq : (other.markersOf name).alias?.map Alias.content
    = (declaration.markersOf name).alias?.map Alias.content
  parameters_eq : List.Forall₂ (fun parameter twin => twin.name = parameter.name
      ∧ (parameter.name ≠ name → twin = parameter)
      ∧ (parameter.name = name →
        (twin.nullable || (other.markersOf name).nullable)
          = (parameter.nullable || (declaration.markersOf name).nullable)))
    parameters twins

/-- Two conversions give fields of the same names and kinds, and at other names
than the given one the same fields. -/
def SameKinds (name : String) (conversion twin : FieldConversion) : Prop :=
  List.Forall₂ (fun field twin => twin.name = field.name
    ∧ twin.kind = field.kind
    ∧ (field.name.raw ≠ name → twin = field)) conversion.fields twin.fields

/-- The field of a parameter whose alias has a known target. -/
theorem convertField_of_knownAlias {knownTypes : NameSet}
    {declaration : Declaration} {parameter : Parameter} {marker : Alias}
    (hmarker : (declaration.markersOf parameter.name).knownAlias? knownTypes
      = some marker) :
    convertField knownTypes declaration parameter = .ok
      { name := ⟨parameter.name⟩, declaredType := parameter.type,
        hasDefault := parameter.hasDefault
        kind := marker.kind (parameter.nullable
            || (declaration.markersOf parameter.name).nullable) } := by
  simp only [convertField, fieldKind_of_knownAlias hmarker]

/-- A field is converted by its own markers. -/
theorem convertField_of_markersOf_eq {knownTypes : NameSet}
    {declaration other : Declaration} {parameter : Parameter}
    (hname : other.name = declaration.name)
    (hmarkers : other.markersOf parameter.name
      = declaration.markersOf parameter.name) :
    convertField knownTypes other parameter
      = convertField knownTypes declaration parameter := by
  simp only [convertField, hname, hmarkers]

/-- The fields of a declaration are those of its parameters, one by one. -/
theorem forall₂_of_convertFields {knownTypes : NameSet}
    {declaration : Declaration} {parameters : List Parameter}
    {conversion : FieldConversion}
    (hparameters : declaration.HasParameters parameters)
    (hconversion : declaration.convertFields knownTypes = .ok conversion) :
    List.Forall₂ (fun parameter field =>
      convertField knownTypes declaration parameter
          = .ok field) parameters conversion.fields := by
  obtain ⟨read, hread, -, hfields, -⟩ :=
    Declaration.convertFields_eq_ok_iff.1 hconversion
  rw [constructorParameters_eq_ok_iff.2 hparameters] at hread
  obtain rfl := Except.ok.inj hread
  exact hfields

section Known

variable {knownTypes : NameSet} {declaration other : Declaration}
  {name : String} {marker : Alias} {parameters twins : List Parameter}

/-- **The kind of a field with a known alias**, whatever its declared type. -/
theorem kind_of_known (hparameters : declaration.HasParameters parameters)
    (hmarker : (declaration.markersOf name).knownAlias? knownTypes
      = some marker) {conversion : FieldConversion}
    (hconversion : declaration.convertFields knownTypes = .ok conversion)
    {field : Field} (hfield : field ∈ conversion.fields)
    (hname : field.name.raw = name) :
    ∃ parameter ∈ parameters, parameter.name = name
      ∧ field.kind = marker.kind (parameter.nullable
        || (declaration.markersOf name).nullable) := by
  obtain ⟨parameter, hparameter, hconverted⟩ :=
    exists_of_mem_forall₂ (forall₂_of_convertFields hparameters hconversion)
      hfield
  obtain rfl : parameter.name = name :=
    (convertField_eq_ok hconverted).1.symm.trans hname
  rw [convertField_of_knownAlias hmarker] at hconverted
  obtain rfl := Except.ok.inj hconverted
  exact ⟨parameter, hparameter, rfl, rfl⟩

/-- Where the contents of two aliases are the same, the target of one is known
if that of the other is. -/
theorem exists_knownAlias?_of_content_eq {markers twin : Markers}
    (hcontent : twin.alias?.map Alias.content
      = markers.alias?.map Alias.content)
    (hmarker : markers.knownAlias? knownTypes = some marker) :
    ∃ copy, twin.knownAlias? knownTypes = some copy
      ∧ copy.content = marker.content := by
  obtain ⟨halias, hknown⟩ := knownAlias?_eq_some_iff.1 hmarker
  rw [halias, Option.map_some] at hcontent
  obtain ⟨copy, hcopy, hsame⟩ := Option.map_eq_some_iff.1 hcontent
  refine ⟨copy, knownAlias?_eq_some_iff.2 ⟨hcopy, ?_⟩, hsame⟩
  rwa [(Prod.mk.inj hsame).1]

/-- **Nothing else of the field matters.** -/
theorem convertFields_sameUnderAlias
    (hparameters : declaration.HasParameters parameters)
    (htwins : other.HasParameters twins)
    (hsame : SameUnderAlias name declaration other parameters twins)
    (hmarker : (declaration.markersOf name).knownAlias? knownTypes
      = some marker) :
    Alike (SameKinds name) (declaration.convertFields knownTypes)
      (other.convertFields knownTypes) := by
  refine convertFields_alike hsame.name_eq hparameters htwins
    (hsame.parameters_eq.imp ?_)
  intro parameter twin hagree
  obtain ⟨hname, hrest, hnullable⟩ := hagree
  refine ⟨hname, ?_⟩
  by_cases haliased : parameter.name = name
  · -- Both fields have the kind of the alias, and the declared types are not
    -- looked at.
    subst haliased
    obtain ⟨copy, hcopy, hcontent⟩ :=
      exists_knownAlias?_of_content_eq hsame.content_eq hmarker
    rw [← hname] at hcopy
    rw [convertField_of_knownAlias hmarker, convertField_of_knownAlias hcopy,
      hname, hnullable rfl, Alias.kind_eq_of_content_eq hcontent]
    exact .result ⟨rfl, rfl, fun hne => absurd rfl hne⟩
  · obtain rfl := hrest haliased
    refine .of_eq (convertField_of_markersOf_eq hsame.name_eq
      (hsame.markers_eq _ haliased)) ?_
    intro field _
    exact ⟨rfl, rfl, fun _ => rfl⟩

end Known

end Declaration

/-! ## An alias whose target is unknown -/

namespace Catalog

variable {α : Type}

/-- After an entry is placed, its own name reads it and every other name reads
what it did before. -/
theorem lookup_place (name : String) (value : α) (entries : List (String × α))
    (other : String) :
    (place name value entries).lookup other = if other = name then some value
      else entries.lookup other := by
  induction entries with
  | nil => by_cases h : other = name <;>
      simp [place, List.lookup_cons, h, beq_eq_false_iff_ne.2]
  | cons entry entries ih =>
    obtain ⟨first, old⟩ := entry
    by_cases hfirst : first = name
    · subst hfirst
      by_cases h : other = first <;>
        simp [place, List.lookup_cons, h, beq_eq_false_iff_ne.2]
    · by_cases h : other = first
      · subst h
        simp [place, hfirst]
      · simp [place, List.lookup_cons, hfirst, ih, beq_eq_false_iff_ne.2 h]

/-- After an entry is put into a catalog, its own name reads it and every other
name reads what it did before. -/
theorem get?_put (catalog : Catalog α) (name : String) (value : α)
    (other : String) :
    (catalog.put name value).get? other = if other = name then some value
      else catalog.get? other :=
  lookup_place name value catalog.entries other

/-- Placing an entry under a name that is there leaves the names as they are. -/
theorem names_place_of_mem {name : String} {value : α}
    {entries : List (String × α)} (hmem : name ∈ entries.map Prod.fst) :
    (place name value entries).map Prod.fst = entries.map Prod.fst := by
  induction entries with
  | nil => cases hmem
  | cons entry entries ih =>
    obtain ⟨first, old⟩ := entry
    unfold place
    split
    · rfl
    · next hfirst =>
      rcases List.mem_cons.1 hmem with rfl | hmem
      · exact absurd rfl hfirst
      · rw [List.map_cons, List.map_cons, ih hmem]

/-- A new value leaves the names as they are. -/
theorem names_put_of_mem {catalog : Catalog α} {name : String} (value : α)
    (hmem : name ∈ catalog.names) :
    (catalog.put name value).names = catalog.names :=
  names_place_of_mem hmem

/-- A name with a value is one of the names. -/
theorem mem_names_of_get? {catalog : Catalog α} {name : String} {value : α}
    (hvalue : catalog.get? name = some value) :
    name ∈ catalog.names := by
  obtain ⟨entry, hentry, hname⟩ :=
    List.lookup_isSome_iff.1 (Option.isSome_of_eq_some hvalue)
  exact List.mem_map.2 ⟨entry, hentry, (beq_iff_eq.1 hname).symm⟩

end Catalog

namespace Declaration

/-- The declaration without the alias of a field, all other markers of which
stay. -/
def withoutAlias (declaration : Declaration) (name : String) : Declaration :=
  { declaration with
    markers := declaration.markers.put name
      { declaration.markersOf name with alias? := none } }

/-- Two conversions give the same fields and the same warnings, but that the
first one has one more, about the alias of a field.  It stands in its place:
behind the warnings about earlier fields and about the type of this one, and in
front of those about later fields and about markers. -/
structure OneNoteLess (declaration : Declaration) (name target : String)
    (conversion without : FieldConversion) :
    Prop where
  fields_eq : without.fields = conversion.fields
  warnings_eq : ∃ front back, without.warnings = front ++ back
    ∧ conversion.warnings
      = front ++ .unresolvedAlias declaration.name name target :: back
    ∧ (∀ warning ∈ front, declaration.place conversion.fields warning
        < declaration.place conversion.fields
          (.unresolvedAlias declaration.name name target))
    ∧ ∀ warning ∈ back, declaration.place conversion.fields
      (.unresolvedAlias declaration.name name target)
        < declaration.place conversion.fields warning

section Unknown

variable {knownTypes : NameSet} {declaration : Declaration} {name : String}
  {marker : Alias} {parameters : List Parameter}

/-- Without its alias a field keeps all its other markers. -/
theorem markersOf_withoutAlias (declaration : Declaration) (name : String) :
    (declaration.withoutAlias name).markersOf name
      = { declaration.markersOf name with alias? := none } := by
  rw [markersOf, withoutAlias, Catalog.get?_put, if_pos rfl]
  rfl

/-- Without the alias of a field all other fields keep their markers. -/
theorem markersOf_withoutAlias_of_ne {field : String} (hne : field ≠ name) :
    (declaration.withoutAlias name).markersOf field
      = declaration.markersOf field := by
  rw [markersOf, withoutAlias, Catalog.get?_put, if_neg hne]
  rfl

/-- Without the alias of a field the same fields are marked, since its marker
set stays. -/
theorem names_withoutAlias
    (hmarker : (declaration.markersOf name).alias? = some marker) :
    (declaration.withoutAlias name).markers.names
      = declaration.markers.names := by
  apply Catalog.names_put_of_mem
  cases hvalue : declaration.markers.get? name with
  | none =>
    rw [markersOf, hvalue] at hmarker
    cases hmarker
  | some markers => exact Catalog.mem_names_of_get? hvalue

/-- An alias whose target is unknown leaves its field to the declared type. -/
theorem convertField_withoutAlias
    (hmarker : (declaration.markersOf name).knownAlias? knownTypes = none)
    (parameter : Parameter) :
    convertField knownTypes (declaration.withoutAlias name) parameter
      = convertField knownTypes declaration parameter := by
  by_cases haliased : parameter.name = name
  · subst haliased
    have hnone :
        ((declaration.withoutAlias parameter.name).markersOf
          parameter.name).knownAlias? knownTypes = none := by
      rw [markersOf_withoutAlias]
      rfl
    rw [convertField, convertField, fieldKind_of_knownAlias?_eq_none hnone,
      fieldKind_of_knownAlias?_eq_none hmarker, markersOf_withoutAlias]
    rfl
  · exact convertField_of_markersOf_eq rfl
      (markersOf_withoutAlias_of_ne haliased)

/-- Without the alias of a field the notes on the aliases of others stay. -/
theorem aliasNotes_withoutAlias_of_ne {field : Field}
    (hne : field.name.raw ≠ name) :
    (declaration.withoutAlias name).aliasNotes knownTypes field
      = declaration.aliasNotes knownTypes field := by
  simp only [aliasNotes, markersOf_withoutAlias_of_ne hne]
  rfl

/-- Without its alias a field has no note on one. -/
theorem aliasNotes_withoutAlias {field : Field}
    (hname : field.name.raw = name) :
    (declaration.withoutAlias name).aliasNotes knownTypes field = [] := by
  simp only [aliasNotes, hname, markersOf_withoutAlias]
  rfl

/-- With its alias, a field of an unknown target has one note. -/
theorem aliasNotes_of_unknown {field : Field} (hname : field.name.raw = name)
    (hmarker : (declaration.markersOf name).alias? = some marker)
    (hunknown : marker.target.trimBlank ∉ knownTypes) :
    declaration.aliasNotes knownTypes field
      = [.unresolvedAlias declaration.name name marker.target] := by
  have hcontains : knownTypes.contains marker.target.trimBlank = false :=
    Bool.eq_false_iff.2 (mt NameSet.contains_iff.1 hunknown)
  simp [aliasNotes, hname, hmarker, hcontains]

/-- Without the alias of a field, fields of other names have the notes that they
had. -/
theorem flatMap_notesOn_withoutAlias {fields : List Field}
    (hothers : ∀ field ∈ fields, field.name.raw ≠ name) :
    fields.flatMap ((declaration.withoutAlias name).notesOn knownTypes)
      = fields.flatMap (declaration.notesOn knownTypes) := by
  refine List.flatMap_congr fun field hfield => ?_
  rw [notesOn, notesOn, aliasNotes_withoutAlias_of_ne (hothers field hfield)]
  rfl

/-- **One note less**, while all others stay where they are. -/
theorem warnings_withoutAlias
    (hmarker : (declaration.markersOf name).alias? = some marker)
    (hunknown : marker.target.trimBlank ∉ knownTypes)
    {conversion without : FieldConversion}
    (hconversion : declaration.convertFields knownTypes = .ok conversion)
    (hwithout :
      (declaration.withoutAlias name).convertFields knownTypes = .ok without)
    (hsame : without.fields = conversion.fields)
    (hfield : name ∈ conversion.fields.map fun field => field.name.raw) :
    ∃ front back, without.warnings = front ++ back
      ∧ conversion.warnings = front ++ .unresolvedAlias declaration.name name
        marker.target :: back := by
  obtain ⟨field, hmem, hname⟩ := List.mem_map.1 hfield
  obtain ⟨earlier, later, hsplit⟩ := List.append_of_mem hmem
  have hnames := nodup_raw_of_convertFields hconversion
  have hothers : ∀ other ∈ earlier ++ later, other.name.raw ≠ name := by
    rw [hsplit, List.map_append, List.map_cons, List.nodup_middle,
      ← List.map_append, List.nodup_cons] at hnames
    intro other hother hclash
    exact hnames.1 (List.mem_map.2 ⟨other, hother, hclash.trans hname.symm⟩)
  have hearlier :=
    fun other hother => hothers other (List.mem_append_left later hother)
  have hlater :=
    fun other hother => hothers other (List.mem_append_right earlier hother)
  refine ⟨earlier.flatMap (declaration.notesOn knownTypes)
    ++ declaration.typeNotes field,
      later.flatMap (declaration.notesOn knownTypes)
      ++ (declaration.strangers conversion.fields).map
        (.unknownMarkerField declaration.name), ?_, ?_⟩
  · have hnotes : (declaration.withoutAlias name).notesOn knownTypes field
        = declaration.typeNotes field := by
      rw [notesOn, aliasNotes_withoutAlias hname, List.append_nil]
      rfl
    have hstrangers :
        (declaration.withoutAlias name).strangers conversion.fields
          = declaration.strangers conversion.fields := by
      rw [strangers, strangers, names_withoutAlias hmarker]
    rw [warnings_eq_notes hwithout, hsame, hstrangers, hsplit,
      List.flatMap_append, List.flatMap_cons,
      flatMap_notesOn_withoutAlias hearlier,
      flatMap_notesOn_withoutAlias hlater, hnotes]
    simp only [withoutAlias, List.append_assoc]
  · have hnotes : declaration.notesOn knownTypes field
        = declaration.typeNotes field
          ++ [.unresolvedAlias declaration.name name marker.target] := by
      rw [notesOn, aliasNotes_of_unknown hname hmarker hunknown]
    rw [warnings_eq_notes hconversion, hsplit, List.flatMap_append,
      List.flatMap_cons, hnotes]
    simp only [List.append_assoc, List.cons_append, List.nil_append]

/-- **The declaration without the alias** comes to the same failure, or to the
same fields and one warning less. -/
theorem convertFields_withoutAlias
    (hparameters : declaration.HasParameters parameters)
    (hfield : name ∈ parameters.map Parameter.name)
    (hmarker : (declaration.markersOf name).alias? = some marker)
    (hunknown : marker.target.trimBlank ∉ knownTypes) :
    Alike (declaration.OneNoteLess name marker.target)
      (declaration.convertFields knownTypes)
      ((declaration.withoutAlias name).convertFields knownTypes) := by
  have hread : (declaration.withoutAlias name).HasParameters parameters := by
    rw [← constructorParameters_eq_ok_iff] at hparameters ⊢
    exact hparameters
  have hnone : (declaration.markersOf name).knownAlias? knownTypes = none := by
    rw [knownAlias?_eq_none_iff, hmarker]
    intro other hother
    rwa [← Option.some.inj hother]
  have halike :
      Alike
        (fun conversion without =>
          List.Forall₂ Eq conversion.fields without.fields)
        (declaration.convertFields knownTypes)
        ((declaration.withoutAlias name).convertFields knownTypes) :=
    convertFields_alike rfl hparameters hread <|
      List.forall₂_same.2 fun parameter _ =>
        ⟨rfl, .of_eq (convertField_withoutAlias hnone parameter) fun _ _ => rfl⟩
  refine halike.imp fun conversion without hconversion hwithout hfields => ?_
  have hsame : without.fields = conversion.fields := by
    rw [List.forall₂_eq_eq_eq] at hfields
    exact hfields.symm
  have hnamed : name ∈ conversion.fields.map fun field => field.name.raw := by
    rwa [map_fields_eq (fun field => field.name.raw) Parameter.name
      (forall₂_of_convertFields hparameters hconversion) fun _ _ hfield =>
        (convertField_eq_ok hfield).1]
  obtain ⟨front, back, hless, hmore⟩ :=
    warnings_withoutAlias hmarker hunknown hconversion hwithout hsame hnamed
  have hordered := pairwise_place_warnings hconversion
  rw [hmore, List.pairwise_append, List.pairwise_cons] at hordered
  obtain ⟨-, ⟨hback, -⟩, hfront⟩ := hordered
  exact ⟨hsame, front, back, hless, hmore, fun warning hmem =>
    hfront warning hmem _ List.mem_cons_self, hback⟩

end Unknown

end Declaration

/-- **What an alias on a field does.**  If its trimmed target is known, the
field has a kind that is made of the target, the literal and whether the field
admits `null`; and any declaration that differs in nothing but the declared type
of this field, its default and its other markers has the same failure or the
same kinds, even where that type could not be classified.  If the target is
unknown, the declaration without the alias has the same failure, or the same
fields and the same warnings, but for the one about the alias, which stands in
its place at this field. -/
theorem alias_marker_outcome {knownTypes : NameSet} {declaration : Declaration}
    {name : String} {marker : Alias} {parameters : List Parameter}
    (hparameters : declaration.HasParameters parameters)
    (hfield : name ∈ parameters.map Parameter.name)
    (hmarker : (declaration.markersOf name).alias? = some marker) :
    (marker.target.trimBlank ∈ knownTypes →
        (∀ conversion, declaration.convertFields knownTypes = .ok conversion →
          ∀ field ∈ conversion.fields, field.name.raw = name →
            ∃ parameter ∈ parameters, parameter.name = name
              ∧ field.kind = marker.kind
                (parameter.nullable || (declaration.markersOf name).nullable))
        ∧ ∀ other twins, other.HasParameters twins →
            Declaration.SameUnderAlias name declaration other parameters twins →
              Alike (Declaration.SameKinds name)
                (declaration.convertFields knownTypes)
                (other.convertFields knownTypes))
      ∧ (marker.target.trimBlank ∉ knownTypes →
          Alike (declaration.OneNoteLess name marker.target)
            (declaration.convertFields knownTypes)
            ((declaration.withoutAlias name).convertFields knownTypes)) := by
  refine ⟨fun hknown => ?_,
    Declaration.convertFields_withoutAlias hparameters hfield hmarker⟩
  have hcounts : (declaration.markersOf name).knownAlias? knownTypes
      = some marker :=
    knownAlias?_eq_some_iff.2 ⟨hmarker, hknown⟩
  constructor
  · intro conversion hconversion field hmem hname
    exact Declaration.kind_of_known hparameters hcounts hconversion hmem hname
  · intro other twins htwins hsame
    exact Declaration.convertFields_sameUnderAlias hparameters
      htwins hsame hcounts

/-- The parameters of a declaration, the second of which has an alias. -/
def bookcaseParameters : List Parameter :=
  [{ name := "owner", type := "Owner>" },
    { name := "books", type := "java.util.Map<K, com.books.Book",
      nullable := true }, { name := "id", type := "long" }]

def bookcaseDeclaration : Declaration :=
  { name := "Bookcase"
    parameters? := some bookcaseParameters
    markers := .ofList [("room", {}),
      ("books", { isMutable := true, alias? := some
                    { target := "com.books.Books", literal := "Books()" } })] }

/-- The same parameters, but for a type that is one argument short. -/
def bookcaseTwins : List Parameter :=
  [{ name := "owner", type := "Owner>" },
    { name := "books", type := "java.util.Map<com.books.Book>",
      hasDefault := true }, { name := "id", type := "long" }]

/-- The same alias, among other markers. -/
def bookcaseTwin : Declaration :=
  { bookcaseDeclaration with
    parameters? := some bookcaseTwins
    markers := bookcaseDeclaration.markers.put "books"
      { nullable := true, isUnsigned := true, genericNullable := [true]
        alias? :=
          some { target := " com.books.Books", literal := " Books() " } } }

/-- The two declarations are the same but for the field `books`. -/
theorem sameUnderAlias_bookcase :
    Declaration.SameUnderAlias "books" bookcaseDeclaration bookcaseTwin
      bookcaseParameters bookcaseTwins where
  name_eq := rfl
  markers_eq := by
    intro field hne
    rw [Declaration.markersOf, bookcaseTwin, Catalog.get?_put, if_neg hne]
    rfl
  content_eq := by decide +kernel
  parameters_eq := by
    have hnullable : (bookcaseTwin.markersOf "books").nullable = true := by
      decide +kernel
    simp [bookcaseParameters, bookcaseTwins, hnullable]

/-- With a known target the two come to the same kinds, although one of the
types cannot be classified.  With an unknown one the first declaration comes to
four warnings, and the third of them is gone with the alias. -/
theorem alias_marker_outcome_bookcase :
    classify {} [] "java.util.Map<com.books.Book>"
        = .error ⟨"java.util.Map", 2, 1⟩
      ∧ (∃ conversion twin,
        bookcaseDeclaration.convertFields (NameSet.ofList ["com.books.Books"])
            = .ok conversion
          ∧ bookcaseTwin.convertFields (NameSet.ofList ["com.books.Books"])
            = .ok twin
          ∧ Declaration.SameKinds "books" conversion twin)
      ∧ ∃ conversion without,
        bookcaseDeclaration.convertFields ∅ = .ok conversion
          ∧ (bookcaseDeclaration.withoutAlias "books").convertFields ∅
            = .ok without
          ∧ conversion.warnings
            = [.malformedGenerics "Bookcase" "owner" "Owner>",
              .malformedGenerics "Bookcase" "books"
                "java.util.Map<K, com.books.Book",
              .unresolvedAlias "Bookcase" "books" "com.books.Books",
              .unknownMarkerField "Bookcase" "room"]
          ∧ bookcaseDeclaration.OneNoteLess "books" "com.books.Books"
            conversion without := by
  have hparameters :
      bookcaseDeclaration.HasParameters bookcaseParameters := .given rfl
  have htwins : bookcaseTwin.HasParameters bookcaseTwins := .given rfl
  have hfield : "books" ∈ bookcaseParameters.map Parameter.name := by decide
  have hmarker : (bookcaseDeclaration.markersOf "books").alias? =
      some { target := "com.books.Books", literal := "Books()" } := by
    decide +kernel
  refine ⟨failure?_eq_some_iff.1 (by decide +kernel), ?_, ?_⟩
  · obtain ⟨hknown, -⟩ := @alias_marker_outcome
      (NameSet.ofList ["com.books.Books"]) _ _ _ _ hparameters hfield hmarker
    obtain ⟨-, htwin⟩ := hknown (NameSet.contains_iff.1 (by decide +kernel))
    obtain ⟨conversion, hconversion⟩ := failure?_eq_none_iff.1
      (show failure? (bookcaseDeclaration.convertFields
        (NameSet.ofList ["com.books.Books"])) = none by decide +kernel)
    obtain ⟨twin, hconverted, hkinds⟩ :=
      (htwin bookcaseTwin bookcaseTwins htwins
        sameUnderAlias_bookcase).exists_of_eq_ok hconversion
    exact ⟨conversion, twin, hconversion, hconverted, hkinds⟩
  · obtain ⟨-, hunknown⟩ :=
      @alias_marker_outcome ∅ _ _ _ _ hparameters hfield hmarker
    have hshown :
        (bookcaseDeclaration.convertFields ∅).toOption.map
            FieldConversion.warnings
          = some [.malformedGenerics "Bookcase" "owner" "Owner>",
            .malformedGenerics "Bookcase" "books"
              "java.util.Map<K, com.books.Book",
            .unresolvedAlias "Bookcase" "books" "com.books.Books",
            .unknownMarkerField "Bookcase" "room"] := by
      decide +kernel
    obtain ⟨conversion, hconversion, hwarnings⟩ :=
      exists_ok_of_map_toOption hshown
    obtain ⟨without, hwithout, hless⟩ :=
      (hunknown NameSet.not_mem_empty).exists_of_eq_ok hconversion
    exact ⟨conversion, without, hconversion, hwithout, hwarnings, hless⟩

end KotlinBuilders
