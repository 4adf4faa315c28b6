import KotlinBuilders.Proofs.BuilderUse
import KotlinBuilders.Proofs.ImportCoverage
import KotlinBuilders.Proofs.KnownNames
import KotlinBuilders.Proofs.RunAccounts

/-!
# The slots of a builder

What a builder declares for a field is decided in four places: the type of its
slot, the literal it starts from, the modifiers, and the check that `build`
makes.  `Module.SlotsAgree` says what has to hold between them, and
`slotsAgree_of_convert` that it does, for every declaration that is converted.

The modifiers and the check depend on the literal alone: a slot is deferred
exactly when it starts from nothing (`Kind.initializer?_eq_none_iff`), and the
check compares with the literal where there is one.  The type matters for
`null`, which only a type that admits it may start from.  No classified type has
`null` for its literal (`Kind.literal?_ne_null`), and an alias that names it
counts as naming none.
-/

namespace KotlinBuilders

/-- The presence checks that a body makes. -/
def BuildBody.checks (body : BuildBody) : List PresenceCheck :=
  body.branches.flatMap Branch.checks

/-- The calls that a body can make. -/
def BuildBody.calls : BuildBody → List ConstructorCall
  | .direct call => [call]
  | .guarded branches fallback => branches.map Branch.call ++ [fallback]

/-- Whether a check is the right one for a property: a deferred one is asked
whether it is initialized, any other one whether it differs from its
initializer. -/
def PresenceCheck.Tests (property : Property) : PresenceCheck → Prop
  | .initialized field => field = property.name ∧ property.isDeferred = true
  | .differs field literal =>
    field = property.name ∧ property.isDeferred = false
      ∧ property.initializer? = some literal

/-- The slots of a module agree with the fields, with one another and with what
`build` does. -/
structure Module.SlotsAgree (model : Module) (fields : List Field) : Prop where
  distinct : (fields.map Field.name).Nodup
  properties : model.builder.properties.map Property.name
    = fields.map Field.name
  setters : model.builder.setters.map Setter.field = fields.map Field.name
  types : model.builder.setters.map Setter.type
    = model.builder.properties.map Property.type
  started : ∀ property ∈ model.builder.properties, property.isDeferred = false →
    property.initializer?.isSome
  deferred : ∀ property ∈ model.builder.properties, property.isDeferred = true →
    property.initializer? = none ∧ property.type.nullable = false
  null : ∀ property ∈ model.builder.properties, property.initializer?
    = some nullLiteral → property.type.nullable = true
  checks : ∀ check ∈ model.builder.body.checks,
    ∃ property ∈ model.builder.properties, check.Tests property
  arguments : ∀ call ∈ model.builder.body.calls, ∀ name ∈ call.arguments,
    name ∈ model.builder.properties.map Property.name
  /-- No check holds before a setter is called, whatever the literals mean. -/
  unset : ∀ check ∈ model.builder.body.checks,
    ∀ {Value : Type} [DecidableEq Value] (interpretation :
      Interpretation Value),
    (model.builder.newSlots interpretation).holds interpretation check = false

namespace Kind

/-- Whether a kind stands for a type that a marker put in place of the declared
one. -/
def isAlias : Kind → Bool
  | .aliased .. => true
  | _ => false

/-- A kind that is neither deferred nor admits `null` has a literal. -/
theorem isSome_literal?_of_started {kind : Kind}
    (hstarted : kind.isDeferred = false) (hnonnull : kind.nullable = false) :
    kind.literal?.isSome := by
  simpa [isDeferred, hnonnull] using hstarted

/-- What a slot starts from that is not deferred: `null` if its type admits it,
but an alias prefers its literal. -/
theorem initializer?_of_started {kind : Kind}
    (hstarted : kind.isDeferred = false) :
    kind.initializer? =
      some (if kind.nullable && !kind.isAlias then nullLiteral
        else kind.literal?.getD nullLiteral) := by
  have hliteral := isSome_literal?_of_started hstarted
  unfold initializer?
  rw [if_neg (by simp [hstarted])]
  cases kind with
  | aliased => simp [isAlias, literal?]
  | _ =>
    simp only [isAlias, Bool.not_false, Bool.and_true]
    split
    · rfl
    · next hnonnull =>
      obtain ⟨literal, hsome⟩ :=
        Option.isSome_iff_exists.1 (hliteral (by simpa using hnonnull))
      rw [hsome, Option.getD_some]

/-- Only an alias could name `null` as its literal. -/
theorem literal?_ne_null {kind : Kind} (hkind : kind.isAlias = false) :
    kind.literal? ≠ some nullLiteral := by
  cases kind with
  | primitive type =>
    cases type <;> simp [literal?, nullLiteral, Primitive.zero]
  | unsigned type => cases type <;> simp [literal?, nullLiteral, Unsigned.zero]
  | wellKnown type =>
    cases type <;> simp [literal?, nullLiteral, WellKnown.literal?]
  | aliased => cases hkind
  | _ => simp [literal?, nullLiteral]

/-- **A slot is deferred exactly when it starts from nothing.** -/
theorem initializer?_eq_none_iff {kind : Kind} : kind.initializer? = none ↔
    kind.isDeferred = true := by
  cases hdeferred : kind.isDeferred with
  | true => simp [initializer?, hdeferred]
  | false => simp [initializer?_of_started hdeferred]

/-- A deferred kind admits no `null`. -/
theorem nullable_of_isDeferred {kind : Kind}
    (hdeferred : kind.isDeferred = true) : kind.nullable = false := by
  rw [isDeferred, Bool.and_eq_true, Bool.not_eq_true'] at hdeferred
  exact hdeferred.1

/-- A slot starts from `null` only where its type admits it, unless an alias has
`null` for its literal. -/
theorem nullable_of_initializer? {kind : Kind}
    (hliteral : kind.literal? ≠ some nullLiteral)
    (hnull : kind.initializer? = some nullLiteral) : kind.nullable = true := by
  have hstarted : kind.isDeferred = false := by
    rw [← Bool.not_eq_true, ← initializer?_eq_none_iff, hnull]
    simp
  rw [initializer?_of_started hstarted] at hnull
  by_contra hnullable
  have hnonnull : kind.nullable = false := by simpa using hnullable
  obtain ⟨literal, hsome⟩ :=
    Option.isSome_iff_exists.1 (isSome_literal?_of_started hstarted hnonnull)
  rw [hnonnull, hsome] at hnull
  exact hliteral (hsome.trans hnull)

/-- A plain name is not classified as an alias. -/
theorem isAlias_ofName (flags : TypeFlags) (name : List Char) :
    (ofName flags name).isAlias = false := by
  unfold ofName
  split
  · unfold ofPrimitive
    split <;> rfl
  · split
    · next kind hkind =>
      obtain ⟨type, rfl⟩ := exists_of_ofLibraryName? hkind
      cases type <;> rfl
    · rfl

/-- An array of a primitive type is not classified as an alias. -/
theorem isAlias_ofPrimitiveArray (flags : TypeFlags) (element : Primitive) :
    (ofPrimitiveArray flags element).isAlias = false := by
  unfold ofPrimitiveArray
  split <;> rfl

/-- A generic type is not classified as an alias. -/
theorem isAlias_ofGeneric {flags : TypeFlags} {outer : List Char}
    {arguments : List Kind} {kind : Kind}
    (hkind : ofGeneric flags outer arguments = .ok kind) :
    kind.isAlias = false := by
  unfold ofGeneric at hkind
  split at hkind
  · next container _ =>
    split at hkind
    · next found hfound =>
      obtain rfl := Except.ok.inj hkind
      unfold Container.kind? at hfound
      split at hfound <;> cases hfound <;> rfl
    · cases hkind
  · obtain rfl := Except.ok.inj hkind
    rfl

end Kind

/-- Classification makes no alias; only a marker does. -/
theorem HostType.isAlias_of_classify {type : HostType} {flags : TypeFlags}
    {slots : List Bool} {kind : Kind}
    (hkind : type.classify flags slots = .ok kind) : kind.isAlias = false := by
  cases type with
  | named name =>
    obtain rfl := Except.ok.inj hkind
    exact Kind.isAlias_ofName flags name
  | primitiveArray element =>
    obtain rfl := Except.ok.inj hkind
    exact Kind.isAlias_ofPrimitiveArray flags element
  | arrayOf element =>
    rw [classify] at hkind
    obtain ⟨_, -, hkind⟩ := bind_eq_ok_iff.1 hkind
    obtain rfl := Except.ok.inj hkind
    rfl
  | applied outer arguments =>
    rw [classify] at hkind
    obtain ⟨_, -, hkind⟩ := bind_eq_ok_iff.1 hkind
    exact Kind.isAlias_ofGeneric hkind
  | blank | wildcard | brokenGeneric | brokenName =>
    obtain rfl := Except.ok.inj hkind
    rfl

/-- The literal of an alias is not `null`, because a marker that says so counts
as naming none. -/
theorem Alias.explicitLiteral?_ne_null (marker : Alias) :
    marker.explicitLiteral? ≠ some nullLiteral := by
  unfold explicitLiteral?
  split
  · nofun
  · next hproper =>
    intro hnull
    exact hproper (.inr (Option.some.inj hnull))

/-- **No field has `null` for the literal of its type.** -/
theorem literal?_ne_null_of_convertField {knownTypes : NameSet}
    {declaration : Declaration} {parameter : Parameter} {field : Field}
    (hfield : convertField knownTypes declaration parameter = .ok field) :
    field.kind.literal? ≠ some nullLiteral := by
  rcases kind_of_convertField hfield with
    ⟨nullable, marker, hkind⟩ | ⟨flags, slots, hkind⟩
  · obtain ⟨target, -, hsame⟩ := Option.map_eq_some_iff.1 hkind
    rw [← hsame]
    exact marker.explicitLiteral?_ne_null
  · exact Kind.literal?_ne_null (HostType.isAlias_of_classify hkind)

section Assemble

variable {naming : Naming} {declaration : Declaration}
  {typeVars : List TypeVariable} {fields : List Field} {target : String}

/-- A body checks the slots of optional fields, each in the way that the field's
kind says. -/
theorem exists_field_of_mem_checks {check : PresenceCheck}
    (hcheck : check ∈ (buildBody target fields).checks) :
    ∃ field ∈ fields, field.isOptional ∧ field.check = check := by
  simp only [BuildBody.checks, buildBody] at hcheck
  split at hcheck
  · cases hcheck
  · simp only [BuildBody.branches, List.flatMap_map, List.mem_flatMap] at hcheck
    obtain ⟨chosen, hchosen, hmem⟩ := hcheck
    obtain ⟨field, hfield, rfl⟩ := List.mem_map.1 hmem
    obtain ⟨hsublist, -⟩ := mem_descendingSubsets.1 hchosen
    obtain ⟨hdeclared, hoptional⟩ := List.mem_filter.1 (hsublist.subset hfield)
    exact ⟨field, hdeclared, hoptional, rfl⟩

/-- A body passes fields only. -/
theorem mem_fields_of_mem_calls {call : ConstructorCall}
    (hcall : call ∈ (buildBody target fields).calls) {name : FieldName}
    (hname : name ∈ call.arguments) : name ∈ fields.map Field.name := by
  have hmade : ∃ chosen, callWith target fields chosen = call := by
    simp only [buildBody] at hcall
    split at hcall
    · exact ⟨[], (List.mem_singleton.1 hcall).symm⟩
    · rw [BuildBody.calls, List.mem_append, List.mem_singleton, List.map_map,
        List.mem_map] at hcall
      rcases hcall with ⟨chosen, -, rfl⟩ | rfl
      · exact ⟨chosen, rfl⟩
      · exact ⟨[], rfl⟩
  obtain ⟨chosen, rfl⟩ := hmade
  have hpassed : (callWith target fields chosen).arguments.Sublist
      (fields.map Field.name) :=
    List.filter_sublist.map Field.name
  exact hpassed.subset hname

/-- The check of a field is the right one for its property, whatever the
spelling of the type. -/
theorem tests_fieldProperty (field : Field) (type : TypeRef) :
    field.check.Tests (fieldProperty field type) := by
  have hdeferred : field.kind.initializer? = none ↔
      (fieldProperty field type).isDeferred = true := by
    rw [isDeferred_fieldProperty]
    exact Kind.initializer?_eq_none_iff
  rw [Field.check, Kind.presenceCheck]
  cases hstart : field.kind.initializer? with
  | none => exact ⟨rfl, hdeferred.1 hstart⟩
  | some literal =>
    refine ⟨rfl, ?_, hstart⟩
    rw [← Bool.not_eq_true, ← hdeferred, hstart]
    simp

/-- A property admits `null` when the kind of its field does, however the type
is spelled. -/
theorem nullable_fieldProperty (field : Field) (qualified : NameSet) :
    (fieldProperty field (field.kind.typeRef.qualify qualified)).type.nullable
      = field.kind.nullable := by
  rw [fieldProperty, TypeRef.nullable_qualify, Kind.nullable_typeRef]

/-- There is a setter for each field, in their order. -/
theorem setterFields_assemble :
    (assemble naming declaration typeVars fields).builder.setters.map
      Setter.field = fields.map Field.name := by
  simp only [assemble, List.map_map, List.zipWith_map_right, List.zipWith_self]
  rfl

/-- There is a property for each field, in their order. -/
theorem propertyNames_assemble :
    (assemble naming declaration typeVars fields).builder.properties.map
      Property.name = fields.map Field.name := by
  rw [properties_assemble, List.map_map]
  rfl

/-- **Slots agree** where names are distinct and no field has `null` for the
literal of its type. -/
theorem slotsAgree_assemble (hdistinct : (fields.map Field.name).Nodup)
    (hliteral : ∀ field ∈ fields, field.kind.literal? ≠ some nullLiteral) :
    (assemble naming declaration typeVars fields).SlotsAgree fields := by
  have hbody : (assemble naming declaration typeVars fields).builder.body
      = buildBody declaration.name fields := rfl
  have hproperty :
      ∀ property
        ∈ (assemble naming declaration typeVars fields).builder.properties,
      ∃ field ∈ fields,
        fieldProperty field (field.kind.typeRef.qualify
          (moduleClashes declaration typeVars fields)) = property := by
    rw [properties_assemble]
    exact fun property => List.mem_map.1
  constructor
  case distinct => exact hdistinct
  case properties => exact propertyNames_assemble
  case setters => exact setterFields_assemble
  case types => exact setterTypes_assemble
  case started =>
    intro property hmem hstarted
    obtain ⟨field, -, rfl⟩ := hproperty property hmem
    rw [isDeferred_fieldProperty] at hstarted
    simp [fieldProperty, Kind.initializer?_of_started hstarted]
  case deferred =>
    intro property hmem hdeferred
    obtain ⟨field, -, rfl⟩ := hproperty property hmem
    rw [isDeferred_fieldProperty] at hdeferred
    rw [nullable_fieldProperty]
    exact ⟨Kind.initializer?_eq_none_iff.2 hdeferred,
      Kind.nullable_of_isDeferred hdeferred⟩
  case null =>
    intro property hmem hnull
    obtain ⟨field, hfield, rfl⟩ := hproperty property hmem
    rw [nullable_fieldProperty]
    exact Kind.nullable_of_initializer? (hliteral field hfield) hnull
  case checks =>
    intro check hcheck
    obtain ⟨field, hfield, -, rfl⟩ := exists_field_of_mem_checks hcheck
    refine ⟨_, ?_, tests_fieldProperty field
      (field.kind.typeRef.qualify (moduleClashes declaration typeVars fields))⟩
    rw [properties_assemble]
    exact List.mem_map_of_mem hfield
  case arguments =>
    intro call hcall name hname
    rw [propertyNames_assemble]
    exact mem_fields_of_mem_calls hcall hname
  case unset =>
    intro check hcheck Value _ interpretation
    obtain ⟨field, hfield, -, rfl⟩ := exists_field_of_mem_checks hcheck
    rw [← Bool.not_eq_true, holds_check_iff, newSlots_assemble hdistinct hfield]
    exact fun hne => hne rfl

end Assemble

/-- Fields of converted parameters have the parameters' names, which are
distinct. -/
theorem Declaration.names_nodup_of_convertFields {knownTypes : NameSet}
    {declaration : Declaration} {conversion : FieldConversion}
    (hconversion : declaration.convertFields knownTypes = .ok conversion) :
    (conversion.fields.map Field.name).Nodup := by
  have hnodup := Declaration.nodup_raw_of_convertFields hconversion
  exact List.Nodup.of_map FieldName.raw (by rwa [List.map_map])

/-- **The slots of a builder agree.**  In the module of a converted declaration
the fields, the properties and the setters go by the same names one by one, and
a setter takes what its property holds; a property starts from a literal or is
deferred and not nullable, and it starts from `null` only where its type admits
it; `build` asks of each slot the question that fits it, which no slot answers
before it is set; and it reads the slots of properties only. -/
theorem slotsAgree_of_convert {naming : Naming} {knownTypes : NameSet}
    {declaration : Declaration} {conversion : Conversion}
    (hconversion : convert naming knownTypes declaration = .ok conversion) :
    conversion.model.SlotsAgree conversion.fields := by
  obtain ⟨hfields, hmodel⟩ := convert_eq_ok_iff.1 hconversion
  obtain ⟨typeVars, -, hassemble⟩ := synthesize_eq_ok_iff.1 hmodel
  obtain ⟨parameters, -, -, hconverted, -⟩ :=
    Declaration.convertFields_eq_ok_iff.1 hfields
  rw [← hassemble]
  refine slotsAgree_assemble
    (Declaration.names_nodup_of_convertFields hfields) ?_
  intro field hmem
  obtain ⟨parameter, -, hfield⟩ := exists_of_mem_forall₂ hconverted hmem
  exact literal?_ne_null_of_convertField hfield

/-- A declaration whose slots start in every way there is: two are deferred, one
of them by an alias that names no literal, and an alias with a literal starts
from it although it admits `null`. -/
def jobDeclaration : Declaration :=
  { name := "Job", package := "com.jobs",
    parameters? := some
      [{ name := "steps", type := "java.util.List<com.jobs.Step>",
         hasDefault := true },
        { name := "owner", type := "com.people.Owner", nullable := true },
        { name := "retries", type := "int", hasDefault := true },
        { name := "queue", type := "com.jobs.Queue", hasDefault := true },
        { name := "mode", type := "com.jobs.Mode", nullable := true }],
    markers := Catalog.ofList
      [("queue", { alias? := some { target := "com.jobs.Fifo" } }),
        ("mode", { alias? := some { target := "com.jobs.Fast",
                                    literal := " Fast() " } })] }

/-- The slots of the declaration agree, and each starts as it should. -/
theorem slotsAgree_of_convert_job :
    ∃ conversion,
      convert {} (NameSet.ofList ["com.jobs.Fast", "com.jobs.Fifo"])
          jobDeclaration = .ok conversion
      ∧ conversion.model.SlotsAgree conversion.fields
      ∧ conversion.model.builder.properties.map Property.initializer?
        = [none, some "null", some "0", none, some "Fast()"]
      ∧ conversion.model.builder.body.branches.length = 7 := by
  have hshown :
      (convert {} (NameSet.ofList ["com.jobs.Fast", "com.jobs.Fifo"])
        jobDeclaration).toOption.map (fun conversion =>
          (conversion.model.builder.properties.map Property.initializer?,
            conversion.model.builder.body.branches.length))
        = some ([none, some "null", some "0", none, some "Fast()"], 7) := by
        decide +kernel
  obtain ⟨conversion, hconversion, hview⟩ := exists_ok_of_map_toOption hshown
  obtain ⟨hinitializers, hbranches⟩ := Prod.mk.inj hview
  exact ⟨conversion, hconversion, slotsAgree_of_convert hconversion,
    hinitializers, hbranches⟩

end KotlinBuilders
