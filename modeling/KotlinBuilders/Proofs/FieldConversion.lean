import KotlinBuilders.Conversion.Fields
import Mathlib.Data.List.Forall2
import Mathlib.Data.List.Nodup

/-!
# When the parameters of a declaration become its fields

The parameters are converted one after the other, each with the names before it.
The conversion succeeds exactly when no name occurs twice and every parameter
can be converted by itself (`convertFields_eq_ok_iff`); what comes out are the
parameters in their order, each with its name, its declared type and its
default.
-/

namespace KotlinBuilders

/-- Two steps give a value when the first one gives something from which the
second one goes on to it. -/
theorem bind_eq_ok_iff {ε α β : Type} {first : Except ε α}
    {next : α → Except ε β} {value : β} :
    (first >>= next) = .ok value ↔ ∃ a, first = .ok a ∧ next a = .ok value := by
  cases first <;> simp [bind, Except.bind]

/-- A traversal that succeeds gives an output for each input. -/
theorem forall₂_of_mapM {ε α β : Type} {action : α → Except ε β}
    {inputs : List α} {outputs : List β}
    (hmapped : inputs.mapM action = .ok outputs) :
    List.Forall₂ (fun input output => action input = .ok output)
      inputs outputs := by
  induction inputs generalizing outputs with
  | nil =>
    obtain rfl := Except.ok.inj hmapped
    exact .nil
  | cons input inputs ih =>
    rw [List.mapM_cons] at hmapped
    obtain ⟨output, houtput, hmapped⟩ := bind_eq_ok_iff.1 hmapped
    obtain ⟨others, hothers, hmapped⟩ := bind_eq_ok_iff.1 hmapped
    obtain rfl := Except.ok.inj hmapped
    exact .cons houtput (ih hothers)

/-- Every output belongs to an input. -/
theorem exists_of_mem_forall₂ {α β : Type} {related : α → β → Prop}
    {inputs : List α} {outputs : List β}
    (hall : List.Forall₂ related inputs outputs) {output : β}
    (houtput : output ∈ outputs) :
    ∃ input ∈ inputs, related input output := by
  induction hall with
  | nil => cases houtput
  | cons hfirst _ ih =>
    rcases List.mem_cons.1 houtput with rfl | hmem
    · exact ⟨_, List.mem_cons_self, hfirst⟩
    · obtain ⟨input, hinput, hrelated⟩ := ih hmem
      exact ⟨input, List.mem_cons_of_mem _ hinput, hrelated⟩

/-- What every output shares with its input, the outputs share with the
inputs. -/
theorem map_eq_of_forall₂ {α β γ : Type} {related : α → β → Prop}
    {inputs : List α} {outputs : List β} (ofOutput : β → γ) (ofInput : α → γ)
    (hall : List.Forall₂ related inputs outputs)
    (hsame : ∀ input output, related input output →
      ofOutput output = ofInput input) :
    outputs.map ofOutput = inputs.map ofInput := by
  induction hall with
  | nil => rfl
  | cons hfirst _ ih => rw [List.map_cons, List.map_cons, hsame _ _ hfirst, ih]

/-- A result that shows something is there. -/
theorem exists_ok_of_map_toOption {ε α β : Type} {result : Except ε α}
    {view : α → β} {shown : β}
    (hshown : result.toOption.map view = some shown) :
    ∃ value, result = .ok value ∧ view value = shown := by
  cases result with
  | error failure => cases hshown
  | ok value => exact ⟨value, rfl, Option.some.inj hshown⟩

variable {knownTypes : NameSet} {declaration : Declaration}

/-- A field keeps what its parameter says. -/
theorem convertField_eq_ok {parameter : Parameter} {field : Field}
    (hfield : convertField knownTypes declaration parameter = .ok field) :
    field.name.raw = parameter.name ∧ field.declaredType = parameter.type
      ∧ field.hasDefault = parameter.hasDefault := by
  unfold convertField at hfield
  split at hfield
  · cases hfield
    exact ⟨rfl, rfl, rfl⟩
  · cases hfield

/-- The kind of a converted field is the one that is chosen for its
parameter. -/
theorem fieldKind_of_convertField {parameter : Parameter} {field : Field}
    (hfield : convertField knownTypes declaration parameter = .ok field) :
    fieldKind knownTypes (declaration.markersOf parameter.name) parameter
      = .ok field.kind := by
  unfold convertField at hfield
  split at hfield
  · next kind hkind =>
    obtain rfl := Except.ok.inj hfield
    exact hkind
  · cases hfield

/-- The kind of a field is that of an alias whose target is known, or what its
declared type is classified as. -/
theorem kind_of_convertField {parameter : Parameter} {field : Field}
    (hfield : convertField knownTypes declaration parameter = .ok field) :
    (∃ nullable marker, resolvedAlias? knownTypes nullable marker
      = some field.kind)
      ∨ ∃ flags slots, classify flags slots field.declaredType
        = .ok field.kind := by
  have hkind := fieldKind_of_convertField hfield
  simp only [fieldKind] at hkind
  split at hkind
  · next resolved hresolved =>
    obtain rfl := Except.ok.inj hkind
    obtain ⟨marker, -, htarget⟩ := Option.bind_eq_some_iff.1 hresolved
    exact .inl ⟨_, marker, htarget⟩
  · rw [(convertField_eq_ok hfield).2.1]
    exact .inr ⟨_, _, hkind⟩

/-- **When parameters become fields**: no name occurs twice or among those
before, and each parameter is converted by itself. -/
theorem convertFields_eq_ok_iff {before : List String}
    {parameters : List Parameter} {fields : List Field} :
    convertFields knownTypes declaration before parameters = .ok fields ↔
      (parameters.map Parameter.name).Nodup
      ∧ (∀ parameter ∈ parameters, parameter.name ∉ before)
        ∧ List.Forall₂ (fun parameter field =>
          convertField knownTypes declaration parameter
              = .ok field) parameters fields := by
  -- Each parameter joins the names before those that follow, so these names
  -- vary along the list.
  induction parameters generalizing before fields with
  | nil =>
    simp only [convertFields, List.map_nil, List.nodup_nil,
      List.forall₂_nil_left_iff, List.not_mem_nil]
    constructor
    · intro hfields
      cases hfields
      exact ⟨trivial, fun _ hmem => hmem.elim, rfl⟩
    · rintro ⟨-, -, rfl⟩
      rfl
  | cons parameter parameters ih =>
    rw [convertFields, List.map_cons, List.nodup_cons, List.forall_mem_cons,
      List.forall₂_cons_left_iff]
    split
    · next hold =>
      have hmem : parameter.name ∈ before := by simpa using hold
      constructor
      · intro hfields
        cases hfields
      · rintro ⟨-, ⟨hnew, -⟩, -⟩
        exact absurd hmem hnew
    · next hnew =>
      have habsent : parameter.name ∉ before := by simpa using hnew
      simp only [bind_eq_ok_iff, ih, pure, Except.pure, Except.ok.injEq,
        List.mem_cons, List.mem_map, not_or]
      constructor
      · rintro ⟨field, hfield, rest, ⟨hnodup, hbefore, hrest⟩, rfl⟩
        refine ⟨⟨?_, hnodup⟩, ⟨habsent, fun other hother =>
          (hbefore other hother).2⟩, field, rest, hfield, hrest, rfl⟩
        rintro ⟨other, hother, hsame⟩
        exact (hbefore other hother).1 hsame
      · rintro ⟨⟨hfresh, hnodup⟩, ⟨-, hbefore⟩, field, rest, hfield, hrest, rfl⟩
        refine ⟨field, hfield, rest,
          ⟨hnodup, fun other hother => ⟨?_, hbefore other hother⟩, hrest⟩, rfl⟩
        intro hsame
        exact hfresh ⟨other, hother, hsame⟩

/-- What every field shares with its parameter, the fields share with the
parameters. -/
theorem map_fields_eq {α : Type} {parameters : List Parameter}
    {fields : List Field} (ofField : Field → α) (ofParameter : Parameter → α)
    (hfields :
      List.Forall₂ (fun parameter field => convertField knownTypes declaration
        parameter = .ok field) parameters fields)
    (hsame : ∀ parameter field,
      convertField knownTypes declaration parameter = .ok field →
      ofField field = ofParameter parameter) :
    fields.map ofField = parameters.map ofParameter :=
  map_eq_of_forall₂ ofField ofParameter hfields hsame

/-- The fields of a declaration are those of its constructor parameters, whose
names differ. -/
theorem Declaration.convertFields_eq_ok_iff {conversion : FieldConversion} :
    declaration.convertFields knownTypes = .ok conversion ↔
      ∃ parameters, declaration.constructorParameters = .ok parameters
        ∧ (parameters.map Parameter.name).Nodup
        ∧ List.Forall₂ (fun parameter field =>
          convertField knownTypes declaration parameter
            = .ok field) parameters conversion.fields
        ∧ conversion.warnings
          = parameters.flatMap (fieldWarnings knownTypes declaration)
            ++ unknownMarkerWarnings declaration parameters := by
  obtain ⟨fields, warnings⟩ := conversion
  simp only [Declaration.convertFields, bind_eq_ok_iff,
    KotlinBuilders.convertFields_eq_ok_iff, pure, Except.pure, Except.ok.injEq,
    FieldConversion.mk.injEq]
  constructor
  · rintro ⟨parameters, hparameters, _, ⟨hnodup, -, hfields⟩, rfl, rfl⟩
    exact ⟨parameters, hparameters, hnodup, hfields, rfl⟩
  · rintro ⟨parameters, hparameters, hnodup, hfields, rfl⟩
    exact ⟨parameters, hparameters, fields,
      ⟨hnodup, fun _ _ => List.not_mem_nil, hfields⟩, rfl, rfl⟩

/-- The fields of a declaration have different names. -/
theorem Declaration.nodup_raw_of_convertFields {conversion : FieldConversion}
    (hconversion : declaration.convertFields knownTypes = .ok conversion) :
    (conversion.fields.map fun field => field.name.raw).Nodup := by
  obtain ⟨parameters, -, hnodup, hfields, -⟩ :=
    Declaration.convertFields_eq_ok_iff.1 hconversion
  rwa [map_fields_eq _ Parameter.name hfields fun _ _ hfield =>
    (convertField_eq_ok hfield).1]

/-- No warning about a parameter says that its declaration was skipped. -/
theorem isSkip_of_mem_fieldWarnings {parameter : Parameter} {warning : Warning}
    (hwarning : warning ∈ fieldWarnings knownTypes declaration parameter) :
    warning.isSkip = false := by
  unfold fieldWarnings at hwarning
  rcases List.mem_append.1 hwarning with hmalformed | hunresolved
  · split at hmalformed
    · cases hmalformed
    · rw [List.mem_singleton.1 hmalformed]
      rfl
  · split at hunresolved
    · split at hunresolved
      · cases hunresolved
      · rw [List.mem_singleton.1 hunresolved]
        rfl
    · cases hunresolved

/-- A warning about a marker of no field does not say that its declaration was
skipped. -/
theorem isSkip_of_mem_unknownMarkerWarnings {parameters : List Parameter}
    {warning : Warning}
    (hwarning : warning ∈ unknownMarkerWarnings declaration parameters) :
    warning.isSkip = false := by
  obtain ⟨field, -, rfl⟩ := List.mem_map.1 hwarning
  rfl

/-- **A declaration that is converted is not noted as skipped.** -/
theorem Declaration.isSkip_of_mem_warnings {conversion : FieldConversion}
    (hconversion : declaration.convertFields knownTypes = .ok conversion)
    {warning : Warning} (hwarning : warning ∈ conversion.warnings) :
    warning.isSkip = false := by
  obtain ⟨parameters, -, -, -, hwarnings⟩ :=
    Declaration.convertFields_eq_ok_iff.1 hconversion
  rw [hwarnings, List.mem_append, List.mem_flatMap] at hwarning
  rcases hwarning with ⟨parameter, -, hfield⟩ | hmarker
  · exact isSkip_of_mem_fieldWarnings hfield
  · exact isSkip_of_mem_unknownMarkerWarnings hmarker

end KotlinBuilders
