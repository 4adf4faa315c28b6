import KotlinBuilders.Proofs.BuildSelection
import KotlinBuilders.Proofs.ImportClashes

/-!
# A builder in use

A generated builder is a small machine.  Its state says what each slot holds: a
slot with an initializer starts from the value of that literal, and a deferred
one holds nothing before its setter is called.  A setter call puts its argument
into one slot, so a slot holds the argument of the last call that was made on
it, or what it started from (`run_apply`).  `build` then asks its presence
checks.

A check holds exactly when the slot holds something else than it started from
(`holds_check_iff`): for a deferred slot that is anything at all, for the others
it is a value that the literal does not have.  A field that was set to the value
its slot started from can therefore not be told from one that was never set, and
`build` leaves it out (`not_forall_set_passed`).  The main statement is
`buildAfter_passes_changed`: among the optional fields, those are passed whose
last argument differs from what the slot started from, and no others.
-/

namespace KotlinBuilders

/-- The values of a program: what a literal means, and which values a type
admits. -/
structure Interpretation (Value : Type) where
  meaning : String → Value
  admits : TypeRef → Value → Prop

/-- What each slot of a builder holds; nothing, where it is not initialized. -/
abbrev Slots (Value : Type) := FieldName → Option Value

/-- A call of one of a builder's setters, with an argument that the setter's
type admits. -/
structure SetterCall {Value : Type} (interpretation : Interpretation Value)
    (builder : BuilderClass) where
  setter : Setter
  argument : Value
  setter_mem : setter ∈ builder.setters
  admitted : interpretation.admits setter.type argument

variable {Value : Type} {interpretation : Interpretation Value}
  {builder : BuilderClass}

namespace Slots

/-- The slots after a setter call. -/
def assign (slots : Slots Value) (call : SetterCall interpretation builder) :
    Slots Value :=
  fun field => if call.setter.field = field then some call.argument
    else slots field

/-- The slots after several setter calls. -/
def run (slots : Slots Value)
    (calls : List (SetterCall interpretation builder)) : Slots Value :=
  calls.foldl assign slots

/-- Whether a presence check holds. -/
def holds [DecidableEq Value] (interpretation : Interpretation Value)
    (slots : Slots Value) : PresenceCheck → Bool
  | .initialized field => (slots field).isSome
  | .differs field literal =>
    slots field != some (interpretation.meaning literal)

end Slots

/-- The slots of a new builder: each holds the value of its initializer. -/
def BuilderClass.newSlots (interpretation : Interpretation Value)
    (builder : BuilderClass) : Slots Value :=
  fun field =>
    (builder.properties.find? fun property => property.name == field).bind
        fun property =>
      property.initializer?.map interpretation.meaning

/-- The constructor call that `build` makes after the given setter calls on a
new builder. -/
def BuilderClass.buildAfter [DecidableEq Value] (builder : BuilderClass)
    (calls : List (SetterCall interpretation builder)) : ConstructorCall :=
  builder.body.select (((builder.newSlots interpretation).run calls).holds
    interpretation)

/-- The argument of the last call on a field, if there was one. -/
def lastArgument? (field : FieldName) :
    List (SetterCall interpretation builder) → Option Value
  | [] => none
  | call :: calls =>
    (lastArgument? field calls).or (if call.setter.field = field
      then some call.argument else none)

/-- What the slot of a field starts from; nothing, where it is deferred. -/
def Field.start? (interpretation : Interpretation Value) (field : Field) :
    Option Value :=
  field.kind.initializer?.map interpretation.meaning

section Slots

variable {slots : Slots Value} {field : FieldName}

/-- A call writes the slot of its field. -/
theorem assign_same {call : SetterCall interpretation builder}
    (hfield : call.setter.field = field) :
    slots.assign call field = some call.argument := by
  rw [Slots.assign, if_pos hfield]

/-- A call leaves every other slot alone. -/
theorem assign_other {call : SetterCall interpretation builder}
    (hfield : call.setter.field ≠ field) :
    slots.assign call field = slots field := by
  rw [Slots.assign, if_neg hfield]

/-- **A slot holds the last argument that it was given**, or what it held before
all calls. -/
theorem run_apply (calls : List (SetterCall interpretation builder)) :
    slots.run calls field = (lastArgument? field calls).or (slots field) := by
  -- Each call changes the slots that the later ones start from.
  induction calls generalizing slots with
  | nil => rfl
  | cons call calls ih =>
    have hstep :
        slots.run (call :: calls) = (slots.assign call).run calls := rfl
    rw [hstep, ih, lastArgument?, Option.or_assoc]
    by_cases hfield : call.setter.field = field
    · rw [assign_same hfield, if_pos hfield, Option.some_or]
    · rw [assign_other hfield, if_neg hfield, Option.none_or]

/-- There is a last argument exactly when there was a call. -/
theorem isSome_lastArgument?_iff
    {calls : List (SetterCall interpretation builder)} :
    (lastArgument? field calls).isSome ↔
      ∃ call ∈ calls, call.setter.field = field := by
  induction calls with
  | nil => simp [lastArgument?]
  | cons call calls ih =>
    rw [lastArgument?, Option.isSome_or, Bool.or_eq_true, ih,
      List.exists_mem_cons_iff, or_comm]
    by_cases hfield : call.setter.field = field <;> simp [hfield]

end Slots

section Builds

variable {naming : Naming} {declaration : Declaration}
  {typeVars : List TypeVariable} {fields : List Field} {model : Module}

/-- **A presence check sees a difference**: it holds when the slot holds
something else than it starts from. -/
theorem holds_check_iff [DecidableEq Value] {slots : Slots Value}
    {field : Field} :
    slots.holds interpretation field.check = true ↔
      slots field.name ≠ field.start? interpretation := by
  rw [Field.check, Kind.presenceCheck, Field.start?]
  cases field.kind.initializer? with
  | none => exact Option.isSome_iff_ne_none
  | some literal => exact bne_iff_ne

/-- A field is the first one of its name, if names are distinct. -/
theorem find?_name (hdistinct : (fields.map Field.name).Nodup) {field : Field}
    (hfield : field ∈ fields) :
    fields.find? (fun other => other.name == field.name) = some field := by
  cases hfound : fields.find? fun other => other.name == field.name with
  | none => exact absurd (List.find?_eq_none.1 hfound field hfield) (by simp)
  | some other =>
    have hname : other.name = field.name := by
      simpa using List.find?_some hfound
    rw [List.inj_on_of_nodup_map hdistinct
      (List.mem_of_find?_eq_some hfound) hfield hname]

/-- In a new builder the slot of a field holds what the field starts from. -/
theorem newSlots_assemble (hdistinct : (fields.map Field.name).Nodup)
    {field : Field} (hfield : field ∈ fields) :
    (assemble naming declaration typeVars fields).builder.newSlots
      interpretation field.name
        = field.start? interpretation := by
  have hfound := find?_name hdistinct hfield
  rw [BuilderClass.newSlots, properties_assemble, List.find?_map]
  simp only [Function.comp_def, fieldProperty, hfound, Option.map_some,
    Option.bind_some]
  rfl

/-- Which fields `build` passes: those that the constructor needs, and those
whose slot was changed. -/
theorem mem_buildAfter_iff [DecidableEq Value]
    (hdistinct : (fields.map Field.name).Nodup)
    (calls :
      List (SetterCall interpretation (assemble naming declaration typeVars
        fields).builder)) {field : Field} (hfield : field ∈ fields) :
    field.name ∈ (BuilderClass.buildAfter _ calls).arguments ↔
      field.isOptional = false
        ∨ (lastArgument? field.name calls).or (field.start? interpretation)
          ≠ field.start? interpretation := by
  have hbody : (assemble naming declaration typeVars fields).builder.body
      = buildBody declaration.name fields := rfl
  rw [BuilderClass.buildAfter, hbody, select_buildBody,
    callWith_supplied hdistinct, name_mem_passed_iff hdistinct hfield,
    Field.isPassed, Bool.or_eq_true, Bool.not_eq_true', holds_check_iff,
    run_apply, newSlots_assemble hdistinct hfield]

/-- **`build` passes what was changed.**  For fields of distinct names and any
setter calls, an optional field that was set is passed exactly when the last
value it was given is not the one that its slot starts from, and a field that
was not set is left out. -/
theorem buildAfter_passes_changed [DecidableEq Value]
    (hmodel : synthesize naming declaration fields = .ok model)
    (hdistinct : (fields.map Field.name).Nodup)
    (calls : List (SetterCall interpretation model.builder)) :
    ∀ field ∈ fields, field.isOptional →
      ((∃ call ∈ calls, call.setter.field = field.name) →
          ∃ argument, lastArgument? field.name calls = some argument
            ∧ (field.name ∈ (model.builder.buildAfter calls).arguments ↔
              field.start? interpretation ≠ some argument))
        ∧ ((∀ call ∈ calls, call.setter.field ≠ field.name) →
            field.name ∉ (model.builder.buildAfter calls).arguments) := by
  obtain ⟨typeVars, -, rfl⟩ := synthesize_eq_ok_iff.1 hmodel
  intro field hfield hoptional
  have hpassed := mem_buildAfter_iff hdistinct calls hfield
  rw [hoptional] at hpassed
  constructor
  · intro hset
    obtain ⟨argument, hlast⟩ :=
      Option.isSome_iff_exists.1 (isSome_lastArgument?_iff.2 hset)
    refine ⟨argument, hlast, ?_⟩
    rw [hpassed, hlast, Option.some_or, ne_comm]
    simp
  · intro hunset hmem
    have hnone : lastArgument? field.name calls = none := by
      rw [← Option.not_isSome_iff_eq_none, isSome_lastArgument?_iff]
      rintro ⟨call, hcall, hname⟩
      exact hunset call hcall hname
    rw [hpassed, hnone, Option.none_or] at hmem
    simp at hmem

end Builds

/-- Values that are named by their literals, with `null` for the missing one. -/
def namedValues : Interpretation (Option String) where
  meaning literal := if literal = nullLiteral then none else some literal
  admits type value := value = none → type.nullable

/-- A call of the setter in a given place with a named value. -/
def SetterCall.named {builder : BuilderClass} (place : Nat) (text : String)
    (hplace : place < builder.setters.length := by decide) :
    SetterCall namedValues builder where
  setter := builder.setters[place]
  argument := some text
  setter_mem := List.getElem_mem hplace
  admitted hnull := nomatch hnull

/-- The module for the sample fields: `tags` is deferred, `count` starts from
zero, and both are optional. -/
def sampleModule : Module := assemble {} { name := "Sample" } [] sampleFields

/-- The sample fields are synthesized to the sample module. -/
theorem synthesize_sampleFields :
    synthesize {} { name := "Sample" } sampleFields = .ok sampleModule := rfl

/-- `tags` was set and is passed; `count` was set back to where it started and
is left out. -/
theorem buildAfter_passes_changed_tags :
    synthesize {} { name := "Sample" } sampleFields = .ok sampleModule
      ∧ (sampleFields.map Field.name).Nodup
      ∧ let calls : List (SetterCall namedValues sampleModule.builder) :=
          [.named 2 "7", .named 0 "emptyList()", .named 2 "0"]
        ⟨"tags"⟩ ∈ (sampleModule.builder.buildAfter calls).arguments
          ∧ ⟨"count"⟩ ∉ (sampleModule.builder.buildAfter calls).arguments := by
  have hdistinct : (sampleFields.map Field.name).Nodup := by decide
  refine ⟨synthesize_sampleFields, hdistinct, ?_⟩
  intro calls
  have hpassed :=
    buildAfter_passes_changed synthesize_sampleFields hdistinct calls
  obtain ⟨hsetTags, -⟩ := hpassed sampleFields[0] (List.getElem_mem _) rfl
  obtain ⟨hsetCount, -⟩ := hpassed sampleFields[2] (List.getElem_mem _) rfl
  constructor
  · obtain ⟨argument, -, htags⟩ :=
      hsetTags ⟨.named 0 "emptyList()", by simp [calls], rfl⟩
    exact htags.2 nofun
  · obtain ⟨argument, hlast, hcount⟩ :=
      hsetCount ⟨.named 2 "0", by simp [calls], rfl⟩
    have hzero :
        lastArgument? sampleFields[2].name calls = some (some "0") := by decide
    rw [hzero] at hlast
    intro hmem
    exact hcount.1 hmem hlast

/-- **A field that is set to what it started from is lost**, so not every field
that was set is passed. -/
theorem not_forall_set_passed :
    ¬ ∀ (naming : Naming) (declaration : Declaration) (fields : List Field)
      (model : Module), synthesize naming declaration fields = .ok model →
      (fields.map Field.name).Nodup →
      ∀ (Value : Type) [DecidableEq Value]
        (interpretation : Interpretation Value)
        (calls : List (SetterCall interpretation model.builder)),
        ∀ field ∈ fields, field.isOptional →
          (field.name ∈ (model.builder.buildAfter calls).arguments ↔
            ∃ call ∈ calls, call.setter.field = field.name) := by
  intro hall
  let calls : List (SetterCall namedValues sampleModule.builder) :=
    [.named 2 "0"]
  have hdistinct : (sampleFields.map Field.name).Nodup := by decide
  have hcount := hall {} _ _ _ synthesize_sampleFields hdistinct _ namedValues
    calls sampleFields[2] (List.getElem_mem _) rfl
  have hlost : (sampleModule.builder.buildAfter calls).arguments
      = [⟨"id"⟩] := by decide +kernel
  have hset : ∃ call ∈ calls, call.setter.field = sampleFields[2].name :=
    ⟨.named 2 "0", by simp [calls], rfl⟩
  rw [hlost] at hcount
  exact absurd (hcount.2 hset) (by decide)

end KotlinBuilders
