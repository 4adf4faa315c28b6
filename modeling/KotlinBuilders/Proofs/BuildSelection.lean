import KotlinBuilders.Builder.Synthesis
import KotlinBuilders.Proofs.Subsets
import Mathlib.Data.List.Nodup

/-!
# What `build` passes to the constructor

A body is evaluated against an answer to every presence check: a direct body
makes its one call, and a guarded body makes the call of the first branch all of
whose checks hold, or the fallback where there is none.

The main statement is `select_buildBody_passes`: whatever the answers, the call
that `build` makes passes the required fields and the supplied ones, in the
order of their declaration.  A branch is taken when all its checks hold, so the
first one taken belongs to the largest set of supplied fields, which is the set
of all of them (`select_buildBody`).  That the names are distinct is needed
because a call finds its chosen fields by name.
-/

namespace KotlinBuilders

/-- The test that tells whether a field was given a value. -/
def Field.check (field : Field) : PresenceCheck :=
  field.kind.presenceCheck field.name

/-- A field that has a default and was given a value. -/
def Field.isSupplied (holds : PresenceCheck → Bool) (field : Field) : Bool :=
  field.isOptional && holds field.check

/-- A field that the constructor needs or that was given a value. -/
def Field.isPassed (holds : PresenceCheck → Bool) (field : Field) : Bool :=
  !field.isOptional || holds field.check

/-- Whether all checks of a branch hold. -/
def Branch.isTaken (holds : PresenceCheck → Bool) (branch : Branch) : Bool :=
  branch.checks.all holds

/-- The call that a body makes when the given checks hold. -/
def BuildBody.select (holds : PresenceCheck → Bool) :
    BuildBody → ConstructorCall
  | .direct call => call
  | .guarded branches fallback =>
    match branches.find? (Branch.isTaken holds) with
    | some branch => branch.call
    | none => fallback

variable {target : String} {fields : List Field} {holds : PresenceCheck → Bool}

/-- A deferred slot is tested by asking whether it is initialized. -/
theorem check_of_isDeferred {field : Field}
    (hdeferred : field.kind.isDeferred) :
    field.check = .initialized field.name := by
  simp [Field.check, Kind.presenceCheck, Kind.initializer?, hdeferred]

/-- A branch is taken when the check of each of its fields holds. -/
theorem isTaken_branchFor (chosen : List Field) :
    (branchFor target fields chosen).isTaken holds
      = chosen.all fun field => holds field.check := by
  simp [Branch.isTaken, branchFor, Field.check, Function.comp_def]

/-- **The selected call is the one made for all supplied fields.**  Names play
no part in this. -/
theorem select_buildBody :
    (buildBody target fields).select holds
      = callWith target fields (fields.filter (Field.isSupplied holds)) := by
  have hsupplied : fields.filter (Field.isSupplied holds)
      = (fields.filter Field.isOptional).filter fun field =>
        holds field.check := by
    rw [List.filter_filter]
    exact List.filter_congr fun field _ => Bool.and_comm _ _
  simp only [hsupplied, buildBody]
  split
  · next hnone => simp [BuildBody.select, List.isEmpty_iff.1 hnone]
  · have htaken : Branch.isTaken holds ∘ branchFor target fields
        = fun chosen => chosen.all fun field => holds field.check :=
      funext isTaken_branchFor
    simp only [BuildBody.select, List.find?_map, htaken,
      find?_descendingSubsets]
    split
    · next branch hbranch =>
      split at hbranch
      · simp at hbranch
      · rw [← Option.some.inj hbranch]
        rfl
    · next hfallback =>
      split at hfallback
      · next hnone => rw [hnone]
      · simp at hfallback

/-- A body can make one call for each set of optional fields. -/
theorem branchCount_buildBody : (buildBody target fields).branchCount
    = 2 ^ fields.countP Field.isOptional := by
  rw [List.countP_eq_length_filter, ← length_descendingSubsets]
  simp only [buildBody]
  split
  · next hnone => rw [List.isEmpty_iff.1 hnone]; rfl
  · rw [BuildBody.branchCount, List.length_map]

/-- A field is found by its name exactly where it stands, if names are
distinct. -/
theorem any_name_iff_mem (hdistinct : (fields.map Field.name).Nodup)
    {chosen : List Field} (hchosen : chosen ⊆ fields) {field : Field}
    (hfield : field ∈ fields) :
    (chosen.any fun other => other.name == field.name) = true ↔
      field ∈ chosen := by
  simp only [List.any_eq_true, beq_iff_eq]
  constructor
  · intro hfound
    obtain ⟨other, hother, hname⟩ := hfound
    exact List.inj_on_of_nodup_map hdistinct (hchosen hother) hfield
      hname ▸ hother
  · intro hmem
    exact ⟨field, hmem, rfl⟩

/-- The call for all supplied fields passes each field that is required or
supplied. -/
theorem callWith_supplied (hdistinct : (fields.map Field.name).Nodup) :
    callWith target fields (fields.filter (Field.isSupplied holds))
      = ⟨target, (fields.filter (Field.isPassed holds)).map Field.name⟩ := by
  have hsame : ∀ field ∈ fields,
      (!field.isOptional ||
          (fields.filter (Field.isSupplied holds)).any fun other =>
            other.name == field.name)
        = field.isPassed holds := by
    intro field hfield
    have hsupplied : fields.filter (Field.isSupplied holds) ⊆ fields :=
      List.filter_subset_self _
    have hfound := any_name_iff_mem hdistinct hsupplied hfield
    cases hoptional : field.isOptional with
    | false => simp [Field.isPassed, hoptional]
    | true =>
      rw [Bool.eq_iff_iff, Bool.not_true, Bool.false_or, hfound,
        List.mem_filter]
      simp [hfield, Field.isSupplied, Field.isPassed, hoptional]
  rw [callWith, List.filter_congr hsame]

/-- Among distinct names, a field's name is passed exactly when the field is. -/
theorem name_mem_passed_iff (hdistinct : (fields.map Field.name).Nodup)
    {field : Field} (hfield : field ∈ fields) :
    field.name ∈ (fields.filter (Field.isPassed holds)).map Field.name ↔
      field.isPassed holds := by
  simp only [List.mem_map, List.mem_filter]
  constructor
  · intro hread
    obtain ⟨other, ⟨hother, hpassed⟩, hname⟩ := hread
    exact List.inj_on_of_nodup_map hdistinct hother hfield hname ▸ hpassed
  · intro hpassed
    exact ⟨field, ⟨hfield, hpassed⟩, rfl⟩

/-- **`build` passes what was supplied.**  For fields of distinct names and any
answers to the presence checks, the selected call has the required fields and
the supplied optional ones as its arguments, each once and in the order of
declaration; and an optional deferred slot is read only where it is
initialized. -/
theorem select_buildBody_passes (hdistinct : (fields.map Field.name).Nodup) :
    let call := (buildBody target fields).select holds
    call = ⟨target, (fields.filter (Field.isPassed holds)).map Field.name⟩
      ∧ call.arguments.Nodup
      ∧ ∀ field ∈ fields, field.isOptional → field.kind.isDeferred →
          field.name ∈ call.arguments → holds (.initialized field.name) := by
  intro call
  have hcall :
      call = ⟨target, (fields.filter (Field.isPassed holds)).map Field.name⟩ :=
    select_buildBody.trans (callWith_supplied hdistinct)
  refine ⟨hcall, ?_, ?_⟩
  · rw [hcall]
    exact hdistinct.sublist (List.filter_sublist.map Field.name)
  · intro field hfield hoptional hdeferred hread
    rw [hcall] at hread
    have hpassed := (name_mem_passed_iff hdistinct hfield).1 hread
    simpa [Field.isPassed, hoptional, check_of_isDeferred hdeferred]
      using hpassed

/-- A required, an optional deferred and an optional defaulted field. -/
def sampleFields : List Field :=
  [⟨⟨"tags"⟩, "java.util.List<int>", true,
    .collection .list false (.primitive .int false) false⟩,
    ⟨⟨"id"⟩, "long", false, .primitive .long false⟩,
    ⟨⟨"count"⟩, "int", true, .primitive .int false⟩]

/-- With only `count` given a value, the call passes `id` and `count` and leaves
the deferred `tags` alone. -/
theorem select_buildBody_passes_count :
    (sampleFields.map Field.name).Nodup
      ∧ (buildBody "Sample" sampleFields).select (· == .differs ⟨"count"⟩ "0")
        = ⟨"Sample", [⟨"id"⟩, ⟨"count"⟩]⟩ := by
  have hdistinct : (sampleFields.map Field.name).Nodup := by decide
  refine ⟨hdistinct, ?_⟩
  have hselected :
      (buildBody "Sample" sampleFields).select (· == .differs ⟨"count"⟩ "0")
        = _ :=
    (select_buildBody_passes hdistinct).1
  rw [hselected]
  decide

end KotlinBuilders
