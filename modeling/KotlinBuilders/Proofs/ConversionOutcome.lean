import KotlinBuilders.Proofs.FieldKinds
import KotlinBuilders.Proofs.SummaryAgreement

/-!
# What becomes of a declaration's fields

The fields of a declaration are looked at one after the other.  Of each one the
name comes first: it must not stand among the names before.  Then comes the
type, which must be one that can be classified, unless an alias replaces it.
`FieldFault` is what a single field has wrong, and a conversion stops at the
first field that has anything wrong (`convertFields_eq_error_iff`).  Before that
it can only fail for want of parameters (`constructorParameters_eq_error_iff`).

`Declaration.Refused` puts these together, and `convertFields_outcome` is the
main statement: which declarations fail, with which failure, and what the fields
keep of their parameters when none does.
-/

namespace KotlinBuilders

namespace Declaration

/-- The constructor parameters of a declaration: those that it gives, or else
those that the members of its listing stand for, which have no default and are
not marked as nullable. -/
inductive HasParameters (declaration : Declaration) : List Parameter → Prop
  | given {parameters : List Parameter}
      (hgiven : declaration.parameters? = some parameters) :
      HasParameters declaration parameters
  | listed {listing : String} {members : List Member}
      (hnone : declaration.parameters? = none)
      (hlisting : declaration.listing? = some listing)
      (hmembers : parseListing declaration.name listing = some members) :
      HasParameters declaration (members.map fun member =>
        { name := member.name, type := member.type, hasDefault := false,
          nullable := false })

/-- What is wrong with a field that follows fields of the given names: it has
one of these names again, or no alias with a known target and a type that cannot
be classified.  The type matters only where the name is new; whether it can be
classified does not depend on flags or slots, so none are given. -/
inductive FieldFault (knownTypes : NameSet) (declaration : Declaration)
    (before : List String) (parameter : Parameter) :
    ConversionFailure → Prop
  | duplicate (hbefore : parameter.name ∈ before) :
      FieldFault knownTypes declaration before parameter
        (.duplicateField declaration.name parameter.name)
  | unclassified {mismatch : ArityMismatch} (hnew : parameter.name ∉ before)
      (halias :
        (declaration.markersOf parameter.name).knownAlias? knownTypes = none)
      (hmismatch : classify {} [] parameter.type = .error mismatch) :
      FieldFault knownTypes declaration before parameter
        (.unclassified declaration.name parameter.name mismatch)

/-- Nothing is wrong with any of the fields, which follow fields of the given
names. -/
def Faultless (knownTypes : NameSet) (declaration : Declaration)
    (before : List String) (parameters : List Parameter) : Prop :=
  ∀ earlier parameter later, parameters = earlier ++ parameter :: later →
    ∀ failure, ¬declaration.FieldFault knownTypes
      (before ++ earlier.map Parameter.name) parameter failure

/-- The failure of a declaration: it has no parameters and no listing, its
listing has no reading, or a field has something wrong, and no field in front of
it has. -/
inductive Refused (knownTypes : NameSet) (declaration : Declaration) :
    ConversionFailure → Prop
  | noParameters (hnone : declaration.parameters? = none)
      (hlisting : declaration.listing? = none) :
      Refused knownTypes declaration (.noParameters declaration.name)
  | listingMismatch {listing : String} (hnone : declaration.parameters? = none)
      (hlisting : declaration.listing? = some listing)
      (hmembers : parseListing declaration.name listing = none) :
      Refused knownTypes declaration (.listingMismatch declaration.name)
  | field {earlier later : List Parameter} {parameter : Parameter}
      {failure : ConversionFailure}
      (hparameters : declaration.HasParameters (earlier ++ parameter :: later))
      (hearlier : declaration.Faultless knownTypes [] earlier)
      (hfault : declaration.FieldFault knownTypes (earlier.map Parameter.name)
        parameter failure) :
      Refused knownTypes declaration failure

/-- What a field has of its parameter: the name, the declared type and the
default, and that it admits `null` if the parameter or its marker says so.
Kinds that say it themselves are `Unit`, `Nothing` and a wildcard without a
bound. -/
structure Keeps (declaration : Declaration) (parameter : Parameter)
    (field : Field) : Prop where
  name_eq : field.name.raw = parameter.name
  type_eq : field.declaredType = parameter.type
  default_eq : field.hasDefault = parameter.hasDefault
  nullable_eq : field.kind.nullable
    = (parameter.nullable || (declaration.markersOf parameter.name).nullable)
    ∨ field.kind = .unit ∨ field.kind = .nothing ∨ field.kind = .any true
      ∧ IsBareWildcard parameter.type

/-- Two steps fail if the first one does, or if the second one does on what the
first one gives. -/
theorem bind_eq_error_iff {ε α β : Type} {first : Except ε α}
    {next : α → Except ε β} {failure : ε} :
    (first >>= next) = .error failure ↔
      first = .error failure ∨ ∃ a, first = .ok a
      ∧ next a = .error failure := by
  cases first <;> simp [bind, Except.bind]

section Parameters

variable {declaration : Declaration}

/-- The parameters of a declaration are looked up as specified. -/
theorem constructorParameters_eq_ok_iff {parameters : List Parameter} :
    declaration.constructorParameters = .ok parameters ↔
      declaration.HasParameters parameters := by
  constructor
  · intro hparameters
    unfold constructorParameters at hparameters
    split at hparameters
    · next given _ hgiven =>
      obtain rfl := Except.ok.inj hparameters
      exact .given hgiven
    · next listing hnone hlisting =>
      split at hparameters
      · next members hmembers =>
        obtain rfl := Except.ok.inj hparameters
        exact .listed hnone hlisting hmembers
      · cases hparameters
    · cases hparameters
  · intro hparameters
    cases hparameters with
    | given hgiven => simp only [constructorParameters, hgiven]
    | listed hnone hlisting hmembers =>
      simp only [constructorParameters, hnone, hlisting, hmembers]
      rfl

/-- There are no parameters when there is neither a list nor a listing, or when
the listing has no reading. -/
theorem constructorParameters_eq_error_iff {failure : ConversionFailure} :
    declaration.constructorParameters = .error failure ↔
      (declaration.parameters? = none ∧ declaration.listing? = none
          ∧ failure = .noParameters declaration.name)
        ∨ declaration.parameters? = none
          ∧ ∃ listing, declaration.listing? = some listing
            ∧ parseListing declaration.name listing = none
            ∧ failure = .listingMismatch declaration.name := by
  cases hgiven : declaration.parameters? with
  | some parameters => simp [constructorParameters, hgiven]
  | none =>
    cases hlisting : declaration.listing? with
    | none => simp [constructorParameters, hgiven, hlisting, eq_comm]
    | some listing =>
      cases hmembers : parseListing declaration.name listing <;>
        simp [constructorParameters, hgiven, hlisting, hmembers, eq_comm]

end Parameters

end Declaration

section Fields

variable {knownTypes : NameSet} {declaration : Declaration}
  {before : List String} {parameter : Parameter} {parameters : List Parameter}
  {failure : ConversionFailure}

/-- A field is refused when no known alias replaces its type and the type cannot
be classified. -/
theorem convertField_eq_error_iff :
    convertField knownTypes declaration parameter = .error failure ↔
      (declaration.markersOf parameter.name).knownAlias? knownTypes = none
        ∧ ∃ mismatch, classify {} [] parameter.type = .error mismatch
          ∧ failure
            = .unclassified declaration.name parameter.name mismatch := by
  have hkind : ∀ mismatch,
      fieldKind knownTypes (declaration.markersOf parameter.name) parameter
        = .error mismatch ↔ _ :=
    fun mismatch => fieldKind_eq_error_iff
  unfold convertField
  split
  · next kind hok =>
    refine iff_of_false (fun herror => nomatch herror) ?_
    intro hreason
    obtain ⟨halias, mismatch, hmismatch, -⟩ := hreason
    rw [(hkind mismatch).2 ⟨halias, hmismatch⟩] at hok
    cases hok
  · next mismatch herror =>
    obtain ⟨halias, hmismatch⟩ := (hkind mismatch).1 herror
    simp [halias, hmismatch, eq_comm]

/-- Names are compared with those before, in whatever order these stand. -/
theorem convertFields_congr {before' : List String}
    (hsame : ∀ name, name ∈ before ↔ name ∈ before') :
    convertFields knownTypes declaration before parameters
      = convertFields knownTypes declaration before' parameters := by
  induction parameters generalizing before before' with
  | nil => rfl
  | cons parameter parameters ih =>
    have hcontains :
        before.contains parameter.name = before'.contains parameter.name := by
      simp only [List.contains_eq_mem, hsame]
    have hrest :
        convertFields knownTypes declaration
          (parameter.name :: before) parameters
          = convertFields knownTypes declaration
            (parameter.name :: before') parameters :=
      ih fun name => by rw [List.mem_cons, List.mem_cons, hsame]
    simp only [convertFields, hcontains, hrest]

/-- **One field**: what it has wrong stops the conversion, and otherwise the
next field is looked at. -/
theorem convertFields_cons_eq_error_iff :
    convertFields knownTypes declaration before (parameter :: parameters)
      = .error failure ↔
        declaration.FieldFault knownTypes before parameter failure
        ∨ (∀ other, ¬declaration.FieldFault knownTypes before parameter other)
          ∧ convertFields knownTypes declaration (before ++ [parameter.name])
            parameters = .error failure := by
  have hnext :
      convertFields knownTypes declaration
        (before ++ [parameter.name]) parameters
        = convertFields knownTypes declaration
          (parameter.name :: before) parameters :=
    convertFields_congr fun name => by simp [or_comm]
  rw [hnext, convertFields]
  split
  · next hcontains =>
    have hbefore : parameter.name ∈ before := by simpa using hcontains
    constructor
    · intro herror
      obtain rfl := Except.error.inj herror
      exact .inl (.duplicate hbefore)
    · intro hwrong
      rcases hwrong with hfault | ⟨hsound, -⟩
      · cases hfault with
        | duplicate => rfl
        | unclassified hnew => exact absurd hbefore hnew
      · exact absurd (.duplicate hbefore) (hsound _)
  · next hcontains =>
    have hnew : parameter.name ∉ before := by simpa using hcontains
    cases hfield : convertField knownTypes declaration parameter with
    | error other =>
      obtain ⟨halias, mismatch, hmismatch, rfl⟩ :=
        convertField_eq_error_iff.1 hfield
      have hfault := Declaration.FieldFault.unclassified hnew halias hmismatch
      constructor
      · intro herror
        obtain rfl := Except.error.inj herror
        exact .inl hfault
      · intro hwrong
        rcases hwrong with hother | ⟨hsound, -⟩
        · cases hother with
          | duplicate hbefore => exact absurd hbefore hnew
          | unclassified _ _ hsame =>
            rw [hmismatch] at hsame
            obtain rfl := Except.error.inj hsame
            rfl
        · exact absurd hfault (hsound _)
    | ok field =>
      have hsound : ∀ other,
          ¬declaration.FieldFault knownTypes before parameter other := by
        intro other hfault
        cases hfault with
        | duplicate hbefore => exact hnew hbefore
        | unclassified _ halias hmismatch =>
          rw [convertField_eq_error_iff.2 ⟨halias, _, hmismatch, rfl⟩] at hfield
          cases hfield
      rw [or_iff_right (hsound failure), and_iff_right hsound]
      cases convertFields knownTypes declaration (parameter.name :: before)
        parameters <;> simp [bind, Except.bind, pure, Except.pure]

/-- Fields have nothing wrong when the first has nothing wrong and the others,
which follow it, have nothing wrong either. -/
theorem Declaration.faultless_cons_iff :
    declaration.Faultless knownTypes before (parameter :: parameters) ↔
      (∀ failure, ¬declaration.FieldFault knownTypes before parameter failure)
        ∧ declaration.Faultless knownTypes (before ++ [parameter.name])
          parameters := by
  constructor
  · intro hall
    refine ⟨?_, fun earlier other later hsplit failure => ?_⟩
    · simpa using hall [] parameter parameters rfl
    · have hother := hall (parameter :: earlier) other later
        (by rw [hsplit, List.cons_append]) failure
      rwa [List.map_cons, ← List.singleton_append,
        ← List.append_assoc] at hother
  · intro hparts earlier other later hsplit failure
    obtain ⟨hfirst, hrest⟩ := hparts
    cases earlier with
    | nil =>
      obtain ⟨rfl, -⟩ := List.cons.inj hsplit
      simpa using hfirst failure
    | cons first earlier =>
      obtain ⟨rfl, htail⟩ := List.cons.inj hsplit
      have hother := hrest earlier other later htail failure
      rwa [List.map_cons, ← List.singleton_append, ← List.append_assoc]

/-- **All fields**: the conversion fails with what the first field that has
anything wrong has wrong. -/
theorem convertFields_eq_error_iff :
    convertFields knownTypes declaration before parameters = .error failure ↔
      ∃ earlier parameter later, parameters = earlier ++ parameter :: later
        ∧ declaration.Faultless knownTypes before earlier
        ∧ declaration.FieldFault knownTypes
          (before ++ earlier.map Parameter.name) parameter failure := by
  -- What is wrong with a field depends on the names before it, to which each
  -- field adds its own.
  induction parameters generalizing before with
  | nil =>
    refine iff_of_false (fun herror => nomatch herror) ?_
    intro hwrong
    obtain ⟨earlier, parameter, later, hsplit, -⟩ := hwrong
    simp at hsplit
  | cons first parameters ih =>
    rw [convertFields_cons_eq_error_iff, ih]
    constructor
    · intro hwrong
      rcases hwrong with
        hfault | ⟨hsound, earlier, parameter, later, rfl, hearlier, hfault⟩
      · refine ⟨[], first, parameters, rfl, fun front parameter back hsplit =>
          ?_, by simpa using hfault⟩
        simp at hsplit
      · refine ⟨first :: earlier, parameter, later, rfl,
          Declaration.faultless_cons_iff.2 ⟨hsound, hearlier⟩, ?_⟩
        rwa [List.map_cons, ← List.singleton_append, ← List.append_assoc]
    · intro hwrong
      obtain ⟨earlier, parameter, later, hsplit, hearlier, hfault⟩ := hwrong
      cases earlier with
      | nil =>
        obtain ⟨rfl, -⟩ := List.cons.inj hsplit
        exact .inl (by simpa using hfault)
      | cons other earlier =>
        obtain ⟨rfl, htail⟩ := List.cons.inj hsplit
        obtain ⟨hsound, hrest⟩ := Declaration.faultless_cons_iff.1 hearlier
        rw [List.map_cons, ← List.singleton_append,
          ← List.append_assoc] at hfault
        exact .inr ⟨hsound, earlier, parameter, later, htail, hrest, hfault⟩

end Fields

namespace Declaration

variable {knownTypes : NameSet} {declaration : Declaration}

/-- A field that has something wrong is one whose name stands before it, or
whose type cannot be classified without an alias that replaces it. -/
theorem exists_fieldFault_iff {before : List String} {parameter : Parameter} :
    (∃ failure, declaration.FieldFault knownTypes before parameter failure) ↔
      parameter.name ∈ before
        ∨ (declaration.markersOf parameter.name).knownAlias? knownTypes = none
          ∧ ∃ mismatch, classify {} [] parameter.type = .error mismatch := by
  constructor
  · intro hwrong
    obtain ⟨failure, hfault⟩ := hwrong
    cases hfault with
    | duplicate hbefore => exact .inl hbefore
    | unclassified _ halias hmismatch => exact .inr ⟨halias, _, hmismatch⟩
  · intro hwrong
    by_cases hbefore : parameter.name ∈ before
    · exact ⟨_, .duplicate hbefore⟩
    · rcases hwrong with hmem | ⟨halias, mismatch, hmismatch⟩
      · exact absurd hmem hbefore
      · exact ⟨_, .unclassified hbefore halias hmismatch⟩

/-- Where some field has something wrong, there is a first one. -/
theorem exists_first_fieldFault {earlier : List Parameter}
    {parameter : Parameter} {failure : ConversionFailure}
    (hfault : declaration.FieldFault knownTypes (earlier.map Parameter.name)
      parameter failure) (later : List Parameter) :
    ∃ front first back other, earlier ++ parameter :: later
      = front ++ first :: back
      ∧ declaration.Faultless knownTypes [] front
      ∧ declaration.FieldFault knownTypes (front.map Parameter.name)
        first other := by
  cases hconverted : KotlinBuilders.convertFields knownTypes declaration []
      (earlier ++ parameter :: later) with
  | error other =>
    obtain ⟨front, first, back, hsplit, hfront, hfirst⟩ :=
      KotlinBuilders.convertFields_eq_error_iff.1 hconverted
    exact ⟨front, first, back, other, hsplit, hfront, hfirst⟩
  | ok fields =>
    obtain ⟨hnodup, -, hfields⟩ :=
      KotlinBuilders.convertFields_eq_ok_iff.1 hconverted
    exfalso
    cases hfault with
    | duplicate hbefore =>
      rw [List.map_append, List.map_cons] at hnodup
      exact (List.nodup_append.1 hnodup).2.2 _ hbefore _ List.mem_cons_self rfl
    | unclassified _ halias hmismatch =>
      have hmem : parameter ∈ earlier ++ parameter :: later :=
        List.mem_append_right _ List.mem_cons_self
      obtain ⟨field, -, hfield⟩ := exists_of_mem_forall₂ hfields.flip hmem
      have herror := convertField_eq_error_iff.2 ⟨halias, _, hmismatch, rfl⟩
      cases herror.symm.trans hfield

/-- **Which failure a declaration has.** -/
theorem convertFields_eq_error_iff {failure : ConversionFailure} :
    declaration.convertFields knownTypes = .error failure ↔
      declaration.Refused knownTypes failure := by
  simp only [convertFields, bind_eq_error_iff,
    constructorParameters_eq_error_iff, constructorParameters_eq_ok_iff,
    KotlinBuilders.convertFields_eq_error_iff, pure, Except.pure, reduceCtorEq,
    and_false, exists_false, or_false, List.nil_append]
  constructor
  · intro hreason
    rcases hreason with
      (⟨hnone, hlisting, rfl⟩ | ⟨hnone, listing, hlisting, hmembers, rfl⟩)
      | ⟨_, hparameters, earlier, parameter, later, rfl, hearlier, hfault⟩
    · exact .noParameters hnone hlisting
    · exact .listingMismatch hnone hlisting hmembers
    · exact .field hparameters hearlier hfault
  · intro hrefused
    cases hrefused with
    | noParameters hnone hlisting => exact .inl (.inl ⟨hnone, hlisting, rfl⟩)
    | listingMismatch hnone hlisting hmembers =>
      exact .inl (.inr ⟨hnone, _, hlisting, hmembers, rfl⟩)
    | field hparameters hearlier hfault =>
      exact .inr ⟨_, hparameters, _, _, _, rfl, hearlier, hfault⟩

/-- What comes out of a single field. -/
theorem keeps_of_convertField {parameter : Parameter} {field : Field}
    (hfield : convertField knownTypes declaration parameter = .ok field) :
    declaration.Keeps parameter field := by
  obtain ⟨hname, htype, hdefault⟩ := convertField_eq_ok hfield
  exact ⟨hname, htype, hdefault,
    nullable_of_fieldKind (fieldKind_of_convertField hfield)⟩

/-- **What comes out of a declaration**: a field for each parameter, in their
order and with different names. -/
theorem exists_keeps_of_convertFields {conversion : FieldConversion}
    (hconversion : declaration.convertFields knownTypes = .ok conversion) :
    ∃ parameters, declaration.HasParameters parameters
      ∧ List.Forall₂ declaration.Keeps parameters conversion.fields
      ∧ (conversion.fields.map fun field => field.name.raw).Nodup := by
  obtain ⟨parameters, hparameters, -, hfields, -⟩ :=
    Declaration.convertFields_eq_ok_iff.1 hconversion
  refine ⟨parameters, constructorParameters_eq_ok_iff.1 hparameters, ?_,
    nodup_raw_of_convertFields hconversion⟩
  exact hfields.imp fun _ _ hfield => keeps_of_convertField hfield

end Declaration

/-- **What becomes of a declaration's fields.**  They cannot be converted
exactly if there are neither parameters nor a listing, if the listing has no
reading, or if the name of some field stands before it or its type cannot be
classified and no alias with a known target replaces it; and then the failure is
that of the first such field, the name being looked at before the type.
Otherwise there is one field for each parameter, in their order; no two have one
name, and each has the name, the declared type and the default of its parameter,
and the mark for `null` that the parameter or its marker asks for, unless it is
`Unit`, `Nothing` or a bare wildcard. -/
theorem convertFields_outcome (knownTypes : NameSet)
    (declaration : Declaration) :
    ((∃ failure, declaration.convertFields knownTypes = .error failure) ↔
        (declaration.parameters? = none ∧ declaration.listing? = none)
          ∨ (declaration.parameters? = none ∧ ∃ listing,
            declaration.listing? = some listing
              ∧ parseListing declaration.name listing = none)
          ∨ ∃ earlier parameter later,
            declaration.HasParameters (earlier ++ parameter :: later)
              ∧ (parameter.name ∈ earlier.map Parameter.name
                ∨ (declaration.markersOf parameter.name).knownAlias? knownTypes
                    = none
                  ∧ ∃ mismatch,
                    classify {} [] parameter.type = .error mismatch))
      ∧ (∀ failure, declaration.convertFields knownTypes = .error failure ↔
          declaration.Refused knownTypes failure)
      ∧ ∀ conversion, declaration.convertFields knownTypes = .ok conversion →
          ∃ parameters, declaration.HasParameters parameters
            ∧ List.Forall₂ declaration.Keeps parameters conversion.fields
            ∧ (conversion.fields.map fun field => field.name.raw).Nodup := by
  refine ⟨⟨?_, ?_⟩, fun failure => Declaration.convertFields_eq_error_iff, ?_⟩
  · intro hfails
    obtain ⟨failure, hfailure⟩ := hfails
    cases Declaration.convertFields_eq_error_iff.1 hfailure with
    | noParameters hnone hlisting => exact .inl ⟨hnone, hlisting⟩
    | listingMismatch hnone hlisting hmembers =>
      exact .inr (.inl ⟨hnone, _, hlisting, hmembers⟩)
    | field hparameters _ hfault =>
      exact .inr (.inr ⟨_, _, _, hparameters,
        Declaration.exists_fieldFault_iff.1 ⟨failure, hfault⟩⟩)
  · intro hreason
    rcases hreason with ⟨hnone, hlisting⟩ | ⟨hnone, listing, hlisting, hmembers⟩
      | ⟨earlier, parameter, later, hparameters, hwrong⟩
    · exact ⟨_,
        Declaration.convertFields_eq_error_iff.2 (.noParameters hnone hlisting)⟩
    · exact ⟨_, Declaration.convertFields_eq_error_iff.2
        (.listingMismatch hnone hlisting hmembers)⟩
    · obtain ⟨failure, hfault⟩ := Declaration.exists_fieldFault_iff.2 hwrong
      obtain ⟨front, first, back, other, hsplit, hfront, hfirst⟩ :=
        Declaration.exists_first_fieldFault hfault later
      rw [hsplit] at hparameters
      exact ⟨other, Declaration.convertFields_eq_error_iff.2
        (.field hparameters hfront hfirst)⟩
  · intro conversion hconversion
    exact Declaration.exists_keeps_of_convertFields hconversion

/-- A repeated name, whose type cannot be classified either, in front of another
type that cannot be classified. -/
def orderParameters : List Parameter :=
  [{ name := "id", type := "long" },
    { name := "items", type := "java.util.Map<com.shop.Item>" },
    { name := "id", type := "java.util.Set<A, B>" },
    { name := "note", type := "java.util.List<A, B>" }]

/-- The type of `items` is replaced by an alias. -/
def orderDeclaration (parameters : List Parameter) : Declaration :=
  { name := "Order"
    parameters? := some parameters
    markers :=
      .ofList [("items", { nullable := true,
                           alias? := some { target := " com.shop.Items " } })] }

def orderTypes : NameSet := NameSet.ofList ["com.shop.Items"]

/-- The repeated name is what is reported, and the fields in front of it can be
converted. -/
theorem convertFields_outcome_order :
    (orderDeclaration orderParameters).Refused orderTypes
        (.duplicateField "Order" "id")
      ∧ ∃ conversion,
        (orderDeclaration (orderParameters.take 2)).convertFields orderTypes
            = .ok conversion
          ∧ (conversion.fields.map fun field => field.kind.nullable)
            = [false, true]
          ∧ ∃ parameters,
            (orderDeclaration (orderParameters.take 2)).HasParameters parameters
            ∧ List.Forall₂ (orderDeclaration (orderParameters.take 2)).Keeps
              parameters conversion.fields := by
  have hfails :
      failure? ((orderDeclaration orderParameters).convertFields orderTypes)
        = some (.duplicateField "Order" "id") := by
    decide +kernel
  have hshown :
      ((orderDeclaration (orderParameters.take 2)).convertFields
        orderTypes).toOption.map (fun conversion => conversion.fields.map
          fun field => field.kind.nullable) = some [false, true] := by
    decide +kernel
  obtain ⟨-, hrefused, -⟩ :=
    convertFields_outcome orderTypes (orderDeclaration orderParameters)
  obtain ⟨-, -, hconverted⟩ :=
    convertFields_outcome orderTypes (orderDeclaration (orderParameters.take 2))
  obtain ⟨conversion, hconversion, hnullable⟩ :=
    exists_ok_of_map_toOption hshown
  obtain ⟨parameters, hparameters, hkeeps, -⟩ :=
    hconverted conversion hconversion
  exact ⟨(hrefused _).1 (failure?_eq_some_iff.1 hfails), conversion,
    hconversion, hnullable, parameters, hparameters, hkeeps⟩

end KotlinBuilders
