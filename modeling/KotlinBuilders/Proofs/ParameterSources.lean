import KotlinBuilders.Proofs.SummaryAgreement

/-!
# Where the parameters come from

A host gives the parameters of a declaration outright, or leaves them to be
recovered from the listing of its members.  Conversion looks at the two in one
place, `Declaration.constructorParameters`.  Everything after it, which is the
markers, the check for repeated names, the kinds, the warnings and the builder,
goes by the parameters and by the rest of the declaration.  So a declaration may
be given in another way, and while its parameters stay the same, so do the
module, the fields and the warnings, or the failure (`convert_givenBy`).

The main statement is `convert_ignores_source`: the members of a listing may be
given outright instead, and beside parameters that are given outright a listing
is not read.
-/

namespace KotlinBuilders

/-- The declaration with its parameters given in another way. -/
def Declaration.givenBy (declaration : Declaration)
    (parameters? : Option (List Parameter)) (listing? : Option String) :
    Declaration :=
  { declaration with parameters?, listing? }

section GivenBy

variable {naming : Naming} {knownTypes : NameSet} {declaration : Declaration}
  {parameters? : Option (List Parameter)} {listing? : Option String}

/-- How the parameters are given does not matter for the conversion of a
field. -/
theorem convertField_givenBy (parameter : Parameter) :
    convertField knownTypes (declaration.givenBy parameters? listing?) parameter
      = convertField knownTypes declaration parameter := rfl

/-- Names are compared and types are classified by the parameters alone. -/
theorem convertFields_givenBy (before : List String)
    (parameters : List Parameter) :
    convertFields knownTypes (declaration.givenBy parameters? listing?)
      before parameters
        = convertFields knownTypes declaration before parameters := by
  induction parameters generalizing before with
  | nil => rfl
  | cons parameter parameters ih =>
    simp only [convertFields, convertField_givenBy, ih]
    rfl

/-- How the parameters are given does not matter for the warnings about them. -/
theorem warnings_givenBy (parameters : List Parameter) :
    parameters.flatMap (fieldWarnings knownTypes
      (declaration.givenBy parameters? listing?))
        ++ unknownMarkerWarnings
          (declaration.givenBy parameters? listing?) parameters
        = parameters.flatMap (fieldWarnings knownTypes declaration)
          ++ unknownMarkerWarnings declaration parameters := rfl

/-- How the parameters are given does not matter for the module of some
fields. -/
theorem synthesize_givenBy (fields : List Field) :
    synthesize naming (declaration.givenBy parameters? listing?) fields
      = synthesize naming declaration fields := rfl

/-- The fields are converted alike where the parameters are the same. -/
theorem Declaration.convertFields_givenBy
    (hsame : (declaration.givenBy parameters? listing?).constructorParameters
      = declaration.constructorParameters) :
    (declaration.givenBy parameters? listing?).convertFields knownTypes
      = declaration.convertFields knownTypes := by
  simp only [Declaration.convertFields, hsame,
    KotlinBuilders.convertFields_givenBy, warnings_givenBy]

/-- **Only the parameters matter**, not where they come from. -/
theorem convert_givenBy
    (hsame : (declaration.givenBy parameters? listing?).constructorParameters
      = declaration.constructorParameters) :
    convert naming knownTypes (declaration.givenBy parameters? listing?)
      = convert naming knownTypes declaration := by
  simp only [convert, Declaration.convertFields_givenBy hsame,
    synthesize_givenBy]

end GivenBy

section Sources

variable (naming : Naming) (knownTypes : NameSet) (declaration : Declaration)

/-- The members of a listing are the parameters that it stands for. -/
theorem Declaration.constructorParameters_of_listing {listing : String}
    {members : List Member} (hparameters : declaration.parameters? = none)
    (hlisting : declaration.listing? = some listing)
    (hmembers : parseListing declaration.name listing = some members) :
    declaration.constructorParameters = .ok (members.map Member.parameter) := by
  simp only [constructorParameters, hparameters, hlisting, hmembers]

/-- A list of parameters is taken as it is given. -/
theorem Declaration.constructorParameters_of_parameters
    {parameters : List Parameter}
    (hparameters : declaration.parameters? = some parameters) :
    declaration.constructorParameters = .ok parameters := by
  simp only [constructorParameters, hparameters]

/-- **It does not matter how the parameters are given.**  A declaration whose
listing gives members is converted like the one that has them for its
parameters, without a default and not nullable, in place of the listing; and
where a declaration has parameters, its conversion is the same with any listing
and with none.  Both hold of the module, the fields and the warnings, and of the
failure where there is one. -/
theorem convert_ignores_source :
    (∀ listing members, declaration.parameters? = none →
        declaration.listing? = some listing →
        parseListing declaration.name listing = some members →
        convert naming knownTypes declaration
          = convert naming knownTypes { declaration with
              parameters? := some (members.map fun member =>
                { name := member.name, type := member.type, hasDefault := false,
                  nullable := false })
              listing? := none })
      ∧ ∀ parameters, declaration.parameters? = some parameters → ∀ listing?,
          convert naming knownTypes { declaration with listing? }
            = convert naming knownTypes declaration := by
  constructor
  · intro listing members hparameters hlisting hmembers
    have hread :=
      declaration.constructorParameters_of_listing hparameters hlisting hmembers
    have hgiven :
        (declaration.givenBy (some (members.map Member.parameter))
          none).constructorParameters
          = declaration.constructorParameters := hread.symm
    exact (convert_givenBy hgiven).symm
  · intro parameters hparameters listing?
    have hread := declaration.constructorParameters_of_parameters hparameters
    have hgiven :
        (declaration.givenBy declaration.parameters?
          listing?).constructorParameters
          = declaration.constructorParameters := by
      rw [hread]
      exact Declaration.constructorParameters_of_parameters _ hparameters
    exact convert_givenBy hgiven

end Sources

/-- A listing whose second component function names the first value. -/
def tripListing : String :=
  "[stops, Trip(int,java.util.List<com.trips.Stop>), limit, component2(), component1()]"

/-- A declaration with the listing and with markers, of which one is for no
field and one names an unknown type. -/
def tripDeclaration : Declaration :=
  { name := "Trip", package := "com.trips", listing? := some tripListing
    markers := Catalog.ofList
      [("stops", { isMutable := true }), ("driver", { nullable := true }),
        ("limit", { alias? := some { target := "com.trips.Limit" } })] }

/-- The parameters of the declaration. -/
def tripParameters : List Parameter :=
  [{ name := "limit", type := "int" },
    { name := "stops", type := "java.util.List<com.trips.Stop>" }]

/-- A declaration whose listing takes its first value for both slots. -/
def twinDeclaration : Declaration :=
  { name := "Twin",
    listing? := some "[a,b,Twin(int,long),component1(),component1()]" }

/-- The first declaration is converted with two warnings, by its listing as by
its parameters, and another listing beside the parameters changes nothing.  The
second one fails by its listing as by its parameters. -/
theorem convert_ignores_source_trip :
    parseListing "Trip" tripListing
      = some [⟨"limit", "int"⟩, ⟨"stops", "java.util.List<com.trips.Stop>"⟩]
      ∧ (convert {} ∅ tripDeclaration).toOption.map Conversion.warnings
        = some [.unresolvedAlias "Trip" "limit" "com.trips.Limit",
          .unknownMarkerField "Trip" "driver"]
      ∧ convert {} ∅ tripDeclaration
        = convert {} ∅ (tripDeclaration.givenBy (some tripParameters) none)
      ∧ convert {} ∅
        (tripDeclaration.givenBy (some tripParameters) (some "[Trip("))
          = convert {} ∅ (tripDeclaration.givenBy (some tripParameters) none)
      ∧ convert {} ∅ twinDeclaration = .error (.duplicateField "Twin" "a")
      ∧ convert {} ∅ twinDeclaration
        = convert {} ∅ (twinDeclaration.givenBy
            (some [{ name := "a", type := "int" },
              { name := "a", type := "long" }]) none) := by
  have hmembers : parseListing "Trip" tripListing
      = some [⟨"limit", "int"⟩,
        ⟨"stops", "java.util.List<com.trips.Stop>"⟩] := by decide +kernel
  have htwins :
      parseListing "Twin" "[a,b,Twin(int,long),component1(),component1()]"
        = some [⟨"a", "int"⟩, ⟨"a", "long"⟩] := by decide +kernel
  refine ⟨hmembers, by decide +kernel, ?_, ?_, ?_, ?_⟩
  · exact (convert_ignores_source {} ∅ tripDeclaration).1 tripListing _
      rfl rfl hmembers
  · exact (convert_ignores_source {} ∅
      (tripDeclaration.givenBy (some tripParameters) none)).2 _ rfl _
  · exact failure?_eq_some_iff.1 (by decide +kernel)
  · exact (convert_ignores_source {} ∅ twinDeclaration).1 _ _ rfl rfl htwins

end KotlinBuilders
