import KotlinBuilders.Proofs.SlotConsistency

/-!
# What a summary foretells

A summary lists the fields of a declaration, or says why it has none.  A run
goes one step further: it also reads the bounds of the type parameters, and a
bound that cannot be classified makes the declaration fail although its fields
are sound.  So a declaration fails with what its fields fail with, and where
these are sound with the first such bound (`failure?_convert`).

The main statement is `summaries_agree`: apart from the bounds, a summary and a
run agree on every declaration, and `not_forall_summary_generated` has a bound
on which they do not.
-/

namespace KotlinBuilders

/-- The failure that a result is, if it is one. -/
def failure? {ε α : Type} : Except ε α → Option ε
  | .ok _ => none
  | .error failure => some failure

section Failures

variable {ε α β : Type}

/-- The failure of a failed result is the one it failed with. -/
theorem failure?_eq_some_iff {result : Except ε α} {failure : ε} :
    failure? result = some failure ↔ result = .error failure := by
  cases result <;> simp [failure?]

/-- There is no failure where there is a value. -/
theorem failure?_eq_none_iff {result : Except ε α} : failure? result = none ↔
    ∃ value, result = .ok value := by
  cases result <;> simp [failure?]

@[simp] theorem failure?_map (f : α → β) (result : Except ε α) :
    failure? (result.map f) = failure? result := by
  cases result <;> rfl

/-- Of two steps the second can only fail where the first does not. -/
theorem failure?_bind (first : Except ε α) (next : α → Except ε β) :
    failure? (first >>= next) = (failure? first).or
      (first.toOption.bind fun value => failure? (next value)) := by
  cases first <;> rfl

/-- **A traversal fails with its first failure.** -/
theorem failure?_mapM (action : α → Except ε β) (inputs : List α) :
    failure? (inputs.mapM action)
      = inputs.findSome? fun input => failure? (action input) := by
  induction inputs with
  | nil => rfl
  | cons input inputs ih =>
    rw [List.mapM_cons, List.findSome?_cons]
    cases action input with
    | error failure => rfl
    | ok output =>
      change failure? (inputs.mapM action >>= fun outputs =>
        pure (output :: outputs)) = _
      rw [failure?_bind, ih]
      cases inputs.mapM action <;>
        simp [pure, Except.pure, failure?, Except.toOption]

end Failures

/-- Why a bound cannot be classified, if it cannot. -/
def boundMismatch? (bound : String) : Option ArityMismatch :=
  failure? (classify {} [] bound)

namespace Declaration

/-- The failure of the first bound that cannot be classified, if there is
one. -/
def boundFailure? (declaration : Declaration) : Option ConversionFailure :=
  declaration.typeParameters.findSome? fun parameter =>
    (parameter.bounds.findSome? boundMismatch?).map
      (.unclassified declaration.name ("<" ++ parameter.name ++ ">"))

/-- The bounds of a type parameter fail with the first one that cannot be
classified. -/
theorem failure?_boundTypes (declaration : String) (parameter : TypeParameter) :
    failure? (boundTypes declaration parameter)
      = (parameter.bounds.findSome? boundMismatch?).map
        (.unclassified declaration ("<" ++ parameter.name ++ ">")) := by
  have hbounds : failure? (parameter.bounds.mapM (classify {} []))
      = parameter.bounds.findSome? boundMismatch? :=
    failure?_mapM _ _
  unfold boundTypes
  split
  · next hempty =>
    rw [List.isEmpty_iff.1 hempty]
    rfl
  · rw [← hbounds]
    cases parameter.bounds.mapM (classify {} []) <;> rfl

/-- The type parameters of a declaration fail with the first bound that cannot
be classified. -/
theorem failure?_typeVariables (declaration : Declaration) :
    failure? (typeVariables declaration) = declaration.boundFailure? := by
  rw [typeVariables, failure?_mapM, boundFailure?]
  congr 1
  funext parameter
  rw [← failure?_boundTypes]
  cases boundTypes declaration.name parameter <;> rfl

/-- **Why a declaration gets no module**: its fields have a failure, or else one
of its bounds has. -/
theorem failure?_convert (naming : Naming) (knownTypes : NameSet)
    (declaration : Declaration) :
    failure? (convert naming knownTypes declaration) =
      (failure? (declaration.convertFields knownTypes)).or
      declaration.boundFailure? := by
  rw [← failure?_typeVariables, convert, failure?_bind]
  cases declaration.convertFields knownTypes with
  | error failure => rfl
  | ok conversion =>
    simp only [Except.toOption, Option.bind_some, synthesize]
    cases typeVariables declaration <;> rfl

end Declaration

section Own

variable {naming : Naming} {knownTypes : NameSet} {declaration : Declaration}

/-- A declaration gets a module exactly when it does not fail. -/
theorem ownModules_ne_nil_iff :
    ownModules naming knownTypes declaration ≠ [] ↔
      failure? (convert naming knownTypes declaration) = none := by
  unfold ownModules
  cases convert naming knownTypes declaration <;> simp [failure?]

/-- A declaration has the module of its conversion, if it converts. -/
theorem mem_ownModules_iff {model : Module} :
    model ∈ ownModules naming knownTypes declaration ↔
      ∃ conversion, convert naming knownTypes declaration = .ok conversion
      ∧ conversion.model = model := by
  unfold ownModules
  cases convert naming knownTypes declaration <;> simp [eq_comm]

/-- A failure is what the warning says that a skipped declaration gets. -/
theorem ownWarnings_of_failure? {failure : ConversionFailure}
    (hfailure : failure? (convert naming knownTypes declaration)
      = some failure) :
    ownWarnings naming knownTypes declaration
      = [.declarationSkipped declaration.name failure.message] := by
  rw [failure?_eq_some_iff] at hfailure
  simp only [ownWarnings, hfailure]

end Own

namespace Run

variable (run : Run) (declaration : Declaration)

/-- A summary fails when the conversion of the fields does, and the same way. -/
theorem failure?_summary :
    failure? (run.summary declaration).fields
      = failure? (declaration.convertFields run.dump.knownTypes) :=
  failure?_map _ _

/-- The failure of a declaration is what its summary says, or else the failure
of a bound. -/
theorem failure?_convert :
    failure? (KotlinBuilders.convert run.naming run.dump.knownTypes declaration)
      = (failure? (run.summary declaration).fields).or
        declaration.boundFailure? := by
  rw [Declaration.failure?_convert, failure?_summary]

/-- **What a run makes of a declaration with a summary.** -/
theorem generated_of_summary :
    ownModules run.naming run.dump.knownTypes declaration ≠ [] ↔
      (∃ fields, (run.summary declaration).fields = .ok fields)
      ∧ declaration.boundFailure? = none := by
  rw [ownModules_ne_nil_iff, failure?_convert, Option.or_eq_none_iff,
    failure?_eq_none_iff]

/-- A module is made of the fields that the summary lists, and has a factory
where the summary says so. -/
theorem module_of_summary {model : Module}
    (hmodel : model ∈ ownModules run.naming run.dump.knownTypes declaration) :
    (run.summary declaration).hasFactory = model.factory?.isSome
      ∧ (run.summary declaration).fields.toOption.map (List.map Field.name)
        = some (model.builder.properties.map Property.name) := by
  obtain ⟨conversion, hconversion, rfl⟩ := mem_ownModules_iff.1 hmodel
  obtain ⟨hfields, hsynthesis⟩ := convert_eq_ok_iff.1 hconversion
  obtain ⟨typeVars, -, hassemble⟩ := synthesize_eq_ok_iff.1 hsynthesis
  rw [← hassemble, isSome_factory?_assemble, propertyNames_assemble]
  refine ⟨rfl, ?_⟩
  simp only [summary, hfields, Except.map, Except.toOption, Option.map_some]

/-- **Summaries agree with the run.**  A run summarizes the declarations that it
generates from, in the same order.  A declaration gets a module exactly when its
summary has fields and every bound of its type parameters can be classified; the
module is then made of these fields, and it has a factory exactly when the
summary says so.  Where the summary has a reason instead, that is the reason for
which the declaration is skipped, and where only a bound cannot be classified,
the declaration is skipped for the first such bound. -/
theorem summaries_agree :
    (run.summaries = run.declarations.map run.summary
        ∧ run.modules
          = run.declarations.flatMap (ownModules run.naming run.dump.knownTypes)
        ∧ run.stats.warnings = run.declarations.flatMap
          (ownWarnings run.naming run.dump.knownTypes))
      ∧ ∀ declaration ∈ run.declarations,
        (ownModules run.naming run.dump.knownTypes declaration ≠ [] ↔
            (∃ fields, (run.summary declaration).fields = .ok fields)
            ∧ declaration.boundFailure? = none)
          ∧ (∀ model ∈ ownModules run.naming run.dump.knownTypes declaration,
              (run.summary declaration).hasFactory = model.factory?.isSome
                ∧ (run.summary declaration).fields.toOption.map
                  (List.map Field.name)
                    = some (model.builder.properties.map Property.name))
          ∧ (∀ failure, (run.summary declaration).fields = .error failure →
              ownWarnings run.naming run.dump.knownTypes declaration
                = [.declarationSkipped declaration.name failure.message])
          ∧ ∀ fields failure, (run.summary declaration).fields = .ok fields →
              declaration.boundFailure? = some failure →
                ownWarnings run.naming run.dump.knownTypes declaration
                  = [.declarationSkipped declaration.name failure.message] := by
  refine ⟨⟨rfl, run.modules_eq, run.warnings_stats⟩, ?_⟩
  intro declaration _
  refine ⟨run.generated_of_summary declaration, fun _ =>
    run.module_of_summary declaration, ?_, ?_⟩
  · intro failure hfields
    apply ownWarnings_of_failure?
    rw [failure?_convert, hfields]
    rfl
  · intro fields failure hfields hbound
    apply ownWarnings_of_failure?
    rw [failure?_convert, hfields, hbound]
    rfl

/-- A declaration with a factory, whose type parameter has a sound bound. -/
def kennelDeclaration : Declaration :=
  { name := "Kennel", package := "com.pets",
    typeParameters := [⟨"A", ["com.pets.Animal"]⟩]
    parameters? := some [{ name := "guests", type := "java.util.List<A>" }]
    hasCompanion := true, companionable := true }

/-- A declaration with sound fields and a factory, but with a bound that gives a
map one argument. -/
def registryDeclaration : Declaration :=
  { name := "Registry", package := "com.pets",
    typeParameters := [⟨"K", []⟩, ⟨"M", ["com.pets.Index", "java.util.Map<K>"]⟩]
    parameters? :=
      some [{ name := "index", type := "M" }, { name := "size", type := "int" }]
    hasCompanion := true, companionable := true }

/-- A declaration whose field gives a map one argument. -/
def ledgerDeclaration : Declaration :=
  { name := "Ledger", package := "com.pets",
    parameters? := some [{ name := "rows", type := "java.util.Map<A>" }] }

/-- A run over the three declarations. -/
def petsRun : Run :=
  { dump := { declarations := [kennelDeclaration, registryDeclaration,
                ledgerDeclaration] }, naming := {} }

/-- One declaration is generated, one is skipped for a bound and one for the
reason in its summary. -/
theorem summaries_agree_pets :
    petsRun.declarations = [kennelDeclaration, registryDeclaration,
      ledgerDeclaration]
      ∧ ownModules {} ∅ kennelDeclaration ≠ []
      ∧ ownWarnings {} ∅ registryDeclaration = [.declarationSkipped "Registry"
          "cannot classify field '<M>' of 'Registry': 'java.util.Map' takes 2 type argument(s), found 1"]
      ∧ ownWarnings {} ∅ ledgerDeclaration = [.declarationSkipped "Ledger"
          "cannot classify field 'rows' of 'Ledger': 'java.util.Map' takes 2 type argument(s), found 1"] := by
  have hdeclarations : petsRun.declarations
      = [kennelDeclaration, registryDeclaration, ledgerDeclaration] := rfl
  obtain ⟨-, hagree⟩ := petsRun.summaries_agree
  rw [hdeclarations] at hagree
  obtain ⟨hkennel, -⟩ := hagree kennelDeclaration (by simp)
  obtain ⟨-, -, -, hregistry⟩ := hagree registryDeclaration (by simp)
  obtain ⟨-, -, hledger, -⟩ := hagree ledgerDeclaration (by simp)
  refine ⟨hdeclarations, hkennel.2 ⟨failure?_eq_none_iff.1 (by decide +kernel),
    by decide +kernel⟩, ?_, ?_⟩
  · obtain ⟨fields, hfields⟩ := failure?_eq_none_iff.1
      (show failure? (petsRun.summary registryDeclaration).fields
        = none by decide +kernel)
    have hbound : registryDeclaration.boundFailure?
        = some (.unclassified "Registry" "<M>" ⟨"java.util.Map", 2, 1⟩) := by
      decide +kernel
    exact (hregistry _ _ hfields hbound).trans (by decide +kernel)
  · have hreason : (petsRun.summary ledgerDeclaration).fields
        = .error (.unclassified "Ledger" "rows" ⟨"java.util.Map", 2, 1⟩) :=
      failure?_eq_some_iff.1 (by decide +kernel)
    exact (hledger _ hreason).trans (by decide +kernel)

/-- **A summary with fields is no promise of a module.**  The bound that fails
is no field, so the summary lists the fields and announces a factory, while the
run makes nothing of the declaration. -/
theorem not_forall_summary_generated :
    Run.plan petsRun.dump petsRun.naming petsRun.selection = .ok petsRun
      ∧ registryDeclaration ∈ petsRun.declarations
      ∧ (∃ fields, (petsRun.summary registryDeclaration).fields = .ok fields)
      ∧ (petsRun.summary registryDeclaration).hasFactory = true
      ∧ petsRun.modules.map Module.fileName = ["KennelExtension"] :=
  ⟨rfl, .tail _ (.head _), failure?_eq_none_iff.1 (by decide +kernel), rfl,
    by decide +kernel⟩

end Run

end KotlinBuilders
