import KotlinBuilders.Batch.Files
import KotlinBuilders.Proofs.BuildSelection
import KotlinBuilders.Proofs.DeclarationIndependence
import KotlinBuilders.Proofs.FieldConversion
import KotlinBuilders.Proofs.ImportClashes

/-!
# What the statistics count

The counters of a run are read off the modules, and the number of skipped
declarations off the warnings.  Both come from the fields: a module has a
property for each field, deferred where the kind of the field is, and a call for
each set of optional fields (`ofModule_of_synthesize`); and a conversion that
succeeds notes no skip (`ownStats_of_ok`).  What a declaration gets by itself is
therefore accounted for (`accounts_own`), each step of a run keeps its accounts
(`Accounts.step`), and so has the whole run (`accounts_generate`).

The main statement is `stats_account`: every selected declaration is counted as
generated or as skipped, and each counter is a sum over the generated ones.
-/

namespace KotlinBuilders

/-- A property is declared without a value where the kind of its field asks for
that. -/
theorem isDeferred_fieldProperty (field : Field) (type : TypeRef) :
    (fieldProperty field type).isDeferred = field.kind.isDeferred := by
  unfold fieldProperty Property.isDeferred Kind.modifiers
  cases field.kind.isDeferred <;> rfl

/-- A module has a factory where its declaration wants one. -/
theorem isSome_factory?_assemble (naming : Naming) (declaration : Declaration)
    (typeVars : List TypeVariable) (fields : List Field) :
    (assemble naming declaration typeVars fields).factory?.isSome
      = declaration.wantsFactory := by
  simp only [assemble]
  cases declaration.wantsFactory <;> rfl

/-- **What a module is counted as**, in terms of the fields it was made from. -/
theorem ofModule_of_synthesize {naming : Naming} {declaration : Declaration}
    {fields : List Field} {model : Module}
    (hmodel : synthesize naming declaration fields = .ok model) :
    Stats.ofModule model = {
      builders := 1
      fields := fields.length
      deferred := fields.countP (·.kind.isDeferred)
      branches := 2 ^ fields.countP Field.isOptional
      factories := if declaration.wantsFactory then 1 else 0 } := by
  obtain ⟨typeVars, -, rfl⟩ := synthesize_eq_ok_iff.1 hmodel
  have hbody : (assemble naming declaration typeVars fields).builder.body
      = buildBody declaration.name fields := rfl
  simp only [Stats.ofModule, properties_assemble, hbody, branchCount_buildBody,
    isSome_factory?_assemble, List.length_map, ← List.countP_eq_length_filter,
    List.countP_map, Function.comp_def, isDeferred_fieldProperty]

/-- A declaration is converted when its fields are and a module can be made of
them. -/
theorem convert_eq_ok_iff {naming : Naming} {knownTypes : NameSet}
    {declaration : Declaration} {conversion : Conversion} :
    convert naming knownTypes declaration = .ok conversion ↔
      declaration.convertFields knownTypes
        = .ok ⟨conversion.fields, conversion.warnings⟩
          ∧ synthesize naming declaration conversion.fields
            = .ok conversion.model := by
  obtain ⟨model, fields, warnings⟩ := conversion
  simp only [convert, bind_eq_ok_iff, pure, Except.pure, Except.ok.injEq,
    Conversion.mk.injEq]
  constructor
  · rintro ⟨⟨_, _⟩, hfields, _, hmodel, rfl, rfl, rfl⟩
    exact ⟨hfields, hmodel⟩
  · rintro ⟨hfields, hmodel⟩
    exact ⟨_, hfields, _, hmodel, rfl, rfl, rfl⟩

/-- The skipped declarations of a sum are those of both parts. -/
theorem Stats.skipped_add (a b : Stats) :
    (a + b).skipped = a.skipped + b.skipped := by
  simp only [skipped, add_eq, List.filter_append, List.length_append]

/-- A declaration that is converted counts its fields and notes no skip. -/
theorem ownStats_of_ok {naming : Naming} {knownTypes : NameSet}
    {declaration : Declaration} {conversion : Conversion}
    (hconversion : convert naming knownTypes declaration = .ok conversion) :
    ownStats naming knownTypes declaration = {
        declarations := 1
        builders := 1
        fields := conversion.fields.length
        deferred := conversion.fields.countP (·.kind.isDeferred)
        branches := 2 ^ conversion.fields.countP Field.isOptional
        factories := if declaration.wantsFactory then 1 else 0
        warnings := conversion.warnings }
      ∧ (ownStats naming knownTypes declaration).skipped = 0 := by
  obtain ⟨hfields, hmodel⟩ := convert_eq_ok_iff.1 hconversion
  have hstats : ownStats naming knownTypes declaration
      = Stats.ofDeclaration + Stats.ofModule conversion.model
        + Stats.ofWarnings conversion.warnings := by
    simp only [ownStats, hconversion]
  have hnone : conversion.warnings.filter Warning.isSkip = [] := by
    rw [List.filter_eq_nil_iff]
    intro warning hwarning
    rw [Declaration.isSkip_of_mem_warnings hfields hwarning]
    exact Bool.false_ne_true
  rw [ofModule_of_synthesize hmodel] at hstats
  constructor
  · rw [hstats]
    simp [Stats.add_eq, Stats.ofDeclaration, Stats.ofWarnings]
  · rw [Stats.skipped, warnings_ownStats, ownWarnings, hconversion, hnone]
    rfl

/-- A declaration that fails is seen and skipped, and counts nothing else. -/
theorem ownStats_of_error {naming : Naming} {knownTypes : NameSet}
    {declaration : Declaration} {failure : ConversionFailure}
    (hfailure : convert naming knownTypes declaration = .error failure) :
    ownStats naming knownTypes declaration
        = { declarations := 1,
            warnings := [.declarationSkipped declaration.name failure.message] }
      ∧ (ownStats naming knownTypes declaration).skipped = 1 := by
  simp only [ownStats, hfailure]
  exact ⟨rfl, rfl⟩

namespace Run

/-- The declarations of a list that get a module, each with its conversion. -/
def generated (run : Run) (declarations : List Declaration) :
    List (Declaration × Conversion) :=
  declarations.filterMap fun declaration =>
    match run.convert declaration with
    | .ok conversion => some (declaration, conversion)
    | .error _ => none

/-- What a run has made of the declarations it has seen agrees with what was
generated from them. -/
structure Accounts (run : Run) (seen : List Declaration)
    (output : Output) : Prop where
  declarations : output.stats.declarations = seen.length
  skipped : (run.generated seen).length + output.stats.skipped = seen.length
  modules : output.modules = (run.generated seen).map (·.2.model)
  builders : output.stats.builders = (run.generated seen).length
  fields : output.stats.fields
    = ((run.generated seen).map (·.2.fields.length)).sum
  deferred : output.stats.deferred
    = ((run.generated seen).flatMap (·.2.fields)).countP (·.kind.isDeferred)
  branches : output.stats.branches
    = ((run.generated seen).map (2 ^ ·.2.fields.countP Field.isOptional)).sum
  factories : output.stats.factories
    = (run.generated seen).countP (·.1.wantsFactory)

variable {run : Run} {seen : List Declaration} {output : Output}
  {declaration : Declaration}

/-- Before the first declaration a run has made nothing. -/
theorem accounts_nil : run.Accounts [] {} := by
  constructor <;> rfl

/-- What is generated from two lists is generated from one after the other. -/
theorem generated_append (first second : List Declaration) :
    run.generated (first ++ second)
      = run.generated first ++ run.generated second :=
  List.filterMap_append

/-- Accounts of one part and of another one are accounts of both. -/
theorem Accounts.add {more : List Declaration} {output' : Output}
    (first : run.Accounts seen output) (second : run.Accounts more output') :
    run.Accounts (seen ++ more)
      { modules := output.modules ++ output'.modules,
        stats := output.stats + output'.stats } := by
  have hskipped := first.skipped
  have hskipped' := second.skipped
  constructor
  · simp [Stats.add_eq, first.declarations, second.declarations]
  · simp only [generated_append, List.length_append, Stats.skipped_add]
    omega
  · simp [generated_append, first.modules, second.modules]
  · simp [generated_append, Stats.add_eq, first.builders, second.builders]
  · simp [generated_append, Stats.add_eq, first.fields, second.fields]
  · simp [generated_append, Stats.add_eq, first.deferred, second.deferred]
  · simp [generated_append, Stats.add_eq, first.branches, second.branches]
  · simp [generated_append, Stats.add_eq, first.factories, second.factories]

/-- What a declaration gets by itself is accounted for, whether it is converted
or fails. -/
theorem accounts_own (run : Run) (declaration : Declaration) :
    run.Accounts [declaration] {
      modules := ownModules run.naming run.dump.knownTypes declaration
      stats := ownStats run.naming run.dump.knownTypes declaration } := by
  cases hconvert :
      KotlinBuilders.convert run.naming run.dump.knownTypes declaration with
  | ok conversion =>
    have hgenerated :
        run.generated [declaration] = [(declaration, conversion)] := by
      simp [generated, Run.convert, hconvert]
    have hmodules : ownModules run.naming run.dump.knownTypes declaration
        = [conversion.model] := by
      simp only [ownModules, hconvert]
    obtain ⟨hstats, hskipped⟩ := ownStats_of_ok hconvert
    constructor <;> simp only [hgenerated, hmodules, hskipped] <;>
      simp [hstats, List.countP_cons]
  | error failure =>
    have hgenerated : run.generated [declaration] = [] := by
      simp [generated, Run.convert, hconvert]
    have hmodules :
        ownModules run.naming run.dump.knownTypes declaration = [] := by
      simp only [ownModules, hconvert]
    obtain ⟨hstats, hskipped⟩ := ownStats_of_error hconvert
    constructor <;> simp only [hgenerated, hmodules, hskipped] <;> simp [hstats]

/-- **One step keeps the accounts.** -/
theorem Accounts.step (haccounts : run.Accounts seen output)
    (declaration : Declaration) :
    run.Accounts (seen ++ [declaration]) (run.step output declaration) := by
  rw [step_eq]
  exact haccounts.add (run.accounts_own declaration)

/-- Taking more declarations keeps the accounts. -/
theorem Accounts.foldl_step (haccounts : run.Accounts seen output)
    (declarations : List Declaration) :
    run.Accounts (seen ++ declarations)
      (declarations.foldl run.step output) := by
  -- The accounts speak of all that was seen so far, so both it and the output
  -- vary along the list.
  induction declarations generalizing seen output with
  | nil => rwa [List.append_nil]
  | cons declaration declarations ih =>
    rw [List.append_cons, List.foldl_cons]
    exact ih (haccounts.step declaration)

/-- **A whole run has its accounts.** -/
theorem accounts_generate (run : Run) :
    run.Accounts run.declarations run.generate :=
  accounts_nil.foldl_step run.declarations

/-- **The statistics account for everything.**  Every declaration that a run
sees is counted as generated or as skipped, and each one that is generated makes
one module and one file, in either format.  The other counters are sums over
what was generated: the fields, those among them whose kind is deferred, the
sets of optional fields, and the declarations whose companion object is there
and gets a factory. -/
theorem stats_account (run : Run) (format : OutputFormat) (source : String) :
    let generated := run.generated run.declarations
    (run.stats.declarations = run.stats.builders + run.stats.skipped
        ∧ run.stats.declarations = run.declarations.length)
      ∧ (run.stats.builders = generated.length
        ∧ run.stats.builders = run.modules.length
        ∧ run.stats.builders = (run.files format source).length)
      ∧ run.stats.fields = (generated.map (·.2.fields.length)).sum
      ∧ run.stats.deferred
        = (generated.flatMap (·.2.fields)).countP (·.kind.isDeferred)
      ∧ run.stats.branches
        = (generated.map (2 ^ ·.2.fields.countP Field.isOptional)).sum
      ∧ run.stats.factories = generated.countP
          fun made => made.1.hasCompanion && made.1.companionable := by
  intro generated
  have haccounts := run.accounts_generate
  have hmodules : run.modules.length = generated.length := by
    rw [modules, haccounts.modules, List.length_map]
  have hfiles : (run.files format source).length = generated.length := by
    rw [files, List.length_map, hmodules]
  have hbuilders : run.stats.builders = generated.length := haccounts.builders
  refine ⟨⟨?_, haccounts.declarations⟩, ⟨hbuilders, ?_, ?_⟩, haccounts.fields,
    haccounts.deferred, haccounts.branches, haccounts.factories⟩
  · rw [hbuilders, stats, haccounts.skipped, haccounts.declarations]
  · rw [hbuilders, hmodules]
  · rw [hbuilders, hfiles]

end Run

end KotlinBuilders
