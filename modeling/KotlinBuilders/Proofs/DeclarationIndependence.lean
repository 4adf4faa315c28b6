import KotlinBuilders.Batch.Run
import Mathlib.Algebra.BigOperators.Group.List.Basic

/-!
# Declarations do not influence one another

A run carries its modules and its statistics from one declaration to the next.
What a step adds to them does not depend on what they hold (`step_eq`), so a
whole run adds up what each declaration gets by itself (`foldl_step`), and that
is a function of the declaration, of the naming and of the known types.

The main statement is `generate_independent`: the modules and the warnings of a
run are those of its declarations, one after the other; the run over two lists
is the two runs, one after the other; and a declaration that fails changes no
module.
-/

namespace KotlinBuilders

namespace Stats

/-- Statistics are added counter by counter. -/
theorem add_eq (a b : Stats) : a + b = {
    declarations := a.declarations + b.declarations
    builders := a.builders + b.builders
    fields := a.fields + b.fields
    deferred := a.deferred + b.deferred
    branches := a.branches + b.branches
    factories := a.factories + b.factories
    warnings := a.warnings ++ b.warnings } := rfl

instance : Zero Stats := ⟨{}⟩

/-- The zero of the statistics counts nothing. -/
theorem zero_eq : (0 : Stats) = {} := rfl

instance : AddMonoid Stats where
  add_assoc a b c := by simp only [add_eq, Nat.add_assoc, List.append_assoc]
  zero_add a := by simp only [zero_eq, add_eq, Nat.zero_add, List.nil_append]
  add_zero a := by simp only [zero_eq, add_eq, Nat.add_zero, List.append_nil]
  nsmul := nsmulRec

/-- Warnings are added up in order. -/
theorem warnings_sum (all : List Stats) :
    all.sum.warnings = all.flatMap warnings := by
  induction all with
  | nil => rfl
  | cons stats all ih => rw [List.sum_cons, List.flatMap_cons, ← ih, add_eq]

end Stats

/-- The module of a declaration; none where it fails. -/
def ownModules (naming : Naming) (knownTypes : NameSet)
    (declaration : Declaration) : List Module :=
  match convert naming knownTypes declaration with
  | .ok conversion => [conversion.model]
  | .error _ => []

/-- What is noted about a declaration; where it fails, that it was skipped and
why. -/
def ownWarnings (naming : Naming) (knownTypes : NameSet)
    (declaration : Declaration) : List Warning :=
  match convert naming knownTypes declaration with
  | .ok conversion => conversion.warnings
  | .error failure => [.declarationSkipped declaration.name failure.message]

/-- The statistics of a declaration. -/
def ownStats (naming : Naming) (knownTypes : NameSet)
    (declaration : Declaration) : Stats :=
  match convert naming knownTypes declaration with
  | .ok conversion =>
    Stats.ofDeclaration + Stats.ofModule conversion.model
      + Stats.ofWarnings conversion.warnings
  | .error failure =>
    Stats.ofDeclaration + Stats.ofWarnings
      [.declarationSkipped declaration.name failure.message]

/-- The warnings counted for a declaration are its own. -/
theorem warnings_ownStats (naming : Naming) (knownTypes : NameSet)
    (declaration : Declaration) :
    (ownStats naming knownTypes declaration).warnings
      = ownWarnings naming knownTypes declaration := by
  unfold ownStats ownWarnings
  split <;> rfl

namespace Run

/-- The run over other declarations of a host that knows the same types. -/
def on (run : Run) (declarations : List Declaration) : Run :=
  { run with dump := { run.dump with declarations } }

variable (run : Run)

/-- **One step.**  A declaration adds what it gets by itself, whatever was made
before it. -/
theorem step_eq (output : Output) (declaration : Declaration) :
    run.step output declaration = {
      modules :=
        output.modules ++ ownModules run.naming run.dump.knownTypes declaration
      stats := output.stats + ownStats run.naming run.dump.knownTypes
          declaration } := by
  unfold step Run.convert ownModules ownStats
  cases KotlinBuilders.convert run.naming run.dump.knownTypes declaration with
  | ok conversion => simp only [add_assoc]
  | error failure => simp only [add_assoc, List.append_nil]

/-- **A whole run.**  The declarations add up what each gets by itself. -/
theorem foldl_step (declarations : List Declaration) (output : Output) :
    declarations.foldl run.step output = {
      modules := output.modules
        ++ declarations.flatMap (ownModules run.naming run.dump.knownTypes)
      stats := output.stats
          + (declarations.map (ownStats run.naming run.dump.knownTypes)).sum
            } := by
  induction declarations generalizing output with
  | nil => simp
  | cons declaration declarations ih =>
    rw [List.foldl_cons, ih, step_eq, List.flatMap_cons, List.map_cons,
      List.sum_cons, List.append_assoc, add_assoc]

/-- The modules of a run are those of its declarations, one after the other. -/
theorem modules_eq :
    run.modules = run.declarations.flatMap
      (ownModules run.naming run.dump.knownTypes) := by
  rw [modules, generate, foldl_step, List.nil_append]

/-- The statistics of a run are the sum of those of its declarations. -/
theorem stats_eq : run.stats
    = (run.declarations.map (ownStats run.naming run.dump.knownTypes)).sum := by
  rw [stats, generate, foldl_step]
  exact zero_add _

/-- The warnings of a run are those of its declarations, one after the other. -/
theorem warnings_stats :
    run.stats.warnings = run.declarations.flatMap
      (ownWarnings run.naming run.dump.knownTypes) := by
  rw [stats_eq, Stats.warnings_sum, List.flatMap_map]
  exact List.flatMap_congr fun declaration _ =>
    warnings_ownStats _ _ declaration

/-- Only declarations of the dump are selected. -/
theorem mem_dump_of_mem_declarations {run : Run} {declaration : Declaration}
    (hselected : declaration ∈ run.declarations) :
    declaration ∈ run.dump.declarations := by
  unfold declarations Dump.selected at hselected
  exact List.mem_of_mem_filter hselected

/-- A selection takes the declarations of both lists, in order. -/
theorem declarations_on_append (first second : List Declaration) :
    (run.on (first ++ second)).declarations
      = (run.on first).declarations ++ (run.on second).declarations :=
  List.filter_append first second

/-- A run over two lists gives the modules of the first and then those of the
second. -/
theorem modules_on_append (first second : List Declaration) :
    (run.on (first ++ second)).modules
      = (run.on first).modules ++ (run.on second).modules := by
  simp only [modules_eq, declarations_on_append, List.flatMap_append]
  rfl

/-- A run over two lists counts what a run over each of them does. -/
theorem stats_on_append (first second : List Declaration) :
    (run.on (first ++ second)).stats
      = (run.on first).stats + (run.on second).stats := by
  simp only [stats_eq, declarations_on_append, List.map_append, List.sum_append]
  rfl

/-- A declaration that fails gets no module, selected or not. -/
theorem modules_on_failing {declaration : Declaration}
    {failure : ConversionFailure}
    (hfailure : run.convert declaration = .error failure) :
    (run.on [declaration]).modules = [] := by
  rw [modules_eq, List.flatMap_eq_nil_iff]
  intro other hother
  have hmem : other ∈ [declaration] := mem_dump_of_mem_declarations hother
  have hconvert : KotlinBuilders.convert run.naming run.dump.knownTypes other
      = .error failure :=
    List.mem_singleton.1 hmem ▸ hfailure
  change ownModules run.naming run.dump.knownTypes other = []
  simp only [ownModules, hconvert]

/-- **Declarations are generated independently.**  The modules of a run are
those that its declarations get by themselves, in the order of the dump, and so
are its warnings.  The run over two lists of declarations makes the modules of
both and adds up their statistics.  A declaration that fails changes no module,
wherever it stands. -/
theorem generate_independent :
    (run.modules
          = run.declarations.flatMap (ownModules run.naming run.dump.knownTypes)
        ∧ run.stats.warnings
          = run.declarations.flatMap
            (ownWarnings run.naming run.dump.knownTypes))
      ∧ (∀ first second : List Declaration,
          (run.on (first ++ second)).modules
              = (run.on first).modules ++ (run.on second).modules
            ∧ (run.on (first ++ second)).stats
              = (run.on first).stats + (run.on second).stats)
      ∧ ∀ (before after : List Declaration) (declaration : Declaration)
          (failure : ConversionFailure),
          run.convert declaration = .error failure →
            (run.on (before ++ declaration :: after)).modules
              = (run.on (before ++ after)).modules := by
  refine ⟨⟨run.modules_eq, run.warnings_stats⟩, ?_, ?_⟩
  · intro first second
    exact ⟨run.modules_on_append first second, run.stats_on_append first second⟩
  · intro before after declaration failure hfailure
    rw [← List.singleton_append, modules_on_append, modules_on_append,
      modules_on_failing run hfailure, List.nil_append, ← modules_on_append]

/-- A declaration with one parameter. -/
def soundDeclaration (name : String) : Declaration :=
  { name, package := "com.example",
    parameters? := some [{ name := "id", type := "long" }] }

/-- A declaration that gives neither parameters nor a listing. -/
def silentDeclaration : Declaration := { name := "Silent" }

/-- Between two declarations that are generated, one that says nothing about its
fields leaves their modules alone. -/
theorem generate_independent_silent :
    let run : Run := { dump := {}, naming := {} }
    run.convert silentDeclaration = .error (.noParameters "Silent")
      ∧ (run.on [soundDeclaration "Dog", silentDeclaration,
        soundDeclaration "Cat"]).modules
          = (run.on [soundDeclaration "Dog", soundDeclaration "Cat"]).modules
      ∧ (run.on [soundDeclaration "Dog", soundDeclaration "Cat"]).modules.map
        Module.fileName
          = ["DogExtension", "CatExtension"] := by
  intro run
  have hfailure :
      run.convert silentDeclaration = .error (.noParameters "Silent") := rfl
  refine ⟨hfailure, ?_, by decide +kernel⟩
  exact run.generate_independent.2.2 [soundDeclaration "Dog"]
    [soundDeclaration "Cat"] _ _ hfailure

end Run

end KotlinBuilders
