import KotlinBuilders.Batch.Stats
import KotlinBuilders.Builder.Synthesis

/-!
# Runs over a dump

A run takes the declarations of a dump, all of them or those with selected
names, and converts one after the other, adding to the modules and to the
statistics.  One that fails is noted as skipped and stops nothing.  A selection
that names something else than a declaration is refused before anything is
converted.
-/

namespace KotlinBuilders

/-- Which declarations a run takes: all, or those with the given names. -/
abbrev Selection := Option (List String)

/-- Whether a selection takes a name. -/
def Selection.takes (selection : Selection) (name : String) : Bool :=
  match selection with
  | some names => names.contains name
  | none => true

namespace Dump

/-- The declarations that a selection takes, in the dump's order. -/
def selected (dump : Dump) (selection : Selection) : List Declaration :=
  dump.declarations.filter fun declaration =>
    Selection.takes selection declaration.name

/-- The names of a selection that no declaration has. -/
def unknownNames (dump : Dump) (selection : Selection) : NameSet :=
  NameSet.ofList ((selection.getD []).filter fun name =>
    (dump.declaration? name).isNone)

end Dump

/-- A selection with names that no declaration has. -/
structure UnknownDeclarations where
  names : NameSet
  deriving DecidableEq

/-- The wording of the refusal. -/
def UnknownDeclarations.message (unknown : UnknownDeclarations) : String :=
  "unknown declaration(s): " ++ ", ".intercalate unknown.names.toList

/-- A dump together with what a run over it needs to know. -/
structure Run where
  dump : Dump
  naming : Naming
  selection : Selection := none

/-- What a run has made so far. -/
structure Output where
  modules : List Module := []
  stats : Stats := {}

namespace Run

/-- A run, unless its selection has names that no declaration has. -/
def plan (dump : Dump) (naming : Naming) (selection : Selection) :
    Except UnknownDeclarations Run :=
  if (dump.unknownNames selection).isEmpty then .ok ⟨dump, naming, selection⟩
  else .error ⟨dump.unknownNames selection⟩

/-- The declarations of the run. -/
def declarations (run : Run) : List Declaration :=
  run.dump.selected run.selection

/-- The conversion of a declaration. -/
def convert (run : Run) (declaration : Declaration) :
    Except ConversionFailure Conversion :=
  KotlinBuilders.convert run.naming run.dump.knownTypes declaration

/-- What there is after one more declaration.  One that fails leaves a warning
and no module. -/
def step (run : Run) (output : Output) (declaration : Declaration) : Output :=
  let seen := output.stats + Stats.ofDeclaration
  match run.convert declaration with
  | .ok conversion => {
      modules := output.modules ++ [conversion.model]
      stats := seen + Stats.ofModule conversion.model
        + Stats.ofWarnings conversion.warnings }
  | .error failure => {
      modules := output.modules
      stats :=
        seen + Stats.ofWarnings
          [.declarationSkipped declaration.name failure.message] }

/-- What the run makes of its declarations, one after the other. -/
def generate (run : Run) : Output := run.declarations.foldl run.step {}

/-- The modules of the run. -/
def modules (run : Run) : List Module := run.generate.modules

/-- The statistics of the run. -/
def stats (run : Run) : Stats := run.generate.stats

end Run

/-- The fields of a declaration, or the reason why it has none. -/
structure Summary where
  name : String
  package : String
  hasFactory : Bool
  fields : Except ConversionFailure (List Field)

namespace Run

/-- The summary of a declaration. -/
def summary (run : Run) (declaration : Declaration) : Summary where
  name := declaration.name
  package := declaration.package
  hasFactory := declaration.wantsFactory
  fields :=
    (declaration.convertFields run.dump.knownTypes).map FieldConversion.fields

/-- The summaries of the run. -/
def summaries (run : Run) : List Summary := run.declarations.map run.summary

end Run

end KotlinBuilders
