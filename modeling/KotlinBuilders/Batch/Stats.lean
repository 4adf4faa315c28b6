import KotlinBuilders.Builder.Module
import KotlinBuilders.Conversion.Warning

/-!
# Statistics of a run

A run counts what it saw and generated, and keeps its warnings in order.
Statistics are added field by field, so those of a whole run are the sum of
those of its declarations.
-/

namespace KotlinBuilders

/-- What a run saw, generated and noted. -/
structure Stats where
  declarations : Nat := 0
  builders : Nat := 0
  fields : Nat := 0
  deferred : Nat := 0
  branches : Nat := 0
  factories : Nat := 0
  warnings : List Warning := []
  deriving DecidableEq, Repr

namespace Stats

instance : Inhabited Stats := ⟨{}⟩

/-- The statistics of two runs, one after the other. -/
def add (a b : Stats) : Stats where
  declarations := a.declarations + b.declarations
  builders := a.builders + b.builders
  fields := a.fields + b.fields
  deferred := a.deferred + b.deferred
  branches := a.branches + b.branches
  factories := a.factories + b.factories
  warnings := a.warnings ++ b.warnings

instance : Add Stats := ⟨add⟩

/-- A declaration was seen. -/
def ofDeclaration : Stats := { declarations := 1 }

/-- A builder was generated. -/
def ofModule (model : Module) : Stats where
  builders := 1
  fields := model.builder.properties.length
  deferred := (model.builder.properties.filter Property.isDeferred).length
  branches := model.builder.body.branchCount
  factories := if model.factory?.isSome then 1 else 0

/-- Something was noted. -/
def ofWarnings (warnings : List Warning) : Stats := { warnings }

/-- The number of declarations that got no builder. -/
def skipped (stats : Stats) : Nat :=
  (stats.warnings.filter Warning.isSkip).length

end Stats

end KotlinBuilders
