import KotlinBuilders.Batch.Path
import KotlinBuilders.Batch.Run
import KotlinBuilders.Builder.Model
import KotlinBuilders.Kotlin.Rendering

/-!
# The files of a run

Each module makes one file, in the folder that its package names: one folder for
each part of the package between dots.
-/

namespace KotlinBuilders

/-- What a file contains: source text, or the model of the module. -/
inductive OutputFormat where
  | kotlin
  | model
  deriving DecidableEq, Repr

/-- The extension of a file's name. -/
def OutputFormat.extension : OutputFormat → String
  | .kotlin => "kt"
  | .model => "json"

/-- The parts of a package's name between dots. -/
def packageParts (package : String) : List String :=
  ((package.toList.splitOn '.').filter (· ≠ [])).map String.ofList

/-- The path of the file of a module. -/
def Module.path (model : Module) (format : OutputFormat) : String :=
  joinPath ((packageParts model.package).foldl joinPath "")
    (model.fileName ++ "." ++ format.extension)

/-- The contents of the file of a module that was made from a named source. -/
def Module.contents (model : Module) (format : OutputFormat)
    (source : String) : String :=
  match format with
  | .kotlin => model.render (some { source })
  | .model => model.toJson.pretty

/-- A file to be written, its path relative to the output folder. -/
structure GeneratedFile where
  path : String
  contents : String
  deriving DecidableEq, Repr

/-- The file of a module. -/
def Module.file (model : Module) (format : OutputFormat) (source : String) :
    GeneratedFile where
  path := model.path format
  contents := model.contents format source

/-- The files of a run. -/
def Run.files (run : Run) (format : OutputFormat) (source : String) :
    List GeneratedFile :=
  run.modules.map fun model => model.file format source

end KotlinBuilders
