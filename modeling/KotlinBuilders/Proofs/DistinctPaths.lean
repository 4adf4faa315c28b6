import KotlinBuilders.Proofs.PathContainment

/-!
# When two files have the same path

The path of a file is made from the parts of the declaration's package that are
not empty, and from its name.  Nothing else goes into it, and a run does not
compare its declarations with each other: two that agree in both have one path.
Where packages and names have no slashes, the path gives both back
(`Module.pathNames_path_of_isSlashFree`), so that no other two declarations have
one path.

The main statement is `paths_distinct_iff`: the paths of a run are distinct
exactly when its declarations are, and then no file overwrites another one,
wherever they are written to.  `not_forall_paths_distinct` has declarations that
share a path.
-/

namespace KotlinBuilders

open CommandLine

/-- Whether the texts that a declaration's path is made of have no slashes. -/
def Declaration.IsSlashFree (naming : Naming)
    (declaration : Declaration) : Prop :=
  '/' ∉ declaration.package.toList
    ∧ '/' ∉ (declaration.name ++ naming.fileSuffix).toList

instance (naming : Naming) (declaration : Declaration) :
    Decidable (declaration.IsSlashFree naming) :=
  inferInstanceAs (Decidable (_ ∧ _))

/-- What tells a declaration's path from others: the parts of its package and
its name. -/
def Declaration.address (declaration : Declaration) : List String × String :=
  (packageParts declaration.package, declaration.name)

/-- A path without slashes is not absolute. -/
theorem not_isAbsolute_of_slash_not_mem {path : String}
    (habsent : '/' ∉ path.toList) : ¬IsAbsolute path :=
  fun habsolute => habsent (List.mem_of_mem_head? habsolute)

/-- The parts of a package without slashes have none. -/
theorem slash_not_mem_of_mem_packageParts {package part : String}
    (hpackage : '/' ∉ package.toList) (hpart : part ∈ packageParts package) :
    '/' ∉ part.toList :=
  fun hslash => hpackage ((of_mem_packageParts hpart).2 '/' hslash).1

/-- A part of two or more characters leads somewhere else. -/
theorem isPathName_of_length {part : String} (hlong : 1 < part.length) :
    isPathName part = true := by
  have hempty : part ≠ "" := by
    rintro rfl
    exact absurd hlong (by decide)
  have hdot : part ≠ "." := by
    rintro rfl
    exact absurd hlong (by decide)
  simp [isPathName, hempty, hdot]

/-- A part of a package is one name. -/
theorem pathNames_of_mem_packageParts {package part : String}
    (hpackage : '/' ∉ package.toList) (hpart : part ∈ packageParts package) :
    pathNames part = [part] := by
  have hdot : part ≠ "." := by
    rintro rfl
    exact ((of_mem_packageParts hpart).2 '.' (by decide)).2 rfl
  rw [pathNames, pathParts_of_slash_not_mem
    (slash_not_mem_of_mem_packageParts hpackage hpart)]
  simp [isPathName, (of_mem_packageParts hpart).1, hdot]

namespace Module

variable {model other : Module} {format : OutputFormat}

/-- Whether the texts that a module's path is made of have no slashes. -/
def IsSlashFree (model : Module) : Prop := '/' ∉ model.package.toList
  ∧ '/' ∉ model.fileName.toList

/-- The path of a module without slashes stays below the folder. -/
theorem isContained_path_of_isSlashFree (hfree : model.IsSlashFree) :
    IsContained (model.path format) := by
  obtain ⟨hpackage, hname⟩ := hfree
  refine isContained_path_iff.2 ⟨fun part hpart => ?_,
    not_isAbsolute_of_slash_not_mem hname, ?_⟩
  · exact not_isAbsolute_of_slash_not_mem
      (slash_not_mem_of_mem_packageParts hpackage hpart)
  · rw [pathParts_of_slash_not_mem hname]
    exact List.not_mem_nil

/-- The name of a file with its extension is one name. -/
theorem pathNames_withExtension (hname : '/' ∉ model.fileName.toList) :
    pathNames (model.fileName ++ "." ++ format.extension)
      = [model.fileName ++ "." ++ format.extension] := by
  have hslash : '/' ∉ (model.fileName ++ "." ++ format.extension).toList := by
    cases format <;> simp [OutputFormat.extension, hname]
  have hlong : 1 < (model.fileName ++ "." ++ format.extension).length := by
    have hdot : ".".length = 1 := by decide
    have hextension : 0 < format.extension.length := by cases format <;> decide
    rw [String.length_append, String.length_append]
    omega
  rw [pathNames, pathParts_of_slash_not_mem hslash, List.filter_singleton,
    isPathName_of_length hlong]
  rfl

/-- **A path gives its package's parts and its file's name back.** -/
theorem pathNames_path_of_isSlashFree (hfree : model.IsSlashFree) :
    pathNames (model.path format) = packageParts model.package
      ++ [model.fileName ++ "." ++ format.extension] := by
  have hparts : (packageParts model.package).flatMap pathNames
      = packageParts model.package := by
    rw [List.flatMap_congr fun part hpart =>
      pathNames_of_mem_packageParts hfree.1 hpart, List.flatMap_singleton']
  rw [pathNames_path (isContained_path_of_isSlashFree hfree).1, hparts,
    pathNames_withExtension hfree.2]

/-- Two paths go through the same names exactly when packages and names of the
files agree. -/
theorem pathNames_path_eq_iff (hfree : model.IsSlashFree)
    (hother : other.IsSlashFree) :
    pathNames (model.path format) = pathNames (other.path format) ↔
      packageParts model.package = packageParts other.package
      ∧ model.fileName = other.fileName := by
  rw [pathNames_path_of_isSlashFree hfree, pathNames_path_of_isSlashFree hother]
  constructor
  · intro hsame
    obtain ⟨hpackage, hfile⟩ := List.append_inj' hsame rfl
    exact ⟨hpackage, by simpa using hfile⟩
  · rintro ⟨hpackage, hname⟩
    rw [hpackage, hname]

/-- Two modules without slashes have the same path exactly when they have the
same package parts and file name. -/
theorem path_eq_iff (hfree : model.IsSlashFree) (hother : other.IsSlashFree) :
    model.path format = other.path format ↔
      packageParts model.package = packageParts other.package
      ∧ model.fileName = other.fileName := by
  have hnames := @pathNames_path_eq_iff model other format hfree hother
  rw [← hnames]
  refine ⟨congrArg pathNames, fun hsame => ?_⟩
  obtain ⟨hpackage, hname⟩ := hnames.1 hsame
  rw [path, path, hpackage, hname]

/-- Two modules without slashes are written to the same place exactly when they
have the same path. -/
theorem placeOf_path_eq_iff (hfree : model.IsSlashFree)
    (hother : other.IsSlashFree) {disk : Disk} {folder : String} :
    disk.placeOf (joinPath folder (model.path format))
      = disk.placeOf (joinPath folder (other.path format)) ↔
        model.path format = other.path format := by
  rw [Disk.placeOf_joinPath_of_isContained
    (isContained_path_of_isSlashFree hfree),
    Disk.placeOf_joinPath_of_isContained (isContained_path_of_isSlashFree
      hother), List.append_cancel_left_eq, pathNames_path_eq_iff hfree hother,
      path_eq_iff hfree hother]

end Module

namespace Run

variable {run : Run} {format : OutputFormat}
  {made other : Declaration × Conversion}

/-- A module that is generated from a declaration without slashes has none. -/
theorem isSlashFree_of_mem_generated
    (hmade : made ∈ run.generated run.declarations)
    (hfree : made.1.IsSlashFree run.naming) : made.2.model.IsSlashFree := by
  obtain ⟨hpackage, hname⟩ := named_of_mem_generated hmade
  rw [Module.IsSlashFree, hpackage, hname]
  exact hfree

/-- There is one file for each generated module. -/
theorem length_files (run : Run) (format : OutputFormat) (source : String) :
    (run.files format source).length
      = (run.generated run.declarations).length := by
  rw [files_eq, List.length_map]

/-- What two modules agree in is what their declarations agree in, because all
names get the same suffix. -/
theorem address_eq_iff (hmade : made ∈ run.generated run.declarations)
    (hother : other ∈ run.generated run.declarations) :
    packageParts made.2.model.package = packageParts other.2.model.package
        ∧ made.2.model.fileName = other.2.model.fileName ↔
      made.1.address = other.1.address := by
  obtain ⟨hpackage, hname⟩ := named_of_mem_generated hmade
  obtain ⟨hpackage', hname'⟩ := named_of_mem_generated hother
  rw [hpackage, hname, hpackage', hname', String.append_left_inj,
    Declaration.address, Declaration.address, Prod.mk.injEq]

section SlashFree

variable (run) (format) (source : String)
  (hfree : ∀ made ∈ run.generated run.declarations,
    made.1.IsSlashFree run.naming)

include hfree

/-- The paths of a run are distinct when its declarations are, and only then. -/
theorem nodup_paths_iff :
    ((run.files format source).map GeneratedFile.path).Nodup ↔
      ((run.generated run.declarations).map (·.1.address)).Nodup := by
  rw [files_eq, List.map_map, List.Nodup, List.Nodup, List.pairwise_map,
    List.pairwise_map]
  refine List.Pairwise.iff_of_mem fun {made other} hmade hother => not_congr ?_
  rw [← address_eq_iff hmade hother]
  exact Module.path_eq_iff
    (isSlashFree_of_mem_generated hmade (hfree made hmade))
    (isSlashFree_of_mem_generated hother (hfree other hother))

/-- Files have one place exactly when they have one path, whatever folder the
paths are joined to. -/
theorem nodup_places_iff (disk : Disk) (folder : String) :
    ((run.files format source).map fun file =>
      disk.placeOf (joinPath folder file.path)).Nodup ↔
          ((run.files format source).map GeneratedFile.path).Nodup := by
  rw [List.Nodup, List.Nodup, List.pairwise_map, List.pairwise_map]
  refine List.Pairwise.iff_of_mem fun {file other} hfile hother => not_congr ?_
  rw [files_eq] at hfile hother
  obtain ⟨first, hfirst, rfl⟩ := List.mem_map.1 hfile
  obtain ⟨second, hsecond, rfl⟩ := List.mem_map.1 hother
  exact Module.placeOf_path_eq_iff
    (isSlashFree_of_mem_generated hfirst (hfree first hfirst))
    (isSlashFree_of_mem_generated hsecond (hfree second hsecond))

/-- **Which files keep out of each other's way.**  Where packages and names have
no slashes, the paths of a run are distinct exactly when no two declarations
that it generates agree in their names and in the parts of their packages.  Then
the files have as many places as builders were generated; writing them changes
these places only, and if all of them can be written, each file is in its own in
the end. -/
theorem paths_distinct_iff :
    (((run.files format source).map GeneratedFile.path).Nodup ↔
        ((run.generated run.declarations).map (·.1.address)).Nodup)
      ∧ (((run.generated run.declarations).map (·.1.address)).Nodup →
          ∀ (session : Session) (folder : String),
            let files := run.files format source
            let place := fun file : GeneratedFile =>
              session.disk.placeOf (joinPath folder file.path)
            let ran :=
              (files.forM (writeFile Session.machine folder)).run.run session
            ((files.map place).Nodup
                ∧ (files.map place).length = run.stats.builders)
              ∧ session.disk.ChangesOnly (· ∈ files.map place) ran.2.disk
              ∧ (ran.1 = .ok () →
                  ∀ file ∈ files, ran.2.disk.find? (place file)
                    = some (.file file.contents))) := by
  have hiff := run.nodup_paths_iff format source hfree
  refine ⟨hiff, ?_⟩
  intro hdistinct session folder files place ran
  have hnodup : (files.map place).Nodup :=
    (run.nodup_places_iff format source hfree session.disk folder).2
      (hiff.2 hdistinct)
  have hlength : (files.map place).length = run.stats.builders := by
    rw [List.length_map, stats, run.accounts_generate.builders, ← length_files]
  exact ⟨⟨hnodup, hlength⟩,
    Session.changesOnly_forM_writeFile folder files session, fun hok =>
      Session.find?_forM_writeFile folder hok hnodup⟩

end SlashFree

/-- A run over two declarations with one name, in a package and in one below
it. -/
def clinicRun : Run :=
  { dump := { declarations := [counterDeclaration "com.clinic" "Patient",
      counterDeclaration "com.clinic.pets" "Patient"] }
    naming := {} }

/-- What writing the files to the folder `out` of an empty disk leads to. -/
def clinicWritten : Except RunFailure Unit × Session :=
  ((clinicRun.files .kotlin "clinic.json").forM
    (writeFile Session.machine "out")).run.run {}

/-- Both files are there in the end. -/
theorem paths_distinct_clinic :
    (∀ made ∈ clinicRun.generated clinicRun.declarations,
      made.1.IsSlashFree clinicRun.naming)
      ∧ ((clinicRun.generated clinicRun.declarations).map (·.1.address)).Nodup
      ∧ clinicWritten.1 = .ok ()
      ∧ ∀ file ∈ clinicRun.files .kotlin "clinic.json",
          clinicWritten.2.disk.find? (({} : Disk).placeOf
            (joinPath "out" file.path)) = some (.file file.contents) := by
  have hdeclarations : ∀ declaration ∈ clinicRun.declarations,
      declaration.IsSlashFree clinicRun.naming := by
    decide +kernel
  have hfree := clinicRun.forall_generated hdeclarations
  have hdistinct :
      ((clinicRun.generated clinicRun.declarations).map
        (·.1.address)).Nodup := by decide +kernel
  have hok : clinicWritten.1 = .ok () := by decide +kernel
  obtain ⟨-, hwritten⟩ :=
    clinicRun.paths_distinct_iff .kotlin "clinic.json" hfree
  obtain ⟨-, -, hfiles⟩ := hwritten hdistinct {} "out"
  exact ⟨hfree, hdistinct, hok, hfiles hok⟩

/-- A run over two declarations with one name, and over two whose packages
differ by an empty part. -/
def twinsRun : Run :=
  { dump := { declarations := [counterDeclaration "com.example" "Person",
                counterDeclaration "com.example" "Person",
      counterDeclaration "com.pets" "Dog",
      counterDeclaration "com..pets" "Dog"] }
    naming := {} }

/-- **Declarations can share a path.**  Four builders are generated and written
to the folder `out` of an empty disk without a fault, and there are two files
then. -/
theorem not_forall_paths_distinct :
    let files := twinsRun.files .kotlin "twins.json"
    let ran := (files.forM (writeFile Session.machine "out")).run.run {}
    Run.plan twinsRun.dump twinsRun.naming twinsRun.selection = .ok twinsRun
      ∧ files.map GeneratedFile.path
        = ["com/example/PersonExtension.kt", "com/example/PersonExtension.kt",
          "com/pets/DogExtension.kt", "com/pets/DogExtension.kt"]
      ∧ twinsRun.stats.builders = 4
      ∧ ran.1 = .ok ()
      ∧ ran.2.disk.files.map Prod.fst
        = ["out/com/example/PersonExtension.kt",
          "out/com/pets/DogExtension.kt"] :=
  ⟨rfl, by decide +kernel, by decide +kernel, by decide +kernel,
    by decide +kernel⟩

end Run

end KotlinBuilders
