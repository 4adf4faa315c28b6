import KotlinBuilders.Proofs.DiskWrites

/-!
# Which files stay in the output folder

The path of a file comes from the text of a declaration: its package and its
name.  A package is cut at its dots, so no part of it goes back to the folder
around; but a part that begins with a slash starts over.  A name is not cut at
all: what has a slash in front starts over, and what has two dots between
slashes goes back.

The main statement is `files_contained_iff`: the file of a declaration stays in
the folder exactly when its package and its name do neither, and files that all
stay there change nothing outside of it.  `not_forall_files_contained` has names
and packages whose files do not.
-/

namespace KotlinBuilders

open CommandLine

/-- Whether the file of a declaration stays in the folder that it is written to:
no part of its package starts over, and its name neither starts over nor goes
back, except with its last part, which the extension follows. -/
def Declaration.StaysInside (naming : Naming)
    (declaration : Declaration) : Prop :=
  (∀ part ∈ packageParts declaration.package, ¬IsAbsolute part)
    ∧ ¬IsAbsolute (declaration.name ++ naming.fileSuffix)
    ∧ ".." ∉ (pathParts (declaration.name ++ naming.fileSuffix)).dropLast

instance (naming : Naming) (declaration : Declaration) :
    Decidable (declaration.StaysInside naming) :=
  inferInstanceAs (Decidable (_ ∧ _ ∧ _))

namespace Module

variable {model : Module} {format : OutputFormat}

/-- No part of a package goes back, because parts have no dots. -/
theorem up_not_mem_pathNames_of_package {part : String}
    (hpart : part ∈ packageParts model.package) :
    ".." ∉ pathNames part := by
  intro hup
  have hdot : '.' ∈ part.toList :=
    mem_of_mem_pathParts (up_mem_pathNames_iff.1 hup) (by decide)
  exact ((of_mem_packageParts hpart).2 '.' hdot).2 rfl

/-- The extension follows the last part of a file's name, so only the parts in
front of it can go back. -/
theorem up_mem_withExtension_iff :
    ".." ∈ pathNames (model.fileName ++ "." ++ format.extension) ↔
      ".." ∈ (pathParts model.fileName).dropLast := by
  rw [up_mem_pathNames_iff, String.append_assoc]
  apply up_mem_pathParts_append_iff
  · cases format <;> decide
  · cases format <;> decide

/-- **A module's path is contained** unless a part of its package or its file's
name starts over, or the name goes back. -/
theorem isContained_path_iff :
    IsContained (model.path format) ↔
      (∀ part ∈ packageParts model.package, ¬IsAbsolute part)
        ∧ ¬IsAbsolute model.fileName
        ∧ ".." ∉ (pathParts model.fileName).dropLast := by
  have habsolute : ¬IsAbsolute (model.path format) ↔
      (∀ part ∈ packageParts model.package, ¬IsAbsolute part)
      ∧ ¬IsAbsolute model.fileName := by
    simp only [isAbsolute_path_iff, not_or, not_exists, not_and]
  rw [IsContained, ← and_assoc, ← habsolute]
  refine and_congr_right fun hrelative => not_congr ?_
  rw [← up_mem_pathNames_iff, pathNames_path hrelative, List.mem_append,
    up_mem_withExtension_iff]
  refine or_iff_right fun hup => ?_
  obtain ⟨part, hpart, hup⟩ := List.mem_flatMap.1 hup
  exact up_not_mem_pathNames_of_package hpart hup

end Module

namespace Run

variable (run : Run) (format : OutputFormat) (source : String)

/-- The file of a module is contained exactly when its declaration stays
inside. -/
theorem isContained_iff_staysInside {made : Declaration × Conversion}
    (hmade : made ∈ run.generated run.declarations) :
    IsContained (made.2.model.path format) ↔ made.1.StaysInside run.naming := by
  obtain ⟨hpackage, hname⟩ := named_of_mem_generated hmade
  rw [Module.isContained_path_iff, Declaration.StaysInside, hpackage, hname]

/-- **Which files stay in the output folder.**  A run makes one file for each
declaration that it generates.  The path of such a file is relative and never
goes back exactly when the package and the name of the declaration say so.  A
path like this leads below the folder that it is joined to, from any working
folder; and if all paths are like this, writing the files changes nothing
outside of the folder, whether all of them can be written or not. -/
theorem files_contained_iff :
    (run.files format source).map GeneratedFile.path
        = (run.generated run.declarations).map (·.2.model.path format)
      ∧ (∀ made ∈ run.generated run.declarations,
          (IsContained (made.2.model.path format) ↔
            made.1.StaysInside run.naming)
            ∧ ∀ (disk : Disk) (folder : String), made.1.StaysInside run.naming →
                disk.placeOf folder
                  <+: disk.placeOf (joinPath folder (made.2.model.path format)))
      ∧ ∀ (session : Session) (folder : String),
          (∀ made ∈ run.generated run.declarations,
            made.1.StaysInside run.naming) →
            session.disk.ChangesOnly (session.disk.placeOf folder <+: ·)
              (((run.files format source).forM
                (writeFile Session.machine folder)).run.run
                  session).2.disk := by
  have hbelow : ∀ made ∈ run.generated run.declarations,
      ∀ (disk : Disk) (folder : String), made.1.StaysInside run.naming →
        disk.placeOf folder
        <+: disk.placeOf (joinPath folder (made.2.model.path format)) := by
    intro made hmade disk folder hinside
    rw [Disk.placeOf_joinPath_of_isContained
      ((run.isContained_iff_staysInside format hmade).2 hinside)]
    exact List.prefix_append _ _
  refine ⟨?_, fun made hmade =>
    ⟨run.isContained_iff_staysInside format hmade, hbelow made hmade⟩, ?_⟩
  · rw [files_eq, List.map_map]
    rfl
  · intro session folder hinside
    refine (Session.changesOnly_forM_writeFile folder (run.files format source)
      session).mono fun place hplace => ?_
    obtain ⟨file, hfile, rfl⟩ := List.mem_map.1 hplace
    rw [files_eq] at hfile
    obtain ⟨made, hmade, rfl⟩ := List.mem_map.1 hfile
    exact hbelow made hmade session.disk folder (hinside made hmade)

/-- A declaration with one field. -/
def counterDeclaration (package name : String) : Declaration :=
  { name, package, parameters? := some [{ name := "count", type := "int" }] }

/-- A run over two declarations that stay inside; the name of one goes through a
folder. -/
def shopRun : Run :=
  { dump := { declarations := [counterDeclaration "com.shop" "Item",
                counterDeclaration "com.shop" "orders/Line"] }
    naming := {} }

/-- Written to the folder `out`, the files leave the file at the top alone. -/
theorem files_contained_shop :
    let session : Session :=
      { disk := { entries := [(["notes"], .file "kept")] } }
    let written :=
      (((shopRun.files .kotlin "shop.json").forM
        (writeFile Session.machine "out")).run.run session).2.disk
    (shopRun.files .kotlin "shop.json").map GeneratedFile.path
        = ["com/shop/ItemExtension.kt", "com/shop/orders/LineExtension.kt"]
      ∧ (∀ made ∈ shopRun.generated shopRun.declarations,
        made.1.StaysInside shopRun.naming)
      ∧ written.find? ["notes"] = some (.file "kept") := by
  intro session written
  have hdeclarations : ∀ declaration ∈ shopRun.declarations,
      declaration.StaysInside shopRun.naming := by
    decide +kernel
  have hinside := shopRun.forall_generated hdeclarations
  obtain ⟨hpaths, -, hwritten⟩ :=
    shopRun.files_contained_iff .kotlin "shop.json"
  refine ⟨hpaths.trans (by decide +kernel), hinside, ?_⟩
  exact ((hwritten session "out" hinside).find?_eq_file_iff
    (by decide +kernel)).2 (by decide +kernel)

/-- A run over a declaration whose name starts over, one whose name goes back
and one whose package starts over. -/
def jobsRun : Run :=
  { dump := { declarations := [counterDeclaration "com.example" "/etc/Job",
      counterDeclaration "com.example" "../../../Task",
      counterDeclaration "/srv" "Cron"] }
    naming := {} }

/-- **Files can end up outside of the output folder.**  Written to the folder
`out` of an empty disk, none of the three files is in it. -/
theorem not_forall_files_contained :
    let files := jobsRun.files .kotlin "jobs.json"
    let ran := (files.forM (writeFile Session.machine "out")).run.run {}
    Run.plan jobsRun.dump jobsRun.naming jobsRun.selection = .ok jobsRun
      ∧ files.map GeneratedFile.path
          = ["/etc/JobExtension.kt", "com/example/../../../TaskExtension.kt",
            "/srv/CronExtension.kt"]
      ∧ (∀ file ∈ files, ¬IsContained file.path)
      ∧ (ran.1.isOk
        ∧ ∀ place ∈ [["etc", "JobExtension.kt"], ["TaskExtension.kt"],
            ["srv", "CronExtension.kt"]],
          (ran.2.disk.find? place).isSome
            ∧ ¬ran.2.disk.placeOf "out" <+: place) :=
  ⟨rfl, by decide +kernel, by decide +kernel, by decide +kernel⟩

end Run

end KotlinBuilders
