import KotlinBuilders.Batch.Files
import KotlinBuilders.CommandLine.Disk
import KotlinBuilders.Proofs.Cutting
import KotlinBuilders.Proofs.RunAccounts

/-!
# Where a path leads

A path is followed part by part.  Empty parts and those that mean the folder
itself lead nowhere, so what counts are the names that a path goes through
(`pathNames`).  Joining a relative path to another one puts its names behind
(`pathNames_joinPath`); a path that begins with a slash starts over.

Following a path can fail, but it cannot lead to two places: its names and the
working folder decide (`Disk.eq_placeOf_of_follow`).  A path is contained if it
is relative and none of its names goes back to the folder around; joined to a
folder, it leads to a place below the folder
(`Disk.placeOf_joinPath_of_isContained`).

The path of a module starts over where a part of its package or the name of its
file does (`Module.isAbsolute_path_iff`); any other goes through the names of
the parts and then those of the file (`Module.pathNames_path`).
-/

namespace KotlinBuilders

/-- What is between two separators is text, and no separator. -/
theorem mem_of_mem_splitOn {separator c : Char} {text piece : List Char}
    (hpiece : piece ∈ text.splitOn separator) (hc : c ∈ piece) :
    c ∈ text ∧ c ≠ separator := by
  induction text generalizing piece with
  | nil =>
    rw [List.splitOn_nil, List.mem_singleton] at hpiece
    rw [hpiece] at hc
    cases hc
  | cons first text ih =>
    obtain ⟨front, pieces, hpieces⟩ :=
      List.exists_cons_of_ne_nil (List.splitOn_ne_nil separator text)
    rw [List.splitOn_cons_eq_if_modifyHead] at hpiece
    rw [hpieces] at ih hpiece
    split at hpiece
    · obtain rfl | hpiece := List.mem_cons.1 hpiece
      · cases hc
      · exact (ih hpiece hc).imp_left (List.mem_cons_of_mem _)
    · next hfirst =>
      obtain rfl | hpiece := List.mem_cons.1 hpiece
      · obtain rfl | hc := List.mem_cons.1 hc
        · exact ⟨List.mem_cons_self, by simpa using hfirst⟩
        · exact (ih List.mem_cons_self hc).imp_left (List.mem_cons_of_mem _)
      · exact (ih (List.mem_cons_of_mem _ hpiece) hc).imp_left
          (List.mem_cons_of_mem _)

/-! ## Parts and names -/

/-- The parts of a path, between its slashes. -/
def pathParts (path : String) : List String :=
  (path.toList.splitOn '/').map String.ofList

/-- Whether a part of a path leads somewhere else. -/
def isPathName (part : String) : Bool := part ≠ "" && part ≠ "."

/-- The names that a path goes through. -/
def pathNames (path : String) : List String :=
  (pathParts path).filter isPathName

/-- Whether a path starts over wherever it is joined to. -/
def IsAbsolute (path : String) : Prop := path.toList.head? = some '/'

instance (path : String) : Decidable (IsAbsolute path) :=
  inferInstanceAs (Decidable (_ = _))

/-- Whether a path stays in the folder that it is joined to: it does not start
over, and no part of it goes back to the folder around. -/
def IsContained (path : String) : Prop :=
  ¬IsAbsolute path ∧ ".." ∉ pathParts path

instance (path : String) : Decidable (IsContained path) :=
  inferInstanceAs (Decidable (_ ∧ _))

/-- The parts of a path with a slash in it are those in front and those
behind. -/
theorem pathParts_eq_append {path front back : String}
    (hpath : path.toList = front.toList ++ '/' :: back.toList) :
    pathParts path = pathParts front ++ pathParts back := by
  rw [pathParts, hpath, List.splitOn_append_cons_self, List.map_append]
  rfl

/-- A path without slashes is a single part. -/
theorem pathParts_of_slash_not_mem {path : String}
    (habsent : '/' ∉ path.toList) : pathParts path = [path] := by
  rw [pathParts, List.splitOn_eq_singleton habsent, List.map_singleton,
    String.ofList_toList]

/-- The characters of a part are characters of the path. -/
theorem mem_of_mem_pathParts {path part : String} {c : Char}
    (hpart : part ∈ pathParts path) (hc : c ∈ part.toList) :
    c ∈ path.toList := by
  obtain ⟨piece, hpiece, rfl⟩ := List.mem_map.1 hpart
  rw [String.toList_ofList] at hc
  exact (mem_of_mem_splitOn hpiece hc).1

/-- A path goes back exactly where one of its parts does. -/
theorem up_mem_pathNames_iff {path : String} : ".." ∈ pathNames path ↔
    ".." ∈ pathParts path := by
  rw [pathNames, List.mem_filter]
  exact and_iff_left (by decide)

/-- A last part that does not go back may be written on without changing whether
a path goes back. -/
theorem up_mem_pathParts_append_iff {path back : String}
    (habsent : '/' ∉ back.toList) (hlong : 2 < back.length) :
    ".." ∈ pathParts (path ++ back) ↔ ".." ∈ (pathParts path).dropLast := by
  have hlast : ∀ front : String, ".." ≠ front ++ back := by
    intro front hsame
    have hlength := congrArg String.length hsame
    have htwo : "..".length = 2 := by decide
    rw [String.length_append, htwo] at hlength
    omega
  cases hcut : Text.cutAtLast '/' path.toList with
  | none =>
    have hpath := Text.not_mem_of_cutAtLast_eq_none hcut
    rw [pathParts_of_slash_not_mem hpath,
      pathParts_of_slash_not_mem (by simp [hpath, habsent])]
    simpa using hlast path
  | some parts =>
    obtain ⟨front, last⟩ := parts
    have hpath := Text.eq_of_cutAtLast hcut
    have hfresh := Text.not_mem_of_cutAtLast hcut
    have hend : pathParts (String.ofList last) = [String.ofList last] :=
      pathParts_of_slash_not_mem (by simpa using hfresh)
    have hlongerEnd :
        pathParts (String.ofList last ++ back) = [String.ofList last ++ back] :=
      pathParts_of_slash_not_mem (by simp [hfresh, habsent])
    have hparts : pathParts path
        = pathParts (String.ofList front) ++ [String.ofList last] := by
      rw [← hend]
      exact pathParts_eq_append (by simpa using hpath)
    have hlonger : pathParts (path ++ back)
        = pathParts (String.ofList front) ++ [String.ofList last ++ back] := by
      rw [← hlongerEnd]
      exact pathParts_eq_append (by simp [hpath])
    rw [hparts, hlonger, List.dropLast_concat, List.mem_append,
      List.mem_singleton]
    simp [hlast]

/-! ## Joining -/

section Joining

variable {path part : String}

/-- A path that starts over is all that is left of a joined path. -/
theorem joinPath_of_isAbsolute (hpart : IsAbsolute part) :
    joinPath path part = part := by
  unfold joinPath
  exact if_pos hpart

/-- A relative path comes behind a slash, unless the path before it is empty or
has one there. -/
theorem joinPath_of_relative (hpart : ¬IsAbsolute part) :
    joinPath path part =
      if path = "" ∨ path.toList.getLast? = some '/' then path ++ part
      else path ++ "/" ++ part := by
  unfold joinPath
  rw [if_neg (show ¬part.toList.head? = some '/' from hpart)]
  simp only [String.isEmpty_iff]

/-- A joined path starts over when one of the two does. -/
theorem isAbsolute_joinPath_iff : IsAbsolute (joinPath path part) ↔
    IsAbsolute path ∨ IsAbsolute part := by
  by_cases hpart : IsAbsolute part
  · simp [joinPath_of_isAbsolute hpart, hpart]
  rw [joinPath_of_relative hpart]
  by_cases hempty : path = ""
  · have habsent : ¬IsAbsolute "" := by decide
    simp [hempty, hpart, habsent]
  · obtain ⟨c, rest, hpath⟩ :=
      List.exists_cons_of_ne_nil (mt String.toList_eq_nil_iff.1 hempty)
    simp only [hpart, or_false]
    split <;> simp [IsAbsolute, hpath]

/-- **The names of a relative path come behind those of the path that it is
joined to.** -/
theorem pathNames_joinPath (hpart : ¬IsAbsolute part) :
    pathNames (joinPath path part) = pathNames path ++ pathNames part := by
  rw [joinPath_of_relative hpart]
  by_cases hempty : path = ""
  · have hnone : pathNames "" = [] := by decide
    simp [hempty, hnone]
  by_cases hslash : path.toList.getLast? = some '/'
  · obtain ⟨front, hfront⟩ := List.getLast?_eq_some_iff.1 hslash
    have hbefore :
        pathParts path = pathParts (String.ofList front) ++ pathParts "" :=
      pathParts_eq_append (by simp [hfront])
    have hjoined : pathParts (path ++ part)
        = pathParts (String.ofList front) ++ pathParts part :=
      pathParts_eq_append (by simp [hfront])
    have hnone : (pathParts "").filter isPathName = [] := by decide
    rw [if_pos (.inr hslash), pathNames, pathNames, pathNames, hbefore, hjoined,
      List.filter_append, List.filter_append, hnone, List.append_nil]
  · have hjoined :
        pathParts (path ++ "/" ++ part) = pathParts path ++ pathParts part :=
      pathParts_eq_append (by simp)
    rw [if_neg (by simp [hempty, hslash]), pathNames, hjoined,
      List.filter_append]
    rfl

/-- Several parts joined to a path one after the other start over where one of
them does. -/
theorem isAbsolute_foldl_joinPath_iff {parts : List String} :
    IsAbsolute (parts.foldl joinPath path) ↔ IsAbsolute path
      ∨ ∃ part ∈ parts, IsAbsolute part := by
  induction parts generalizing path with
  | nil => simp
  | cons part parts ih =>
    rw [List.foldl_cons, ih, isAbsolute_joinPath_iff]
    simp only [List.mem_cons, exists_eq_or_imp, or_assoc]

/-- Parts that do not start over are joined to a path with all their names
behind its own. -/
theorem pathNames_foldl_joinPath {parts : List String}
    (hparts : ∀ part ∈ parts, ¬IsAbsolute part) :
    pathNames (parts.foldl joinPath path)
      = pathNames path ++ parts.flatMap pathNames := by
  induction parts generalizing path with
  | nil => simp
  | cons part parts ih =>
    obtain ⟨hpart, hparts⟩ := List.forall_mem_cons.1 hparts
    rw [List.foldl_cons, ih hparts, pathNames_joinPath hpart, List.flatMap_cons,
      List.append_assoc]

end Joining

/-! ## The paths of modules -/

section Modules

variable {model : Module} {format : OutputFormat}

/-- The parts of a package are not empty, and they are text of the package
between dots. -/
theorem of_mem_packageParts {package part : String}
    (hpart : part ∈ packageParts package) :
    part ≠ "" ∧ ∀ c ∈ part.toList, c ∈ package.toList ∧ c ≠ '.' := by
  obtain ⟨piece, hpiece, rfl⟩ := List.mem_map.1 hpart
  obtain ⟨hpiece, hne⟩ := List.mem_filter.1 hpiece
  refine ⟨by simpa using hne, fun c hc => ?_⟩
  rw [String.toList_ofList] at hc
  exact mem_of_mem_splitOn hpiece hc

/-- With its extension a file's name starts over exactly when it does
without. -/
theorem isAbsolute_withExtension_iff :
    IsAbsolute (model.fileName ++ "." ++ format.extension) ↔
      IsAbsolute model.fileName := by
  cases hname : model.fileName.toList <;> simp [IsAbsolute, hname]

/-- A module's path starts over where a part of its package or its file's name
does. -/
theorem Module.isAbsolute_path_iff :
    IsAbsolute (model.path format) ↔
      (∃ part ∈ packageParts model.package, IsAbsolute part)
      ∨ IsAbsolute model.fileName := by
  have habsent : ¬IsAbsolute "" := by decide
  rw [Module.path, isAbsolute_joinPath_iff, isAbsolute_foldl_joinPath_iff,
    isAbsolute_withExtension_iff, or_iff_right habsent]

/-- A relative module path goes through the names of the package's parts to
those of the file. -/
theorem Module.pathNames_path (hrelative : ¬IsAbsolute (model.path format)) :
    pathNames (model.path format) =
      (packageParts model.package).flatMap pathNames
      ++ pathNames (model.fileName ++ "." ++ format.extension) := by
  obtain ⟨hpackage, hname⟩ :=
    not_or.1 (mt Module.isAbsolute_path_iff.2 hrelative)
  have hnone : pathNames "" = [] := by decide
  rw [Module.path, pathNames_joinPath (mt isAbsolute_withExtension_iff.1 hname),
    pathNames_foldl_joinPath fun part hpart habsolute =>
      hpackage ⟨part, hpart, habsolute⟩, hnone, List.nil_append]

end Modules

/-! ## The paths of a run -/

namespace Run

variable {run : Run} {declarations : List Declaration}
  {made : Declaration × Conversion}

/-- The conversions that are generated are those of the declarations that
convert. -/
theorem mem_generated_iff :
    made ∈ run.generated declarations ↔ made.1 ∈ declarations
      ∧ run.convert made.1 = .ok made.2 := by
  obtain ⟨declaration, conversion⟩ := made
  rw [generated, List.mem_filterMap]
  constructor
  · rintro ⟨other, hother, hmatch⟩
    split at hmatch
    · next hconvert =>
      obtain ⟨rfl, rfl⟩ := Prod.mk.inj (Option.some.inj hmatch)
      exact ⟨hother, hconvert⟩
    · cases hmatch
  · rintro ⟨hmem, hconvert⟩
    exact ⟨declaration, hmem, by simp only [hconvert]⟩

/-- What holds of every declaration holds of those that get a module. -/
theorem forall_generated (run : Run) {property : Declaration → Prop}
    (hall : ∀ declaration ∈ declarations, property declaration) :
    ∀ made ∈ run.generated declarations, property made.1 :=
  fun made hmade => hall made.1 (mem_generated_iff.1 hmade).1

/-- A file is named for its declaration and goes into the folder of the
declaration's package. -/
theorem named_of_mem_generated (hmade : made ∈ run.generated declarations) :
    made.2.model.package = made.1.package
      ∧ made.2.model.fileName = made.1.name ++ run.naming.fileSuffix := by
  obtain ⟨-, hconvert⟩ := mem_generated_iff.1 hmade
  obtain ⟨-, hmodel⟩ := convert_eq_ok_iff.1 hconvert
  obtain ⟨typeVars, -, hassemble⟩ := synthesize_eq_ok_iff.1 hmodel
  rw [← hassemble]
  exact ⟨rfl, rfl⟩

/-- The files of a run are those of the declarations that get a module. -/
theorem files_eq (run : Run) (format : OutputFormat) (source : String) :
    run.files format source =
      (run.generated run.declarations).map fun made => made.2.model.file
      format source := by
  rw [files, modules, run.accounts_generate.modules, List.map_map]
  rfl

end Run

namespace CommandLine

/-! ## Places -/

/-- The place that a part of a path leads to, if it leads anywhere. -/
def placeAfter (place : Place) (part : String) : Place :=
  if isPathName part then if part = ".." then place.dropLast
    else place ++ [part] else place

/-- Without names that go back, a path only goes further. -/
theorem foldl_placeAfter {parts : List String} (hup : ".." ∉ parts)
    (place : Place) :
    parts.foldl placeAfter place = place ++ parts.filter isPathName := by
  induction parts generalizing place with
  | nil => simp
  | cons part parts ih =>
    obtain ⟨hpart, hparts⟩ := not_or.1 (mt List.mem_cons.2 hup)
    rw [List.foldl_cons, ih hparts, List.filter_cons, placeAfter]
    split
    · rw [if_neg (Ne.symm hpart), List.append_assoc, List.singleton_append]
    · rfl

/-- Parts that are no names do not count. -/
theorem foldl_placeAfter_filter (parts : List String) (place : Place) :
    (parts.filter isPathName).foldl placeAfter place
      = parts.foldl placeAfter place := by
  rw [List.foldl_filter]
  congr 1
  funext before part
  unfold placeAfter
  split <;> rfl

namespace Disk

variable {disk : Disk} {path : String} {place : Place}

/-- The place that a path leads to, if it leads anywhere. -/
def placeOf (disk : Disk) (path : String) : Place :=
  (pathNames path).foldl placeAfter (if IsAbsolute path then [] else disk.here)

/-- Where a part can be entered, it leads to the place that is computed for
it. -/
theorem eq_placeAfter_of_enter {part : String} {next : Place}
    (henter : disk.enter place part = .ok next) :
    next = placeAfter place part := by
  unfold enter at henter
  unfold placeAfter isPathName
  split at henter
  · cases henter
  · cases henter
  · grind

/-- Where several parts can be entered, they lead to the place that is computed
for them. -/
theorem eq_foldl_of_foldlM_enter {parts : List String} {last : Place}
    (hfollow : parts.foldlM disk.enter place = .ok last) :
    last = parts.foldl placeAfter place := by
  induction parts generalizing place with
  | nil => exact (Except.ok.inj hfollow).symm
  | cons part parts ih =>
    rw [List.foldlM_cons] at hfollow
    obtain ⟨next, henter, hrest⟩ := bind_eq_ok_iff.1 hfollow
    rw [List.foldl_cons, ← eq_placeAfter_of_enter henter]
    exact ih hrest

/-- A path is followed from the root if it starts over, and from the working
folder if not. -/
theorem eq_of_start {parts : List String}
    (hstart : disk.start path = .ok (place, parts)) :
    place = (if IsAbsolute path then [] else disk.here)
      ∧ parts = pathParts path := by
  unfold start at hstart
  split at hstart
  · cases hstart
  split at hstart
  · cases hstart
  · obtain ⟨hplace, hparts⟩ := Prod.mk.inj (Except.ok.inj hstart)
    exact ⟨hplace.symm, hparts.symm⟩

/-- **A path leads to one place**, whatever is on the disk. -/
theorem eq_placeOf_of_follow (hfollow : disk.follow path = .ok place) :
    place = disk.placeOf path := by
  unfold follow at hfollow
  split at hfollow
  · cases hfollow
  · obtain ⟨⟨first, parts⟩, hstart, hparts⟩ := bind_eq_ok_iff.1 hfollow
    obtain ⟨rfl, rfl⟩ := eq_of_start hstart
    rw [placeOf, pathNames, foldl_placeAfter_filter]
    exact eq_foldl_of_foldlM_enter hparts

/-- A relative path goes on from where the path leads that it is joined to. -/
theorem placeOf_joinPath {part : String} (hpart : ¬IsAbsolute part) :
    disk.placeOf (joinPath path part)
      = (pathNames part).foldl placeAfter (disk.placeOf path) := by
  have habsolute : IsAbsolute (joinPath path part) ↔ IsAbsolute path := by
    rw [isAbsolute_joinPath_iff]
    exact or_iff_left hpart
  simp only [placeOf, pathNames_joinPath hpart, List.foldl_append, habsolute]

/-- **A contained path leads below the folder that it is joined to.** -/
theorem placeOf_joinPath_of_isContained {part : String}
    (hpart : IsContained part) :
    disk.placeOf (joinPath path part)
      = disk.placeOf path ++ pathNames part := by
  obtain ⟨hrelative, hup⟩ := hpart
  rw [placeOf_joinPath hrelative, pathNames, foldl_placeAfter_filter,
    foldl_placeAfter hup]

end Disk

end CommandLine

end KotlinBuilders
