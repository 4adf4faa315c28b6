import KotlinBuilders.CommandLine.Machine

/-!
# A disk as a value

A disk holds folders and files, each at a place: the names of the folders that
lead to it and its own.  A path is followed part by part, and each part can only
be followed from a folder.  A path that begins with a slash is followed from the
top, any other from the working folder.
-/

namespace KotlinBuilders.CommandLine

/-- A place on a disk, the outermost name first. -/
abbrev Place := List String

/-- What is at a place. -/
inductive Entry where
  | folder
  | file (contents : String)
  deriving DecidableEq, Repr

/-- The folders and files of a disk, and the working folder. -/
structure Disk where
  entries : List (Place × Entry) := []
  here : Place := []
  deriving Repr

namespace Disk

/-- What is at a place.  The top folder is always there. -/
def find? (disk : Disk) (place : Place) : Option Entry :=
  if place.isEmpty then some .folder else disk.entries.lookup place

/-- The entries with one put at a place, where another may have been. -/
def putEntry (place : Place) (entry : Entry) : List (Place × Entry) →
    List (Place × Entry)
  | [] => [(place, entry)]
  | (first, old) :: others =>
    if first = place then (place, entry) :: others
      else (first, old) :: putEntry place entry others

/-- The disk with an entry put at a place. -/
def put (disk : Disk) (place : Place) (entry : Entry) : Disk :=
  { disk with entries := putEntry place entry disk.entries }

/-- After an entry is put, its own place reads it and every other place reads
what it did before. -/
theorem lookup_putEntry (place : Place) (entry : Entry)
    (entries : List (Place × Entry)) (other : Place) :
    (putEntry place entry entries).lookup other = if other = place
      then some entry else entries.lookup other := by
  induction entries with
  | nil => by_cases h : other = place <;>
      simp [putEntry, List.lookup_cons, h, beq_eq_false_iff_ne.2]
  | cons first others ih =>
    obtain ⟨name, old⟩ := first
    by_cases h : name = place
    · subst h
      by_cases h' : other = name <;>
        simp [putEntry, List.lookup_cons, h', beq_eq_false_iff_ne.2]
    · by_cases h' : other = name
      · subst h'; simp [putEntry, h]
      · simp [putEntry, List.lookup_cons, h, ih, beq_eq_false_iff_ne.2 h']

/-- A disk holds what was put last at a place, and all else as before. -/
theorem find?_put (disk : Disk) {place : Place} (entry : Entry) (other : Place)
    (h : place ≠ []) :
    (disk.put place entry).find? other = if other = place then some entry
      else disk.find? other := by
  unfold find? put
  by_cases ho : other = []
  · simp [ho, h.symm]
  · simp [ho, lookup_putEntry]

/-- The most bytes that the name of an entry may have. -/
def nameLimit : Nat := 255

/-- The number of bytes that no path may reach. -/
def pathLimit : Nat := 4096

/-- The place that a part of a path leads to from another place. -/
def enter (disk : Disk) (place : Place) (part : String) :
    Except DiskFault Place :=
  match disk.find? place with
  | none => .error .missing
  | some (.file _) => .error .notFolder
  | some .folder =>
    if part = "" ∨ part = "." then .ok place
    else if part = ".." then .ok place.dropLast
    else if nameLimit < part.utf8ByteSize then .error .nameTooLong
    else .ok (place ++ [part])

/-- The parts of a path and the place from which they are followed. -/
def start (disk : Disk) (path : String) :
    Except DiskFault (Place × List String) :=
  if path.toList.contains '\x00' then .error .nulByte
  else if pathLimit ≤ path.utf8ByteSize then .error .nameTooLong
  else
    let parts := (path.toList.splitOn '/').map String.ofList
    .ok (if path.toList.head? = some '/' then [] else disk.here, parts)

/-- The place that a path leads to. -/
def follow (disk : Disk) (path : String) : Except DiskFault Place := do
  if path.isEmpty then .error .missing
  let (place, parts) ← disk.start path
  parts.foldlM disk.enter place

/-- The contents of the file at a path. -/
def read (disk : Disk) (path : String) : Except DiskFault String := do
  match disk.find? (← disk.follow path) with
  | none => .error .missing
  | some .folder => .error .isFolder
  | some (.file contents) => .ok contents

/-- The disk with a file written at a path. -/
def write (disk : Disk) (path contents : String) : Except DiskFault Disk := do
  let place ← disk.follow path
  if disk.find? place = some .folder then .error .isFolder
    else .ok (disk.put place (.file contents))

/-- The disk with a folder made at a path.  The folder around it has to be
there, and nothing may be at the path. -/
def makeFolder (disk : Disk) (path : String) : Except DiskFault Disk := do
  let place ← disk.follow path
  if (disk.find? place).isSome then .error .alreadyThere
    else .ok (disk.put place .folder)

/-- Whether a path leads to a folder. -/
def isFolder (disk : Disk) (path : String) : Bool :=
  match disk.follow path with
  | .ok place => disk.find? place = some .folder
  | .error _ => false

/-- The part of a place below a folder. -/
def below? (folder place : Place) : Option Place :=
  match folder, place with
  | [], place => some place
  | _, [] => none
  | name :: folder, first :: place =>
    if name = first then below? folder place else none

/-- The files in the working folder and below it, each with its path from
there. -/
def files (disk : Disk) : List (String × String) :=
  disk.entries.filterMap fun (place, entry) =>
    match below? disk.here place, entry with
    | some names, .file contents => some ("/".intercalate names, contents)
    | _, _ => none

end Disk

end KotlinBuilders.CommandLine
