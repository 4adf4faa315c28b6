import KotlinBuilders.CommandLine.Program
import KotlinBuilders.CommandLine.Session
import KotlinBuilders.Proofs.PathPlaces

/-!
# What writing files changes on a disk

Before a file is written, the folders around it are made where nothing is yet.
Nothing else happens: after an attempt to write a file, every other place holds
what it held before, or a folder where it held nothing
(`changesOnly_writeFile`).  What one file leaves in place, a whole list of files
does, whether all of them can be written or not (`changesOnly_forM_writeFile`).
Where all of them can and no two lead to one place, each file is there in the
end (`find?_forM_writeFile`).
-/

namespace KotlinBuilders.CommandLine

namespace Disk

/-- Whether a disk is another one with changes at the given places only.
Elsewhere a folder may be new, but only where nothing was. -/
structure ChangesOnly (touched : Place → Prop)
    (before after : Disk) : Prop where
  here : after.here = before.here
  kept : ∀ place, ¬touched place →
    after.find? place = before.find? place ∨ before.find? place = none
    ∧ after.find? place = some .folder

namespace ChangesOnly

variable {touched touched' : Place → Prop} {before middle after : Disk}

/-- A disk is itself with no changes. -/
theorem refl (touched : Place → Prop) (disk : Disk) :
    ChangesOnly touched disk disk :=
  ⟨rfl, fun _ _ => .inl rfl⟩

/-- Changes at some places are changes at more. -/
theorem mono (h : ChangesOnly touched before after)
    (himp : ∀ place, touched place → touched' place) :
    ChangesOnly touched' before after :=
  ⟨h.here, fun place hplace => h.kept place fun htouched =>
    hplace (himp place htouched)⟩

/-- Changes after changes at the same places are changes there. -/
theorem trans (first : ChangesOnly touched before middle)
    (second : ChangesOnly touched middle after) :
    ChangesOnly touched before after := by
  refine ⟨second.here.trans first.here, fun place hplace => ?_⟩
  have hfirst := first.kept place hplace
  have hsecond := second.kept place hplace
  -- Something that was there stays through both changes; a folder that is new
  -- after the first stays through the second.
  grind

/-- What stands at any other place stays as it is. -/
theorem find?_of_ne_none (h : ChangesOnly touched before after) {place : Place}
    (hplace : ¬touched place) (hthere : before.find? place ≠ none) :
    after.find? place = before.find? place :=
  (h.kept place hplace).resolve_right fun hnew => hthere hnew.1

/-- A file elsewhere is one that was there before, with the same contents. -/
theorem find?_eq_file_iff (h : ChangesOnly touched before after) {place : Place}
    {contents : String} (hplace : ¬touched place) :
    after.find? place = some (.file contents) ↔
      before.find? place = some (.file contents) := by
  obtain hsame | ⟨hbefore, hafter⟩ := h.kept place hplace
  · rw [hsame]
  · simp [hbefore, hafter]

end ChangesOnly

variable {disk after : Disk} {path contents : String}

/-- A path stands for the same place as long as the working folder is the
same. -/
theorem placeOf_of_here (hhere : after.here = disk.here) (path : String) :
    after.placeOf path = disk.placeOf path := by
  rw [placeOf, placeOf, hhere]

/-- Putting an entry changes its own place only. -/
theorem changesOnly_put {place : Place} (hplace : place ≠ []) (entry : Entry) :
    ChangesOnly (· = place) disk (disk.put place entry) := by
  refine ⟨rfl, fun other hother => .inl ?_⟩
  rw [find?_put disk entry other hplace, if_neg hother]

/-- The top folder is always there. -/
theorem ne_nil_of_find?_ne {place : Place}
    (hfolder : disk.find? place ≠ some .folder) : place ≠ [] := by
  rintro rfl
  exact hfolder rfl

/-- **A file is written at one place**, and everything else stays. -/
theorem changesOnly_write (hwrite : disk.write path contents = .ok after) :
    ChangesOnly (· = disk.placeOf path) disk after
      ∧ after.find? (disk.placeOf path) = some (.file contents) := by
  obtain ⟨place, hfollow, hplace⟩ := bind_eq_ok_iff.1 hwrite
  obtain rfl := eq_placeOf_of_follow hfollow
  split at hplace
  · cases hplace
  · next hfolder =>
    have hnil := ne_nil_of_find?_ne hfolder
    obtain rfl := Except.ok.inj hplace
    exact ⟨changesOnly_put hnil _, by rw [find?_put disk _ _ hnil, if_pos rfl]⟩

/-- A folder is only made where nothing is. -/
theorem changesOnly_makeFolder (hmake : disk.makeFolder path = .ok after) :
    ChangesOnly (fun _ => False) disk after := by
  obtain ⟨place, -, hplace⟩ := bind_eq_ok_iff.1 hmake
  split at hplace
  · cases hplace
  · next habsent =>
    have hnone : disk.find? place = none :=
      Option.not_isSome_iff_eq_none.1 habsent
    have hnil : place ≠ [] := by
      apply ne_nil_of_find?_ne
      rw [hnone]
      exact nofun
    obtain rfl := Except.ok.inj hplace
    refine ⟨rfl, fun other _ => ?_⟩
    rw [find?_put disk _ _ hnil]
    split
    · next hsame => exact .inr ⟨hsame ▸ hnone, rfl⟩
    · exact .inl rfl

end Disk

namespace Session

open Disk

variable {α β : Type}

/-- Whether an action leaves everything on the disk in place, so that it makes
folders at most. -/
def Keeps (action : StateM Session α) : Prop :=
  ∀ session : Session,
    session.disk.ChangesOnly (fun _ => False) (action.run session).2.disk

/-- An action that does nothing leaves everything in place. -/
theorem Keeps.pure (value : α) : Keeps (Pure.pure value) := fun _ => .refl _ _

/-- Two actions that leave everything in place do so one after the other. -/
theorem Keeps.bind {first : StateM Session α} {next : α → StateM Session β}
    (hfirst : Keeps first) (hnext : ∀ value, Keeps (next value)) :
    Keeps (first >>= next) :=
  fun session => (hfirst session).trans (hnext _ _)

/-- A change of the disk is made, or it is refused and nothing happens. -/
theorem run_change (edit : Disk → Except DiskFault Disk) (session : Session) :
    (∃ disk, edit session.disk = .ok disk
      ∧ (change edit).run session = (.ok (), { session with disk }))
      ∨ ∃ fault, (change edit).run session = (.error fault, session) := by
  cases hedit : edit session.disk with
  | ok disk => exact .inl ⟨disk, rfl, by simp only [StateT.run, change, hedit]⟩
  | error fault => exact .inr ⟨fault, by simp only [StateT.run, change, hedit]⟩

/-- Making a folder leaves everything in place. -/
theorem keeps_makeFolder (path : String) : Keeps (machine.makeFolder path) := by
  intro session
  obtain ⟨disk, hmake, hrun⟩ | ⟨fault, hrun⟩ :=
    run_change (fun disk => disk.makeFolder path) session
  · rw [machine, hrun]
    exact changesOnly_makeFolder hmake
  · rw [machine, hrun]
    exact .refl _ _

/-- Taking a folder that is already there leaves everything in place. -/
theorem keeps_acceptFolder (path : String) (answer : Except DiskFault Unit) :
    Keeps (acceptFolder machine path answer) := by
  unfold acceptFolder
  split
  · exact .bind (fun _ => .refl _ _) fun _ => .pure _
  · exact .pure _

/-- Making several folders leaves everything in place. -/
theorem keeps_makeFolders (paths : List String) :
    Keeps (makeFolders machine paths) := by
  induction paths with
  | nil => exact .pure _
  | cons path around ih =>
    refine .bind (keeps_makeFolder path) fun answer => ?_
    split
    · refine .bind ih fun refusal => ?_
      split
      · exact .bind (keeps_makeFolder path) fun _ => keeps_acceptFolder path _
      · exact .pure _
    · exact keeps_acceptFolder path _

/-- Creating a folder with those above it leaves everything in place. -/
theorem keeps_createFolders (path : String) :
    Keeps (createFolders machine path) :=
  keeps_makeFolders (pathsAround path)

/-- Of two actions that can fail the second runs where the first has a
result. -/
theorem run_bind (first : ExceptT RunFailure (StateM Session) α)
    (next : α → ExceptT RunFailure (StateM Session) β) (session : Session) :
    (first >>= next).run.run session =
      match first.run.run session with
      | (.ok value, middle) => (next value).run.run middle
      | (.error failure, middle) => (.error failure, middle) := by
  rw [ExceptT.run_bind, StateT.run_bind]
  rcases first.run.run session with ⟨failure | value, middle⟩ <;> rfl

/-- An attempt does to the session what its operation does, and has its result
if there is one. -/
theorem run_attempt (what : String)
    (operation : StateM Session (Except DiskFault α)) (session : Session) :
    (attempt what operation).run.run session =
      ((operation.run session).1.mapError fun fault =>
        { attempt := what, cause? := some fault.message },
        (operation.run session).2) := by
  have hlift :
      (liftM operation : ExceptT RunFailure (StateM Session) _).run.run session
        = (.ok (operation.run session).1, (operation.run session).2) := rfl
  rw [attempt, run_bind, hlift]
  rcases operation.run session with ⟨fault | result, after⟩ <;> rfl

/-- An attempt to write changes the one place that the path leads to. -/
theorem changesOnly_attempt_write (what path contents : String)
    (session : Session) :
    let ran := (attempt what (machine.write path contents)).run.run session
    session.disk.ChangesOnly (· = session.disk.placeOf path) ran.2.disk
      ∧ (ran.1 = .ok () →
        ran.2.disk.find? (session.disk.placeOf path)
          = some (.file contents)) := by
  rw [run_attempt, machine]
  obtain ⟨disk, hwrite, hrun⟩ | ⟨fault, hrun⟩ :=
    run_change (fun disk => disk.write path contents) session
  · obtain ⟨hchanges, hfile⟩ := changesOnly_write hwrite
    rw [hrun]
    exact ⟨hchanges, fun _ => hfile⟩
  · rw [hrun]
    exact ⟨.refl _ _, nofun⟩

/-- **Writing a file changes one place**, the one that its path leads to from
the folder; if the file can be written, it is there. -/
theorem changesOnly_writeFile (folder : String) (file : GeneratedFile)
    (session : Session) :
    let place := session.disk.placeOf (joinPath folder file.path)
    let ran := (writeFile machine folder file).run.run session
    session.disk.ChangesOnly (· = place) ran.2.disk
      ∧ (ran.1 = .ok () →
        ran.2.disk.find? place = some (.file file.contents)) := by
  intro place
  have hfolders : session.disk.ChangesOnly (· = place) _ :=
    (keeps_createFolders (parentPath (joinPath folder file.path)) session).mono
      fun _ habsurd => habsurd.elim
  rw [writeFile, run_bind, run_attempt]
  rcases hmiddle :
      (createFolders machine (parentPath (joinPath folder file.path))).run
      session with
    ⟨fault | _, middle⟩
  · rw [hmiddle] at hfolders
    exact ⟨hfolders, nofun⟩
  · rw [hmiddle] at hfolders
    have hplace : middle.disk.placeOf (joinPath folder file.path) = place :=
      placeOf_of_here hfolders.here _
    obtain ⟨hchanges, hfile⟩ := changesOnly_attempt_write
      ("failed to write " ++ joinPath folder file.path)
      (joinPath folder file.path) file.contents middle
    rw [hplace] at hchanges hfile
    exact ⟨hfolders.trans hchanges, hfile⟩

section Files

variable (folder : String)

/-- **A list of files changes the places of its files only**, whether all of
them can be written or not. -/
theorem changesOnly_forM_writeFile (files : List GeneratedFile)
    (session : Session) :
    session.disk.ChangesOnly (· ∈ files.map fun file =>
      session.disk.placeOf (joinPath folder file.path))
          ((files.forM (writeFile machine folder)).run.run session).2.disk := by
  induction files generalizing session with
  | nil => exact .refl _ _
  | cons file files ih =>
    obtain ⟨hfirst, -⟩ := changesOnly_writeFile folder file session
    have hchanges : session.disk.ChangesOnly
        (· ∈ (file :: files).map fun file => session.disk.placeOf
          (joinPath folder file.path)) _ :=
      hfirst.mono fun place hplace => hplace ▸ List.mem_cons_self
    rw [List.forM, run_bind]
    rcases hmiddle : (writeFile machine folder file).run.run session with
      ⟨failure | _, middle⟩
    · rw [hmiddle] at hchanges
      exact hchanges
    · rw [hmiddle] at hchanges
      refine hchanges.trans ((ih middle).mono fun place hplace =>
        List.mem_cons_of_mem _ ?_)
      simpa only [placeOf_of_here hchanges.here] using hplace

/-- **Where every file has a place of its own, each one is there in the end**,
if all of them can be written. -/
theorem find?_forM_writeFile {files : List GeneratedFile} {session : Session}
    (hok : ((files.forM (writeFile machine folder)).run.run session).1 = .ok ())
    (hnodup :
      (files.map fun file => session.disk.placeOf
        (joinPath folder file.path)).Nodup) :
    ∀ file ∈ files,
      ((files.forM (writeFile machine folder)).run.run session).2.disk.find?
          (session.disk.placeOf (joinPath folder file.path))
        = some (.file file.contents) := by
  induction files generalizing session with
  | nil => simp
  | cons first files ih =>
    obtain ⟨hchanges, hthere⟩ := changesOnly_writeFile folder first session
    rw [List.forM, run_bind] at hok ⊢
    rcases hmiddle : (writeFile machine folder first).run.run session with
      ⟨failure | _, middle⟩
    · rw [hmiddle] at hok
      cases hok
    · rw [hmiddle] at hok hchanges hthere
      have hplaces : ∀ file : GeneratedFile,
          middle.disk.placeOf (joinPath folder file.path)
            = session.disk.placeOf (joinPath folder file.path) :=
        fun file => placeOf_of_here hchanges.here _
      obtain ⟨hfresh, hnodup⟩ := List.nodup_cons.1 hnodup
      intro file hfile
      obtain rfl | hfile := List.mem_cons.1 hfile
      · -- The files behind it have other places, so what it left in its place
        -- stays.
        have hrest := changesOnly_forM_writeFile folder files middle
        simp only [hplaces] at hrest
        exact (hrest.find?_of_ne_none hfresh
          (by simp [hthere])).trans (hthere rfl)
      · rw [← hplaces file]
        refine ih hok ?_ file hfile
        simpa only [hplaces] using hnodup

end Files

end Session

end KotlinBuilders.CommandLine
