import KotlinBuilders.CommandLine.Disk

/-!
# A machine as a value

A session is a machine whose disk is a value, whose clock stands still and whose
output is kept.
-/

namespace KotlinBuilders.CommandLine

/-- A disk, a clock and what was printed so far. -/
structure Session where
  disk : Disk := {}
  clock : String := "00:00:00"
  output : String := ""
  complaints : String := ""
  deriving Repr

namespace Session

/-- A change of the disk, unless the disk refuses. -/
def change (edit : Disk → Except DiskFault Disk) :
    StateM Session (Except DiskFault Unit) := fun session =>
  match edit session.disk with
  | .ok disk => (.ok (), { session with disk })
  | .error fault => (.error fault, session)

/-- The machine that a session is. -/
def machine : Machine (StateM Session) where
  read path := do
    return ((← get).disk.read path).map fun contents => contents.toUTF8.toList
  makeFolder path := change fun disk => disk.makeFolder path
  isFolder path := do return (← get).disk.isFolder path
  write path contents := change fun disk => disk.write path contents
  time := do return (← get).clock
  say line := modify fun session =>
    { session with output := session.output ++ line ++ "\n" }
  complain line := modify fun session =>
    { session with complaints := session.complaints ++ line ++ "\n" }

end Session

end KotlinBuilders.CommandLine
