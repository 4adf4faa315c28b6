/-!
# What the program needs from a machine

The program reads one file, makes folders, writes files, asks for the time and
prints lines.  It is written over a record of these operations, so the same
program runs on a real machine and on one that is a value.
-/

namespace KotlinBuilders.CommandLine

/-- Why a disk refuses. -/
inductive DiskFault where
  | missing
  | alreadyThere
  | notFolder
  | isFolder
  | nameTooLong
  | nulByte
  | other (text : String)
  deriving DecidableEq, Repr

/-- The wording of a refusal. -/
def DiskFault.message : DiskFault → String
  | .missing => "No such file or directory (os error 2)"
  | .alreadyThere => "File exists (os error 17)"
  | .notFolder => "Not a directory (os error 20)"
  | .isFolder => "Is a directory (os error 21)"
  | .nameTooLong => "File name too long (os error 36)"
  | .nulByte => "file name contained an unexpected NUL byte"
  | .other text => text

/-- The operations of a machine: reading a file, making a folder inside another
one, asking whether a folder is there, writing a file, the time of day as it
stands in a log line, and a line of output or of complaint. -/
structure Machine (m : Type → Type) where
  read : String → m (Except DiskFault (List UInt8))
  makeFolder : String → m (Except DiskFault Unit)
  isFolder : String → m Bool
  write : String → String → m (Except DiskFault Unit)
  time : m String
  say : String → m Unit
  complain : String → m Unit

end KotlinBuilders.CommandLine
