import KotlinBuilders.CommandLine.Program
import Std.Time.Format

/-!
# The program on a real machine

The operations of the machine are those of the system; what the disk refuses is
told by its error number.
-/

namespace KotlinBuilders.CommandLine

/-- The refusal that an error number stands for. -/
def DiskFault.ofCode (code : UInt32) (details : String) : DiskFault :=
  match code with
  | 2 => .missing
  | 17 => .alreadyThere
  | 20 => .notFolder
  | 21 => .isFolder
  | 36 => .nameTooLong
  | _ => .other (details ++ " (os error " ++ toString code ++ ")")

/-- The refusal that an error stands for. -/
def DiskFault.ofError : IO.Error → DiskFault
  | .noFileOrDirectory _ code details => .ofCode code details
  | .alreadyExists _ code details => .ofCode code details
  | .inappropriateType _ code details => .ofCode code details
  | .invalidArgument _ code details => .ofCode code details
  | .permissionDenied _ code details => .ofCode code details
  | .resourceExhausted _ code details => .ofCode code details
  | .noSuchThing _ code details => .ofCode code details
  | .otherError code details => .ofCode code details
  | error => .other (toString error)

/-- The result of an operation of the system, or the refusal. -/
def orRefusal {α : Type} (operation : IO α) : IO (Except DiskFault α) := do
  try
    return .ok (← operation)
  catch error =>
    return .error (.ofError error)

/-- Whether a folder is at a path. -/
def folderIsThere (path : String) : IO Bool := do
  try
    (← IO.FS.realPath path).isDir
  catch _ =>
    return false

/-- The time of day in a log line. -/
def timeOfDay : IO String := do
  let now ← Std.Time.PlainTime.now
  return now.format "HH:mm:ss"

/-- The machine that the program runs on. -/
def systemMachine : Machine IO where
  read path := orRefusal do return (← IO.FS.readBinFile path).toList
  makeFolder path := orRefusal (IO.FS.createDir path)
  isFolder path := folderIsThere path
  write path contents := orRefusal (IO.FS.writeFile path contents)
  time := timeOfDay
  say line := IO.println line
  complain line := IO.eprintln line

/-- Runs the program on the system and gives its exit code. -/
def runOnSystem (arguments : List String) : IO UInt32 := do
  let isTerminal ← (← IO.getStdout).isTty
  let areComplaintsSeen ← (← IO.getStderr).isTty
  let surroundings ← Surroundings.ofVariables isTerminal areComplaintsSeen
      fun name => IO.getEnv name
  let ending ← runProgram systemMachine surroundings arguments
  return ending.code.toUInt32

end KotlinBuilders.CommandLine

/-- Runs the program on its arguments. -/
def main (arguments : List String) : IO UInt32 :=
  KotlinBuilders.CommandLine.runOnSystem arguments
