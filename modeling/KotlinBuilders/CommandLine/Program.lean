import KotlinBuilders.CommandLine.Help
import KotlinBuilders.CommandLine.Machine
import KotlinBuilders.CommandLine.Overview
import KotlinBuilders.CommandLine.Paint
import KotlinBuilders.CommandLine.Request
import KotlinBuilders.Host.Loading

/-!
# The program

The program reads its arguments, does what they ask for on a machine and ends
with an exit code.  A fault in the arguments is reported before the machine's
disk is touched; a failure later on ends the run with a report of what was tried
and, where there is one, the cause.

A run that generates files keeps a log: the source, the number of declarations,
the statistics, the target and the end.  A quiet run logs nothing; a verbose one
also names every file and every warning, while the declarations that were
skipped are always named.
-/

namespace KotlinBuilders.CommandLine

/-- Why a run ended early: what was tried, and the cause. -/
structure RunFailure where
  attempt : String
  cause? : Option String := none
  deriving DecidableEq, Repr

/-- A text with four blanks in front of each line. -/
def indented (text : String) : String :=
  "\n".intercalate ((text.toList.splitOn '\n').map fun line =>
    "    " ++ String.ofList line)

/-- The report of a failure. -/
def RunFailure.report (failure : RunFailure) : String :=
  "Error: " ++ failure.attempt ++ match failure.cause? with
    | some cause => "\n\nCaused by:\n" ++ indented cause
    | none => ""

/-- How a run ends. -/
inductive Ending where
  | done
  | failed
  | misused
  deriving DecidableEq, Repr

/-- The exit code of an ending. -/
def Ending.code : Ending → UInt8
  | .done => 0
  | .failed => 1
  | .misused => 2

/-! ## The log of a run -/

/-- What a run that generates files is told, and how its log is coloured. -/
structure Log where
  options : GenerateOptions
  paint : Paint

namespace Log

/-- The blanks in front of a line without a time. -/
def margin : String := "            "

/-- Whether the run says nothing. -/
def isQuiet (log : Log) : Bool := log.options.verbosity = .quiet

/-- Whether the run says everything. -/
def isVerbose (log : Log) : Bool := log.options.verbosity = .verbose

/-- A line of the log that begins with the time. -/
def entry (log : Log) (time : String) (role : Role) (text : String) : String :=
  log.paint.piece .timestamp ("[" ++ time ++ "]") ++ " "
    ++ log.paint.piece role text

/-- A line with a label and a value. -/
def row (log : Log) (label value : String) : String :=
  margin ++ log.paint.piece .label label ++ " " ++ log.paint.piece .value value

/-- The row of a number, unless it is zero. -/
def rowUnlessZero (log : Log) (label : String) (count : Nat) : List String :=
  if count = 0 then [] else [log.row label (Text.decimal count)]

/-- The lines of the statistics. -/
def statistics (log : Log) (stats : Stats) : List String :=
  [log.row "Declarations:" (Text.decimal stats.declarations),
    log.row "Builders generated:" (Text.decimal stats.builders),
    log.row "" (Text.decimal stats.fields ++ " fields"),
    log.row "" (Text.decimal stats.deferred ++ " lateinit"),
    log.row "" (Text.decimal stats.branches ++ " build branches")]
    ++ log.rowUnlessZero "Companion factories:" stats.factories
    ++ log.rowUnlessZero "Skipped:" stats.skipped
    ++ log.rowUnlessZero "Warnings:" stats.warnings.length

/-- The line of a warning. -/
def warning (log : Log) (warning : Warning) : String :=
  log.paint.piece .accent (if warning.isSkip then "Skipped:"
    else "Warning:") ++ " "
    ++ log.paint.piece .primary warning.message

/-- The lines of the warnings that are shown, after a blank one if there are
any. -/
def warnings (log : Log) (stats : Stats) : List String :=
  match stats.warnings.filter fun warning => warning.isSkip
      || log.isVerbose with
  | [] => []
  | shown => "" :: shown.map log.warning

/-- The announcement of a number of declarations. -/
def announcement (count : Nat) : String :=
  "Generating builders for " ++ Text.decimal count
    ++ (if count = 1 then " declaration" else " declarations") ++ "..."

/-- The line that names a file. -/
def fileLine (log : Log) (file : GeneratedFile) : String :=
  margin ++ log.paint.piece .muted file.path

end Log

/-! ## The actions -/

section Actions

variable {m : Type → Type} [Monad m] (machine : Machine m)

/-- The result of an operation of the disk, or the failure of an attempt. -/
def attempt {α : Type} (what : String) (operation : m (Except DiskFault α)) :
    ExceptT RunFailure m α := do
  match ← operation with
  | .ok result => return result
  | .error fault => throw { attempt := what, cause? := some fault.message }

/-- The dump in a file. -/
def loadDump (path : String) : ExceptT RunFailure m Dump := do
  let bytes ← attempt ("failed to read host dump " ++ path) (machine.read path)
  match Dump.load bytes with
  | .ok dump => return dump
  | .error failure =>
    throw { attempt := "failed to parse host dump " ++ path,
            cause? := some failure.message }

/-- A run over a dump. -/
def planRun (dump : Dump) (naming : Naming) (selection : Selection) :
    ExceptT RunFailure m Run :=
  match Run.plan dump naming selection with
  | .ok run => return run
  | .error unknown => throw { attempt := unknown.message }

/-- What is already there is accepted if it is a folder. -/
def acceptFolder (path : String) : Except DiskFault Unit →
    m (Except DiskFault Unit)
  | .error .alreadyThere =>
    do return if ← machine.isFolder path then .ok () else .error .alreadyThere
  | answer => return answer

/-- Makes the first of some folders, each of which is in the next one.  Only
where something around it is missing are the others made first. -/
def makeFolders : List String → m (Except DiskFault Unit)
  | [] => return .ok ()
  | path :: around => do
    match ← machine.makeFolder path with
    | .error .missing =>
      match ← makeFolders around with
      | .ok () => acceptFolder machine path (← machine.makeFolder path)
      | refusal => return refusal
    | answer => acceptFolder machine path answer

/-- Makes a folder and those around it. -/
def createFolders (path : String) : m (Except DiskFault Unit) :=
  makeFolders machine (pathsAround path)

/-- Writes a file below a folder. -/
def writeFile (folder : String) (file : GeneratedFile) :
    ExceptT RunFailure m Unit := do
  let path := joinPath folder file.path
  let parent := parentPath path
  attempt ("failed to create " ++ parent) (createFolders machine parent)
  attempt ("failed to write " ++ path) (machine.write path file.contents)

/-- Says a line of the log unless the run is quiet. -/
def Log.say (log : Log) (role : Role) (text : String) :
    ExceptT RunFailure m Unit := do
  unless log.isQuiet do
    let time ← machine.time
    machine.say (log.entry time role text)

/-- Generates the files of a dump. -/
def generate (log : Log) : ExceptT RunFailure m Unit := do
  let options := log.options
  log.say machine .primary ("Loading host dump from: " ++ options.input)
  let dump ← loadDump machine options.input
  let run ← planRun dump options.naming options.selection
  log.say machine .primary (Log.announcement run.declarations.length)
  let files := run.files options.format options.input
  unless log.isQuiet do
    (log.statistics run.stats).forM (machine.say ·)
    (log.warnings run.stats).forM (machine.complain ·)
  log.say machine .primary ("Writing " ++ Text.decimal files.length
    ++ " file(s) to: " ++ options.output)
  if log.isVerbose then
    files.forM fun file => machine.say (log.fileLine file)
  files.forM (writeFile machine options.output)
  unless log.isQuiet do
    machine.say ""
  log.say machine .success "Successfully generated builders"

/-- The number of columns of a page. -/
def pageWidth : Nat := 80

/-- Prints the table of declarations of a dump. -/
def listDeclarations (input : String) : ExceptT RunFailure m Unit := do
  let dump ← loadDump machine input
  let run ← planRun dump {} none
  machine.say ((declarationsTable run.summaries).print pageWidth)

/-- Prints the table of fields of a dump, of one declaration or of all. -/
def listFields (input : String) (declaration? : Option String) :
    ExceptT RunFailure m Unit := do
  let dump ← loadDump machine input
  let run ← planRun dump {} (declaration?.map fun name => [name])
  machine.say ((fieldsTable run.summaries).print pageWidth)

/-- Does what a request asks for. -/
def perform (surroundings : Surroundings) (request : Request) :
    ExceptT RunFailure m Unit :=
  match request.action with
  | .listDeclarations input => listDeclarations machine input
  | .listFields input declaration? => listFields machine input declaration?
  | .generate options =>
    generate machine ⟨options, .choose request.color request.theme surroundings⟩

/-! ## From the arguments to the ending -/

/-- Reports a failure. -/
def fail (failure : RunFailure) : m Ending := do
  machine.complain failure.report
  return .failed

/-- The notice of what is wrong with the arguments. -/
def UsageFault.notice (fault : UsageFault) : Notice :=
  [.emphatic .error "error:", .plain " "] ++ fault.message
    ++ [.plain "\n\nFor more information, try '",
      .emphatic .literal "--help", .plain "'."]

/-- Answers arguments that are not a request. -/
def answerStop (surroundings : Surroundings) (stop : Stop) : m Ending := do
  let printed := surroundings.wantEmphasis surroundings.isTerminal
  let complained := surroundings.wantEmphasis surroundings.areComplaintsSeen
  match stop with
  | .fault fault =>
    machine.complain (fault.notice.print complained)
    return .misused
  | .help command true =>
    machine.say (command.help.print printed)
    return .done
  | .help command false =>
    machine.complain (command.help.print complained)
    return .misused
  | .version =>
    machine.say (programName ++ " " ++ programVersion)
    return .done

/-- Runs the program. -/
def runProgram (surroundings : Surroundings) (arguments : List String) :
    m Ending := do
  match parse program {} arguments with
  | .error stop => answerStop machine surroundings stop
  | .ok levels =>
    match Request.ofLevels levels with
    | .error fault => fail machine { attempt := fault.message }
    | .ok request =>
      match ← (perform machine surroundings request).run with
      | .ok () => return .done
      | .error failure => fail machine failure

end Actions

end KotlinBuilders.CommandLine
