import KotlinBuilders.CommandLine.Notice

/-!
# Commands and options

What can be said on a command line is a tree of commands, each with options of
its own.  An option is a flag, takes a value, or asks for the help text or the
version.  A value follows its option after an equals sign, as the next argument,
or, after a letter, right behind it; flags that are letters can be joined.

`parse` reads the arguments from left to right.  A value that stands alone is
looked at when the next option comes or the arguments end, so what comes in
between can be refused first.  A command takes over all arguments after its
name, and what is wrong with it is found before what is still open in the
command around it.
-/

namespace KotlinBuilders.CommandLine

/-- Which values an option takes: one of several words, a path, any text, or
names between commas, which may be given more than once. -/
inductive ValueRule where
  | choice (words : List String)
  | path
  | text
  | names
  deriving DecidableEq, Repr

/-- What an option does. -/
inductive OptionUse where
  | value (placeholder : String) (rule : ValueRule)
  | flag
  | help
  | version
  deriving DecidableEq, Repr

/-- An option of a command. -/
structure OptionSpec where
  name : String
  letter? : Option Char := none
  use : OptionUse
  isRequired : Bool := false
  default? : Option String := none
  about : String := ""
  deriving DecidableEq, Repr

/-- An option as a message names it. -/
def OptionSpec.display (option : OptionSpec) : String :=
  match option.use with
  | .value placeholder _ => "--" ++ option.name ++ " <" ++ placeholder ++ ">"
  | _ => "--" ++ option.name

/-- Arguments of a command that are not options. -/
structure ArgumentSpec where
  display : String
  about : String
  deriving DecidableEq, Repr

/-- A command with its options and the commands inside it.  Its path is its name
after those of the commands around it. -/
structure Command where
  name : String
  path : String := name
  about : String
  options : List OptionSpec
  arguments? : Option ArgumentSpec := none
  commands : List Command := []
  deriving Repr, Inhabited

/-- The command that shows the help text of another one. -/
def helpName : String := "help"

/-- What the command that shows help texts is for. -/
def helpAbout : String :=
  "Print this message or the help of the given subcommand(s)"

namespace Command

/-- The command of a name inside this one. -/
def find? (command : Command) (name : String) : Option Command :=
  command.commands.find? fun inner => inner.name == name

/-- Whether a command name can stand among the arguments. -/
def hasCommands (command : Command) : Bool := !command.commands.isEmpty

/-- Whether a name is that of a command inside this one. -/
def isCommand (command : Command) (name : String) : Bool :=
  (command.find? name).isSome || (command.hasCommands && name == helpName)

/-- The command that shows the help texts of the commands inside this one. -/
def helper (command : Command) : Command where
  name := helpName
  path := command.path ++ " " ++ helpName
  about := helpAbout
  options := []
  arguments? :=
    some { display := "[COMMAND]...",
           about := "Print help for the subcommand(s)" }

/-- The option of a long name. -/
def long? (command : Command) (name : String) : Option OptionSpec :=
  command.options.find? fun option => option.name == name

/-- The option of a letter. -/
def short? (command : Command) (letter : Char) : Option OptionSpec :=
  command.options.find? fun option => option.letter? == some letter

end Command

/-- What is wrong with the arguments. -/
inductive UsageFault where
  | unexpectedArgument (argument : String)
  | unrecognizedCommand (name : String)
  | unexpectedValue (value option : String)
  | missingValue (option : String)
  | invalidValue (value option : String)
  | repeated (option : String)
  | missingOptions (options : List String)
  | missingCommand (path : String)
  deriving DecidableEq, Repr

/-- The wording of what is wrong. -/
def UsageFault.message : UsageFault → Notice
  | unexpectedArgument argument =>
    [.plain "unexpected argument '", .emphatic .invalid argument,
      .plain "' found"]
  | unrecognizedCommand name =>
    [.plain "unrecognized subcommand '", .emphatic .invalid name, .plain "'"]
  | unexpectedValue value option =>
    [.plain "unexpected value '", .emphatic .invalid value, .plain "' for '",
      .emphatic .literal option, .plain "' found; no more were expected"]
  | missingValue option =>
    [.plain "a value is required for '", .emphatic .invalid option,
      .plain "' but none was supplied"]
  | invalidValue value option =>
    [.plain "invalid value '", .emphatic .invalid value, .plain "' for '",
      .emphatic .literal option, .plain "'"]
  | repeated option =>
    [.plain "the argument '", .emphatic .invalid option,
      .plain "' cannot be used multiple times"]
  | missingOptions options =>
    .plain "the following required arguments were not provided:"
      :: options.flatMap fun option => [.plain "\n  ", .emphatic .valid option]
  | missingCommand path =>
    [.plain "'", .emphatic .invalid path,
      .plain "' requires a subcommand but one was not provided"]

/-- Why the arguments are not a request. -/
inductive Stop where
  | fault (fault : UsageFault)
  | help (command : Command) (isAsked : Bool)
  | version
  deriving Repr

/-- The options that were given to a command, each with its values. -/
abbrev Given := List (String × List String)

/-- The values of an option after some more of them. -/
def Given.add (given : Given) (name : String) (values : List String) : Given :=
  match given with
  | [] => [(name, values)]
  | (first, old) :: others =>
    if first = name then (first, old ++ values) :: others
      else (first, old) :: Given.add others name values

/-- Whether an option was given. -/
def Given.has (given : Given) (name : String) : Bool :=
  given.any fun entry => entry.1 == name

/-- The names between commas. -/
def commaParts (text : String) : List String :=
  (text.toList.splitOn ',').map String.ofList

/-- The values that a text gives an option. -/
def OptionSpec.values (option : OptionSpec) (rule : ValueRule) (text : String) :
    Except UsageFault (List String) :=
  match rule with
  | .choice words =>
    if words.contains text then .ok [text]
    else if text.isEmpty then .error (.missingValue option.display)
    else .error (.invalidValue text option.display)
  | .path => if text.isEmpty then .error (.missingValue option.display)
      else .ok [text]
  | .text => .ok [text]
  | .names => .ok (commaParts text)

/-- Whether an option may be given more than once. -/
def OptionSpec.mayRepeat (option : OptionSpec) : Bool :=
  match option.use with
  | .value _ .names => true
  | _ => false

/-- The options given to a command, with one more. -/
def accept (option : OptionSpec) (text? : Option String) (given : Given) :
    Except UsageFault Given :=
  match option.use, text? with
  | .value .., none => .error (.missingValue option.display)
  | .value _ rule, some text =>
    if given.has option.name && !option.mayRepeat
      then .error (.repeated option.display)
    else (option.values rule text).map (given.add option.name)
  | _, _ =>
    if given.has option.name then .error (.repeated option.display)
      else .ok (given.add option.name [])

/-- How far the arguments of a command were read: the options so far, the option
whose value is still to be looked at, and whether only values can follow. -/
structure Progress where
  given : Given := []
  pending? : Option (OptionSpec × Option String) := none
  afterDashes : Bool := false
  deriving Repr

/-- A reading, or what is wrong. -/
def orFault {α : Type} : Except UsageFault α → Except Stop α
  | .ok value => .ok value
  | .error fault => .error (.fault fault)

namespace Progress

/-- Whether an option waits for its value. -/
def isWaiting (progress : Progress) : Bool :=
  match progress.pending? with
  | some (_, none) => true
  | _ => false

/-- The options given, the pending one among them. -/
def settle (progress : Progress) : Except UsageFault Progress :=
  match progress.pending? with
  | some (option, text?) => do
    let given ← accept option text? progress.given
    return { progress with given, pending? := none }
  | none => .ok progress

/-- The progress after an option with the value attached to it, if there is
one. -/
def take (command : Command) (progress : Progress) (option : OptionSpec)
    (attached? : Option String) :
    Except Stop Progress := do
  let progress ← orFault progress.settle
  match option.use, attached? with
  | .value .., none => return { progress with pending? := some (option, none) }
  | .help, _ => .error (.help command true)
  | .version, _ => .error .version
  | _, _ =>
    let given ← orFault (accept option attached? progress.given)
    return { progress with given }

/-- The progress after a long option, the text of which is given without its
dashes. -/
def takeLong (command : Command) (progress : Progress) (text : List Char) :
    Except Stop Progress :=
  let name := String.ofList (text.takeWhile (· != '='))
  let attached? := match text.dropWhile (· != '=') with
    | [] => none
    | _ :: value => some (String.ofList value)
  match command.long? name with
  | none => .error (.fault (.unexpectedArgument ("--" ++ name)))
  | some option =>
    match option.use, attached? with
    | .value .., _ | _, none => progress.take command option attached?
    | _, some value => .error (.fault (.unexpectedValue value option.display))

/-- The value right behind a letter. -/
def attachedValue? : List Char → Option String
  | [] => none
  | '=' :: value => some (String.ofList value)
  | value => some (String.ofList value)

/-- The progress after joined letters. -/
def takeShorts (command : Command) : Progress → List Char → Except Stop Progress
  | progress, [] => .ok progress
  | progress, letter :: rest =>
    match command.short? letter with
    | none => .error (.fault (.unexpectedArgument ("-" ++ letter.toString)))
    | some option =>
      match option.use with
      | .value .. => progress.take command option (attachedValue? rest)
      | _ => do
        let progress ← progress.take command option none
        takeShorts command progress rest

/-- The refusal of an argument that is neither an option nor a value. -/
def refuse (command : Command) (progress : Progress)
    (argument : String) : UsageFault :=
  if progress.afterDashes && command.isCommand argument
    then .unexpectedArgument argument
  else if command.hasCommands then .unrecognizedCommand argument
  else .unexpectedArgument argument

/-- The options that have to be given and were not. -/
def missing (command : Command) (progress : Progress) : List String :=
  (command.options.filter fun option => option.isRequired
    && !progress.given.has option.name).map OptionSpec.display

/-- The options given to a command that is not followed by another one. -/
def finish (command : Command) (progress : Progress) : Except Stop Given := do
  let progress ← orFault progress.settle
  if command.hasCommands then
    if progress.given.isEmpty then .error (.help command false)
      else .error (.fault (.missingCommand command.path))
  else
    let missing := progress.missing command
    if missing.isEmpty then return progress.given
    else .error (.fault (.missingOptions missing))

/-- The progress after an argument that names no command. -/
def step (command : Command) (progress : Progress) (argument : String) :
    Except Stop Progress :=
  match progress.afterDashes, argument.toList with
  | false, ['-', '-'] => .ok { progress with afterDashes := true }
  | false, '-' :: '-' :: text => progress.takeLong command text
  | false, '-' :: letter :: rest => progress.takeShorts command (letter :: rest)
  | false, _ =>
    match progress.pending? with
    | some (option, none) =>
      .ok { progress with pending? := some (option, some argument) }
    | _ => .error (.fault (progress.refuse command argument))
  | true, _ => .error (.fault (progress.refuse command argument))

end Progress

/-- The command whose help text is asked for by the names of the commands around
it.  Nothing is inside the command that shows help texts. -/
def helpFor (command : Command) : List String → Stop
  | [] => .help command true
  | name :: names =>
    match command.find? name with
    | some inner => helpFor inner names
    | none =>
      if command.isCommand name then helpFor command.helper names
        else .fault (.unrecognizedCommand name)

/-- The names of the commands that the arguments give, the outermost first, each
with its options. -/
def parse (command : Command) (progress : Progress) :
    List String → Except Stop (List (String × Given))
  | [] => do
    let given ← progress.finish command
    return [(command.name, given)]
  | argument :: arguments =>
    if !progress.afterDashes && !progress.isWaiting
        && command.isCommand argument then
      match command.find? argument with
      | some inner => do
        let levels ← parse inner {} arguments
        let progress ← orFault progress.settle
        return (command.name, progress.given) :: levels
      | none => .error (helpFor command arguments)
    else do
      let progress ← progress.step command argument
      parse command progress arguments

end KotlinBuilders.CommandLine
