import KotlinBuilders.Batch.Files
import KotlinBuilders.CommandLine.Usage
import KotlinBuilders.Text.Blank

/-!
# Requests

A request is what a command line asks for, with a type for each choice and with
defaults filled in.  The colours and the theme can be chosen at every level of
the commands; the innermost choice counts.

Two requests are refused although every single option is right: one that is to
say more and less at once, and one whose factory function has no name.
-/

namespace KotlinBuilders.CommandLine

/-- Whether log lines are coloured. -/
inductive ColorMode where
  | always
  | auto
  | never
  deriving DecidableEq, Repr

/-- Which background the colours are made for. -/
inductive ThemeMode where
  | dark
  | light
  | auto
  deriving DecidableEq, Repr

/-- How much a run says. -/
inductive Verbosity where
  | quiet
  | normal
  | verbose
  deriving DecidableEq, Repr

/-- What files are generated from and where to. -/
structure GenerateOptions where
  input : String
  output : String
  format : OutputFormat := .kotlin
  naming : Naming := {}
  selection : Selection := none
  verbosity : Verbosity := .normal

/-- What is to be done. -/
inductive Action where
  | listDeclarations (input : String)
  | listFields (input : String) (declaration? : Option String)
  | generate (options : GenerateOptions)

/-- What is to be done, and how it is to look. -/
structure Request where
  color : ColorMode := .auto
  theme : ThemeMode := .auto
  action : Action

/-! ## The commands -/

/-- The name of the program. -/
def programName : String := generatorName

/-- The version of the program. -/
def programVersion : String := "0.4.0"

/-- The option that says whether log lines are coloured.  Every command has
it. -/
def colorOption : OptionSpec :=
  { name := "color"
    use := .value "COLOR" (.choice ["always", "auto", "never"])
    default? := some "auto"
    about := "Control color output" }

/-- The option that says which background the colours are made for.  Every
command has it. -/
def themeOption : OptionSpec :=
  { name := "theme"
    use := .value "THEME" (.choice ["dark", "light", "auto"])
    default? := some "auto"
    about := "Terminal theme (dark or light background)" }

/-- The option that asks for the help text. -/
def helpOption : OptionSpec :=
  { name := "help", letter? := some 'h', use := .help, about := "Print help" }

/-- The option that asks for the version. -/
def versionOption : OptionSpec :=
  { name := "version", letter? := some 'V', use := .version,
    about := "Print version" }

/-- The option that names the dump. -/
def inputOption : OptionSpec :=
  { name := "input"
    letter? := some 'i'
    use := .value "FILE" .path
    isRequired := true
    about := "Path to the host dump JSON file" }

/-- The options of the command that generates files, as its help text lists
them. -/
def generateOptions : List OptionSpec :=
  [colorOption,
   inputOption,
   { name := "output"
     letter? := some 'o'
     use := .value "DIR" .path
     isRequired := true
     about :=
       "Directory the generated files are written under, one subdirectory per package segment" },
   themeOption,
   { name := "format"
     letter? := some 'f'
     use := .value "FORMAT" (.choice ["kotlin", "model"])
     default? := some "kotlin"
     about := "What to write for each declaration" },
   { name := "setter-style"
     use := .value "SETTER_STYLE" (.choice ["set", "with"])
     default? := some "set"
     about := "Prefix of the generated setters" },
   { name := "factory-name"
     use := .value "NAME" .text
     default? := some "builder"
     about := "Name of the companion factory function" },
   { name := "only"
     use := .value "NAMES" .names
     about := "Generate only these declarations (comma-separated names)" },
   { name := "verbose"
     letter? := some 'v'
     use := .flag
     about := "Enable verbose output with detailed progress information" },
   { name := "quiet"
     letter? := some 'q'
     use := .flag
     about := "Suppress non-essential output (errors only)" },
   helpOption]

/-- The option that picks one declaration. -/
def declarationOption : OptionSpec :=
  { name := "declaration"
    letter? := some 'd'
    use := .value "NAME" .text
    about := "Only this declaration" }

/-- The commands of the program. -/
def program : Command where
  name := programName
  about := "Kotlin data class builder generator"
  options := [colorOption, themeOption, helpOption, versionOption]
  commands :=
    [{ name := "list"
       path := programName ++ " list"
       about := "List declarations and fields from a host dump"
       options := [colorOption, themeOption, helpOption]
       commands :=
         [{ name := "declarations"
            path := programName ++ " list declarations"
            about := "List the declarations in a host dump"
            options := [colorOption, inputOption, themeOption, helpOption] },
          { name := "fields"
            path := programName ++ " list fields"
            about :=
              "List classified fields, for one declaration or all of them"
            options := [colorOption, inputOption, declarationOption,
              themeOption, helpOption] }] },
     { name := "generate"
       path := programName ++ " generate"
       about := "Generate builders from a host dump"
       options := generateOptions }]

/-! ## Reading the options -/

/-- Options that do not go together. -/
inductive RequestFault where
  | verboseAndQuiet
  | emptyFactoryName
  deriving DecidableEq, Repr

/-- The wording of what does not go together. -/
def RequestFault.message : RequestFault → String
  | .verboseAndQuiet => "--verbose and --quiet cannot be combined"
  | .emptyFactoryName => "--factory-name must not be empty"

/-- The last value of an option. -/
def Given.value? (given : Given) (name : String) : Option String :=
  (given.lookup name).bind List.getLast?

/-- The innermost value of an option that every command has. -/
def innermost? (levels : List (String × Given)) (name : String) :
    Option String :=
  (levels.filterMap fun level => level.2.value? name).getLast?

/-- The colours that a word stands for. -/
def ColorMode.ofWord : Option String → ColorMode
  | some "always" => .always
  | some "never" => .never
  | _ => .auto

/-- The theme that a word stands for. -/
def ThemeMode.ofWord : Option String → ThemeMode
  | some "dark" => .dark
  | some "light" => .light
  | _ => .auto

/-- How much is said with the flags that were given. -/
def Verbosity.ofFlags (isVerbose isQuiet : Bool) :
    Except RequestFault Verbosity :=
  match isVerbose, isQuiet with
  | true, true => .error .verboseAndQuiet
  | true, false => .ok .verbose
  | false, true => .ok .quiet
  | false, false => .ok .normal

/-- The names that the options give to generated things. -/
def Naming.ofGiven (given : Given) : Except RequestFault Naming :=
  let style : SetterStyle := if given.value? "setter-style" = some "with"
    then .withVerb else .setVerb
  let naming : Naming := { style }
  match given.value? "factory-name" with
  | none => .ok naming
  | some name =>
    if name.trimBlank.isEmpty then .error .emptyFactoryName
      else .ok { naming with factoryName := name.trimBlank }

/-- What the options say about generating files. -/
def GenerateOptions.ofGiven (given : Given) :
    Except RequestFault GenerateOptions := do
  let verbosity ← Verbosity.ofFlags (given.has "verbose") (given.has "quiet")
  let naming ← Naming.ofGiven given
  return {
    input := (given.value? "input").getD ""
    output := (given.value? "output").getD ""
    format := if given.value? "format" = some "model" then .model else .kotlin
    naming
    selection := given.lookup "only"
    verbosity }

/-- What the commands and options ask for. -/
def Request.ofLevels (levels : List (String × Given)) :
    Except RequestFault Request := do
  let (command, given) := levels.getLastD ("", [])
  let input := (given.value? "input").getD ""
  let action ← match command with
    | "declarations" => .ok (.listDeclarations input)
    | "fields" => .ok (.listFields input (given.value? "declaration"))
    | _ => (GenerateOptions.ofGiven given).map Action.generate
  return {
    color := .ofWord (innermost? levels "color")
    theme := .ofWord (innermost? levels "theme")
    action }

end KotlinBuilders.CommandLine
