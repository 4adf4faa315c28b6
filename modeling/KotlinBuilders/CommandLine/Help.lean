import KotlinBuilders.CommandLine.Usage

/-!
# Help texts

The help text of a command says what the command is for, how it is used, and
what can stand on the command line after it: commands, arguments and options, a
row for each.  What a row is about stands in a second column.  Where the first
column takes much of the page and some row would not fit beside it, the second
column of all rows stands below the first.
-/

namespace KotlinBuilders.CommandLine

/-- A row of a help text: what can be said, and what it is about. -/
structure HelpRow where
  label : Notice
  about : String
  deriving DecidableEq, Repr

namespace HelpRow

/-- The number of columns that a help text is laid out for. -/
def pageWidth : Nat := 100

/-- The columns of a page that count as taken by the margins around a label. -/
def margins : Nat := 12

/-- The columns that the letter of an option takes, or the room for one. -/
def letterRoom : Nat := 4

/-- The width of the longest label. -/
def labelWidth (rows : List HelpRow) : Nat :=
  (rows.map fun row => row.label.length).foldl max 0

/-- Whether the second column stands below the first: the labels and their
margins take more than two fifths of the page, and what some row is about is
longer than the rest of a line.  The room for letters counts as margin. -/
def areStacked (room : Nat) (rows : List HelpRow) : Bool :=
  let taken := labelWidth rows - room + margins
  taken ≤ pageWidth && 2 * pageWidth < 5 * taken && rows.any fun row =>
    pageWidth - taken < row.about.length

/-- The blanks in front of a second column that stands below the first. -/
def stackIndent : Nat := 10

/-- Blanks. -/
def blanks (count : Nat) : String := String.ofList (List.replicate count ' ')

/-- The lines of rows whose labels begin with room for letters. -/
def lines (room : Nat) (rows : List HelpRow) : List Notice :=
  let width := labelWidth rows
  rows.map fun row =>
    let gap := if areStacked room rows then "\n" ++ blanks stackIndent
      else blanks (width + 2 - row.label.length)
    [.plain "  "] ++ row.label ++ [.plain gap, .plain row.about]

/-- The row of a command. -/
def ofCommand (command : Command) : HelpRow :=
  ⟨[.emphatic .literal command.name], command.about⟩

/-- The row of arguments. -/
def ofArguments (arguments : ArgumentSpec) : HelpRow :=
  ⟨[.emphatic .placeholder arguments.display], arguments.about⟩

end HelpRow

namespace OptionSpec

/-- The value of an option as a help text shows it. -/
def valueNotice (option : OptionSpec) : Notice :=
  match option.use with
  | .value placeholder _ =>
    [.emphatic .placeholder " ",
      .emphatic .placeholder ("<" ++ placeholder ++ ">")]
  | _ => []

/-- An option as a help text shows it. -/
def notice (option : OptionSpec) : Notice :=
  .emphatic .literal ("--" ++ option.name) :: option.valueNotice

/-- The letter of an option, or the room for one. -/
def letterNotice (option : OptionSpec) : Notice :=
  match option.letter? with
  | some letter => [.emphatic .literal ("-" ++ letter.toString), .plain ", "]
  | none => [.plain (HelpRow.blanks HelpRow.letterRoom)]

/-- The words that an option takes. -/
def words (option : OptionSpec) : List String :=
  match option.use with
  | .value _ (.choice words) => words
  | _ => []

/-- What an option is about, its default and the words that it takes. -/
def details (option : OptionSpec) : String :=
  let default := option.default?.elim [] fun text =>
    ["[default: " ++ text ++ "]"]
  let words := if option.words.isEmpty then []
    else ["[possible values: " ++ ", ".intercalate option.words ++ "]"]
  " ".intercalate (option.about :: default ++ words)

/-- The row of an option. -/
def row (option : OptionSpec) : HelpRow :=
  ⟨option.letterNotice ++ option.notice, option.details⟩

end OptionSpec

namespace Command

/-- The line that says how a command is used: what can be left out, what cannot,
and what comes after it. -/
def usage (command : Command) : Notice :=
  let asks (option : OptionSpec) : Bool :=
    option.use = .help || option.use = .version
  let hasChoice := command.options.any fun option => !asks option
    && !option.isRequired
  let required := command.options.filter (·.isRequired)
  [.emphatic .usage "Usage:", .plain " ", .emphatic .literal command.path]
    ++ (if hasChoice
      then [.plain " ", .emphatic .placeholder "[OPTIONS]"] else [])
    ++ required.flatMap (fun option => .plain " " :: option.notice)
    ++ command.arguments?.elim [] (fun arguments =>
      [.plain " ", .emphatic .placeholder arguments.display])
    ++ (if command.hasCommands
      then [.plain " ", .emphatic .placeholder "<COMMAND>"] else [])

/-- A section of a help text, after a blank line, if there is anything in it. -/
def section? (title : String) (lines : List Notice) : List Notice :=
  if lines.isEmpty then []
    else [] :: [.emphatic .heading (title ++ ":")] :: lines

/-- The help text of a command. -/
def help (command : Command) : Notice :=
  let inner :=
    if command.hasCommands then command.commands ++ [command.helper] else []
  .ofLines <|
    [[.plain command.about], [], command.usage]
      ++ section? "Commands" (HelpRow.lines 0 (inner.map .ofCommand))
      ++ section? "Arguments"
        (HelpRow.lines 0 (command.arguments?.toList.map .ofArguments))
      ++ section? "Options"
        (HelpRow.lines HelpRow.letterRoom (command.options.map OptionSpec.row))

end Command

end KotlinBuilders.CommandLine
