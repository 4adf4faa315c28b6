import KotlinBuilders.CommandLine.Request
import KotlinBuilders.Text.Blank
import KotlinBuilders.Text.Controls
import KotlinBuilders.Text.Digits

/-!
# Coloured log lines and notices

A piece of a log line plays a role, and a theme gives every role a colour.  A
piece stands between two codes, the first of which sets its colour and the
second the terminal's own.  Without colours both codes set the terminal's own;
where the environment forbids colours altogether the codes are empty.

The parts of a notice stand out in the colours of the dark theme, which the
options cannot change because a notice may be about them.  Where the
surroundings want no colours, a notice is printed without any controls, and so
without those that were typed.
-/

namespace KotlinBuilders.CommandLine

/-- What a piece of a log line is. -/
inductive Role where
  | timestamp
  | primary
  | accent
  | success
  | label
  | value
  | muted
  deriving DecidableEq, Repr

/-- A background that colours are made for. -/
inductive Theme where
  | dark
  | light
  deriving DecidableEq, Repr

/-- A colour. -/
structure Shade where
  red : Nat
  green : Nat
  blue : Nat
  deriving DecidableEq, Repr

/-- The code that a terminal takes a number for. -/
def controlCode (number : String) : String := "\x1b[" ++ number ++ "m"

/-- The number of the code of a colour. -/
def Shade.code (shade : Shade) : String :=
  "38;2;" ++ Text.decimal shade.red ++ ";" ++ Text.decimal shade.green ++ ";"
    ++ Text.decimal shade.blue

/-- The colour of a role. -/
def Theme.shade : Theme → Role → Shade
  | .dark, .timestamp => ⟨120, 144, 156⟩
  | .dark, .primary => ⟨129, 199, 212⟩
  | .dark, .accent => ⟨239, 118, 122⟩
  | .dark, .success => ⟨152, 195, 121⟩
  | .dark, .label => ⟨229, 192, 123⟩
  | .dark, .value => ⟨224, 224, 224⟩
  | .dark, .muted => ⟨110, 118, 129⟩
  | .light, .timestamp => ⟨96, 108, 118⟩
  | .light, .primary => ⟨0, 95, 135⟩
  | .light, .accent => ⟨175, 0, 65⟩
  | .light, .success => ⟨40, 120, 60⟩
  | .light, .label => ⟨135, 80, 0⟩
  | .light, .value => ⟨40, 40, 40⟩
  | .light, .muted => ⟨140, 140, 140⟩

/-- What is known about the place where the program runs: whether its output and
its complaints go to a terminal, the colours and the kind of that terminal, and
whether colours are unwelcome, welcome or asked for. -/
structure Surroundings where
  isTerminal : Bool := false
  areComplaintsSeen : Bool := false
  colors? : Option String := none
  kind? : Option String := none
  noColor? : Option String := none
  color? : Option String := none
  forceColor? : Option String := none
  automation? : Option String := none
  deriving Repr

namespace Surroundings

/-- The surroundings that the environment variables describe. -/
def ofVariables {m : Type → Type} [Monad m]
    (isTerminal areComplaintsSeen : Bool)
    (getVariable : String → m (Option String)) : m Surroundings := do
  return {
    isTerminal
    areComplaintsSeen
    colors? := ← getVariable "COLORFGBG"
    kind? := ← getVariable "TERM"
    noColor? := ← getVariable "NO_COLOR"
    color? := ← getVariable "CLICOLOR"
    forceColor? := ← getVariable "CLICOLOR_FORCE"
    automation? := ← getVariable "CI" }

/-- Whether a variable is set to anything. -/
def isSet (value? : Option String) : Bool := !(value?.getD "").isEmpty

/-- Whether colours are forbidden altogether. -/
def forbidColors (surroundings : Surroundings) : Bool :=
  isSet surroundings.noColor?

/-- Whether a terminal can be expected to show colours. -/
def expectColors (surroundings : Surroundings) : Bool :=
  match surroundings.color? with
  | some text => text != "0"
  | none => surroundings.kind?.any (· != "dumb")
      || surroundings.automation?.isSome

/-- Whether the parts of a notice stand out where it is printed. -/
def wantEmphasis (surroundings : Surroundings) (isTerminal : Bool) : Bool :=
  !surroundings.forbidColors && (isSet surroundings.forceColor?
    || (isTerminal && surroundings.expectColors))

end Surroundings

/-- A byte written in decimal digits, with an optional plus sign in front. -/
def byteOfText? (text : List Char) : Option Nat :=
  let digits := if text.head? = some '+' then text.tail else text
  if digits ≠ [] ∧ digits.all Char.isDigit ∧ Text.decimalValue digits < 256
    then some (Text.decimalValue digits)
  else none

/-- The theme for a pair of terminal colours, the background last: white and the
bright colours are light. -/
def Theme.ofColors? (colors : String) : Option Theme :=
  let background := colors.toList.reverse.takeWhile (· != ';')
  (byteOfText? (Text.trim background.reverse)).map fun color =>
    if color = 7 ∨ 8 < color then .light else .dark

/-- The theme that was chosen, or the one that the surroundings suggest. -/
def Theme.choose (mode : ThemeMode) (surroundings : Surroundings) : Theme :=
  match mode with
  | .dark => .dark
  | .light => .light
  | .auto => (surroundings.colors?.bind Theme.ofColors?).getD .dark

/-- How log lines are coloured. -/
structure Paint where
  isEnabled : Bool
  isForbidden : Bool
  theme : Theme
  deriving DecidableEq, Repr

namespace Paint

/-- The colouring that was chosen, or the one that the surroundings suggest. -/
def choose (color : ColorMode) (theme : ThemeMode)
    (surroundings : Surroundings) : Paint where
  isEnabled := match color with
    | .always => true
    | .never => false
    | .auto => surroundings.isTerminal && surroundings.noColor?.isNone
  isForbidden := surroundings.forbidColors
  theme := .choose theme surroundings

/-- The number of a code. -/
def code (paint : Paint) (shade? : Option Shade) : String :=
  if paint.isForbidden then "" else shade?.elim "39" Shade.code

/-- A piece of a log line. -/
def piece (paint : Paint) (role : Role) (text : String) : String :=
  let shade? := if paint.isEnabled then some (paint.theme.shade role) else none
  controlCode (paint.code shade?) ++ text ++ controlCode (paint.code none)

end Paint

/-! ## Notices -/

/-- The numbers of the codes that make a part of a notice stand out: bold,
underlined, red, or a shade. -/
def Emphasis.codes : Emphasis → List String
  | .heading => ["1", "4", (Theme.dark.shade .label).code]
  | .usage => ["1", (Theme.dark.shade .label).code]
  | .literal => [(Theme.dark.shade .success).code]
  | .placeholder => [(Theme.dark.shade .primary).code]
  | .error => ["1", "31"]
  | .valid => [(Theme.dark.shade .success).code]
  | .invalid => ["1", (Theme.dark.shade .accent).code]

/-- A part of a notice with its codes, and after it the code that takes them
back. -/
def Part.coded : Part → String
  | .plain text => text
  | .emphatic emphasis text =>
    String.join (emphasis.codes.map controlCode) ++ text ++ controlCode "0"

namespace Notice

/-- A notice whose parts stand out. -/
def coded (notice : Notice) : String := String.join (notice.map Part.coded)

/-- A notice as it is printed.  A sequence that was typed and not ended ends
with the part that it stands in, because the codes are taken away together with
it. -/
def print (notice : Notice) (isEmphatic : Bool) : String :=
  if isEmphatic then notice.coded
    else String.ofList (Text.visible notice.coded.toList)

end Notice

end KotlinBuilders.CommandLine
