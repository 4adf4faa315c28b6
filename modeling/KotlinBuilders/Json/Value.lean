/-!
# JSON values and how they are printed

A value keeps the members of an object in order.  Two printers write the same
value: `Json.compact` on one line, and `Json.pretty` with each element and each
member on a line of its own, two spaces deeper than the brackets around it.  An
empty list or object keeps its brackets together.

A string is written between quotation marks; inside, the marks, the backslash
and the control characters below the space are escaped and every other character
stands for itself.
-/

namespace KotlinBuilders

/-- A JSON value without numbers. -/
inductive Json where
  | null
  | bool (value : Bool)
  | string (text : String)
  | list (elements : List Json)
  | object (members : List (String × Json))
  deriving Repr, Inhabited

namespace Json

/-- The four hexadecimal digits of a small number. -/
def fourDigits (n : Nat) : List Char :=
  [Nat.digitChar (n / 4096 % 16), Nat.digitChar (n / 256 % 16),
    Nat.digitChar (n / 16 % 16), Nat.digitChar (n % 16)]

/-- How a character stands inside a string. -/
def escape (c : Char) : List Char :=
  if c = '"' then ['\\', '"']
  else if c = '\\' then ['\\', '\\']
  else if c = '\n' then ['\\', 'n']
  else if c = '\r' then ['\\', 'r']
  else if c = '\t' then ['\\', 't']
  else if c.toNat = 8 then ['\\', 'b']
  else if c.toNat = 12 then ['\\', 'f']
  else if c.toNat < 32 then '\\' :: 'u' :: fourDigits c.toNat
  else [c]

/-- A text between quotation marks. -/
def quote (text : List Char) : List Char := '"' :: text.flatMap escape ++ ['"']

/-- A truth value in words. -/
def boolWord (value : Bool) : List Char :=
  if value then "true".toList else "false".toList

mutual

/-- A value on one line. -/
def compactChars : Json → List Char
  | .null => "null".toList
  | .bool value => boolWord value
  | .string text => quote text.toList
  | .list [] => ['[', ']']
  | .list (element :: elements) =>
    '[' :: compactChars element ++ compactElements elements
  | .object [] => ['{', '}']
  | .object ((name, value) :: members) =>
    '{' :: quote name.toList ++ ':' :: compactChars value
      ++ compactMembers members

/-- The elements after the first one, and the end of the list. -/
def compactElements : List Json → List Char
  | [] => [']']
  | element :: elements =>
    ',' :: compactChars element ++ compactElements elements

/-- The members after the first one, and the end of the object. -/
def compactMembers : List (String × Json) → List Char
  | [] => ['}']
  | (name, value) :: members =>
    ',' :: quote name.toList ++ ':' :: compactChars value
      ++ compactMembers members

end

/-- A line break and the indentation of a depth. -/
def newline (depth : Nat) : List Char := '\n' :: List.replicate (2 * depth) ' '

mutual

/-- A value over several lines, inside a number of brackets. -/
def prettyChars (depth : Nat) : Json → List Char
  | .null => "null".toList
  | .bool value => boolWord value
  | .string text => quote text.toList
  | .list [] => ['[', ']']
  | .list (element :: elements) =>
    '[' :: newline (depth + 1) ++ prettyChars (depth + 1) element
      ++ prettyElements depth elements
  | .object [] => ['{', '}']
  | .object ((name, value) :: members) =>
    '{' :: newline (depth + 1) ++ quote name.toList
      ++ ':' :: ' ' :: prettyChars (depth + 1) value
      ++ prettyMembers depth members

/-- The elements after the first one, and the end of the list. -/
def prettyElements (depth : Nat) : List Json → List Char
  | [] => newline depth ++ [']']
  | element :: elements =>
    ',' :: newline (depth + 1) ++ prettyChars (depth + 1) element
      ++ prettyElements depth elements

/-- The members after the first one, and the end of the object. -/
def prettyMembers (depth : Nat) : List (String × Json) → List Char
  | [] => newline depth ++ ['}']
  | (name, value) :: members =>
    ',' :: newline (depth + 1) ++ quote name.toList
      ++ ':' :: ' ' :: prettyChars (depth + 1) value
      ++ prettyMembers depth members

end

/-- The text of a value on one line. -/
def compact (value : Json) : String := String.ofList (compactChars value)

/-- The text of a value over several lines. -/
def pretty (value : Json) : String := String.ofList (prettyChars 0 value)

/-- A text, or `null` where there is none. -/
def ofText? : Option String → Json
  | some text => .string text
  | none => .null

/-- A list of texts. -/
def ofTexts (texts : List String) : Json := .list (texts.map .string)

end Json

end KotlinBuilders
