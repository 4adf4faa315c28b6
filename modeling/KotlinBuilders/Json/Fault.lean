import KotlinBuilders.Text.Digits
import KotlinBuilders.Text.Quoted

/-!
# What can be wrong with a JSON text

A fault is of one of three categories: the text ends too soon, it breaks the
grammar of JSON, or its data is not what is wanted.  Each fault has a wording of
its own.
-/

namespace KotlinBuilders.Json

/-- The three categories of faults. -/
inductive Category where
  | data
  | grammar
  | endOfText
  deriving DecidableEq, Repr

/-- The word for a category. -/
def Category.word : Category → String
  | .data => "Data"
  | .grammar => "Syntax"
  | .endOfText => "Eof"

/-- What stands where something else is wanted. -/
inductive Found where
  | null
  | bool (value : Bool)
  | integer (text : String)
  | floating (text : String)
  | string (text : String)
  | list
  | object
  deriving DecidableEq, Repr

/-- The wording of what was found. -/
def Found.wording : Found → String
  | .null => "null"
  | .bool value => "boolean `" ++ (if value then "true" else "false") ++ "`"
  | .integer text => "integer `" ++ text ++ "`"
  | .floating text => "floating point `" ++ text ++ "`"
  | .string text => "string " ++ Text.quoted text
  | .list => "sequence"
  | .object => "map"

/-- What can be wrong with a JSON text. -/
inductive Fault where
  | invalidType (found : Found) (wanted : String)
  | invalidLength (length : Nat) (record : String) (size : Nat)
  | missingField (name : String)
  | duplicateField (name : String)
  | valueCut
  | listCut
  | objectCut
  | stringCut
  | noValue
  | noWord
  | noColon
  | noCommaOrBracket
  | noCommaOrBrace
  | keyNotString
  | trailingComma
  | trailingCharacters
  | invalidNumber
  | numberOutOfRange
  | invalidEscape
  | loneSurrogate
  | brokenSurrogatePair
  | controlCharacter
  | invalidCodePoint
  deriving DecidableEq, Repr

namespace Fault

/-- The category of a fault. -/
def category : Fault → Category
  | invalidType .. | invalidLength .. | missingField _
      | duplicateField _ => .data
  | valueCut | listCut | objectCut | stringCut => .endOfText
  | _ => .grammar

/-- A number of elements in words. -/
def elementCount (n : Nat) : String :=
  Text.decimal n ++ (if n = 1 then " element" else " elements")

/-- The wording of a fault. -/
def message : Fault → String
  | invalidType found wanted =>
    "invalid type: " ++ found.wording ++ ", expected " ++ wanted
  | invalidLength length record size =>
    "invalid length " ++ Text.decimal length ++ ", expected struct " ++ record
      ++ " with " ++ elementCount size
  | missingField name => "missing field `" ++ name ++ "`"
  | duplicateField name => "duplicate field `" ++ name ++ "`"
  | valueCut => "EOF while parsing a value"
  | listCut => "EOF while parsing a list"
  | objectCut => "EOF while parsing an object"
  | stringCut => "EOF while parsing a string"
  | noValue => "expected value"
  | noWord => "expected ident"
  | noColon => "expected `:`"
  | noCommaOrBracket => "expected `,` or `]`"
  | noCommaOrBrace => "expected `,` or `\x7d`"
  | keyNotString => "key must be a string"
  | trailingComma => "trailing comma"
  | trailingCharacters => "trailing characters"
  | invalidNumber => "invalid number"
  | numberOutOfRange => "number out of range"
  | invalidEscape => "invalid escape"
  | loneSurrogate => "lone leading surrogate in hex escape"
  | brokenSurrogatePair => "unexpected end of hex escape"
  | controlCharacter =>
    "control character (\\u0000-\\u001F) found while parsing a string"
  | invalidCodePoint => "invalid unicode code point"

end Fault

/-- A step from a value to one inside it; `unknown` stands for the place of a
key that was not read. -/
inductive Step where
  | key (name : String)
  | index (place : Nat)
  | unknown
  deriving DecidableEq, Repr

/-- A step as part of a path; a dot stands before a name unless the name begins
the path. -/
def Step.text (isFirst : Bool) : Step → String
  | .key name => (if isFirst then "" else ".") ++ name
  | .index place => "[" ++ Text.decimal place ++ "]"
  | .unknown => if isFirst then "?" else ".?"

/-- A path in text; the root itself is a dot. -/
def pathText : List Step → String
  | [] => "."
  | first :: rest => String.join (first.text true :: rest.map (Step.text false))

/-- A fault and the place where it was met. -/
structure Refusal where
  path : List Step
  fault : Fault
  deriving DecidableEq, Repr

namespace Refusal

/-- A fault at the value itself. -/
def here (fault : Fault) : Refusal := ⟨[], fault⟩

/-- A fault inside the value, seen from outside. -/
def under (step : Step) (refusal : Refusal) : Refusal :=
  ⟨step :: refusal.path, refusal.fault⟩

end Refusal

/-- A reading of a part, seen from the whole. -/
def within {α : Type} (step : Step) : Except Refusal α → Except Refusal α
  | .ok value => .ok value
  | .error refusal => .error (refusal.under step)

end KotlinBuilders.Json
