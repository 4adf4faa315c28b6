import KotlinBuilders.Json.Token

/-!
# The tree of a JSON text

The tokens of a text make a tree, faults and all: a list or object that is not
closed says where it stopped, and where no value begins the tree says so.  What
is wrong with the text depends on what is wanted of it, so it is the reader of
the tree that finds it out.

The tree is built by a machine that takes one token at a time.  It keeps the
lists and objects that are not closed yet, innermost first, each with what it
holds so far.  It goes on until the first value is complete, and what comes
after it is not looked at.
-/

namespace KotlinBuilders.Json

/-- Where a list stopped: at its bracket, inside its last element, at the end of
the text, at the end of the text after a comma, at its bracket after a comma, or
before something that is neither a comma nor its bracket. -/
inductive ListStop where
  | closed
  | inside
  | cut
  | cutAfterComma
  | trailingComma
  | noSeparator
  deriving DecidableEq, Repr

/-- Where an object stopped: like a list, or else where something stands in a
key's place, or where no colon follows a key, at the end of the text or not. -/
inductive ObjectStop where
  | closed
  | inside
  | cut
  | cutAfterComma
  | trailingComma
  | noSeparator
  | noKey
  | noColon (key : StringText) (atEnd : Bool)
  deriving DecidableEq, Repr

/-- The tree of a value. -/
inductive Node where
  | missing
  | stray
  | word (word : Word) (ending : Ending)
  | number (number : NumberText)
  | string (string : StringText)
  | list (elements : List Node) (stop : ListStop)
  | object (members : List (StringText × Node)) (stop : ObjectStop)
  deriving Repr, Inhabited

namespace Node

/-- A list or object that waits for a value: what it holds so far, the last
first, and the key of the value. -/
inductive Frame where
  | list (held : List Node)
  | object (held : List (StringText × Node)) (key : StringText)
  deriving Repr

/-- What the machine waits for, with the lists and objects around it, innermost
first. -/
inductive State where
  | value (around : List Frame)
  | element (around : List Frame) (held : List Node) (afterComma : Bool)
  | afterElement (around : List Frame) (held : List Node)
  | key (around : List Frame) (held : List (StringText × Node))
      (afterComma : Bool)
  | colon (around : List Frame) (held : List (StringText × Node))
      (key : StringText)
  | afterMember (around : List Frame) (held : List (StringText × Node))
  | finished (root : Node)
  deriving Repr

/-- The tree in which the lists and objects around a node stop inside it. -/
def enclose (node : Node) : List Frame → Node
  | [] => node
  | .list held :: around =>
    enclose (.list (node :: held).reverse .inside) around
  | .object held key :: around =>
    enclose (.object ((key, node) :: held).reverse .inside) around

/-- The machine after a complete value. -/
def attach (node : Node) : List Frame → State
  | [] => .finished node
  | .list held :: around => .afterElement around (node :: held)
  | .object held key :: around => .afterMember around ((key, node) :: held)

/-- The machine after a token where a value is due. -/
def begin (around : List Frame) : Token → State
  | .openList => .element around [] false
  | .openObject => .key around [] false
  | .word w ending => attach (.word w ending) around
  | .number n => attach (.number n) around
  | .string s => attach (.string s) around
  | .closeList | .closeObject | .comma | .colon | .stray => attach .stray around

/-- A list that stops in a given way. -/
def listOf (held : List Node) (stop : ListStop) : Node :=
  .list held.reverse stop

/-- An object that stops in a given way. -/
def objectOf (held : List (StringText × Node)) (stop : ObjectStop) : Node :=
  .object held.reverse stop

/-- The machine after a list or object that cannot go on. -/
def halt (node : Node) (around : List Frame) : State :=
  .finished (enclose node around)

/-- The machine after one more token. -/
def step : State → Token → State
  | .value around, token => begin around token
  | .element around held true, .closeList =>
    halt (listOf held .trailingComma) around
  | .element around held false, .closeList =>
    attach (listOf held .closed) around
  | .element around held _, token => begin (.list held :: around) token
  | .afterElement around held, .comma => .element around held true
  | .afterElement around held, .closeList => attach (listOf held .closed) around
  | .afterElement around held, _ => halt (listOf held .noSeparator) around
  | .key around held _, .string key => .colon around held key
  | .key around held true, .closeObject =>
    halt (objectOf held .trailingComma) around
  | .key around held false, .closeObject =>
    attach (objectOf held .closed) around
  | .key around held _, _ => halt (objectOf held .noKey) around
  | .colon around held key, .colon => .value (.object held key :: around)
  | .colon around held key, _ =>
    halt (objectOf held (.noColon key false)) around
  | .afterMember around held, .comma => .key around held true
  | .afterMember around held, .closeObject =>
    attach (objectOf held .closed) around
  | .afterMember around held, _ => halt (objectOf held .noSeparator) around
  | .finished root, _ => .finished root

/-- The tree of what the machine has at the end of the text. -/
def ofState : State → Node
  | .value around => enclose .missing around
  | .element around held true => enclose (listOf held .cutAfterComma) around
  | .element around held false => enclose (listOf held .cut) around
  | .afterElement around held => enclose (listOf held .cut) around
  | .key around held true => enclose (objectOf held .cutAfterComma) around
  | .key around held false => enclose (objectOf held .cut) around
  | .colon around held key => enclose (objectOf held (.noColon key true)) around
  | .afterMember around held => enclose (objectOf held .cut) around
  | .finished root => root

/-- The tree of the first value of a list of tokens. -/
def ofTokens (tokens : List Token) : Node :=
  ofState (tokens.foldl step (.value []))

/-- The tree of the first value of a text. -/
def ofBytes (text : List UInt8) : Node := ofTokens (tokens text)

end Node

end KotlinBuilders.Json
