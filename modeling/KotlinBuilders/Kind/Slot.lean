import KotlinBuilders.Kind.Basic
import KotlinBuilders.Kotlin.Identifier

/-!
# Builder slots

A builder keeps one slot for each field.  A slot whose type admits no `null` and
has no literal to start from is deferred: it is declared `lateinit`, and asking
whether it was given a value means asking whether it is initialized.  Every
other slot starts from a literal, and it was given a value if it differs from
that literal.

An alias with a literal of its own starts from it even where it admits `null`.
-/

namespace KotlinBuilders

/-- The literal of a slot that starts empty. -/
def nullLiteral : String := "null"

/-- A modifier of a property. -/
inductive Modifier where
  | isPrivate
  | isLateinit
  deriving DecidableEq, Repr

/-- The modifier in source text. -/
def Modifier.word : Modifier → String
  | .isPrivate => "private"
  | .isLateinit => "lateinit"

/-- The test whether a slot was given a value. -/
inductive PresenceCheck where
  | initialized (field : FieldName)
  | differs (field : FieldName) (literal : String)
  deriving DecidableEq, Repr

namespace PresenceCheck

/-- The field whose slot is tested. -/
def field : PresenceCheck → FieldName
  | initialized field => field
  | differs field _ => field

/-- The test in source text. -/
def render : PresenceCheck → String
  | initialized field => "this::" ++ field.identifier ++ ".isInitialized"
  | differs field literal => field.identifier ++ " != " ++ literal

end PresenceCheck

namespace Kind

/-- Whether a slot of the type can hold nothing before it is given a value. -/
def isDeferred (kind : Kind) : Bool := !kind.nullable && kind.literal?.isNone

/-- What a slot of the type starts from; nothing, when it is deferred. -/
def initializer? (kind : Kind) : Option String :=
  if kind.isDeferred then none
  else match kind with
    | .aliased _ literal? _ => some (literal?.getD nullLiteral)
    | kind => if kind.nullable then some nullLiteral else kind.literal?

/-- The modifiers of a slot of the type. -/
def modifiers (kind : Kind) : List Modifier :=
  if kind.isDeferred then [.isPrivate, .isLateinit] else [.isPrivate]

/-- The test whether the slot of a field was given a value. -/
def presenceCheck (kind : Kind) (field : FieldName) : PresenceCheck :=
  match kind.initializer? with
  | none => .initialized field
  | some literal => .differs field literal

end Kind

end KotlinBuilders
