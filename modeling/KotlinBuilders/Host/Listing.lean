import KotlinBuilders.Text.Digits
import KotlinBuilders.Text.Split

/-!
# Member listings

A host without symbol information prints a declaration's members between square
brackets: the value members in the order of their declaration, the constructors
with their argument types, and one function `component<N>` for each constructor
slot, which says that the slot is backed by the N-th value member.  Everything
else is noise.

`parseListing` puts the three together.  It uses the first constructor whose
arity is the number of value members; without one, or where the component
functions do not match, the listing says nothing.
-/

namespace KotlinBuilders

/-- A constructor slot recovered from a listing: the value member that backs it
and the type it takes. -/
structure Member where
  name : String
  type : String
  deriving DecidableEq, Repr

/-- One entry of a listing. -/
inductive ListingEntry where
  | value (name : List Char)
  | constructor (arguments : List (List Char))
  | component (index : Nat)
  | other
  deriving DecidableEq, Repr

/-- The name under which the virtual machine prints a constructor. -/
def constructorName : List Char := "<init>".toList

/-- The word that a component function begins with. -/
def componentWord : List Char := "component".toList

/-- The name of the companion object, in lower case. -/
def companionWord : List Char := "companion".toList

/-- The name and the argument text of an entry such as `name(arguments)`. -/
def functionCall? (entry : List Char) : Option (List Char × List Char) :=
  match Text.cutAtFirst '(' entry with
  | some (name, rest) =>
    if name ≠ [] ∧ name.any Text.isBlank = false ∧ rest.getLast? = some ')'
        ∧ '\n' ∉ rest.dropLast then
      some (name, rest.dropLast)
    else none
  | none => none

/-- The index of a component function; it fits in sixty-four bits. -/
def componentIndex? (name : List Char) : Option Nat :=
  match Text.dropFront? componentWord name with
  | some digits =>
    if digits ≠ [] ∧ digits.all Char.isDigit
        ∧ Text.decimalValue digits < Nat.pow 2 64 then
      some (Text.decimalValue digits)
    else none
  | none => none

namespace ListingEntry

/-- The entry that a function of a declaration's listing makes. -/
def ofFunction (declaration name arguments : List Char) : ListingEntry :=
  if name = declaration ∨ name = constructorName then
    .constructor (Text.splitTopLevel ',' arguments)
  else if (Text.trim arguments).isEmpty then
    match componentIndex? name with
    | some index => .component index
    | none => .other
  else .other

/-- Reads a trimmed entry of a declaration's listing. -/
def ofText (declaration entry : List Char) : ListingEntry :=
  match functionCall? entry with
  | some (name, arguments) => ofFunction declaration name arguments
  | none =>
    if entry.isEmpty ∨ entry.map Char.toLower = companionWord then .other
      else .value entry

/-- The name of a value member. -/
def value? : ListingEntry → Option (List Char)
  | .value name => some name
  | _ => none

/-- The argument types of a constructor. -/
def constructor? : ListingEntry → Option (List (List Char))
  | .constructor arguments => some arguments
  | _ => none

/-- The index of a component function. -/
def component? : ListingEntry → Option Nat
  | .component index => some index
  | _ => none

end ListingEntry

/-- The trimmed text between the first opening and the last closing square
bracket, unless it is empty. -/
def listingBody? (listing : List Char) : Option (List Char) :=
  match Text.cutAtFirst '[' listing with
  | some (_, rest) =>
    match Text.cutAtLast ']' rest with
    | some (body, _) => if (Text.trim body).isEmpty then none
        else some (Text.trim body)
    | none => none
  | none => none

/-- The entries of a listing's body. -/
def listingEntries (declaration body : List Char) : List ListingEntry :=
  (Text.splitTopLevel ',' body).map (ListingEntry.ofText declaration)

/-- The member that backs a slot, by the index of its component function,
counted from one. -/
def backingMember? (values : List (List Char)) (index : Nat) :
    Option (List Char) :=
  match index with
  | 0 => none
  | place + 1 => values[place]?

/-- The members of a constructor, slot by slot. -/
def slotMembers? (values : List (List Char)) : List Nat → List (List Char) →
    Option (List Member)
  | index :: indices, type :: types => do
    let name ← backingMember? values index
    let members ← slotMembers? values indices types
    return ⟨String.ofList name, String.ofList type⟩ :: members
  | _, _ => some []

/-- The members that the entries of a listing agree on. -/
def reconcile? (entries : List ListingEntry) : Option (List Member) :=
  let values := entries.filterMap ListingEntry.value?
  let indices := entries.filterMap ListingEntry.component?
  match (entries.filterMap ListingEntry.constructor?).find? fun types =>
      types.length == values.length with
  | some types => if indices.length = values.length
      then slotMembers? values indices types else none
  | none => none

/-- The members of a declaration in constructor order, if its listing gives
them. -/
def parseListing (declaration listing : String) : Option (List Member) :=
  match listingBody? listing.toList with
  | some body => reconcile? (listingEntries declaration.toList body)
  | none => none

end KotlinBuilders
