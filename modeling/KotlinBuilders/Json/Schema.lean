import KotlinBuilders.Collection.Catalog
import KotlinBuilders.Json.Skip

/-!
# Schemas and how values are read by them

A schema says what a value is made of: texts, truth values, lists, tables with
free keys, optional values, and records of named fields.  Each schema has a type
of values, and `read` gives the value that a tree stands for or the first fault
met from left to right, with its place.

A record may be written as an object, its fields in any order and between
unknown keys, or as the list of its fields in order.  A field that is not
required has a default.  An optional value is `null` or the value itself.
-/

namespace KotlinBuilders.Json

mutual

/-- What a value is made of. -/
inductive Schema where
  | text (absent : String)
  | flag
  | list (element : Schema)
  | table (entry : Schema)
  | optional (inner : Schema)
  | record (name : String) (fields : Fields)

/-- The fields of a record, in order. -/
inductive Fields where
  | none
  | field (name : String) (isRequired : Bool) (schema : Schema) (rest : Fields)

end

mutual

/-- The values of a schema. -/
def Schema.Value : Schema → Type
  | .text _ => String
  | .flag => Bool
  | .list element => List element.Value
  | .table entry => Catalog entry.Value
  | .optional inner => Option inner.Value
  | .record _ fields => fields.Values

/-- The values of the fields of a record. -/
def Fields.Values : Fields → Type
  | .none => Unit
  | .field _ _ schema rest => schema.Value × rest.Values

end

/-- The values of the fields of a record as far as they were read. -/
def Fields.Slots : Fields → Type
  | .none => Unit
  | .field _ _ schema rest => Option schema.Value × rest.Slots

mutual

/-- The value that stands in for an absent one. -/
def Schema.absent : (schema : Schema) → schema.Value
  | .text absent => absent
  | .flag => false
  | .list _ => ([] : List _)
  | .table _ => (Catalog.empty : Catalog _)
  | .optional _ => (none : Option _)
  | .record _ fields => fields.absent

/-- The values that stand in for absent fields. -/
def Fields.absent : (fields : Fields) → fields.Values
  | .none => ()
  | .field _ _ schema rest => (schema.absent, rest.absent)

end

namespace Fields

/-- The number of fields. -/
def size : Fields → Nat
  | .none => 0
  | .field _ _ _ rest => rest.size + 1

/-- The slots of a record of which nothing was read. -/
def empty : (fields : Fields) → fields.Slots
  | .none => ()
  | .field _ _ _ rest => (Option.none, rest.empty)

/-- The values of a record whose keys were all read, or the first field that is
required and missing. -/
def complete : (fields : Fields) → fields.Slots → Except String fields.Values
  | .none, _ => .ok ()
  | .field name isRequired schema rest, (slot, slots) =>
    match slot, isRequired with
    | some value, _ => (complete rest slots).map fun values => (value, values)
    | Option.none, false => (complete rest slots).map fun values =>
        (schema.absent, values)
    | Option.none, true => .error name

/-- Whether a field of the given name was read. -/
def isFilled : (fields : Fields) → fields.Slots → String → Bool
  | .none, _, _ => false
  | .field name _ _ rest, (slot, slots), key =>
    if name = key then slot.isSome else isFilled rest slots key

/-- Whether a field has to be given. -/
def hasRequired : Fields → Bool
  | .none => false
  | .field _ isRequired _ rest => isRequired || rest.hasRequired

end Fields

/-- What a schema wants, in words. -/
def Schema.wanted : Schema → String
  | .text _ => "a string"
  | .flag => "a boolean"
  | .list _ => "a sequence"
  | .table _ => "a map"
  | .optional inner => inner.wanted
  | .record name _ => "struct " ++ name

/-- The fault of a wanted list that stopped in a given way, if that is one. -/
def ListStop.faultWanted? : ListStop → Option Fault
  | .closed | .inside => none
  | .cut => some .listCut
  | .cutAfterComma => some .valueCut
  | .trailingComma => some .trailingComma
  | .noSeparator => some .noCommaOrBracket

/-- The fault of a list of fields that stopped in a given way after the last
field, if that is one. -/
def ListStop.faultAfterFields? : ListStop → Option Fault
  | .closed | .inside => none
  | .cut => some .listCut
  | .trailingComma => some .trailingComma
  | .cutAfterComma | .noSeparator => some .trailingCharacters

/-- The fault of a wanted object that stopped in a given way while a key was
due, if that is one. -/
def ObjectStop.faultWanted? : ObjectStop → Option Fault
  | .closed | .inside | .noColon .. => none
  | .cut => some .objectCut
  | .cutAfterComma => some .valueCut
  | .trailingComma => some .trailingComma
  | .noSeparator => some .noCommaOrBrace
  | .noKey => some .keyNotString

/-- A result unless there is a fault. -/
def unlessFault {α : Type} (fault? : Option Fault) (path : List Step)
    (value : α) : Except Refusal α :=
  match fault? with
  | none => .ok value
  | some fault => .error ⟨path, fault⟩

/-- The text of a key. -/
def readKey (key : StringText) : Except Refusal String :=
  match key.decode with
  | .ok name => .ok name
  | .error fault => .error ⟨[.unknown], fault⟩

/-- The result of an object that stopped in a given way; `isFilled` says which
keys may not come again. -/
def closeObject {α : Type} (isFilled : String → Bool) (value : α) :
    ObjectStop → Except Refusal α
  | .noColon key atEnd => do
    let name ← readKey key
    if isFilled name then .error (.here (.duplicateField name))
    else .error (.here (if atEnd then .objectCut else .noColon))
  | stop => unlessFault stop.faultWanted? [.unknown] value

/-- The values of the elements of a list, from a given place on. -/
def readElements {α : Type} (read : Node → Except Refusal α) :
    (place : Nat) → List Node → Except Refusal (List α)
  | _, [] => .ok []
  | place, node :: nodes => do
    let value ← within (.index place) (read node)
    let values ← readElements read (place + 1) nodes
    return value :: values

/-- The entries of a table. -/
def readEntries {α : Type} (read : Node → Except Refusal α) :
    List (StringText × Node) → Except Refusal (List (String × α))
  | [] => .ok []
  | (key, node) :: members => do
    let name ← readKey key
    let value ← within (.key name) (read node)
    let entries ← readEntries read members
    return (name, value) :: entries

/-- The slots of a record after the members of an object. -/
def readMembers {σ : Type} (read : String → Node → σ → Except Refusal σ) :
    List (StringText × Node) → σ → Except Refusal σ
  | [], slots => .ok slots
  | (key, node) :: members, slots => do
    let name ← readKey key
    let slots ← read name node slots
    readMembers read members slots

/-- The text of a string. -/
def readText (wanted : String) : Node → Except Refusal String
  | .string s =>
    match s.decode with
    | .ok text => .ok text
    | .error fault => .error (.here fault)
  | node => .error (.here (node.faultWhere wanted))

/-- A truth value. -/
def readFlag (wanted : String) : Node → Except Refusal Bool
  | .word (.bool value) .complete => .ok value
  | node => .error (.here (node.faultWhere wanted))

/-- The defaults of the fields that a list of fields leaves out after a given
number of elements. -/
def readAbsent (name : String) (total place : Nat) (fields : Fields) :
    ListStop → Except Refusal fields.Values
  | stop =>
    match stop.faultWanted? with
    | some fault => .error (.here fault)
    | none =>
      if fields.hasRequired then
        .error (.here (.invalidLength place name total)) else .ok fields.absent

mutual

/-- The value that a tree stands for. -/
def Schema.read : (schema : Schema) → Node → Except Refusal schema.Value
  | .text absent, node => readText (Schema.text absent).wanted node
  | .flag, node => readFlag Schema.flag.wanted node
  | .list element, node =>
    match node with
    | .list elements stop => do
      let values ← readElements (element.read ·) 0 elements
      unlessFault stop.faultWanted? [] values
    | node => .error (.here (node.faultWhere (Schema.list element).wanted))
  | .table entry, node =>
    match node with
    | .object members stop => do
      let entries ← readEntries (entry.read ·) members
      closeObject (fun _ => false) (Catalog.ofList entries) stop
    | node => .error (.here (node.faultWhere (Schema.table entry).wanted))
  | .optional inner, node =>
    match node with
    | .word .null .complete => .ok none
    | node => (inner.read node).map some
  | .record name fields, node =>
    match node with
    | .list elements stop =>
      fields.readPositions name fields.size 0 elements stop
    | .object members stop => do
      let slots ← readMembers
          (fun key node slots => fields.readMember key node slots)
          members fields.empty
      let slots ← closeObject (fields.isFilled slots) slots stop
      match fields.complete slots with
      | .ok values => .ok values
      | .error missing => .error (.here (.missingField missing))
    | node =>
      .error (.here (node.faultWhere (Schema.record name fields).wanted))

/-- The values of the fields of a record that is written as a list, from a given
place on. -/
def Fields.readPositions (name : String) (total : Nat) :
    (fields : Fields) → (place : Nat) → List Node → ListStop →
      Except Refusal fields.Values
  | .none, _, [], stop => unlessFault stop.faultAfterFields? [] ()
  | .none, _, _ :: _, _ => .error (.here .trailingCharacters)
  | .field fieldName isRequired schema rest, place, [], stop =>
    readAbsent name total place (.field fieldName isRequired schema rest) stop
  | .field _ _ schema rest, place, node :: nodes, stop => do
    let value ← within (.index place) (schema.read node)
    let values ← rest.readPositions name total (place + 1) nodes stop
    return (value, values)

/-- The slots of a record after one more member.  An unknown key is skipped. -/
def Fields.readMember : (fields : Fields) → String → Node → fields.Slots →
    Except Refusal fields.Slots
  | .none, key, node, slots => unlessFault node.faultSkipped? [.key key] slots
  | .field name _ schema rest, key, node, (slot, slots) =>
    if name = key then
      if slot.isSome then .error (.here (.duplicateField name))
      else do
        let value ← within (.key name) (schema.read node)
        return (some value, slots)
    else do
      let slots ← rest.readMember key node slots
      return (slot, slots)

end

end KotlinBuilders.Json
