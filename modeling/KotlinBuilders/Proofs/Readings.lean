import KotlinBuilders.Json.Schema
import KotlinBuilders.Proofs.FieldConversion
import KotlinBuilders.Proofs.WrittenTrees

/-!
# What a schema reads

For each schema, the trees that it reads and the value that it gives: a text
from a string that can be decoded, a list from a list whose elements are read,
and so on.  A reading looks at the whole tree, either by a schema or as a value
that is skipped, so a tree that is read has no fault anywhere
(`Schema.not_isBroken_of_read`).
-/

namespace KotlinBuilders.Json

/-! ## Parts of a reading -/

/-- A value is given when there is no fault. -/
theorem unlessFault_eq_ok_iff {α : Type} {fault? : Option Fault}
    {path : List Step} {value result : α} :
    unlessFault fault? path value = .ok result ↔
      fault? = none ∧ value = result := by
  cases fault? <;> simp [unlessFault]

/-- A changed result has a value when the result had the one it comes from. -/
theorem map_eq_ok_iff {ε α β : Type} {f : α → β}
    {result : Except ε α} {value : β} :
    result.map f = .ok value ↔ ∃ a, result = .ok a ∧ f a = value := by
  cases result <;> simp [Except.map]

/-- Changing the failure of a result changes no value. -/
theorem mapError_eq_ok_iff {ε δ α : Type} {f : ε → δ}
    {result : Except ε α} {value : α} :
    result.mapError f = .ok value ↔ result = .ok value := by
  cases result <;> simp [Except.mapError]

/-- Noting the place of a failure changes no value. -/
theorem within_eq_ok_iff {α : Type} {step : Step}
    {reading : Except Refusal α} {value : α} :
    within step reading = .ok value ↔ reading = .ok value := by
  cases reading <;> simp [within]

/-- A key is read as the name that it is decoded to. -/
theorem readKey_eq_ok_iff {key : StringText} {name : String} :
    readKey key = .ok name ↔ key.decode = .ok name := by
  unfold readKey
  cases key.decode <;> simp

/-- A string has no fault when it is closed. -/
theorem StringEnd.fault?_eq_none_iff {ending : StringEnd} :
    ending.fault? = none ↔ ending = .closed := by
  cases ending <;> simp [StringEnd.fault?]

/-- A word has no fault when it is complete. -/
theorem Ending.wordFault?_eq_none_iff {ending : Ending} :
    ending.wordFault? = none ↔ ending = .complete := by
  cases ending <;> simp [Ending.wordFault?]

/-- A number that is skipped has no fault when it is complete. -/
theorem NumberText.faultSkipped?_eq_none_iff {number : NumberText} :
    number.faultSkipped? = none ↔ number.ending = .complete := by
  simp [NumberText.faultSkipped?]

/-- A list that is skipped has no fault of its own when it is closed, or stopped
inside of an element. -/
theorem ListStop.faultSkipped?_eq_none_iff {stop : ListStop} :
    stop.faultSkipped? = none ↔ stop = .closed ∨ stop = .inside := by
  cases stop <;> simp [ListStop.faultSkipped?]

/-- An object that is skipped has no fault of its own when it is closed, or
stopped inside of a member. -/
theorem ObjectStop.faultSkipped?_eq_none_iff {stop : ObjectStop} :
    stop.faultSkipped? = none ↔ stop = .closed ∨ stop = .inside := by
  cases stop <;> simp [ObjectStop.faultSkipped?]

/-- A list that is read as one has no fault of its own when it is closed, or
stopped inside of an element. -/
theorem ListStop.faultWanted?_eq_none_iff {stop : ListStop} :
    stop.faultWanted? = none ↔ stop = .closed ∨ stop = .inside := by
  cases stop <;> simp [ListStop.faultWanted?]

/-- A list that is read as a record has no fault behind the fields when it is
closed, or stopped inside of an element. -/
theorem ListStop.faultAfterFields?_eq_none_iff {stop : ListStop} :
    stop.faultAfterFields? = none ↔ stop = .closed ∨ stop = .inside := by
  cases stop <;> simp [ListStop.faultAfterFields?]

/-- An object is complete exactly when nothing but a closing brace or a value
that was read itself stopped it. -/
theorem closeObject_eq_ok_iff {α : Type} {isFilled : String → Bool}
    {value result : α} {stop : ObjectStop} :
    closeObject isFilled value stop = .ok result ↔
      (stop = .closed ∨ stop = .inside) ∧ value = result := by
  cases stop with
  | noColon key atEnd =>
    simp only [closeObject, bind_eq_ok_iff, reduceCtorEq, or_self, false_and,
      iff_false, not_exists, not_and]
    intro name _ hclosed
    split at hclosed <;> cases hclosed
  | _ => simp [closeObject, unlessFault_eq_ok_iff, ObjectStop.faultWanted?]

/-- Elements are read when each of them is. -/
theorem readElements_eq_ok_iff {α : Type} {read : Node → Except Refusal α}
    {place : Nat} {nodes : List Node} {values : List α} :
    readElements read place nodes = .ok values ↔
      List.Forall₂ (fun node value => read node = .ok value) nodes values := by
  induction nodes generalizing place values with
  | nil => simp [readElements, eq_comm]
  | cons node nodes ih =>
    simp only [readElements, bind_eq_ok_iff, within_eq_ok_iff, ih, pure,
      Except.pure, Except.ok.injEq, List.forall₂_cons_left_iff]
    constructor
    · rintro ⟨value, hvalue, values, hvalues, rfl⟩
      exact ⟨value, values, hvalue, hvalues, rfl⟩
    · rintro ⟨value, values, hvalue, hvalues, rfl⟩
      exact ⟨value, hvalue, values, hvalues, rfl⟩

/-- Entries are read when each key is decoded and each value is read. -/
theorem readEntries_eq_ok_iff {α : Type} {read : Node → Except Refusal α}
    {members : List (StringText × Node)} {entries : List (String × α)} :
    readEntries read members = .ok entries ↔
      List.Forall₂ (fun member entry => member.1.decode = .ok entry.1
        ∧ read member.2 = .ok entry.2) members entries := by
  induction members generalizing entries with
  | nil => simp [readEntries, eq_comm]
  | cons member members ih =>
    obtain ⟨key, node⟩ := member
    simp only [readEntries, bind_eq_ok_iff, within_eq_ok_iff, readKey_eq_ok_iff,
      ih, pure, Except.pure, Except.ok.injEq, List.forall₂_cons_left_iff]
    constructor
    · rintro ⟨name, hname, value, hvalue, entries, hentries, rfl⟩
      exact ⟨(name, value), entries, ⟨hname, hvalue⟩, hentries, rfl⟩
    · rintro ⟨⟨name, value⟩, entries, ⟨hname, hvalue⟩, hentries, rfl⟩
      exact ⟨name, hname, value, hvalue, entries, hentries, rfl⟩

/-- Members are read when the first one is, and then the others. -/
theorem readMembers_cons_eq_ok_iff {σ : Type}
    {read : String → Node → σ → Except Refusal σ} {key : StringText}
    {node : Node} {members : List (StringText × Node)} {slots last : σ} :
    readMembers read ((key, node) :: members) slots = .ok last ↔
      ∃ name, key.decode = .ok name ∧ ∃ next, read name node slots = .ok next
        ∧ readMembers read members next = .ok last := by
  simp only [readMembers, bind_eq_ok_iff, readKey_eq_ok_iff]

/-! ## Trees and their values -/

/-- A text is read from a string that is decoded to it. -/
theorem read_text_eq_ok_iff {absent value : String} {node : Node} :
    (Schema.text absent).read node = .ok value ↔ ∃ string, node = .string string
      ∧ string.decode = .ok value := by
  change readText _ node = .ok value ↔ _
  cases node with
  | string s =>
    simp only [readText, Node.string.injEq, exists_eq_left']
    cases s.decode <;> simp
  | _ => simp [readText]

/-- A flag is read from the word for it. -/
theorem read_flag_eq_ok_iff {value : Bool} {node : Node} :
    Schema.flag.read node = .ok value ↔
      node = .word (.bool value) .complete := by
  change readFlag _ node = .ok value ↔ _
  unfold readFlag
  split
  · simp
  · next hother =>
    simp only [reduceCtorEq, false_iff]
    exact hother value

/-- A list is read from a list without a fault of its own whose elements are
read. -/
theorem read_list_eq_ok_iff {element : Schema} {values : List element.Value}
    {node : Node} :
    (Schema.list element).read node = .ok values ↔
      ∃ elements stop, node = .list elements stop
        ∧ (stop = .closed ∨ stop = .inside)
        ∧ List.Forall₂ (fun node value => element.read node = .ok value)
          elements values := by
  cases node with
  | list elements stop =>
    change (readElements element.read 0 elements
      >>= unlessFault stop.faultWanted? []) = .ok values ↔ _
    simp only [bind_eq_ok_iff, unlessFault_eq_ok_iff, readElements_eq_ok_iff,
      ListStop.faultWanted?_eq_none_iff]
    constructor
    · rintro ⟨_, hvalues, hstop, rfl⟩
      exact ⟨elements, stop, rfl, hstop, hvalues⟩
    · rintro ⟨_, _, heq, hstop, hvalues⟩
      obtain ⟨rfl, rfl⟩ := Node.list.inj heq
      exact ⟨values, hvalues, hstop, rfl⟩
  | _ => exact iff_of_false (fun hread => nomatch hread) (by simp)

/-- A table is read from an object without a fault of its own whose members are
read, a repeated key counting with its last value. -/
theorem read_table_eq_ok_iff {entry : Schema} {catalog : Catalog entry.Value}
    {node : Node} :
    (Schema.table entry).read node = .ok catalog ↔
      ∃ members stop entries, node = .object members stop
        ∧ (stop = .closed ∨ stop = .inside)
        ∧ List.Forall₂ (fun member named => member.1.decode = .ok named.1
          ∧ entry.read member.2 = .ok named.2) members entries
        ∧ Catalog.ofList entries = catalog := by
  cases node with
  | object members stop =>
    change (readEntries entry.read members >>= fun entries =>
      closeObject (fun _ => false) (Catalog.ofList entries) stop)
        = .ok catalog ↔ _
    simp only [bind_eq_ok_iff, closeObject_eq_ok_iff, readEntries_eq_ok_iff]
    constructor
    · rintro ⟨entries, hentries, hstop, hcatalog⟩
      exact ⟨members, stop, entries, rfl, hstop, hentries, hcatalog⟩
    · rintro ⟨_, _, entries, heq, hstop, hentries, hcatalog⟩
      obtain ⟨rfl, rfl⟩ := Node.object.inj heq
      exact ⟨entries, hentries, hstop, hcatalog⟩
  | _ => exact iff_of_false (fun hread => nomatch hread) (by simp)

/-- An optional value is read like the value, except from `null`. -/
theorem read_optional_of_ne {inner : Schema} {node : Node}
    (hne : node ≠ .word .null .complete) :
    (Schema.optional inner).read node
      = ((inner.read node).map some : Except Refusal (Option inner.Value)) := by
  cases node with
  | word w ending =>
    cases w with
    | null =>
      cases ending with
      | complete => exact absurd rfl hne
      | _ => rfl
    | bool => rfl
  | _ => rfl

/-- An optional value is read from the word for nothing, or from what the value
itself is read from. -/
theorem read_optional_eq_ok_iff {inner : Schema} {value? : Option inner.Value}
    {node : Node} :
    (Schema.optional inner).read node = .ok value? ↔
      (node = .word .null .complete ∧ value? = none)
      ∨ (node ≠ .word .null .complete ∧ ∃ value, inner.read node = .ok value
        ∧ value? = some value) := by
  by_cases hnull : node = .word .null .complete
  · subst hnull
    change (.ok none : Except Refusal (Option inner.Value)) = .ok value? ↔ _
    simp [eq_comm]
  · constructor
    · intro hread
      rw [read_optional_of_ne hnull] at hread
      refine .inr ⟨hnull, ?_⟩
      cases hinner : inner.read node with
      | error refusal => rw [hinner] at hread; cases hread
      | ok value =>
        rw [hinner] at hread; exact ⟨value, rfl, (Except.ok.inj hread).symm⟩
    · rintro (⟨heq, -⟩ | ⟨-, value, hvalue, rfl⟩)
      · exact absurd heq hnull
      · rw [read_optional_of_ne hnull, hvalue]
        rfl

/-- A record is read from a list or an object only. -/
theorem exists_of_read_record_eq_ok {name : String} {fields : Fields}
    {values : fields.Values} {node : Node}
    (hread : (Schema.record name fields).read node = .ok values) :
    (∃ elements stop, node = .list elements stop)
      ∨ ∃ members stop, node = .object members stop := by
  cases node with
  | list elements stop => exact .inl ⟨_, _, rfl⟩
  | object members stop => exact .inr ⟨_, _, rfl⟩
  | _ => cases hread

/-! ## Fields and what they are read from -/

/-- Whether a key is the given name. -/
def StringText.isName (key : StringText) (name : String) : Bool :=
  match key.decode with
  | .ok text => text == name
  | .error _ => false

/-- A key is the given name when it is decoded to it. -/
theorem StringText.isName_iff {key : StringText} {name : String} :
    key.isName name = true ↔ key.decode = .ok name := by
  unfold StringText.isName
  cases key.decode <;> simp

/-- A key that is decoded to another text is not the given name. -/
theorem StringText.not_isName_of_decode {key : StringText} {name text : String}
    (hdecode : key.decode = .ok text) (hne : name ≠ text) :
    ¬key.isName name = true := fun hname =>
  hne (Except.ok.inj ((StringText.isName_iff.1 hname).symm.trans hdecode))

/-- Whether a field that is given by some trees has a value: one tree is read,
without a tree the field has its default, and no field is given twice. -/
def Schema.ReadsGiven (schema : Schema) (isRequired : Bool) :
    List Node → schema.Value → Prop
  | [], value => isRequired = false ∧ schema.absent = value
  | [node], value => schema.read node = .ok value
  | _ :: _ :: _, _ => False

/-- Whether the elements of a list give the fields of a record these values, the
first element the first field. -/
def Fields.ReadsElements : (fields : Fields) → List Node → fields.Values → Prop
  | .none, elements, _ => elements = []
  | .field _ isRequired schema rest, elements, (value, values) =>
    schema.ReadsGiven isRequired (elements.take 1) value
      ∧ rest.ReadsElements elements.tail values

/-- The values of the members of a name. -/
def valuesNamed (name : String)
    (members : List (StringText × Node)) : List Node :=
  (members.filter fun member => member.1.isName name).map Prod.snd

/-- The members of other names, and those whose name cannot be decoded. -/
def membersBeside (name : String) (members : List (StringText × Node)) :
    List (StringText × Node) :=
  members.filter fun member => !member.1.isName name

/-- Whether the members of an object give the fields of a record these values:
each field takes the members of its name, and what no field takes is skipped. -/
def Fields.ReadsMembers : (fields : Fields) → List (StringText × Node) →
    fields.Values → Prop
  | .none, members, _ =>
    ∀ member ∈ members, (∃ name, member.1.decode = .ok name)
      ∧ member.2.faultSkipped? = Option.none
  | .field name isRequired schema rest, members, (value, values) =>
    schema.ReadsGiven isRequired (valuesNamed name members) value
      ∧ rest.ReadsMembers (membersBeside name members) values

section

variable {name : String} {key : StringText} {node : Node}
  {members : List (StringText × Node)}

/-- A member of the name adds its value. -/
theorem valuesNamed_cons_of_isName (hname : key.isName name = true) :
    valuesNamed name ((key, node) :: members)
      = node :: valuesNamed name members := by
  simp [valuesNamed, hname]

/-- A member of another name adds no value. -/
theorem valuesNamed_cons_of_not (hname : ¬key.isName name = true) :
    valuesNamed name ((key, node) :: members) = valuesNamed name members := by
  simp [valuesNamed, hname]

/-- A member of the name is not beside it. -/
theorem membersBeside_cons_of_isName (hname : key.isName name = true) :
    membersBeside name ((key, node) :: members)
      = membersBeside name members := by
  simp [membersBeside, hname]

/-- A member of another name is beside it. -/
theorem membersBeside_cons_of_not (hname : ¬key.isName name = true) :
    membersBeside name ((key, node) :: members)
      = (key, node) :: membersBeside name members := by
  simp [membersBeside, hname]

/-- A member of the name has its value among the values. -/
theorem mem_valuesNamed_of_isName {member : StringText × Node}
    (hmem : member ∈ members) (hname : member.1.isName name = true) :
    member.2 ∈ valuesNamed name members :=
  List.mem_map_of_mem (List.mem_filter.2 ⟨hmem, hname⟩)

/-- The members beside a name are those that are not of the name. -/
theorem mem_membersBeside_iff {member : StringText × Node} :
    member ∈ membersBeside name members ↔ member ∈ members
      ∧ ¬member.1.isName name = true := by
  simp [membersBeside]

end

/-! ## Records as lists -/

/-- Fields that no element gives have their defaults. -/
theorem Fields.readsElements_nil_iff :
    {fields : Fields} → {values : fields.Values} →
      (fields.ReadsElements [] values ↔ fields.hasRequired = false
        ∧ fields.absent = values)
  | .none, _ => iff_of_true rfl ⟨rfl, rfl⟩
  | .field name isRequired schema rest, (value, values) => by
    change (isRequired = false ∧ schema.absent = value)
      ∧ rest.ReadsElements [] values ↔ (isRequired || rest.hasRequired) = false
        ∧ (schema.absent, rest.absent) = (value, values)
    rw [Fields.readsElements_nil_iff, Bool.or_eq_false_iff, Prod.mk.injEq,
      and_and_and_comm]

/-- Where nothing is left of a list, the fields that are left have their
defaults. -/
theorem readAbsent_eq_ok_iff {name : String} {total place : Nat}
    {fields : Fields} {stop : ListStop} {values : fields.Values} :
    readAbsent name total place fields stop = .ok values ↔
      (stop = .closed ∨ stop = .inside) ∧ fields.ReadsElements [] values := by
  rw [Fields.readsElements_nil_iff]
  cases stop <;> simp [readAbsent, ListStop.faultWanted?] <;>
    cases fields.hasRequired <;> simp

/-- A record is read from a list when its elements give the fields their values,
the first one the first field. -/
theorem readPositions_eq_ok_iff {name : String} {total : Nat} :
    {fields : Fields} → {place : Nat} → {elements : List Node} →
      {stop : ListStop} → {values : fields.Values} →
      (fields.readPositions name total place elements stop = .ok values ↔
        (stop = .closed ∨ stop = .inside)
        ∧ fields.ReadsElements elements values)
  | .none, _, [], stop, _ => by
    change (unlessFault stop.faultAfterFields? [] () : Except Refusal Unit)
      = .ok () ↔ _
    rw [unlessFault_eq_ok_iff, ListStop.faultAfterFields?_eq_none_iff]
    exact and_congr_right fun _ => iff_of_true rfl rfl
  | .none, _, element :: elements, stop, _ =>
    iff_of_false (fun hread => nomatch hread) fun hread =>
      List.cons_ne_nil _ _ hread.2
  | .field .., _, [], _, _ => readAbsent_eq_ok_iff
  | .field fieldName isRequired schema rest, place, element :: elements, stop,
      (value, values) => by
    change (within (.index place) (schema.read element) >>= fun value =>
      rest.readPositions name total (place + 1) elements stop >>= fun values =>
        (.ok (value, values) : Except Refusal (schema.Value × rest.Values)))
          = .ok (value, values) ↔
      _ ∧ schema.read element = .ok value ∧ rest.ReadsElements elements values
    simp only [bind_eq_ok_iff, within_eq_ok_iff, readPositions_eq_ok_iff,
      Except.ok.injEq, Prod.mk.injEq]
    constructor
    · rintro ⟨_, hvalue, _, ⟨hstop, hvalues⟩, rfl, rfl⟩
      exact ⟨hstop, hvalue, hvalues⟩
    · rintro ⟨hstop, hvalue, hvalues⟩
      exact ⟨value, hvalue, values, ⟨hstop, hvalues⟩, rfl, rfl⟩

/-- **What a record reads from a list.** -/
theorem read_record_list_eq_ok_iff {name : String} {fields : Fields}
    {values : fields.Values} {elements : List Node} {stop : ListStop} :
    (Schema.record name fields).read (.list elements stop) = .ok values ↔
      (stop = .closed ∨ stop = .inside)
      ∧ fields.ReadsElements elements values :=
  readPositions_eq_ok_iff

/-! ## Records as objects -/

/-- A member goes to the first field if it bears its name, and to the others if
not; a field is given only once. -/
theorem readMember_field {name key : String} {isRequired : Bool}
    {schema : Schema} {rest : Fields} {node : Node} {slot : Option schema.Value}
    {slots : rest.Slots} :
    (Fields.field name isRequired schema rest).readMember key node (slot, slots)
      = (if name = key then
          if slot.isSome then .error (.here (.duplicateField name))
          else within (.key name) (schema.read node) >>= fun value =>
            .ok (some value, slots)
        else rest.readMember key node slots >>= fun slots => .ok (slot, slots) :
          Except Refusal (Option schema.Value × rest.Slots)) :=
  rfl

/-- A field is read from the first member of its name, and there may be no
second one. -/
theorem readMember_self_eq_ok_iff {key : String} {isRequired : Bool}
    {schema : Schema} {rest : Fields} {node : Node}
    {slot next : Option schema.Value} {slots others : rest.Slots} :
    (Fields.field key isRequired schema rest).readMember key node (slot, slots)
      = .ok (next, others) ↔
        (slot = none ∧ ∃ value, schema.read node = .ok value
          ∧ next = some value) ∧ others = slots := by
  constructor
  · intro hread
    rw [readMember_field, if_pos rfl] at hread
    cases slot with
    | some value => cases hread
    | none =>
      obtain ⟨value, hvalue, hread⟩ := bind_eq_ok_iff.1 hread
      obtain ⟨rfl, rfl⟩ := Prod.mk.inj (Except.ok.inj hread)
      exact ⟨⟨rfl, value, within_eq_ok_iff.1 hvalue, rfl⟩, rfl⟩
  · rintro ⟨⟨rfl, value, hvalue, rfl⟩, rfl⟩
    rw [readMember_field, if_pos rfl, hvalue]
    rfl

/-- A member of another name leaves the first slot as it is. -/
theorem readMember_of_ne_eq_ok_iff {name key : String} (hne : name ≠ key)
    {isRequired : Bool} {schema : Schema} {rest : Fields} {node : Node}
    {slot next : Option schema.Value} {slots others : rest.Slots} :
    (Fields.field name isRequired schema rest).readMember key node (slot, slots)
      = .ok (next, others) ↔
        next = slot ∧ rest.readMember key node slots = .ok others := by
  constructor
  · intro hread
    rw [readMember_field, if_neg hne] at hread
    obtain ⟨_, hothers, hread⟩ := bind_eq_ok_iff.1 hread
    obtain ⟨rfl, rfl⟩ := Prod.mk.inj (Except.ok.inj hread)
    exact ⟨rfl, hothers⟩
  · rintro ⟨rfl, hothers⟩
    rw [readMember_field, if_neg hne, hothers]
    rfl

/-- Without fields, every member is skipped. -/
theorem readMembers_none_eq_ok_iff {members : List (StringText × Node)}
    {slots next : Fields.none.Slots} :
    readMembers Fields.none.readMember members slots = .ok next ↔
      ∀ member ∈ members, (∃ name, member.1.decode = .ok name)
      ∧ member.2.faultSkipped? = none := by
  induction members with
  | nil => exact iff_of_true rfl (by simp)
  | cons member members ih =>
    obtain ⟨key, node⟩ := member
    rw [readMembers_cons_eq_ok_iff, List.forall_mem_cons, ← ih]
    constructor
    · rintro ⟨name, hname, _, hread, hmembers⟩
      exact ⟨⟨⟨name, hname⟩, (unlessFault_eq_ok_iff.1 hread).1⟩, hmembers⟩
    · rintro ⟨⟨⟨name, hname⟩, hskipped⟩, hmembers⟩
      exact ⟨name, hname, slots,
        unlessFault_eq_ok_iff.2 ⟨hskipped, rfl⟩, hmembers⟩

/-- The slot of a field after the members of its name. -/
def Schema.SlotAfter (schema : Schema) (slot : Option schema.Value) :
    List Node → Option schema.Value → Prop
  | [], next => next = slot
  | [node], next => slot = none ∧ ∃ value, schema.read node = .ok value
      ∧ next = some value
  | _ :: _ :: _, _ => False

/-- A member of the name fills a slot that was empty, and no other one may
follow. -/
theorem slotAfter_cons_iff {schema : Schema} {slot next : Option schema.Value}
    {node : Node} {given : List Node} :
    schema.SlotAfter slot (node :: given) next ↔
      slot = none ∧ ∃ value, schema.read node = .ok value
      ∧ schema.SlotAfter (some value) given next := by
  match given with
  | [] => rfl
  | [_] | _ :: _ :: _ => simp [Schema.SlotAfter]

/-- A field has a value in the end exactly when what it is given by is read. -/
theorem exists_slotAfter_iff {schema : Schema} {isRequired : Bool}
    {given : List Node} {value : schema.Value} :
    (∃ slot, schema.SlotAfter none given slot
        ∧ (slot = some value ∨ slot = none ∧ isRequired = false
          ∧ schema.absent = value)) ↔
      schema.ReadsGiven isRequired given value := by
  match given with
  | [] => simp [Schema.SlotAfter, Schema.ReadsGiven]
  | [_] => simp [Schema.SlotAfter, Schema.ReadsGiven]
  | _ :: _ :: _ => simp [Schema.SlotAfter, Schema.ReadsGiven]

/-- The first field takes the members of its name, and the other fields are read
from the other members. -/
theorem readMembers_field_eq_ok_iff {name : String} {isRequired : Bool}
    {schema : Schema} {rest : Fields} {members : List (StringText × Node)}
    {slot next : Option schema.Value} {slots others : rest.Slots} :
    readMembers (Fields.field name isRequired schema rest).readMember members
      (slot, slots) = .ok (next, others) ↔
      schema.SlotAfter slot (valuesNamed name members) next
        ∧ readMembers rest.readMember (membersBeside name members) slots
          = .ok others := by
  induction members generalizing slot slots with
  | nil =>
    change (.ok (slot, slots) :
      Except Refusal (Option schema.Value × rest.Slots)) = .ok (next, others) ↔
      next = slot ∧ (.ok slots : Except Refusal rest.Slots) = .ok others
    simp [eq_comm]
  | cons member members ih =>
    obtain ⟨key, node⟩ := member
    refine readMembers_cons_eq_ok_iff.trans ?_
    by_cases hname : key.isName name = true
    · rw [valuesNamed_cons_of_isName hname, membersBeside_cons_of_isName hname,
        slotAfter_cons_iff]
      have hdecode := StringText.isName_iff.1 hname
      constructor
      · rintro ⟨text, htext, ⟨after, slots'⟩, hread, hmembers⟩
        obtain rfl : name = text := Except.ok.inj (hdecode.symm.trans htext)
        obtain ⟨⟨hslot, value, hvalue, rfl⟩, rfl⟩ :=
          readMember_self_eq_ok_iff.1 hread
        obtain ⟨hafter, hothers⟩ := ih.1 hmembers
        exact ⟨⟨hslot, value, hvalue, hafter⟩, hothers⟩
      · rintro ⟨⟨hslot, value, hvalue, hafter⟩, hothers⟩
        exact ⟨name, hdecode, (some value, slots),
          readMember_self_eq_ok_iff.2 ⟨⟨hslot, value, hvalue, rfl⟩, rfl⟩,
          ih.2 ⟨hafter, hothers⟩⟩
    · rw [valuesNamed_cons_of_not hname, membersBeside_cons_of_not hname,
        readMembers_cons_eq_ok_iff]
      constructor
      · rintro ⟨text, htext, ⟨after, slots'⟩, hread, hmembers⟩
        have hne : name ≠ text :=
          fun heq => hname (StringText.isName_iff.2 (heq ▸ htext))
        obtain ⟨rfl, hskipped⟩ := (readMember_of_ne_eq_ok_iff hne).1 hread
        obtain ⟨hafter, hothers⟩ := ih.1 hmembers
        exact ⟨hafter, text, htext, slots', hskipped, hothers⟩
      · rintro ⟨hafter, text, htext, slots', hskipped, hothers⟩
        have hne : name ≠ text :=
          fun heq => hname (StringText.isName_iff.2 (heq ▸ htext))
        exact ⟨text, htext, (slot, slots'), (readMember_of_ne_eq_ok_iff hne).2
          ⟨rfl, hskipped⟩, ih.2 ⟨hafter, hothers⟩⟩

/-- A record is complete when each field is given, or has its default where it
need not be. -/
theorem complete_field_eq_ok_iff {name : String} {isRequired : Bool}
    {schema : Schema} {rest : Fields} {slot : Option schema.Value}
    {slots : rest.Slots} {value : schema.Value} {values : rest.Values} :
    (Fields.field name isRequired schema rest).complete (slot, slots)
      = .ok (value, values) ↔ (slot = some value ∨ slot = none
        ∧ isRequired = false ∧ schema.absent = value)
        ∧ rest.complete slots = .ok values := by
  cases slot with
  | some given =>
    change (rest.complete slots).map (fun values => (given, values))
      = .ok (value, values) ↔ _
    simp [map_eq_ok_iff, and_comm]
  | none =>
    cases isRequired with
    | true => exact ⟨nofun, by simp⟩
    | false =>
      change (rest.complete slots).map (fun values => (schema.absent, values))
        = .ok (value, values) ↔ _
      simp [map_eq_ok_iff, and_comm]

/-- The fields of a record are complete after the members of an object exactly
when the members give them values. -/
theorem exists_readMembers_complete_iff :
    {fields : Fields} → {members : List (StringText × Node)} →
      {values : fields.Values} →
      ((∃ slots, readMembers fields.readMember members fields.empty = .ok slots
        ∧ fields.complete slots = .ok values) ↔
          fields.ReadsMembers members values)
  | .none, members, _ => by
    constructor
    · rintro ⟨slots, hslots, -⟩
      exact readMembers_none_eq_ok_iff.1 hslots
    · intro hskipped
      exact ⟨(), readMembers_none_eq_ok_iff.2 hskipped, rfl⟩
  | .field name isRequired schema rest, members, (value, values) => by
    change _ ↔ schema.ReadsGiven isRequired _ value ∧ rest.ReadsMembers _ values
    rw [← exists_slotAfter_iff, ← exists_readMembers_complete_iff]
    constructor
    · rintro ⟨⟨slot, slots⟩, hmembers, hcomplete⟩
      obtain ⟨hafter, hothers⟩ := readMembers_field_eq_ok_iff.1 hmembers
      obtain ⟨hvalue, hvalues⟩ := complete_field_eq_ok_iff.1 hcomplete
      exact ⟨⟨slot, hafter, hvalue⟩, slots, hothers, hvalues⟩
    · rintro ⟨⟨slot, hafter, hvalue⟩, slots, hothers, hvalues⟩
      exact ⟨(slot, slots), readMembers_field_eq_ok_iff.2 ⟨hafter, hothers⟩,
        complete_field_eq_ok_iff.2 ⟨hvalue, hvalues⟩⟩

/-- An object is read member by member, closed and completed. -/
theorem read_record_object {name : String} {fields : Fields}
    {members : List (StringText × Node)} {stop : ObjectStop} :
    ((Schema.record name fields).read (.object members stop) :
      Except Refusal fields.Values)
        = readMembers fields.readMember members fields.empty >>= fun slots =>
          closeObject (fields.isFilled slots) slots stop >>= fun slots =>
            (fields.complete slots).mapError fun missing =>
                .here (.missingField missing) := by
  refine bind_congr fun slots => bind_congr fun slots => ?_
  cases fields.complete slots <;> rfl

/-- **What a record reads from an object.** -/
theorem read_record_object_eq_ok_iff {name : String} {fields : Fields}
    {values : fields.Values} {members : List (StringText × Node)}
    {stop : ObjectStop} :
    (Schema.record name fields).read (.object members stop) = .ok values ↔
      (stop = .closed ∨ stop = .inside)
      ∧ fields.ReadsMembers members values := by
  rw [← exists_readMembers_complete_iff]
  refine (Eq.congr_left read_record_object).trans (bind_eq_ok_iff.trans ?_)
  simp only [bind_eq_ok_iff, closeObject_eq_ok_iff, mapError_eq_ok_iff]
  constructor
  · rintro ⟨slots, hslots, _, ⟨hstop, rfl⟩, hvalues⟩
    exact ⟨hstop, slots, hslots, hvalues⟩
  · rintro ⟨hstop, slots, hslots, hvalues⟩
    exact ⟨slots, hslots, slots, ⟨hstop, rfl⟩, hvalues⟩

/-! ## Whole trees are looked at -/

mutual

/-- A tree that is whole is skipped without a fault. -/
theorem Node.faultSkipped?_of_isWhole : {node : Node} → node.IsWhole →
    node.faultSkipped? = none
  | .word _ _, hwhole => Ending.wordFault?_eq_none_iff.2 hwhole
  | .number _, hwhole => NumberText.faultSkipped?_eq_none_iff.2 hwhole
  | .string _, hwhole => StringEnd.fault?_eq_none_iff.2 hwhole
  | .list _ _, hwhole => by
    rw [Node.faultSkipped?, Node.elementsFault?_of_allWhole hwhole.1, hwhole.2]
    rfl
  | .object _ _, hwhole => by
    rw [Node.faultSkipped?,
      Node.membersFault?_of_membersWhole hwhole.1, hwhole.2]
    rfl

/-- Trees that are whole are skipped without a fault. -/
theorem Node.elementsFault?_of_allWhole : {nodes : List Node} → AllWhole nodes →
    elementsFault? nodes = none
  | [], _ => rfl
  | node :: nodes, hwhole => by
    rw [Node.elementsFault?, Node.faultSkipped?_of_isWhole hwhole.1,
      Node.elementsFault?_of_allWhole hwhole.2]
    rfl

/-- Members that are whole are skipped without a fault. -/
theorem Node.membersFault?_of_membersWhole :
    {members : List (StringText × Node)} → MembersWhole members →
      membersFault? members = none
  | [], _ => rfl
  | (key, node) :: members, hwhole => by
    have hkey : key.faultSkipped? = none :=
      StringEnd.fault?_eq_none_iff.2 hwhole.1.1
    rw [Node.membersFault?, hkey, Node.faultSkipped?_of_isWhole hwhole.1.2,
      Node.membersFault?_of_membersWhole hwhole.2]
    rfl

end

/-- Elements are skipped without a fault when each of them is. -/
theorem Node.elementsFault?_eq_none_iff {nodes : List Node} :
    elementsFault? nodes = none ↔
      ∀ node ∈ nodes, node.faultSkipped? = none := by
  induction nodes with
  | nil => simp [elementsFault?]
  | cons node nodes ih => simp [elementsFault?, ih]

/-- Members are skipped without a fault when each key and each value is. -/
theorem Node.membersFault?_eq_none_iff {members : List (StringText × Node)} :
    membersFault? members = none ↔
      ∀ member ∈ members, member.1.faultSkipped? = none
      ∧ member.2.faultSkipped? = none := by
  induction members with
  | nil => simp [membersFault?]
  | cons member members ih => simp [membersFault?, ih]

/-- **What is skipped is not broken.** -/
theorem Node.not_isBroken_of_faultSkipped? {node : Node}
    (hskipped : node.faultSkipped? = none) : ¬node.IsBroken := by
  intro hbroken
  induction hbroken with
  | missing | stray => cases hskipped
  | word hending => exact hending (Ending.wordFault?_eq_none_iff.1 hskipped)
  | number hending =>
    exact hending (NumberText.faultSkipped?_eq_none_iff.1 hskipped)
  | string hending => exact hending (StringEnd.fault?_eq_none_iff.1 hskipped)
  | element hmem _ ih =>
    rw [faultSkipped?, Option.or_eq_none_iff,
      elementsFault?_eq_none_iff] at hskipped
    exact ih (hskipped.1 _ hmem)
  | listStop hclosed hinside =>
    rw [faultSkipped?, Option.or_eq_none_iff,
      ListStop.faultSkipped?_eq_none_iff] at hskipped
    exact hskipped.2.elim hclosed hinside
  | member hmem _ ih =>
    rw [faultSkipped?, Option.or_eq_none_iff,
      membersFault?_eq_none_iff] at hskipped
    exact ih (hskipped.1 _ hmem).2
  | key hmem hkey =>
    rw [faultSkipped?, Option.or_eq_none_iff,
      membersFault?_eq_none_iff] at hskipped
    exact hkey (StringEnd.fault?_eq_none_iff.1 (hskipped.1 _ hmem).1)
  | objectStop hclosed hinside =>
    rw [faultSkipped?, Option.or_eq_none_iff,
      ObjectStop.faultSkipped?_eq_none_iff] at hskipped
    exact hskipped.2.elim hclosed hinside

/-- Only a closed string is decoded. -/
theorem fault?_of_piecesBytes {ending : StringEnd} {pieces : List Piece}
    {bytes : List UInt8} (hbytes : piecesBytes ending pieces = .ok bytes) :
    ending.fault? = none := by
  fun_induction piecesBytes ending pieces generalizing bytes with
  | case1 hfault => exact hfault
  | case2 | case5 | case6 | case8 | case9 => cases hbytes
  | case3 _ _ ih | case4 _ _ ih | case7 _ _ _ _ _ _ ih | case10 _ _ _ _ ih =>
    obtain ⟨rest, hrest, -⟩ := map_eq_ok_iff.1 hbytes
    exact ih hrest

/-- A string that is decoded is closed. -/
theorem StringText.ending_of_decode {string : StringText} {text : String}
    (hdecode : string.decode = .ok text) :
    string.ending = .closed := by
  unfold StringText.decode at hdecode
  split at hdecode
  · next hbytes =>
      exact StringEnd.fault?_eq_none_iff.1 (fault?_of_piecesBytes hbytes)
  · cases hdecode

/-- A tree that is given for a field that has a value is read. -/
theorem Schema.ReadsGiven.exists_read {schema : Schema} {isRequired : Bool}
    {given : List Node} {value : schema.Value}
    (hgiven : schema.ReadsGiven isRequired given value) {node : Node}
    (hmem : node ∈ given) :
    schema.read node = .ok value := by
  match given, hgiven with
  | [given], hread =>
    obtain rfl := List.mem_singleton.1 hmem
    exact hread

mutual

/-- **What is read is not broken.** -/
theorem Schema.not_isBroken_of_read :
    {schema : Schema} → {node : Node} → {value : schema.Value} →
      schema.read node = .ok value → ¬node.IsBroken
  | .text _, node, _, hread => by
    obtain ⟨string, rfl, hdecode⟩ := read_text_eq_ok_iff.1 hread
    rintro (_ | _ | _ | _ | hending)
    exact hending (StringText.ending_of_decode hdecode)
  | .flag, node, _, hread => by
    obtain rfl := read_flag_eq_ok_iff.1 hread
    rintro (_ | _ | hending)
    exact hending rfl
  | .list element, node, _, hread => by
    obtain ⟨elements, stop, rfl, hstop, hvalues⟩ := read_list_eq_ok_iff.1 hread
    intro hbroken
    cases hbroken with
    | element hmem hnode =>
      obtain ⟨value, -, hvalue⟩ := exists_of_mem_forall₂ hvalues.flip hmem
      exact Schema.not_isBroken_of_read hvalue hnode
    | listStop hclosed hinside => exact hstop.elim hclosed hinside
  | .table entry, node, _, hread => by
    obtain ⟨members, stop, entries, rfl, hstop, hentries, -⟩ :=
      read_table_eq_ok_iff.1 hread
    intro hbroken
    cases hbroken with
    | member hmem hnode =>
      obtain ⟨value, -, -, hvalue⟩ := exists_of_mem_forall₂ hentries.flip hmem
      exact Schema.not_isBroken_of_read hvalue hnode
    | key hmem hkey =>
      obtain ⟨value, -, hdecode, -⟩ := exists_of_mem_forall₂ hentries.flip hmem
      exact hkey (StringText.ending_of_decode hdecode)
    | objectStop hclosed hinside => exact hstop.elim hclosed hinside
  | .optional inner, node, _, hread => by
    rcases read_optional_eq_ok_iff.1 hread with ⟨rfl, -⟩ | ⟨-, value, hvalue, -⟩
    · rintro (_ | _ | hending)
      exact hending rfl
    · exact Schema.not_isBroken_of_read hvalue
  | .record name fields, .list elements stop, _, hread => by
    obtain ⟨hstop, hvalues⟩ := read_record_list_eq_ok_iff.1 hread
    intro hbroken
    cases hbroken with
    | element hmem hnode =>
      exact Fields.not_isBroken_of_readsElements hvalues _ hmem hnode
    | listStop hclosed hinside => exact hstop.elim hclosed hinside
  | .record name fields, .object members stop, _, hread => by
    obtain ⟨hstop, hvalues⟩ := read_record_object_eq_ok_iff.1 hread
    intro hbroken
    cases hbroken with
    | member hmem hnode =>
      exact (Fields.not_isBroken_of_readsMembers hvalues _ hmem).2 hnode
    | key hmem hkey =>
      exact hkey (Fields.not_isBroken_of_readsMembers hvalues _ hmem).1
    | objectStop hclosed hinside => exact hstop.elim hclosed hinside

/-- No element that a record is read from is broken. -/
theorem Fields.not_isBroken_of_readsElements :
    {fields : Fields} → {elements : List Node} → {values : fields.Values} →
      fields.ReadsElements elements values → ∀ element ∈ elements,
      ¬element.IsBroken
  | .none, _, _, hnone, element, hmem => absurd (hnone ▸ hmem) List.not_mem_nil
  | .field _ _ _ _, [], _, _, element, hmem => absurd hmem List.not_mem_nil
  | .field _ _ schema rest, first :: others, (_, _), ⟨hfirst, hothers⟩,
      element, hmem => by
    rcases List.mem_cons.1 hmem with rfl | hmem
    · exact Schema.not_isBroken_of_read (hfirst.exists_read List.mem_cons_self)
    · exact Fields.not_isBroken_of_readsElements hothers element hmem

/-- No member that a record is read from is broken. -/
theorem Fields.not_isBroken_of_readsMembers :
    {fields : Fields} → {members : List (StringText × Node)} →
      {values : fields.Values} → fields.ReadsMembers members values →
      ∀ member ∈ members, member.1.ending = .closed ∧ ¬member.2.IsBroken
  | .none, _, _, hskipped, member, hmem => by
    obtain ⟨⟨name, hdecode⟩, hnode⟩ := hskipped member hmem
    exact ⟨StringText.ending_of_decode hdecode,
      Node.not_isBroken_of_faultSkipped? hnode⟩
  | .field name _ schema rest, members, (_, _), ⟨hgiven, hothers⟩,
      member, hmem => by
    by_cases hname : member.1.isName name = true
    · have hvalue := hgiven.exists_read (mem_valuesNamed_of_isName hmem hname)
      exact ⟨StringText.ending_of_decode (StringText.isName_iff.1 hname),
        Schema.not_isBroken_of_read hvalue⟩
    · exact Fields.not_isBroken_of_readsMembers hothers member
        (mem_membersBeside_iff.2 ⟨hmem, hname⟩)

end

end KotlinBuilders.Json
