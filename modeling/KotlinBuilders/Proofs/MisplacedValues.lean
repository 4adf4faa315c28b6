import KotlinBuilders.Proofs.DumpRoundTrip

/-!
# Values in places that do not accept them

Each place in a document is reached by a path of keys and indices, and the
schema of the whole document says what is wanted there (`Schema.at?`).  When a
value there gives way to one of a type that the place does not accept, reading
the document fails: everything in front of it is read as it was written, and the
value is refused where it stands (`Schema.refusesAt`).  So the refusal has
exactly the path of the place.

The refusal names the value, and two kinds of values have no name: a number that
is out of range, and a string whose escapes do not make a text.  Every other
value is refused as a data fault, while these are refused for what they are
(`Dump.load_misplaced`, `Dump.not_forall_misplaced_data`).
-/

namespace KotlinBuilders

namespace Json

/-! ## Places in a document -/

/-- Whether a tree is that of a value in which what stands at a path gave way to
another tree. -/
inductive Node.ReplacedAt (other : Node) : List Step → Json → Node → Prop
  | here {json : Json} : ReplacedAt other [] json other
  | element {front back : List Json} {json : Json} {path : List Step}
      {after : Node} (hinside : ReplacedAt other path json after) :
      ReplacedAt other (.index front.length :: path)
        (.list (front ++ json :: back))
        (.list (Node.ofElements front ++ after :: Node.ofElements back) .closed)
  | member {front back : List (String × Json)} {name : String} {json : Json}
      {path : List Step} {after : Node}
      (hinside : ReplacedAt other path json after) :
      ReplacedAt other (.key name :: path)
        (.object (front ++ (name, json) :: back))
        (.object
          (Node.ofMembers front ++ (.ofText name, after) :: Node.ofMembers back)
          .closed)

mutual

/-- What is wanted at a path inside a value of a schema. -/
def Schema.at? : Schema → List Step → Option Schema
  | schema, [] => some schema
  | .list element, .index _ :: path => element.at? path
  | .table entry, .key _ :: path => entry.at? path
  | .optional inner, step :: path => inner.at? (step :: path)
  | .record _ fields, .key name :: path => fields.at? name path
  | _, _ :: _ => none

/-- What is wanted at a path inside the field of a name. -/
def Fields.at? : Fields → String → List Step → Option Schema
  | .none, _, _ => none
  | .field name _ schema rest, key, path =>
    if name = key then schema.at? path else rest.at? key path

end

/-- Whether a schema accepts values of a tree's type.  A record may be an object
or a list, and an optional value may be `null`. -/
def Schema.accepts : Schema → Node → Bool
  | .text _, .string _ => true
  | .flag, .word (.bool _) _ => true
  | .list _, .list .. => true
  | .table _, .object .. => true
  | .optional _, .word .null _ => true
  | .optional inner, node => inner.accepts node
  | .record .., .list .. | .record .., .object .. => true
  | _, _ => false

/-! ## How a value is refused -/

/-- A value of another type is refused where it stands. -/
theorem Schema.read_of_not_accepts :
    (schema : Schema) → {node : Node} → schema.accepts node = false →
      schema.read node = .error (.here (node.faultWhere schema.wanted))
  | .text _, node, hother => by cases node <;> first | rfl | cases hother
  | .flag, node, hother => by
    cases node with
    | word w ending => cases w <;> first | rfl | cases hother
    | _ => rfl
  | .list _, node, hother => by cases node <;> first | rfl | cases hother
  | .table _, node, hother => by cases node <;> first | rfl | cases hother
  | .optional inner, node, hother => by
    have hnull : node ≠ .word .null .complete := by
      rintro rfl
      cases hother
    have hinner : inner.accepts node = false := by
      cases node with
      | word w ending => cases w <;> first | exact hother | cases hother
      | _ => exact hother
    rw [read_optional_of_ne hnull, Schema.read_of_not_accepts inner hinner]
    rfl
  | .record _ _, node, hother => by cases node <;> first | rfl | cases hother

/-- Whether a refusal can say what a value is: a number has to be in range, and
a string has to make a text. -/
def Node.isNameable : Node → Bool
  | .number n => n.found?.isSome
  | .string s => s.decode.isOk
  | _ => true

/-- Changing the value of a result keeps its failure. -/
theorem map_eq_error_iff {ε α β : Type} {f : α → β}
    {result : Except ε α} {e : ε} :
    result.map f = .error e ↔ result = .error e := by
  cases result <;> simp [Except.map]

/-- Closed pieces that have no bytes break the grammar. -/
theorem category_of_piecesBytes {pieces : List Piece} {fault : Fault}
    (hfault : piecesBytes .closed pieces = .error fault) :
    fault.category = .grammar := by
  generalize hclosed : StringEnd.closed = ending at hfault
  fun_induction piecesBytes ending pieces generalizing fault with
  | case1 => cases hfault
  | case2 _ hend =>
    subst hclosed
    cases hend
  | case3 _ _ ih | case4 _ _ ih | case7 _ _ _ _ _ _ ih | case10 _ _ _ _ ih =>
    exact ih (map_eq_error_iff.1 hfault)
  | case5 | case8 | case9 =>
    cases hfault
    rfl
  | case6 =>
    subst hclosed
    cases hfault
    rfl

/-- A closed string that makes no text breaks the grammar. -/
theorem StringText.category_of_decode {string : StringText}
    (hclosed : string.ending = .closed) {fault : Fault}
    (hfault : string.decode = .error fault) : fault.category = .grammar := by
  unfold decode at hfault
  rw [hclosed] at hfault
  split at hfault
  · split at hfault
    · cases hfault
    · cases hfault
      rfl
  · next hbytes =>
    cases hfault
    exact category_of_piecesBytes hbytes

/-- **What a misplaced value is refused for**: its type, if it can be named, and
otherwise what is wrong with it. -/
theorem Node.category_faultWhere {node : Node} (hwhole : node.IsWhole)
    (wanted : String) :
    (node.faultWhere wanted).category = if node.isNameable then .data
      else .grammar := by
  cases node with
  | missing | stray => cases hwhole
  | word w ending =>
    obtain rfl : ending = .complete := hwhole
    rfl
  | number n =>
    have hcomplete : n.ending = .complete := hwhole
    rw [faultWhere, NumberText.faultWhere, hcomplete, isNameable]
    cases n.found? <;> rfl
  | string s =>
    rw [faultWhere, isNameable]
    cases hdecode : s.decode with
    | ok text => rfl
    | error fault => exact StringText.category_of_decode hwhole hdecode
  | list | object => rfl

/-! ## Reading up to a fault -/

/-- A list whose elements are read up to one that is refused. -/
theorem readElements_of_error {α : Type} {read : Node → Except Refusal α}
    {front back : List Node} {node : Node} {refusal : Refusal}
    (hfront : ∀ element ∈ front, ∃ value, read element = .ok value)
    (hnode : read node = .error refusal) (place : Nat) :
    readElements read place (front ++ node :: back)
      = .error (refusal.under (.index (place + front.length))) := by
  induction front generalizing place with
  | nil =>
    rw [List.nil_append, readElements, hnode]
    rfl
  | cons element front ih =>
    obtain ⟨⟨value, hvalue⟩, hfront⟩ := List.forall_mem_cons.1 hfront
    rw [List.cons_append, readElements, hvalue, List.length_cons,
      Nat.add_comm front.length, ← Nat.add_assoc]
    exact congrArg (within (.index place) (.ok value) >>= fun _ => · >>= _)
      (ih hfront (place + 1))

/-- A table whose entries are read up to one that is refused. -/
theorem readEntries_of_error {α : Type} {read : Node → Except Refusal α}
    {front back : List (StringText × Node)} {key : StringText} {name : String}
    {node : Node} {refusal : Refusal}
    (hfront : ∀ member ∈ front, ∃ entry : String × α,
      member.1.decode = .ok entry.1 ∧ read member.2 = .ok entry.2)
    (hkey : key.decode = .ok name) (hnode : read node = .error refusal) :
    readEntries read (front ++ (key, node) :: back)
      = .error (refusal.under (.key name)) := by
  induction front with
  | nil =>
    rw [List.nil_append, readEntries, readKey_eq_ok_iff.2 hkey, hnode]
    rfl
  | cons member front ih =>
    obtain ⟨⟨entry, hname, hvalue⟩, hfront⟩ := List.forall_mem_cons.1 hfront
    rw [List.cons_append, readEntries, readKey_eq_ok_iff.2 hname,
      hvalue, ih hfront]
    rfl

/-- Members are read one after the other, each key in front of its value. -/
theorem readMembers_cons {σ : Type}
    {read : String → Node → σ → Except Refusal σ} {key : StringText}
    {node : Node} {members : List (StringText × Node)} {slots : σ} :
    readMembers read ((key, node) :: members) slots
      = readKey key >>= fun name => read name node slots
        >>= fun next => readMembers read members next :=
  rfl

/-- Members of other names are left for the fields after the first. -/
theorem readMembers_field_of_others {name : String} {isRequired : Bool}
    {schema : Schema} {rest : Fields} {members : List (StringText × Node)}
    (hothers : ∀ member ∈ members, member.1.decode ≠ .ok name)
    (slot : Option schema.Value) (slots : rest.Slots) :
    readMembers (Fields.field name isRequired schema rest).readMember
      members (slot, slots)
        = (readMembers rest.readMember members slots
          >>= fun slots => .ok (slot, slots) :
            Except Refusal (Option schema.Value × rest.Slots)) := by
  induction members generalizing slots with
  | nil => rfl
  | cons member members ih =>
    obtain ⟨key, node⟩ := member
    obtain ⟨hother, hothers⟩ := List.forall_mem_cons.1 hothers
    refine readMembers_cons.trans ?_
    rw [readMembers_cons]
    cases hkey : readKey key with
    | error refusal => rfl
    | ok text =>
      have hne : name ≠ text :=
        fun heq => hother (heq ▸ readKey_eq_ok_iff.1 hkey)
      change (Fields.field name isRequired schema rest).readMember text node
        (slot, slots) >>= _
          = rest.readMember text node slots >>= _ >>= _
      rw [readMember_field, if_neg hne]
      cases rest.readMember text node slots with
      | error refusal => rfl
      | ok next => exact ih hothers next

section

variable {name : String} {isRequired : Bool} {schema : Schema} {rest : Fields}
  {node : Node} {members : List (StringText × Node)} {refusal : Refusal}

/-- A field that is refused. -/
theorem readMembers_self_of_error (hnode : schema.read node = .error refusal) :
    readMembers (Fields.field name isRequired schema rest).readMember
      ((.ofText name, node) :: members)
        (Fields.field name isRequired schema rest).empty
        = .error (refusal.under (.key name)) := by
  refine readMembers_cons.trans ?_
  rw [readKey_eq_ok_iff.2 (StringText.decode_ofText name)]
  change (Fields.field name isRequired schema rest).readMember name node (none,
    rest.empty) >>= _ = _
  rw [readMember_field, if_pos rfl, hnode]
  rfl

/-- A field that is read before another one is refused. -/
theorem readMembers_others_of_error {value : schema.Value}
    (hnode : schema.read node = .ok value)
    (hothers : ∀ member ∈ members, member.1.decode ≠ .ok name)
    (hmembers : readMembers rest.readMember members rest.empty
      = .error refusal) :
    readMembers (Fields.field name isRequired schema rest).readMember
      ((.ofText name, node) :: members)
        (Fields.field name isRequired schema rest).empty
        = .error refusal := by
  refine readMembers_cons.trans ?_
  rw [readKey_eq_ok_iff.2 (StringText.decode_ofText name)]
  change (Fields.field name isRequired schema rest).readMember name node (none,
    rest.empty) >>= _ = _
  rw [readMember_field, if_pos rfl, hnode]
  refine (readMembers_field_of_others hothers (some value) rest.empty).trans ?_
  rw [hmembers]
  rfl

end

/-! ## Where a misplaced value is refused -/

/-- What is replaced inside of is a list or an object. -/
theorem Node.ReplacedAt.ne_null {other : Node} {step : Step} {path : List Step}
    {json : Json} {after : Node}
    (hreplaced : ReplacedAt other (step :: path) json after) :
    after ≠ .word .null .complete := by
  cases hreplaced <;> exact nofun

/-- There is an element for each that is written. -/
theorem Node.length_ofElements (elements : List Json) :
    (Node.ofElements elements).length = elements.length := by
  rw [Node.ofElements_eq_map, List.length_map]

/-- A name that is not among written members is the key of none of them. -/
theorem decode_ne_of_not_mem_names {members : List (String × Json)}
    {name : String} (hnew : name ∉ members.map Prod.fst) :
    ∀ member ∈ Node.ofMembers members, member.1.decode ≠ .ok name := by
  rw [Node.ofMembers_eq_map]
  refine List.forall_mem_map.2 fun member hmem hname => hnew ?_
  rw [StringText.decode_ofText, Except.ok.injEq] at hname
  exact hname ▸ List.mem_map_of_mem hmem

/-- A name that no field has is not among the keys of a written record, also
after a replacement. -/
theorem names_of_toMembers {fields : Fields} {values : fields.Values}
    {front back : List (String × Json)} {name other : String} {json : Json}
    {after : Node}
    (hmembers : fields.toMembers values = front ++ (name, json) :: back)
    (hnew : other ∉ fields.names) :
    other ≠ name ∧ ∀ member ∈ Node.ofMembers front ++ (.ofText name,
      after) :: Node.ofMembers back, member.1.decode ≠ .ok other := by
  rw [← map_fst_toMembers fields values, hmembers, List.map_append,
    List.map_cons, List.mem_append, List.mem_cons, not_or, not_or] at hnew
  obtain ⟨hfront, hne, hback⟩ := hnew
  refine ⟨hne, List.forall_mem_append.2 ⟨decode_ne_of_not_mem_names hfront,
    List.forall_mem_cons.2 ⟨?_, ?_⟩⟩⟩
  · rw [StringText.decode_ofText, ne_eq, Except.ok.injEq]
    exact fun heq => hne heq.symm
  · exact decode_ne_of_not_mem_names hback

/-- What is put into a tree that is whole afterwards is whole itself. -/
theorem Node.ReplacedAt.isWhole {other : Node} {path : List Step} {json : Json}
    {after : Node} (hreplaced : ReplacedAt other path json after)
    (hwhole : after.IsWhole) : other.IsWhole := by
  induction hreplaced with
  | here => exact hwhole
  | element _ ih =>
    exact ih (Node.allWhole_iff.1 hwhole.1 _ (List.mem_append_cons_self))
  | member _ ih =>
    exact ih (Node.membersWhole_iff.1 hwhole.1 _ (List.mem_append_cons_self)).2

mutual

/-- **A value that its place does not accept is refused there**, and what is in
front of it is read. -/
theorem Schema.refusesAt {other : Node} :
    (schema : Schema) → schema.isFaithful = true → (value : schema.Value) →
      {path : List Step} → {after : Node} →
      Node.ReplacedAt other path (schema.toJson value) after →
        ∃ wanted, schema.at? path = some wanted
          ∧ (wanted.accepts other = false →
            schema.read after = .error ⟨path, other.faultWhere wanted.wanted⟩)
  | schema, _, _, [], _, .here =>
    ⟨schema, by cases schema <;> rfl, schema.read_of_not_accepts⟩
  | .text _, _, _, _ :: _, _, hreplaced => nomatch hreplaced
  | .flag, _, _, _ :: _, _, hreplaced => nomatch hreplaced
  | .list element, hfaithful, (values : List element.Value), _ :: _, _,
      hreplaced => by
    generalize hjson : (Schema.list element).toJson values = json at hreplaced
    cases hreplaced with
    | member => cases hjson
    | element hinside =>
      obtain ⟨first, others, rfl, rfl, hothers⟩ :=
        List.map_eq_append_iff.1 (Json.list.inj hjson)
      obtain ⟨value, last, rfl, rfl, rfl⟩ := List.map_eq_cons_iff.1 hothers
      obtain ⟨wanted, hat, hrefused⟩ :=
        Schema.refusesAt element hfaithful value hinside
      refine ⟨wanted, hat, fun hother => ?_⟩
      have hfront : ∀ node ∈ Node.ofElements (first.map element.toJson),
          ∃ value, element.read node = .ok value := by
        rw [Node.ofElements_eq_map, List.map_map]
        exact List.forall_mem_map.2 fun value _ =>
          ⟨value, Schema.read_toJson element hfaithful value⟩
      rw [← Node.length_ofElements, ← Nat.zero_add (Node.ofElements _).length]
      exact congrArg (· >>= _)
        (readElements_of_error hfront (hrefused hother) 0)
  | .table entry, hfaithful, (catalog : Catalog entry.Value), _ :: _, _,
      hreplaced => by
    generalize hjson : (Schema.table entry).toJson catalog = json at hreplaced
    cases hreplaced with
    | element => cases hjson
    | member hinside =>
      obtain ⟨first, others, hentries, rfl, hothers⟩ :=
        List.map_eq_append_iff.1 (Json.object.inj hjson)
      obtain ⟨named, last, rfl, hnamed, rfl⟩ := List.map_eq_cons_iff.1 hothers
      obtain ⟨rfl, rfl⟩ := Prod.mk.inj hnamed
      obtain ⟨wanted, hat, hrefused⟩ :=
        Schema.refusesAt entry hfaithful named.2 hinside
      refine ⟨wanted, hat, fun hother => ?_⟩
      have hfront :
          ∀ member ∈ Node.ofMembers
              (first.map fun named => (named.1, entry.toJson named.2)),
            ∃ read : String × entry.Value,
              member.1.decode = .ok read.1
                ∧ entry.read member.2 = .ok read.2 := by
        rw [Node.ofMembers_eq_map, List.map_map]
        exact List.forall_mem_map.2 fun named _ =>
          ⟨named, StringText.decode_ofText named.1,
            Schema.read_toJson entry hfaithful named.2⟩
      exact congrArg (· >>= _) (readEntries_of_error hfront
        (StringText.decode_ofText named.1) (hrefused hother))
  | .optional inner, hfaithful, (none : Option inner.Value), _ :: _, _,
      hreplaced => nomatch hreplaced
  | .optional inner, hfaithful, (some value : Option inner.Value), step :: path,
      after, hreplaced => by
    obtain ⟨hwanted, hfaithful⟩ := Bool.and_eq_true_iff.1 hfaithful
    obtain ⟨wanted, hat, hrefused⟩ :=
      Schema.refusesAt inner hfaithful value hreplaced
    refine ⟨wanted, by cases step <;> exact hat, fun hother => ?_⟩
    rw [read_optional_of_ne hreplaced.ne_null, hrefused hother]
    rfl
  | .record name fields, hfaithful, values, _ :: _, _, hreplaced => by
    generalize hjson : (Schema.record name fields).toJson values
      = json at hreplaced
    cases hreplaced with
    | element => cases hjson
    | member hinside =>
      obtain ⟨wanted, hat, hrefused⟩ :=
        Fields.refusesAt fields hfaithful values (Json.object.inj hjson) hinside
      refine ⟨wanted, hat, fun hother => read_record_object.trans ?_⟩
      rw [hrefused hother]
      rfl

/-- A value that its place inside a field does not accept is refused there, and
the members of the record in front of it are read. -/
theorem Fields.refusesAt {other : Node} :
    (fields : Fields) → fields.isFaithful = true → (values : fields.Values) →
      {front back : List (String × Json)} → {name : String} → {json : Json} →
      {path : List Step} → {after : Node} →
      fields.toMembers values = front ++ (name, json) :: back →
      Node.ReplacedAt other path json after →
        ∃ wanted, fields.at? name path = some wanted
          ∧ (wanted.accepts other = false →
            readMembers fields.readMember
                (Node.ofMembers front
                  ++ (.ofText name, after) :: Node.ofMembers back)
                fields.empty
              = .error ⟨.key name :: path, other.faultWhere wanted.wanted⟩)
  | .none, _, _, _, _, _, _, _, _, hmembers, _ =>
    absurd hmembers (by simp [Fields.toMembers])
  | .field first isRequired schema rest, hfaithful, (value, values), [], back,
      name, json, path, after, hmembers, hreplaced => by
    obtain ⟨hnew, hfaithful⟩ := Bool.and_eq_true_iff.1 hfaithful
    obtain ⟨hschema, hrest⟩ := Bool.and_eq_true_iff.1 hfaithful
    obtain ⟨hfirst, rfl⟩ := List.cons.inj hmembers
    obtain ⟨rfl, rfl⟩ := Prod.mk.inj hfirst
    obtain ⟨wanted, hat, hrefused⟩ :=
      Schema.refusesAt schema hschema value hreplaced
    exact ⟨wanted, (if_pos rfl).trans hat, fun hother =>
      readMembers_self_of_error (hrefused hother)⟩
  | .field first isRequired schema rest, hfaithful, (value, values),
      member :: front, back, name, json, path, after, hmembers, hreplaced => by
    obtain ⟨hnew, hfaithful⟩ := Bool.and_eq_true_iff.1 hfaithful
    obtain ⟨hschema, hrest⟩ := Bool.and_eq_true_iff.1 hfaithful
    obtain ⟨rfl, hothers⟩ := List.cons.inj hmembers
    obtain ⟨wanted, hat, hrefused⟩ :=
      Fields.refusesAt rest hrest values hothers hreplaced
    obtain ⟨hname, hnames⟩ := names_of_toMembers hothers (by simpa using hnew)
    refine ⟨wanted, (if_neg hname).trans hat, fun hother => ?_⟩
    exact readMembers_others_of_error (Schema.read_toJson schema hschema value)
      hnames (hrefused hother)

end

end Json

namespace Dump

open Json (Schema Node)

/-- **A misplaced value is refused at its place**: where a value in what a dump
writes gives way to one of another type, loading fails with the path of this
place.  The fault is one of the data exactly if the value can be named. -/
theorem load_misplaced (dump : Dump) {other after : Node}
    {path : List Json.Step} {text : List UInt8}
    (hreplaced : Node.ReplacedAt other path dump.toJson after)
    (hwritten : after.WrittenAs text) :
    ∃ wanted, dumpSchema.at? path = some wanted ∧
      (wanted.accepts other = false →
        ∃ failure, load text = .error failure
          ∧ failure.refusal = ⟨path, other.faultWhere wanted.wanted⟩
          ∧ failure.path = Json.pathText path
          ∧ failure.refusal.fault.category
            = if other.isNameable then .data else .grammar) := by
  have hwhole := hreplaced.isWhole hwritten.1
  rw [dump.toJson_eq] at hreplaced
  obtain ⟨wanted, hat, hrefused⟩ :=
    Schema.refusesAt dumpSchema isFaithful_dumpSchema dump.toValue hreplaced
  refine ⟨wanted, hat, fun hother =>
    ⟨_, ?_, rfl, rfl, Node.category_faultWhere hwhole wanted.wanted⟩⟩
  rw [load, hwritten.ofBytes_eq, hrefused hother]

/-- What a dump of one declaration writes, with a text in the place of a truth
value. -/
def misplacedCompanion : Json :=
  .object [("declarations",
    .list [.object [("name", .string "Point"), ("package", .string "geo"),
      ("type_parameters", .list []), ("parameters", .null), ("members", .null),
      ("markers", .object []),
      ("creator", .object [("companionable", .bool false)]),
      ("has_companion", .string "yes")]]),
    ("known_types", .list [])]

/-- The failure of the misplaced text names its path and is one of data. -/
theorem load_misplaced_companion :
    ∃ failure, loadText misplacedCompanion.compact = .error failure
      ∧ failure.path = "declarations[0].has_companion"
      ∧ failure.refusal.fault.category = .data := by
  have hcompanion :
      Node.ReplacedAt (.ofJson (.string "yes")) [.key "has_companion"]
        (Declaration.toJson { name := "Point", package := "geo" }) _ :=
    @Node.ReplacedAt.member _ [("name", .string "Point"),
      ("package", .string "geo"), ("type_parameters", .list []),
      ("parameters", .null), ("members", .null), ("markers", .object []),
      ("creator", .object [("companionable", .bool false)])] [] _ _ _ _ .here
  have hreplaced : Node.ReplacedAt (.ofJson (.string "yes"))
      [.key "declarations", .index 0, .key "has_companion"]
      (Dump.toJson { declarations := [{ name := "Point", package := "geo" }] })
      (.ofJson misplacedCompanion) :=
    @Node.ReplacedAt.member _ [] [("known_types", .list [])] _ _ _ _
      (@Node.ReplacedAt.element _ [] [] _ _ _ hcompanion)
  obtain ⟨wanted, hat, hrefused⟩ :=
    load_misplaced _ hreplaced (Node.writtenAs_compact misplacedCompanion)
  obtain rfl : Schema.flag = wanted := Option.some.inj hat
  obtain ⟨failure, hload, -, hpath, hcategory⟩ := hrefused rfl
  refine ⟨failure, hload, hpath.trans (by decide), hcategory.trans (if_pos ?_)⟩
  change ((Json.StringText.ofText "yes").decode).isOk = true
  rw [Json.StringText.decode_ofText]
  rfl

/-- **A value without a name is refused at its place, but not for its type**:
here a number out of range stands for a whole dump. -/
theorem not_forall_misplaced_data :
    ¬∀ (dump : Dump) (other after : Node) (path : List Json.Step)
      (text : List UInt8) (wanted : Schema),
      Node.ReplacedAt other path dump.toJson after → after.WrittenAs text →
      dumpSchema.at? path = some wanted → wanted.accepts other = false →
        ∃ failure, load text = .error failure
          ∧ failure.refusal.path = path
          ∧ failure.refusal.fault.category = .data := by
  intro hall
  let huge : Json.NumberText :=
    { whole := [1], exponent := some (false, [9, 9, 9]) }
  have hmagnitude : Json.MagnitudeText huge [49, 101, 57, 57, 57] :=
    @Json.MagnitudeText.mk false [1] none (some (false, [9, 9, 9])) [] [101, 57,
      57, 57] ⟨nofun,
        by decide⟩ nofun .none (.some (.inl rfl) .none ⟨nofun, by decide⟩)
  have hwritten : (Node.number huge).WrittenAs [49, 101, 57, 57, 57] :=
    ⟨rfl, .cons Json.allSpace_nil (.number ⟨_, hmagnitude, rfl⟩)
      (Json.Token.endsBefore_nil _) (.nil Json.allSpace_nil)⟩
  obtain ⟨failure, hload, -, hcategory⟩ :=
    hall {} (.number huge) (.number huge) [] _ dumpSchema .here hwritten rfl rfl
  rw [load, hwritten.ofBytes_eq] at hload
  obtain rfl := Except.error.inj hload
  have hgrammar := Node.category_faultWhere hwritten.1 dumpSchema.wanted
  have hunnamed : (Node.number huge).isNameable = false := by decide
  rw [hunnamed] at hgrammar
  cases hgrammar.symm.trans hcategory

end Dump

end KotlinBuilders
