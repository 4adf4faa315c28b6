import KotlinBuilders.Proofs.DumpRoundTrip
import KotlinBuilders.Proofs.RecordEdits

/-!
# Edits of a dump that change nothing

A document that loads may be edited without any change to the dump: by the edits
of records that their schemas do not notice (`Schema.Edited`), and by naming the
known types in another order or more than once.  `Dump.Edited` is one such edit,
and any number of them keep the dump (`Dump.load_edited`).

The defaults that may be added or left out are those of the schemas.
`Schema.defaults` lists what is written for them, and each of the list may be
given (`Json.Schema.edited_with_default`) or not
(`Json.Schema.edited_without_default`).
-/

namespace KotlinBuilders

open Json (Schema Fields Node StringText)

namespace Json

/-! ## Defaults -/

/-- What is written for the defaults of the fields that need not be given. -/
def Fields.defaults : Fields → List (String × Json)
  | .none => []
  | .field _ true _ rest => rest.defaults
  | .field name false schema rest =>
    (name, schema.toJson schema.absent) :: rest.defaults

/-- What is written for the defaults of a record. -/
def Schema.defaults : Schema → List (String × Json)
  | .record _ fields => fields.defaults
  | _ => []

/-- What is written for a default stands under the name of a field. -/
theorem mem_names_of_mem_defaults :
    {fields : Fields} → {written : String × Json} → written ∈ fields.defaults →
      written.1 ∈ fields.names
  | .field _ true _ rest, _, hmem =>
    List.mem_cons_of_mem _ (mem_names_of_mem_defaults hmem)
  | .field name false schema rest, _, hmem => by
    rcases List.mem_cons.1 hmem with rfl | hmem
    · exact List.mem_cons_self
    · exact List.mem_cons_of_mem _ (mem_names_of_mem_defaults hmem)

/-- **What is listed as a default is read as one.** -/
theorem exists_field?_of_mem_defaults :
    {fields : Fields} → fields.isFaithful = true → {written : String × Json} →
      written ∈ fields.defaults →
    ∃ schema, fields.field? written.1 = some (false, schema)
      ∧ schema.read (.ofJson written.2) = .ok schema.absent
  | .field name isRequired schema rest, hfaithful, written, hmem => by
    obtain ⟨hnew, hfaithful⟩ := Bool.and_eq_true_iff.1 hfaithful
    obtain ⟨hschema, hrest⟩ := Bool.and_eq_true_iff.1 hfaithful
    have hothers : written ∈ rest.defaults →
        ∃ other,
          (Fields.field name isRequired schema rest).field? written.1
              = some (false, other)
            ∧ other.read (.ofJson written.2) = .ok other.absent := by
      intro hmem
      obtain ⟨other, hfield, hread⟩ := exists_field?_of_mem_defaults hrest hmem
      have hne : name ≠ written.1 :=
        fun heq => by simp [heq, mem_names_of_mem_defaults hmem] at hnew
      exact ⟨other, by rw [Fields.field?, if_neg hne, hfield], hread⟩
    cases isRequired with
    | true => exact hothers hmem
    | false =>
      rcases List.mem_cons.1 hmem with rfl | hmem
      · exact ⟨schema, if_pos rfl,
          Schema.read_toJson schema hschema schema.absent⟩
      · exact hothers hmem

section

variable {schema : Schema} (hfaithful : schema.isFaithful = true)
  {written : String × Json} (hmem : written ∈ schema.defaults)
  {key : StringText} (hkey : key.decode = .ok written.1)
  (front back : List (StringText × Node)) (stop : ObjectStop)

include hfaithful hmem hkey

/-- **A listed default may be left out** of an object that gives it. -/
theorem Schema.edited_without_default :
    schema.Edited (.object (front ++ (key, .ofJson written.2) :: back) stop)
      (.object (front ++ back) stop) := by
  cases schema with
  | record name fields =>
    obtain ⟨_, hfield, hread⟩ := exists_field?_of_mem_defaults hfaithful hmem
    exact .defaultRemoved hkey hfield hread
  | _ => exact absurd hmem List.not_mem_nil

/-- **A listed default may be given** in an object that does not give it. -/
theorem Schema.edited_with_default
    (hfresh : ∀ member ∈ front ++ back, member.1.decode ≠ .ok written.1) :
    schema.Edited (.object (front ++ back) stop)
      (.object (front ++ (key, .ofJson written.2) :: back) stop) := by
  cases schema with
  | record name fields =>
    obtain ⟨_, hfield, hread⟩ := exists_field?_of_mem_defaults hfaithful hmem
    exact .defaultAdded hkey hfield hread hfresh
  | _ => exact absurd hmem List.not_mem_nil

end

example : dumpSchema.defaults =
    [("declarations", .list []), ("known_types", .list [])] :=
  rfl

example : declarationSchema.defaults =
    [("package", .string ""), ("type_parameters", .list []),
      ("parameters", .null), ("members", .null), ("markers", .object []),
      ("creator", .object [("companionable", .bool false)]),
      ("has_companion", .bool false)] :=
  rfl

example :
    [typeParameterSchema, parameterSchema, markersSchema, aliasSchema,
      creatorSchema].map Schema.defaults =
    [[("bounds", .list [])],
      [("has_default", .bool false), ("nullable", .bool false)],
      [("nullable", .bool false), ("mutable", .bool false),
        ("unsigned", .bool false), ("alias", .null),
        ("generic_nullable", .list [])],
      [("default_value", .string "null")],
      [("companionable", .bool false)]] :=
  rfl

end Json

/-! ## Known types -/

/-- Whether two lists of strings name the same types, in any order and any
number of times. -/
structure SameNames (before after : List Node) : Prop where
  readable : ∀ element ∈ after, ∃ name, textSchema.read element = .ok name
  same : ∀ name, (∃ element ∈ before, textSchema.read element = .ok name) ↔
    ∃ element ∈ after, textSchema.read element = .ok name

/-- Where each input is related to some output, a list of inputs is related to a
list of outputs. -/
theorem exists_forall₂ {α β : Type} {related : α → β → Prop} {inputs : List α}
    (hall : ∀ input ∈ inputs, ∃ output, related input output) :
    ∃ outputs, List.Forall₂ related inputs outputs := by
  induction inputs with
  | nil => exact ⟨[], .nil⟩
  | cons input inputs ih =>
    obtain ⟨⟨output, hfirst⟩, hothers⟩ := List.forall_mem_cons.1 hall
    obtain ⟨outputs, houtputs⟩ := ih hothers
    exact ⟨output :: outputs, .cons hfirst houtputs⟩

/-- The names read from some elements are those that each of them is read as. -/
theorem mem_iff_of_forall₂_read {elements : List Node} {names : List String}
    (hall : List.Forall₂
      (fun element name => textSchema.read element = .ok name) elements names)
    (name : String) :
    name ∈ names ↔
      ∃ element ∈ elements, textSchema.read element = .ok name := by
  constructor
  · exact fun hmem => exists_of_mem_forall₂ hall hmem
  · rintro ⟨element, hmem, hread⟩
    obtain ⟨other, hother, hsame⟩ := exists_of_mem_forall₂ hall.flip hmem
    exact Except.ok.inj (hsame.symm.trans hread) ▸ hother

/-- Entries in another order, or repeated, name the same types. -/
theorem sameNames_of_mem_iff {before after : List Node} {names : List String}
    (hall : List.Forall₂
      (fun element name => textSchema.read element = .ok name) before names)
    (hsame : ∀ element, element ∈ after ↔ element ∈ before) :
    SameNames before after where
  readable element hmem := by
    obtain ⟨name, -, hread⟩ :=
      exists_of_mem_forall₂ hall.flip ((hsame element).1 hmem)
    exact ⟨name, hread⟩
  same name := exists_congr fun element => and_congr_left' (hsame element).symm

/-- Two lists of texts with the same members name the same types. -/
theorem sameNames_written {before after : List String}
    (hsame : ∀ name, name ∈ after ↔ name ∈ before) :
    SameNames (before.map fun name => .ofJson (.string name))
      (after.map fun name => .ofJson (.string name)) := by
  have hread :
      List.Forall₂ (fun element name => textSchema.read element = .ok name)
        (before.map fun name => Node.ofJson (.string name)) before :=
    List.forall₂_map_left_iff.2 (List.forall₂_same.2 fun name _ =>
      Schema.read_toJson textSchema rfl name)
  refine sameNames_of_mem_iff hread fun element => ?_
  rw [List.mem_map, List.mem_map]
  exact exists_congr fun name => and_congr_left' (hsame name)

/-- When a list of names is read, another list of the same types is read as the
same set. -/
theorem SameNames.exists_read {before after : List Node}
    (hsame : SameNames before after) {stop : Json.ListStop}
    {names : List String}
    (hread : (Schema.list textSchema).read (.list before stop) = .ok names) :
    ∃ others : List String,
      (Schema.list textSchema).read (.list after stop) = .ok others
      ∧ NameSet.ofList others = NameSet.ofList names := by
  obtain ⟨elements, stop, heq, hstop, hnames⟩ :=
    Json.read_list_eq_ok_iff.1 hread
  obtain ⟨rfl, rfl⟩ := Node.list.inj heq
  obtain ⟨(others : List String), hothers⟩ := exists_forall₂ hsame.readable
  refine ⟨others, Json.read_list_eq_ok_iff.2 ⟨after, stop, rfl, hstop, hothers⟩,
    NameSet.ext_mem fun name => ?_⟩
  rw [NameSet.mem_ofList, NameSet.mem_ofList, mem_iff_of_forall₂_read hothers,
    mem_iff_of_forall₂_read hnames]
  exact (hsame.same name).symm

namespace Dump

/-- One edit of a dump that changes nothing: one that the schema does not
notice, or the same known types in another list, where the dump is an object and
where it is a list. -/
inductive Edited : Node → Node → Prop
  | inside {before after : Node} (hedited : dumpSchema.Edited before after) :
      Edited before after
  | knownTypes {front back : List (StringText × Node)} {stop : Json.ObjectStop}
      {key : StringText} {before after : List Node} {listStop : Json.ListStop}
      (hkey : key.decode = .ok "known_types") (hsame : SameNames before after) :
      Edited (.object (front ++ (key, .list before listStop) :: back) stop)
        (.object (front ++ (key, .list after listStop) :: back) stop)
  | knownTypesAt {declarations : Node} {stop : Json.ListStop}
      {before after : List Node} {listStop : Json.ListStop}
      (hsame : SameNames before after) :
      Edited (.list [declarations, .list before listStop] stop)
        (.list [declarations, .list after listStop] stop)

/-- **One edit keeps the dump.** -/
theorem Edited.exists_read {before after : Node} (hedited : Edited before after)
    {value : dumpSchema.Value} (hread : dumpSchema.read before = .ok value) :
    ∃ other, dumpSchema.read after = .ok other
      ∧ ofValue other = ofValue value := by
  cases hedited with
  | inside hedited => exact ⟨value, hedited.read hread, rfl⟩
  | knownTypes hkey hsame =>
    obtain ⟨declarations, names, ⟨⟩⟩ := value
    obtain ⟨hstop, hmembers⟩ := Json.read_record_object_eq_ok_iff.1 hread
    have hfirst := hmembers.perm List.perm_middle
    obtain ⟨hdeclarations, hknown⟩ :=
      (Json.readsMembers_cons_other_iff hkey (by decide)).1 hfirst
    have hnames :=
      ((Json.readsMembers_cons_self_iff hkey).1 hknown).1.exists_read
        List.mem_cons_self
    obtain ⟨others, hothers, hset⟩ := hsame.exists_read hnames
    have hchanged := (Json.readsMembers_cons_other_iff hkey (by decide)).2
      ⟨hdeclarations, Json.readsMembers_cons_self_congr hkey (fun _ =>
        hothers) hknown⟩
    refine ⟨(declarations, others, ()), ?_, congrArg (Dump.mk _) hset⟩
    exact Json.read_record_object_eq_ok_iff.2 ⟨hstop,
      hchanged.perm List.perm_middle.symm⟩
  | knownTypesAt hsame =>
    obtain ⟨declarations, names, ⟨⟩⟩ := value
    obtain ⟨hstop, hdeclarations, hnames, hnone⟩ :=
      Json.read_record_list_eq_ok_iff.1 hread
    obtain ⟨others, hothers, hset⟩ := hsame.exists_read hnames
    refine ⟨(declarations, others, ()), Json.read_record_list_eq_ok_iff.2
      ⟨hstop, hdeclarations, hothers, hnone⟩, ?_⟩
    exact congrArg (Dump.mk _) hset

/-- Any number of edits keep the dump. -/
theorem exists_read_of_edits {before after : Node}
    (hedits : Relation.ReflTransGen Edited before after)
    {value : dumpSchema.Value} (hread : dumpSchema.read before = .ok value) :
    ∃ other, dumpSchema.read after = .ok other
      ∧ ofValue other = ofValue value := by
  induction hedits with
  | refl => exact ⟨value, hread, rfl⟩
  | tail _ hedited ih =>
    obtain ⟨middle, hmiddle, hsame⟩ := ih
    obtain ⟨last, hlast, heq⟩ := hedited.exists_read hmiddle
    exact ⟨last, hlast, heq.trans hsame⟩

/-- **Edits that change nothing**: where a document loads, every document that
such edits make of it loads as the same dump. -/
theorem load_edited {before after : Node} {text edited : List UInt8}
    {dump : Dump} (hbefore : before.WrittenAs text)
    (hafter : after.WrittenAs edited)
    (hedits : Relation.ReflTransGen Edited before after)
    (hload : load text = .ok dump) : load edited = .ok dump := by
  obtain ⟨value, hread, rfl⟩ := load_eq_ok_iff.1 hload
  rw [hbefore.ofBytes_eq] at hread
  obtain ⟨other, hother, hsame⟩ := exists_read_of_edits hedits hread
  exact load_eq_ok_iff.2 ⟨other, by rw [hafter.ofBytes_eq, hother], hsame⟩

/-- A dump written in another order, without one default of its declaration and
with a known type named twice. -/
theorem load_edited_point :
    loadText (Json.compact (.object
        [("known_types", .list [.string "kotlin.Int", .string "kotlin.Any",
          .string "kotlin.Int"]),
          ("declarations", .list
            [.object [("name", .string "Point"), ("package", .string ""),
              ("type_parameters", .list []), ("parameters", .null),
              ("members", .null), ("markers", .object []),
              ("creator", .object [("companionable", .bool false)])]])]))
      = .ok { declarations := [{ name := "Point" }],
              knownTypes := { toList := ["kotlin.Any", "kotlin.Int"],
                              ascending := by decide } } := by
  refine load_edited (Node.writtenAs_compact _) (Node.writtenAs_compact _) ?_
    (load_of_writtenAs_toJson (Node.writtenAs_compact _))
  have hname (text : String) : (StringText.ofText text).decode = .ok text :=
    StringText.decode_ofText text
  let written : List (String × Json) :=
    [("name", .string "Point"), ("package", .string ""),
    ("type_parameters", .list []), ("parameters", .null), ("members", .null),
    ("markers", .object []),
    ("creator", .object [("companionable", .bool false)])]
  let companion : StringText × Node :=
    (.ofText "has_companion", .word (.bool false) .complete)
  let declarations (members : List (StringText × Node)) : StringText × Node :=
    (.ofText "declarations", .list [.object members .closed] .closed)
  let known (names : List String) : StringText × Node :=
    (.ofText "known_types",
      .list (names.map fun name => Node.ofJson (.string name)) .closed)
  have hlisted :
      ("has_companion", Json.bool false) ∈ declarationSchema.defaults :=
    List.mem_of_getLast? rfl
  have hdefault : dumpSchema.Edited
      (.object [declarations (Node.ofMembers written ++ [companion]),
        known ["kotlin.Any", "kotlin.Int"]] .closed)
      (.object [declarations (Node.ofMembers written ++ []),
        known ["kotlin.Any", "kotlin.Int"]] .closed) :=
    @Schema.Edited.member _ _ [] _ _ _ _ _ _ _ _ (hname "declarations") rfl
      (@Schema.Edited.element _ [] _ _ _ _
        (Schema.edited_without_default rfl hlisted
          (hname "has_companion") _ _ _))
  have hknown : Edited
      (.object [declarations (Node.ofMembers written),
        known ["kotlin.Any", "kotlin.Int"]] .closed)
      (.object [declarations (Node.ofMembers written),
        known ["kotlin.Int", "kotlin.Any", "kotlin.Int"]] .closed) := by
    refine @Edited.knownTypes [_] _ _ _ _ _ _ (hname "known_types")
      (sameNames_written fun name => ?_)
    simp only [List.mem_cons, List.not_mem_nil, or_false]
    tauto
  have hreordered : dumpSchema.Edited
      (.object [declarations (Node.ofMembers written),
        known ["kotlin.Int", "kotlin.Any", "kotlin.Int"]] .closed)
      (.object [known ["kotlin.Int", "kotlin.Any", "kotlin.Int"],
        declarations (Node.ofMembers written)] .closed) :=
    .reordered (.swap _ _ _)
  exact .tail (.tail (.single (.inside hdefault)) hknown) (.inside hreordered)

end Dump

end KotlinBuilders
