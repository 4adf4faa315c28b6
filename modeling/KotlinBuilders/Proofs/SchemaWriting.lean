import KotlinBuilders.Proofs.PrintedJson
import KotlinBuilders.Proofs.Readings

/-!
# Writing what a schema reads

A value of a schema is written with every field of every record present, in
order, and nothing as `null` (`Schema.toJson`).  The schema reads it back, if no
record has two fields of one name and no optional value is itself optional, so
that `null` stands for one thing (`Schema.read_toJson`).
-/

namespace KotlinBuilders

namespace Catalog

variable {α : Type}

/-- A new name is placed at the end. -/
theorem place_of_not_mem {name : String} {value : α}
    {entries : List (String × α)} (hnew : name ∉ entries.map Prod.fst) :
    place name value entries = entries ++ [(name, value)] := by
  induction entries with
  | nil => rfl
  | cons entry entries ih =>
    obtain ⟨first, old⟩ := entry
    obtain ⟨hne, hnew⟩ := not_or.1 (fun hmem => hnew (List.mem_cons.2 hmem))
    rw [place, if_neg fun heq => hne heq.symm, ih hnew, List.cons_append]

/-- Entries of new names are put behind those of a catalog. -/
theorem entries_foldl_put {catalog : Catalog α} {entries : List (String × α)}
    (hdistinct : ((catalog.entries ++ entries).map Prod.fst).Nodup) :
    (entries.foldl (fun catalog entry => catalog.put entry.1 entry.2)
      catalog).entries
        = catalog.entries ++ entries := by
  induction entries generalizing catalog with
  | nil => exact (List.append_nil _).symm
  | cons entry entries ih =>
    have hnew : entry.1 ∉ catalog.entries.map Prod.fst := by
      rw [List.map_append, List.map_cons] at hdistinct
      exact fun hmem =>
        List.disjoint_of_nodup_append hdistinct hmem List.mem_cons_self
    have hput : (catalog.put entry.1 entry.2).entries
        = catalog.entries ++ [entry] := place_of_not_mem hnew
    rw [List.foldl_cons,
      ih (by rwa [hput, List.append_assoc, List.singleton_append]), hput,
      List.append_assoc, List.singleton_append]

/-- **The entries of a catalog make the same catalog again.** -/
theorem ofList_entries (catalog : Catalog α) :
    ofList catalog.entries = catalog :=
  ext (entries_foldl_put catalog.distinct)

end Catalog

namespace Json

mutual

/-- A value as JSON. -/
def Schema.toJson : (schema : Schema) → schema.Value → Json
  | .text _, text => .string text
  | .flag, value => .bool value
  | .list element, (values : List element.Value) =>
    .list (values.map element.toJson)
  | .table entry, (catalog : Catalog entry.Value) =>
    .object (catalog.entries.map fun named => (named.1, entry.toJson named.2))
  | .optional inner, (value? : Option inner.Value) =>
    (value?.map inner.toJson).getD .null
  | .record _ fields, values => .object (fields.toMembers values)

/-- The values of the fields of a record as the members of an object. -/
def Fields.toMembers : (fields : Fields) → fields.Values → List (String × Json)
  | .none, _ => []
  | .field name _ schema rest, (value, values) =>
    (name, schema.toJson value) :: rest.toMembers values

end

section

variable {α : Type} {schema : Schema} {toJson : α → Json}
  {toValue : α → schema.Value}

/-- A list is written by the schema of its elements. -/
theorem toJson_list_map (hsame : ∀ a, toJson a = schema.toJson (toValue a))
    (list : List α) :
    Json.list (list.map toJson)
      = (Schema.list schema).toJson (list.map toValue) := by
  refine congrArg Json.list (Eq.trans ?_ (List.map_map ..).symm)
  exact List.map_congr_left fun a _ => hsame a

/-- A table is written by the schema of its values. -/
theorem toJson_table_map (hsame : ∀ a, toJson a = schema.toJson (toValue a))
    (catalog : Catalog α) :
    Json.object (catalog.entries.map fun named => (named.1, toJson named.2))
      = (Schema.table schema).toJson (catalog.map toValue) := by
  refine congrArg Json.object (Eq.trans ?_ (List.map_map ..).symm)
  exact List.map_congr_left fun named _ =>
    congrArg (Prod.mk named.1) (hsame named.2)

/-- An optional value is written by its schema, and nothing as `null`. -/
theorem toJson_optional_map (hsame : ∀ a, toJson a = schema.toJson (toValue a))
    (a? : Option α) :
    (a?.map toJson).getD .null
      = (Schema.optional schema).toJson (a?.map toValue) := by
  cases a? with
  | none => rfl
  | some a => exact hsame a

end

/-- The names of fields. -/
def Fields.names : Fields → List String
  | .none => []
  | .field name _ _ rest => name :: rest.names

/-- Whether nothing is among the values. -/
def Schema.isOptional : Schema → Bool
  | .optional _ => true
  | _ => false

mutual

/-- Whether what is written for a value tells it from all others. -/
def Schema.isFaithful : Schema → Bool
  | .text _ | .flag => true
  | .list element => element.isFaithful
  | .table entry => entry.isFaithful
  | .optional inner => !inner.isOptional && inner.isFaithful
  | .record _ fields => fields.isFaithful

/-- Whether what is written for the fields tells their values from all
others. -/
def Fields.isFaithful : Fields → Bool
  | .none => true
  | .field name _ schema rest =>
    !rest.names.contains name && (schema.isFaithful && rest.isFaithful)

end

/-- There are no values of a name that no member has. -/
theorem valuesNamed_eq_nil {name : String} {members : List (StringText × Node)}
    (hnone : ∀ member ∈ members, member.1.decode ≠ .ok name) :
    valuesNamed name members = [] := by
  rw [valuesNamed, List.map_eq_nil_iff, List.filter_eq_nil_iff]
  exact fun member hmem hname =>
    hnone member hmem (StringText.isName_iff.1 hname)

/-- All members are beside a name that none of them has. -/
theorem membersBeside_eq_self {name : String}
    {members : List (StringText × Node)}
    (hnone : ∀ member ∈ members, member.1.decode ≠ .ok name) :
    membersBeside name members = members := by
  rw [membersBeside, List.filter_eq_self]
  intro member hmem
  rw [Bool.not_eq_true', Bool.eq_false_iff]
  exact fun hname => hnone member hmem (StringText.isName_iff.1 hname)

/-- A printed key is the given name when it is the same text. -/
theorem StringText.isName_ofText {text name : String} :
    (StringText.ofText text).isName name = true ↔ text = name := by
  rw [StringText.isName_iff, StringText.decode_ofText, Except.ok.injEq]

/-- A record writes its fields under their names, in their order. -/
theorem map_fst_toMembers : (fields : Fields) → (values : fields.Values) →
    (fields.toMembers values).map Prod.fst = fields.names
  | .none, _ => rfl
  | .field name _ _ rest, (_, values) =>
    congrArg (name :: ·) (map_fst_toMembers rest values)

/-- The keys of a written record are the names of its fields. -/
theorem mem_names_of_mem_ofMembers {fields : Fields} {values : fields.Values}
    {member : StringText × Node} {name : String}
    (hmem : member ∈ Node.ofMembers (fields.toMembers values))
    (hname : member.1.decode = .ok name) :
    name ∈ fields.names := by
  rw [Node.ofMembers_eq_map] at hmem
  obtain ⟨written, hwritten, rfl⟩ := List.mem_map.1 hmem
  obtain rfl : written.1 = name :=
    Except.ok.inj ((StringText.decode_ofText written.1).symm.trans hname)
  rw [← map_fst_toMembers fields values]
  exact List.mem_map_of_mem hwritten

/-- What is written for a value that is not optional is not `null`. -/
theorem ofJson_toJson_ne_null {schema : Schema}
    (hwanted : schema.isOptional = false) (value : schema.Value) :
    Node.ofJson (schema.toJson value) ≠ .word .null .complete := by
  cases schema with
  | optional => cases hwanted
  | _ => exact fun heq => nomatch heq

mutual

/-- **A schema reads what is written for its values.** -/
theorem Schema.read_toJson :
    (schema : Schema) → schema.isFaithful = true → (value : schema.Value) →
      schema.read (Node.ofJson (schema.toJson value)) = .ok value
  | .text _, _, text =>
    read_text_eq_ok_iff.2 ⟨_, rfl, StringText.decode_ofText text⟩
  | .flag, _, value => read_flag_eq_ok_iff.2 rfl
  | .list element, hfaithful, (values : List element.Value) => by
    refine read_list_eq_ok_iff.2 ⟨_, _, rfl, .inl rfl, ?_⟩
    rw [Node.ofElements_eq_map, List.map_map, List.forall₂_map_left_iff,
      List.forall₂_same]
    exact fun value _ => Schema.read_toJson element hfaithful value
  | .table entry, hfaithful, (catalog : Catalog entry.Value) => by
    refine read_table_eq_ok_iff.2 ⟨_, _, catalog.entries, rfl, .inl rfl, ?_,
      catalog.ofList_entries⟩
    rw [Node.ofMembers_eq_map, List.map_map, List.forall₂_map_left_iff,
      List.forall₂_same]
    exact fun named _ => ⟨StringText.decode_ofText named.1,
      Schema.read_toJson entry hfaithful named.2⟩
  | .optional inner, hfaithful, (none : Option inner.Value) =>
    read_optional_eq_ok_iff.2 (.inl ⟨rfl, rfl⟩)
  | .optional inner, hfaithful, (some value : Option inner.Value) => by
    obtain ⟨hwanted, hfaithful⟩ := Bool.and_eq_true_iff.1 hfaithful
    refine read_optional_eq_ok_iff.2
      (.inr ⟨?_, value, Schema.read_toJson inner hfaithful value, rfl⟩)
    exact ofJson_toJson_ne_null (by simpa using hwanted) value
  | .record _ fields, hfaithful, values =>
    read_record_object_eq_ok_iff.2 ⟨.inl rfl,
      Fields.readsMembers_toMembers fields hfaithful values⟩

/-- The members that a record writes give its fields their values. -/
theorem Fields.readsMembers_toMembers :
    (fields : Fields) → fields.isFaithful = true → (values : fields.Values) →
      fields.ReadsMembers (Node.ofMembers (fields.toMembers values)) values
  | .none, _, _ => fun _ hmem => absurd hmem List.not_mem_nil
  | .field name isRequired schema rest, hfaithful, (value, values) => by
    obtain ⟨hnew, hfaithful⟩ := Bool.and_eq_true_iff.1 hfaithful
    obtain ⟨hschema, hrest⟩ := Bool.and_eq_true_iff.1 hfaithful
    have hothers : ∀ member ∈ Node.ofMembers (rest.toMembers values),
        member.1.decode ≠ .ok name :=
      fun member hmem hname =>
        absurd (mem_names_of_mem_ofMembers hmem hname) (by simpa using hnew)
    have hkey : (StringText.ofText name).isName name = true :=
      StringText.isName_ofText.2 rfl
    let first : StringText × Node :=
      (.ofText name, Node.ofJson (schema.toJson value))
    let others := Node.ofMembers (rest.toMembers values)
    change schema.ReadsGiven isRequired
      (valuesNamed name (first :: others)) value
      ∧ rest.ReadsMembers (membersBeside name (first :: others)) values
    rw [valuesNamed_cons_of_isName hkey, membersBeside_cons_of_isName hkey,
      valuesNamed_eq_nil hothers, membersBeside_eq_self hothers]
    exact ⟨Schema.read_toJson schema hschema value,
      Fields.readsMembers_toMembers rest hrest values⟩

end

end Json

end KotlinBuilders
