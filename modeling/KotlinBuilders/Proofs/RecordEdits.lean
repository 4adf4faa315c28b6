import KotlinBuilders.Proofs.SchemaWriting
import Mathlib.Logic.Relation

/-!
# Edits that a schema does not notice

An object that stands for a record may be written in many ways: its members may
stand in any order, members of unknown names may stand between them, and a field
that has its default may be given or not.  `Schema.Edited` is one such change
somewhere in a tree, inside lists, tables, optional values and other records.
The values that the schema reads are the same before and after it
(`Schema.Edited.read`).

A field takes the members of its name, and for that the order and the members of
other names do not count.  So each change is looked at where it is made, in
front of all other members, and then carried past the fields before.
-/

namespace KotlinBuilders.Json

/-- Whether the field of a name has to be given, and its schema. -/
def Fields.field? : Fields → String → Option (Bool × Schema)
  | .none, _ => Option.none
  | .field name isRequired schema rest, key =>
    if name = key then some (isRequired, schema) else rest.field? key

/-- Whether the field at a place has to be given, and its schema. -/
def Fields.fieldAt? : Fields → Nat → Option (Bool × Schema)
  | .none, _ => Option.none
  | .field _ isRequired schema _, 0 => some (isRequired, schema)
  | .field _ _ _ rest, place + 1 => rest.fieldAt? place

/-- One change in a tree of a schema: the members of a record in another order,
a new member of an unknown name, a field with its default given or left out, or
a change inside a part. -/
inductive Schema.Edited : Schema → Node → Node → Prop
  | reordered {name : String} {fields : Fields}
      {before after : List (StringText × Node)} {stop : ObjectStop}
      (hperm : before.Perm after) :
      Edited (.record name fields) (.object before stop) (.object after stop)
  | unknownAdded {name : String} {fields : Fields}
      {front back : List (StringText × Node)} {stop : ObjectStop}
      {key : StringText} {text : String} {node : Node}
      (hkey : key.decode = .ok text) (hunknown : fields.field? text = none)
      (hnode : node.IsWhole) :
      Edited (.record name fields) (.object (front ++ back) stop)
        (.object (front ++ (key, node) :: back) stop)
  | defaultAdded {name : String} {fields : Fields}
      {front back : List (StringText × Node)} {stop : ObjectStop}
      {key : StringText} {text : String} {schema : Schema} {node : Node}
      (hkey : key.decode = .ok text)
      (hfield : fields.field? text = some (false, schema))
      (hnode : schema.read node = .ok schema.absent)
      (hfresh : ∀ member ∈ front ++ back, member.1.decode ≠ .ok text) :
      Edited (.record name fields) (.object (front ++ back) stop)
        (.object (front ++ (key, node) :: back) stop)
  | defaultRemoved {name : String} {fields : Fields}
      {front back : List (StringText × Node)} {stop : ObjectStop}
      {key : StringText} {text : String} {schema : Schema} {node : Node}
      (hkey : key.decode = .ok text)
      (hfield : fields.field? text = some (false, schema))
      (hnode : schema.read node = .ok schema.absent) :
      Edited (.record name fields) (.object (front ++ (key, node) :: back) stop)
        (.object (front ++ back) stop)
  | member {name : String} {fields : Fields}
      {front back : List (StringText × Node)} {stop : ObjectStop}
      {key : StringText} {text : String} {isRequired : Bool} {schema : Schema}
      {before after : Node} (hkey : key.decode = .ok text)
      (hfield : fields.field? text = some (isRequired, schema))
      (hinside : Edited schema before after) :
      Edited (.record name fields)
        (.object (front ++ (key, before) :: back) stop)
        (.object (front ++ (key, after) :: back) stop)
  | position {name : String} {fields : Fields} {front back : List Node}
      {stop : ListStop} {isRequired : Bool} {schema : Schema}
      {before after : Node}
      (hfield : fields.fieldAt? front.length = some (isRequired, schema))
      (hinside : Edited schema before after) :
      Edited (.record name fields) (.list (front ++ before :: back) stop)
        (.list (front ++ after :: back) stop)
  | element {schema : Schema} {front back : List Node} {stop : ListStop}
      {before after : Node} (hinside : Edited schema before after) :
      Edited (.list schema) (.list (front ++ before :: back) stop)
        (.list (front ++ after :: back) stop)
  | entry {schema : Schema} {front back : List (StringText × Node)}
      {stop : ObjectStop} {key : StringText} {before after : Node}
      (hinside : Edited schema before after) :
      Edited (.table schema) (.object (front ++ (key, before) :: back) stop)
        (.object (front ++ (key, after) :: back) stop)
  | present {schema : Schema} {before after : Node}
      (hinside : Edited schema before after) :
      Edited (.optional schema) before after

/-! ## The order of members -/

/-- The order of the trees that a field is given by does not matter. -/
theorem Schema.ReadsGiven.perm {schema : Schema} {isRequired : Bool}
    {before after : List Node} {value : schema.Value}
    (hperm : before.Perm after)
    (hgiven : schema.ReadsGiven isRequired before value) :
    schema.ReadsGiven isRequired after value := by
  match before, hgiven with
  | [], hdefault =>
    rw [List.nil_perm.1 hperm]
    exact hdefault
  | [node], hread =>
    rw [← List.singleton_perm.1 hperm]
    exact hread

/-- **The order of the members does not count.** -/
theorem Fields.ReadsMembers.perm :
    {fields : Fields} → {before after : List (StringText × Node)} →
      {values : fields.Values} → before.Perm after →
      fields.ReadsMembers before values → fields.ReadsMembers after values
  | .none, _, _, _, hperm, hskipped =>
    fun member hmem => hskipped member (hperm.mem_iff.2 hmem)
  | .field _ _ _ _, _, _, (_, _), hperm, ⟨hgiven, hothers⟩ =>
    ⟨hgiven.perm ((hperm.filter _).map _), hothers.perm (hperm.filter _)⟩

/-- Two trees are not given for one field. -/
theorem Schema.ReadsGiven.eq_nil {schema : Schema} {isRequired : Bool}
    {node : Node} {given : List Node} {value : schema.Value}
    (hgiven : schema.ReadsGiven isRequired (node :: given) value) :
    given = [] := by
  match given, hgiven with
  | [], _ => rfl

/-! ## One member in front of the others -/

section

variable {name text : String} {key : StringText} {node : Node}
  {members : List (StringText × Node)} {isRequired : Bool} {schema : Schema}
  {rest : Fields} {value : schema.Value} {values : rest.Values}

/-- A member of the first field's name is taken by this field. -/
theorem readsMembers_cons_self_iff (hkey : key.decode = .ok name) :
    (Fields.field name isRequired schema rest).ReadsMembers
      ((key, node) :: members) (value, values) ↔
      schema.ReadsGiven isRequired (node :: valuesNamed name members) value
        ∧ rest.ReadsMembers (membersBeside name members) values := by
  have hname := StringText.isName_iff.2 hkey
  rw [← valuesNamed_cons_of_isName hname, ← membersBeside_cons_of_isName hname]
  rfl

/-- A member of another name is left for the other fields. -/
theorem readsMembers_cons_other_iff (hkey : key.decode = .ok text)
    (hne : name ≠ text) :
    (Fields.field name isRequired schema rest).ReadsMembers
      ((key, node) :: members) (value, values) ↔
      schema.ReadsGiven isRequired (valuesNamed name members) value
        ∧ rest.ReadsMembers
          ((key, node) :: membersBeside name members) values := by
  have hnot := StringText.not_isName_of_decode hkey hne
  rw [← valuesNamed_cons_of_not hnot, ← membersBeside_cons_of_not hnot]
  rfl

/-- A field whose only member is read differently has the other value. -/
theorem readsMembers_cons_self_congr {before after : Node}
    {other : schema.Value} (hkey : key.decode = .ok name)
    (hchanged : schema.read before = .ok value → schema.read after = .ok other)
    (hread : (Fields.field name isRequired schema rest).ReadsMembers
      ((key, before) :: members) (value, values)) :
    (Fields.field name isRequired schema rest).ReadsMembers
      ((key, after) :: members) (other, values) := by
  obtain ⟨hgiven, hothers⟩ := (readsMembers_cons_self_iff hkey).1 hread
  have hnone := hgiven.eq_nil
  rw [hnone] at hgiven
  rw [readsMembers_cons_self_iff hkey, hnone]
  exact ⟨hchanged hgiven, hothers⟩

end

section

variable {key : StringText} {text : String} (hkey : key.decode = .ok text)

include hkey

/-- **A member of an unknown name does not count.** -/
theorem readsMembers_cons_unknown {node : Node}
    (hnode : node.faultSkipped? = none) :
    {fields : Fields} → {members : List (StringText × Node)} →
      {values : fields.Values} → fields.field? text = none →
      fields.ReadsMembers members values →
      fields.ReadsMembers ((key, node) :: members) values
  | .none, _, _, _, hskipped =>
    List.forall_mem_cons.2 ⟨⟨⟨text, hkey⟩, hnode⟩, hskipped⟩
  | .field name _ schema rest, members, (value, values), hunknown,
      ⟨hgiven, hothers⟩ => by
    have hne : name ≠ text :=
      fun heq => by simp [Fields.field?, heq] at hunknown
    rw [Fields.field?, if_neg hne] at hunknown
    exact (readsMembers_cons_other_iff hkey hne).2 ⟨hgiven,
      readsMembers_cons_unknown hnode hunknown hothers⟩

/-- A known name occurs only once. -/
theorem fresh_of_readsMembers_cons {node : Node} {known : Bool × Schema} :
    {fields : Fields} → {members : List (StringText × Node)} →
      {values : fields.Values} → fields.field? text = some known →
      fields.ReadsMembers ((key, node) :: members) values →
      ∀ member ∈ members, member.1.decode ≠ .ok text
  | .field name _ schema rest, members, (value, values), hfield, hread => by
    intro member hmem hmember
    by_cases heq : name = text
    · subst heq
      have hnone := ((readsMembers_cons_self_iff hkey).1 hread).1.eq_nil
      have hgiven :=
        mem_valuesNamed_of_isName hmem (StringText.isName_iff.2 hmember)
      exact absurd (hnone ▸ hgiven) List.not_mem_nil
    · rw [Fields.field?, if_neg heq] at hfield
      have hothers := ((readsMembers_cons_other_iff hkey heq).1 hread).2
      have hbeside :=
        mem_membersBeside_iff.2 ⟨hmem,
          StringText.not_isName_of_decode hmember heq⟩
      exact fresh_of_readsMembers_cons hfield hothers member hbeside hmember

/-- **A field that is given its default need not be given.** -/
theorem readsMembers_cons_default_iff {node : Node} {schema : Schema}
    (hnode : schema.read node = .ok schema.absent) :
    {fields : Fields} → {members : List (StringText × Node)} →
      {values : fields.Values} → fields.field? text = some (false, schema) →
      (∀ member ∈ members, member.1.decode ≠ .ok text) →
      (fields.ReadsMembers ((key, node) :: members) values ↔
        fields.ReadsMembers members values)
  | .field name isRequired other rest, members, (value, values),
      hfield, hfresh => by
    by_cases heq : name = text
    · subst heq
      rw [Fields.field?, if_pos rfl, Option.some.injEq, Prod.mk.injEq] at hfield
      obtain ⟨rfl, rfl⟩ := hfield
      rw [readsMembers_cons_self_iff hkey, valuesNamed_eq_nil hfresh]
      refine and_congr ?_ Iff.rfl
      change other.read node = .ok value ↔
        other.ReadsGiven false (valuesNamed name members) value
      rw [valuesNamed_eq_nil hfresh, hnode, Except.ok.injEq]
      exact (and_iff_right rfl).symm
    · rw [Fields.field?, if_neg heq] at hfield
      have hothers :
          ∀ member ∈ membersBeside name members, member.1.decode ≠ .ok text :=
        fun member hmem => hfresh member (mem_membersBeside_iff.1 hmem).1
      rw [readsMembers_cons_other_iff hkey heq,
        readsMembers_cons_default_iff hnode hfield hothers]
      rfl

/-- A field whose tree is read as before has the value it had. -/
theorem readsMembers_cons_congr {before after : Node} {schema : Schema}
    {isRequired : Bool}
    (hsame : ∀ value, schema.read before = .ok value →
      schema.read after = .ok value) :
    {fields : Fields} → {members : List (StringText × Node)} →
      {values : fields.Values} →
      fields.field? text = some (isRequired, schema) →
      fields.ReadsMembers ((key, before) :: members) values →
      fields.ReadsMembers ((key, after) :: members) values
  | .field name _ other rest, members, (value, values), hfield, hread => by
    by_cases heq : name = text
    · subst heq
      rw [Fields.field?, if_pos rfl, Option.some.injEq, Prod.mk.injEq] at hfield
      obtain ⟨rfl, rfl⟩ := hfield
      exact readsMembers_cons_self_congr hkey (hsame value) hread
    · rw [Fields.field?, if_neg heq] at hfield
      obtain ⟨hgiven, hothers⟩ := (readsMembers_cons_other_iff hkey heq).1 hread
      exact (readsMembers_cons_other_iff hkey heq).2 ⟨hgiven,
        readsMembers_cons_congr hsame hfield hothers⟩

end

/-! ## One part among others -/

/-- An element whose tree is read as before has the value it had. -/
theorem readsElements_congr {before after : Node} {schema : Schema}
    {isRequired : Bool}
    (hsame : ∀ value, schema.read before = .ok value →
      schema.read after = .ok value) {back : List Node} :
    {fields : Fields} → {front : List Node} → {values : fields.Values} →
      fields.fieldAt? front.length = some (isRequired, schema) →
      fields.ReadsElements (front ++ before :: back) values →
      fields.ReadsElements (front ++ after :: back) values
  | .field _ _ other rest, [], (value, values), hfield, ⟨hgiven, hothers⟩ => by
    obtain ⟨rfl, rfl⟩ := Prod.mk.inj (Option.some.inj hfield)
    exact ⟨hsame value hgiven, hothers⟩
  | .field _ _ other rest, first :: front, (value, values), hfield,
      ⟨hgiven, hothers⟩ =>
    ⟨hgiven, readsElements_congr hsame hfield hothers⟩

/-- What a list is related to may stay when an element gives way to one that is
related to the same. -/
theorem forall₂_congr_at {α β : Type} {related : α → β → Prop}
    {front back : List α} {before after : α} {values : List β}
    (hsame : ∀ value, related before value → related after value)
    (hall : List.Forall₂ related (front ++ before :: back) values) :
    List.Forall₂ related (front ++ after :: back) values := by
  induction front generalizing values with
  | nil =>
    obtain ⟨value, others, hvalue, hothers, rfl⟩ :=
      List.forall₂_cons_left_iff.1 hall
    exact .cons (hsame value hvalue) hothers
  | cons first front ih =>
    obtain ⟨value, others, hvalue, hothers, rfl⟩ :=
      List.forall₂_cons_left_iff.1 hall
    exact .cons hvalue (ih hothers)

/-! ## Changes anywhere -/

/-- Neither side of an edit is `null`. -/
theorem Schema.Edited.ne_null {schema : Schema} {before after : Node}
    (hedited : schema.Edited before after) :
    before ≠ .word .null .complete ∧ after ≠ .word .null .complete := by
  induction hedited with
  | present _ ih => exact ih
  | _ => exact ⟨nofun, nofun⟩

/-- **A schema reads the same value before and after a change.** -/
theorem Schema.Edited.read {schema : Schema} {before after : Node}
    (hedited : schema.Edited before after) {value : schema.Value}
    (hread : schema.read before = .ok value) :
    schema.read after = .ok value := by
  induction hedited with
  | reordered hperm =>
    obtain ⟨hstop, hmembers⟩ := read_record_object_eq_ok_iff.1 hread
    exact read_record_object_eq_ok_iff.2 ⟨hstop, hmembers.perm hperm⟩
  | unknownAdded hkey hunknown hnode =>
    obtain ⟨hstop, hmembers⟩ := read_record_object_eq_ok_iff.1 hread
    have hadded := readsMembers_cons_unknown hkey
      (Node.faultSkipped?_of_isWhole hnode) hunknown hmembers
    exact read_record_object_eq_ok_iff.2 ⟨hstop,
      hadded.perm List.perm_middle.symm⟩
  | defaultAdded hkey hfield hnode hfresh =>
    obtain ⟨hstop, hmembers⟩ := read_record_object_eq_ok_iff.1 hread
    have hadded :=
      (readsMembers_cons_default_iff hkey hnode hfield hfresh).2 hmembers
    exact read_record_object_eq_ok_iff.2 ⟨hstop,
      hadded.perm List.perm_middle.symm⟩
  | defaultRemoved hkey hfield hnode =>
    obtain ⟨hstop, hmembers⟩ := read_record_object_eq_ok_iff.1 hread
    have hfirst := hmembers.perm List.perm_middle
    have hfresh := fresh_of_readsMembers_cons hkey hfield hfirst
    exact read_record_object_eq_ok_iff.2 ⟨hstop,
      (readsMembers_cons_default_iff hkey hnode hfield hfresh).1 hfirst⟩
  | member hkey hfield _ ih =>
    obtain ⟨hstop, hmembers⟩ := read_record_object_eq_ok_iff.1 hread
    have hchanged := readsMembers_cons_congr hkey (fun _ => ih) hfield
      (hmembers.perm List.perm_middle)
    exact read_record_object_eq_ok_iff.2 ⟨hstop,
      hchanged.perm List.perm_middle.symm⟩
  | position hfield _ ih =>
    obtain ⟨hstop, helements⟩ := read_record_list_eq_ok_iff.1 hread
    exact read_record_list_eq_ok_iff.2 ⟨hstop,
      readsElements_congr (fun _ => ih) hfield helements⟩
  | element _ ih =>
    obtain ⟨elements, stop, heq, hstop, hvalues⟩ := read_list_eq_ok_iff.1 hread
    obtain ⟨rfl, rfl⟩ := Node.list.inj heq
    exact read_list_eq_ok_iff.2 ⟨_, _, rfl, hstop,
      forall₂_congr_at (fun _ => ih) hvalues⟩
  | entry _ ih =>
    obtain ⟨members, stop, entries, heq, hstop, hentries, hcatalog⟩ :=
      read_table_eq_ok_iff.1 hread
    obtain ⟨rfl, rfl⟩ := Node.object.inj heq
    refine read_table_eq_ok_iff.2 ⟨_, _, entries, rfl, hstop, ?_, hcatalog⟩
    refine forall₂_congr_at ?_ hentries
    exact fun _ hnamed => ⟨hnamed.1, ih hnamed.2⟩
  | present hinside ih =>
    obtain ⟨hbefore, hafter⟩ := hinside.ne_null
    rcases read_optional_eq_ok_iff.1 hread with
      ⟨heq, -⟩ | ⟨-, inner, hinner, hvalue⟩
    · exact absurd heq hbefore
    · exact read_optional_eq_ok_iff.2 (.inr ⟨hafter, inner, ih hinner, hvalue⟩)

end KotlinBuilders.Json
