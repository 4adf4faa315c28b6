import KotlinBuilders.Proofs.SlotConsistency

/-!
# Setters of one name

Every field has one setter, and the names of fields differ.  A setter is named
by its verb and its field's name with the first character in uppercase, and an
escaped name is never a plain one, so two setters have the same name exactly
when their fields' names are equal once capitalized
(`FieldName.accessor_eq_iff`).

Fields are not compared in this form, so a builder can have two setters of one
name.  These are overloads as long as they take different types.  Two setters
that take the same type as well exist exactly where two fields of this type have
names that are equal once capitalized (`setters_conflict_iff`), as in
`not_forall_setters_distinct`.  Where all names begin with a small letter there
are none (`setterNames_nodup`).
-/

namespace KotlinBuilders

/-! ## Names of accessors -/

/-- A name in backquotes is no plain identifier. -/
theorem isPlainIdentifier_escaped (name : String) :
    isPlainIdentifier ("`" ++ name ++ "`").toList = false := by
  have hquote : "`".toList = [Char.ofNat 96] := by decide
  have hletter : Text.isLetter (Char.ofNat 96) = false := by decide
  rw [String.toList_append, String.toList_append, hquote]
  simp [isPlainIdentifier, hletter]

/-- A name in backquotes would be escaped once more. -/
theorem needsEscape_escaped (name : String) :
    needsEscape ("`" ++ name ++ "`") = true := by
  rw [needsEscape, isPlainIdentifier_escaped, Bool.not_false, Bool.or_true]

/-- **A name in source text tells the name.** -/
theorem identifier_inj {first second : String} :
    identifier first = identifier second ↔ first = second := by
  refine ⟨fun hsame => ?_, congrArg identifier⟩
  unfold identifier at hsame
  split_ifs at hsame with hfirst hsecond hsecond
  · have hinside := congrArg String.toList hsame
    simp only [String.toList_append] at hinside
    exact String.toList_inj.1
      (List.append_cancel_left (List.append_cancel_right hinside))
  · exact absurd (hsame ▸ needsEscape_escaped first) hsecond
  · exact absurd (hsame ▸ needsEscape_escaped second) hfirst
  · exact hsame

namespace FieldName

/-- The name with its first character in uppercase. -/
def capitalized (name : FieldName) : String :=
  String.ofList (Text.capitalize name.raw.toList)

/-- **Accessors of one verb have the same name exactly when their fields have,
once capitalized.** -/
theorem accessor_eq_iff {first second : FieldName} {verb : String} :
    first.accessor verb = second.accessor verb ↔
      first.capitalized = second.capitalized := by
  rw [accessor, accessor, identifier_inj, ← String.toList_inj,
    String.toList_append, String.toList_append, List.append_cancel_left_eq,
    String.toList_inj, capitalized, capitalized]

/-- Whether a name begins with a small letter of the Latin alphabet. -/
def startsLower (name : FieldName) : Bool :=
  name.raw.toList.head?.any Char.isLower

/-- The small letters of the Latin alphabet by their codes. -/
theorem isLower_iff {c : Char} : c.isLower = true ↔ 'a'.val ≤ c.val
    ∧ c.val ≤ 'z'.val :=
  (Bool.and_eq_true_iff ..).trans
    (and_congr decide_eq_true_iff decide_eq_true_iff)

/-- The capital of a small letter stands at a fixed distance. -/
theorem val_toUpper {c : Char} (hlower : c.isLower = true) :
    c.toUpper.val = c.val + ('A'.val - 'a'.val) := by
  have hupper : c.toUpper = ⟨c.val + ('A'.val - 'a'.val), _⟩ :=
    dif_pos (isLower_iff.1 hlower)
  rw [hupper]

/-- Small letters with the same capital are the same. -/
theorem toUpper_inj {first second : Char} (hfirst : first.isLower = true)
    (hsecond : second.isLower = true) (hsame : first.toUpper = second.toUpper) :
    first = second := by
  have hvals := congrArg Char.val hsame
  rw [val_toUpper hfirst, val_toUpper hsecond] at hvals
  exact Char.ext ((UInt32.add_left_inj _).1 hvals)

/-- A text that begins with a small letter is capitalized by its capital. -/
theorem capitalize_of_isLower {c : Char} (hlower : c.isLower = true)
    (rest : List Char) :
    Text.capitalize (c :: rest) = c.toUpper :: rest := by
  have hascii : c.toNat < 128 := by
    obtain ⟨-, hle⟩ := isLower_iff.1 hlower
    exact Nat.lt_of_le_of_lt (UInt32.le_iff_toNat_le.1 hle) (by decide)
  rw [Text.capitalize, Text.uppercase, if_pos hascii, List.singleton_append]

/-- A name that begins with a small letter has a first character. -/
theorem exists_of_startsLower {name : FieldName}
    (hlower : name.startsLower = true) :
    ∃ c rest, name.raw.toList = c :: rest ∧ c.isLower = true := by
  unfold startsLower at hlower
  cases htext : name.raw.toList with
  | nil => simp [htext] at hlower
  | cons c rest => exact ⟨c, rest, rfl, by simpa [htext] using hlower⟩

/-- Names that begin with small letters are told apart by their capitalized
forms. -/
theorem eq_of_capitalized_eq {first second : FieldName}
    (hfirst : first.startsLower = true) (hsecond : second.startsLower = true)
    (hsame : first.capitalized = second.capitalized) : first = second := by
  obtain ⟨c, rest, hfirst, hc⟩ := exists_of_startsLower hfirst
  obtain ⟨d, others, hsecond, hd⟩ := exists_of_startsLower hsecond
  rw [capitalized, capitalized, hfirst, hsecond, capitalize_of_isLower hc,
    capitalize_of_isLower hd, String.ofList_inj] at hsame
  obtain ⟨hupper, rfl⟩ := List.cons_eq_cons.1 hsame
  obtain rfl := toUpper_inj hc hd hupper
  exact congrArg FieldName.mk (String.toList_inj.1 (hfirst.trans hsecond.symm))

end FieldName

/-! ## Setters of a builder -/

/-- Whether two setters have the same name and take the same type. -/
def Setter.Conflicts (first second : Setter) : Prop := first.name = second.name
  ∧ first.type = second.type

/-- Whether the fields of two setters have the same name once capitalized, and
the setters take the same type. -/
def Setter.FieldsConflict (first second : Setter) : Prop :=
  first.field.capitalized = second.field.capitalized ∧ first.type = second.type

section

variable {naming : Naming} {knownTypes : NameSet} {declaration : Declaration}
  {conversion : Conversion}

/-- A setter is named by its field and the verb of the naming. -/
theorem name_of_mem_setters
    (hconversion : convert naming knownTypes declaration = .ok conversion)
    {setter : Setter} (hsetter : setter ∈ conversion.model.builder.setters) :
    setter.name = setter.field.accessor naming.style.verb := by
  obtain ⟨-, hmodel⟩ := convert_eq_ok_iff.1 hconversion
  obtain ⟨typeVars, -, hassemble⟩ := synthesize_eq_ok_iff.1 hmodel
  rw [← hassemble] at hsetter
  simp only [assemble, List.map_map, List.zipWith_map_right, List.zipWith_self,
    List.mem_map] at hsetter
  obtain ⟨field, -, rfl⟩ := hsetter
  rfl

/-- Two setters have the same name when their fields have, once capitalized. -/
theorem setterName_eq_iff
    (hconversion : convert naming knownTypes declaration = .ok conversion)
    {first second : Setter} (hfirst : first ∈ conversion.model.builder.setters)
    (hsecond : second ∈ conversion.model.builder.setters) :
    first.name = second.name ↔
      first.field.capitalized = second.field.capitalized := by
  rw [name_of_mem_setters hconversion hfirst,
    name_of_mem_setters hconversion hsecond, FieldName.accessor_eq_iff]

/-- A builder has a setter for each field, in their order. -/
theorem setterFields_of_convert
    (hconversion : convert naming knownTypes declaration = .ok conversion) :
    conversion.model.builder.setters.map Setter.field
      = conversion.fields.map Field.name := by
  obtain ⟨-, hmodel⟩ := convert_eq_ok_iff.1 hconversion
  obtain ⟨typeVars, -, hassemble⟩ := synthesize_eq_ok_iff.1 hmodel
  rw [← hassemble, setterFields_assemble]

/-- No field has two setters. -/
theorem setterFields_nodup
    (hconversion : convert naming knownTypes declaration = .ok conversion) :
    (conversion.model.builder.setters.map Setter.field).Nodup := by
  rw [setterFields_of_convert hconversion]
  exact Declaration.names_nodup_of_convertFields
    (convert_eq_ok_iff.1 hconversion).1

/-- **Where all names begin with a small letter**, the setters have different
names. -/
theorem setterNames_nodup
    (hconversion : convert naming knownTypes declaration = .ok conversion)
    (hlower : ∀ field ∈ conversion.fields, field.name.startsLower = true) :
    (conversion.model.builder.setters.map Setter.name).Nodup := by
  have hstarts : ∀ setter ∈ conversion.model.builder.setters,
      setter.field.startsLower = true := by
    intro setter hsetter
    have hfield := List.mem_map_of_mem (f := Setter.field) hsetter
    rw [setterFields_of_convert hconversion] at hfield
    obtain ⟨field, hmem, hname⟩ := List.mem_map.1 hfield
    exact hname ▸ hlower field hmem
  have hdistinct := setterFields_nodup hconversion
  rw [List.Nodup, List.pairwise_map] at hdistinct ⊢
  refine hdistinct.imp_of_mem fun hfirst hsecond hne hsame => hne ?_
  exact FieldName.eq_of_capitalized_eq (hstarts _ hfirst) (hstarts _ hsecond)
    ((setterName_eq_iff hconversion hfirst hsecond).1 hsame)

/-- **When setters conflict.**  The setters of a builder are for different
fields, two of them have the same name exactly when their fields have once
capitalized, and no two have the same name and take the same type exactly when
no two fields of the same type have the same capitalized name. -/
theorem setters_conflict_iff
    (hconversion : convert naming knownTypes declaration = .ok conversion) :
    (conversion.model.builder.setters.map Setter.field).Nodup
      ∧ (∀ first ∈ conversion.model.builder.setters,
        ∀ second ∈ conversion.model.builder.setters,
          (first.name = second.name ↔
            first.field.capitalized = second.field.capitalized))
      ∧ (conversion.model.builder.setters.Pairwise
          (fun first second => ¬first.Conflicts second) ↔
            conversion.model.builder.setters.Pairwise
              fun first second => ¬first.FieldsConflict second) := by
  refine ⟨setterFields_nodup hconversion, fun _ hfirst _ hsecond =>
    setterName_eq_iff hconversion hfirst hsecond, ?_⟩
  refine List.Pairwise.iff_of_mem fun {first second} hfirst hsecond =>
    not_congr ?_
  exact and_congr_left' (setterName_eq_iff hconversion hfirst hsecond)

end

/-- A declaration with two fields whose names differ in the case of the first
character alone, of different types. -/
def axisDeclaration : Declaration :=
  { name := "Axis", package := "com.plot",
    parameters? := some [{ name := "x", type := "int" },
      { name := "X", type := "java.lang.String" }] }

/-- The two setters are overloads, and the fields are told apart by their
types. -/
theorem setters_conflict_iff_axis :
    ∃ conversion, convert {} ∅ axisDeclaration = .ok conversion
      ∧ conversion.model.builder.setters.map Setter.name = ["setX", "setX"]
      ∧ conversion.model.builder.setters.Pairwise
        (fun first second => ¬first.Conflicts second)
      ∧ conversion.model.builder.setters.Pairwise
        fun first second => ¬first.FieldsConflict second := by
  have hshown : (convert {} ∅ axisDeclaration).toOption.map (fun conversion =>
      (conversion.model.builder.setters.map Setter.name,
        conversion.model.builder.setters.map fun setter =>
          setter.type.simpleName))
        = some (["setX", "setX"], ["Int", "String"]) := by decide +kernel
  obtain ⟨conversion, hconversion, hview⟩ := exists_ok_of_map_toOption hshown
  obtain ⟨hnames, htypes⟩ := Prod.mk.inj hview
  have hdistinct :
      (conversion.model.builder.setters.map fun setter =>
        setter.type.simpleName).Nodup := by
    rw [htypes]
    decide
  have hoverloads : conversion.model.builder.setters.Pairwise
      fun first second => ¬first.Conflicts second :=
    (List.pairwise_map.1 hdistinct).imp fun hne hconflict =>
      hne (congrArg TypeRef.simpleName hconflict.2)
  obtain ⟨-, -, hiff⟩ := setters_conflict_iff hconversion
  exact ⟨conversion, hconversion, hnames, hoverloads, hiff.1 hoverloads⟩

/-- Equality with a type without arguments is decided part by part. -/
instance TypeRef.decidableEqNamed (type : TypeRef)
    (package simpleName : String) :
    Decidable (type = .named package simpleName) :=
  decidable_of_iff (type.package = package ∧ type.simpleName = simpleName
    ∧ type.arguments.isEmpty = true ∧ type.nullable = false) <| by
    obtain ⟨_, _, arguments, _⟩ := type
    simp [named]

/-- A declaration with two fields whose names differ in the case of the first
character alone, of one type. -/
def labelDeclaration : Declaration :=
  { name := "Label", package := "com.plot",
    parameters? := some
      [{ name := "name", type := "java.lang.String" },
        { name := "Name", type := "java.lang.String" }] }

/-- **A builder can have two setters of one name that take the same type.**
Both fields of the declaration are set by a function `setName` of a string. -/
theorem not_forall_setters_distinct :
    ¬∀ (naming : Naming) (knownTypes : NameSet) (declaration : Declaration)
      (conversion : Conversion),
        convert naming knownTypes declaration = .ok conversion →
          conversion.model.builder.setters.Pairwise fun first second =>
            ¬first.Conflicts second := by
  intro hdistinct
  have hshown : (convert {} ∅ labelDeclaration).toOption.map (fun conversion =>
      conversion.model.builder.setters.map fun setter =>
        (setter.name, decide (setter.type = .named kotlinPackage "String")))
        = some [("setName", true), ("setName", true)] := by decide +kernel
  obtain ⟨conversion, hconversion, hview⟩ := exists_ok_of_map_toOption hshown
  obtain ⟨first, others, hsetters, hfirst, hothers⟩ :=
    List.map_eq_cons_iff.1 hview
  obtain ⟨second, _, rfl, hsecond, -⟩ := List.map_eq_cons_iff.1 hothers
  obtain ⟨hfirstName, hfirstType⟩ := Prod.mk.inj hfirst
  obtain ⟨hsecondName, hsecondType⟩ := Prod.mk.inj hsecond
  have hpairwise := hdistinct {} ∅ labelDeclaration conversion hconversion
  rw [hsetters, List.pairwise_cons] at hpairwise
  refine hpairwise.1 second List.mem_cons_self
    ⟨hfirstName.trans hsecondName.symm, ?_⟩
  exact (of_decide_eq_true hfirstType).trans
    (of_decide_eq_true hsecondType).symm

end KotlinBuilders
