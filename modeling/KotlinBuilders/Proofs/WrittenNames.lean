import KotlinBuilders.Proofs.BranchReachability
import KotlinBuilders.Proofs.SetterOverloads

/-!
# Names in source text

A field goes by its identifier wherever source text speaks of it: in the line
that declares its slot, in the argument that passes it to the constructor, and
in the check that asks whether it was given a value.  An escaped name is never a
plain one and the quotes around it can be taken away again, so identifiers tell
names apart, whatever characters the names are made of (`identifier_inj`).

What stands around an identifier does not undo this.  An argument holds its
identifier twice, so the two have one length in equal arguments
(`argumentText_injective`); no identifier begins like the reference to a
deferred slot (`identifier_ne_reference`); and the modifiers in front of a slot
are one of two kinds (`declarator_fieldProperty_inj`).  The main statement is
`names_written_apart`.
-/

namespace KotlinBuilders

/-! ## Where identifiers stand -/

/-- The argument that passes a field to a constructor. -/
def FieldName.argumentText (name : FieldName) : String :=
  name.identifier ++ " = this." ++ name.identifier

/-- The part of a slot's line in front of the type. -/
def Property.declarator (property : Property) : String :=
  " ".intercalate (property.modifiers.map Modifier.word) ++ " var "
    ++ property.name.identifier

/-- The part of a check that says which slot it asks about: a reference to the
slot or its value. -/
def PresenceCheck.subject : PresenceCheck → String
  | initialized field => "this::" ++ field.identifier
  | differs field _ => field.identifier

/-- The slots of a builder are written under different identifiers, in their own
lines and wherever `build` uses them. -/
structure BuilderClass.WrittenApart (builder : BuilderClass) : Prop where
  identifiers :
    (builder.properties.map fun property => property.name.identifier).Nodup
  /-- A line begins with the declarator of its slot. -/
  lines : ∀ property ∈ builder.properties, ∃ rest, property.line
    = property.declarator ++ ": " ++ rest
  slots : (builder.properties.map Property.declarator).Nodup
  /-- A call is written with the arguments of its fields. -/
  calls : ∀ call ∈ builder.body.calls,
    call.render = call.target ++ "("
    ++ commaList (call.arguments.map FieldName.argumentText) ++ ")"
  arguments : ∀ call ∈ builder.body.calls,
    (call.arguments.map FieldName.argumentText).Nodup
  /-- A check begins with what it asks about. -/
  questions : ∀ check ∈ builder.body.checks, ∃ question, check.render
    = check.subject ++ question
  checks : ∀ branch ∈ builder.body.branches,
    (branch.checks.map PresenceCheck.subject).Nodup
  /-- In different branches as well, what is asked about tells the field. -/
  subjects : ∀ first ∈ builder.body.checks, ∀ second ∈ builder.body.checks,
    first.subject = second.subject → first.field = second.field

/-! ## Identifiers in their surroundings -/

/-- Different names are written as different identifiers. -/
theorem FieldName.identifier_injective :
    Function.Injective FieldName.identifier := by
  intro first second hsame
  cases first
  cases second
  exact congrArg FieldName.mk (identifier_inj.1 hsame)

/-- A plain identifier is made of letters, numerals and underscores. -/
theorem not_mem_of_isPlainIdentifier {text : List Char} {c : Char}
    (hplain : isPlainIdentifier text = true) (hletter : Text.isLetter c = false)
    (hnumeral : Text.isNumeral c = false) (hc : c ≠ '_') : c ∉ text := by
  intro hmem
  have hunderscore : (c == '_') = false := by simpa using hc
  cases text with
  | nil => cases hmem
  | cons first rest =>
    obtain ⟨hfirst, hrest⟩ := Bool.and_eq_true_iff.1 hplain
    rcases List.mem_cons.1 hmem with rfl | hmem
    · simp [hletter, hunderscore] at hfirst
    · simpa [hletter, hnumeral, hunderscore]
        using List.all_eq_true.1 hrest c hmem

/-- No identifier begins like the reference to a deferred slot. -/
theorem identifier_ne_reference (name rest : String) :
    identifier name ≠ "this::" ++ rest := by
  intro hsame
  have htext := congrArg String.toList hsame
  unfold identifier at htext
  split at htext
  -- An escaped name begins with a quote, and a plain one has no colons.
  · simp [String.toList_append] at htext
  · next hplain =>
    rw [needsEscape, Bool.or_eq_true, not_or, Bool.not_eq_true',
      Bool.not_eq_false] at hplain
    have habsent : ':' ∉ name.toList :=
      not_mem_of_isPlainIdentifier hplain.2 (by decide) (by decide) (by decide)
    exact habsent (by rw [htext]; simp [String.toList_append])

/-- Different names are passed as different arguments. -/
theorem argumentText_injective : Function.Injective FieldName.argumentText := by
  intro first second hsame
  have htext := congrArg String.toList hsame
  simp only [FieldName.argumentText, String.toList_append] at htext
  have hlength :
      first.identifier.toList.length = second.identifier.toList.length := by
    have hlengths := congrArg List.length htext
    simp only [List.length_append] at hlengths
    omega
  have hidentifier := (List.append_inj htext (by simp [hlength])).2
  exact FieldName.identifier_injective (String.toList_inj.1 hidentifier)

/-- **What a check asks about tells the field.** -/
theorem field_eq_of_subject_eq {first second : PresenceCheck}
    (hsame : first.subject = second.subject) :
    first.field = second.field := by
  cases first with
  | initialized field =>
    cases second with
    | initialized other =>
      exact FieldName.identifier_injective ((String.append_right_inj _).1 hsame)
    | differs other literal =>
      exact absurd hsame.symm (identifier_ne_reference other.raw _)
  | differs field literal =>
    cases second with
    | initialized other =>
      exact absurd hsame (identifier_ne_reference field.raw _)
    | differs other literal => exact FieldName.identifier_injective hsame

/-- A property is declared as deferred or not, under the identifier of its
field. -/
theorem declarator_fieldProperty (field : Field) (type : TypeRef) :
    (fieldProperty field type).declarator
      = (if field.kind.isDeferred then "private lateinit var "
        else "private var ") ++ field.name.identifier := by
  have hmodifiers :
      (fieldProperty field type).modifiers = field.kind.modifiers := rfl
  rw [Property.declarator, hmodifiers, Kind.modifiers]
  cases field.kind.isDeferred <;> rfl

/-- **The declaration of a slot tells the field.** -/
theorem declarator_fieldProperty_inj {first second : Field}
    {firstType secondType : TypeRef}
    (hsame : (fieldProperty first firstType).declarator
      = (fieldProperty second secondType).declarator) :
    first.name = second.name := by
  rw [declarator_fieldProperty, declarator_fieldProperty] at hsame
  have hdeferred : first.kind.isDeferred = second.kind.isDeferred := by
    -- The two kinds of modifiers part at the ninth character.
    have hninth := congrArg (fun text => text.toList[8]?) hsame
    cases hfirst : first.kind.isDeferred <;>
      cases hsecond : second.kind.isDeferred <;>
      simp [hfirst, hsecond] at hninth ⊢
  rw [hdeferred] at hsame
  exact FieldName.identifier_injective ((String.append_right_inj _).1 hsame)

/-! ## The text of a builder -/

/-- What tells distinct things apart is distinct for them. -/
theorem nodup_map_of_imp {α β γ : Type} {name : α → β} {text : α → γ}
    {items : List α}
    (htells : ∀ first second, text first = text second →
      name first = name second) (hdistinct : (items.map name).Nodup) :
      (items.map text).Nodup := by
  rw [List.Nodup, List.pairwise_map] at hdistinct ⊢
  exact hdistinct.imp fun hne hsame => hne (htells _ _ hsame)

section Builder

variable {naming : Naming} {declaration : Declaration}
  {typeVars : List TypeVariable} {fields : List Field} {target : String}

/-- Among distinct names no call passes an argument twice. -/
theorem nodup_argumentText_of_mem_calls
    (hdistinct : (fields.map Field.name).Nodup) {call : ConstructorCall}
    (hcall : call ∈ (buildBody target fields).calls) :
    (call.arguments.map FieldName.argumentText).Nodup := by
  rw [calls_buildBody] at hcall
  obtain ⟨chosen, -, rfl⟩ := List.mem_map.1 hcall
  have hpassed : (callWith target fields chosen).arguments.Sublist
      (fields.map Field.name) :=
    List.filter_sublist.map Field.name
  exact (hpassed.nodup hdistinct).map argumentText_injective

/-- Among distinct names no branch asks about a slot twice. -/
theorem nodup_subject_of_mem_branches
    (hdistinct : (fields.map Field.name).Nodup) {branch : Branch}
    (hbranch : branch ∈ (buildBody target fields).branches) :
    (branch.checks.map PresenceCheck.subject).Nodup := by
  rw [branches_buildBody] at hbranch
  obtain ⟨chosen, hchosen, rfl⟩ := List.mem_map.1 hbranch
  have hsub : chosen.Sublist fields :=
    (mem_descendingSubsets.1 hchosen).1.trans List.filter_sublist
  have htells : ∀ first second : Field, first.check.subject
      = second.check.subject → first.name = second.name := by
    intro first second hsame
    rw [← first.field_check, ← second.field_check]
    exact field_eq_of_subject_eq hsame
  have hsubjects :=
    nodup_map_of_imp htells ((hsub.map Field.name).nodup hdistinct)
  rwa [← Function.comp_def, ← List.map_map] at hsubjects

/-- Among distinct names a builder writes its slots apart. -/
theorem writtenApart_assemble (hdistinct : (fields.map Field.name).Nodup) :
    (assemble naming declaration typeVars fields).builder.WrittenApart where
  identifiers := by
    rw [properties_assemble, List.map_map]
    exact nodup_map_of_imp (fun _ _ hsame =>
      FieldName.identifier_injective hsame) hdistinct
  lines property _ := ⟨_, String.append_assoc ..⟩
  slots := by
    rw [properties_assemble, List.map_map]
    exact nodup_map_of_imp (fun _ _ hsame =>
      declarator_fieldProperty_inj hsame) hdistinct
  calls _ _ := rfl
  arguments _ hcall := nodup_argumentText_of_mem_calls hdistinct hcall
  questions check _ := by
    cases check with
    | initialized field => exact ⟨".isInitialized", rfl⟩
    | differs field literal => exact ⟨" != " ++ literal, String.append_assoc ..⟩
  checks _ hbranch := nodup_subject_of_mem_branches hdistinct hbranch
  subjects _ _ _ _ := field_eq_of_subject_eq

end Builder

/-- **No two fields are written alike.**  Identifiers tell names apart, and so
do the arguments made of them.  In the builder of a converted declaration the
identifiers of the properties are distinct, and with them the declarations of
the slots, the arguments of each call and what the checks ask about. -/
theorem names_written_apart {naming : Naming} {knownTypes : NameSet}
    {declaration : Declaration} {conversion : Conversion}
    (hconversion : convert naming knownTypes declaration = .ok conversion) :
    Function.Injective identifier ∧ Function.Injective FieldName.argumentText
      ∧ conversion.model.builder.WrittenApart := by
  obtain ⟨hfields, hmodel⟩ := convert_eq_ok_iff.1 hconversion
  obtain ⟨typeVars, -, hassemble⟩ := synthesize_eq_ok_iff.1 hmodel
  rw [← hassemble]
  exact ⟨fun _ _ => identifier_inj.1, argumentText_injective,
    writtenApart_assemble (Declaration.names_nodup_of_convertFields hfields)⟩

/-- A declaration with a field of a plain name, one whose name is a keyword, and
two whose names hold quotes. -/
def quotesDeclaration : Declaration :=
  { name := "Quotes", package := "com.text",
    parameters? := some
      [{ name := "value", type := "com.text.Style", hasDefault := true },
        { name := "in", type := "int" },
        { name := "`in`", type := "com.text.Style", hasDefault := true },
        { name := "`value`", type := "int", hasDefault := true }] }

/-- The names are written apart, those with quotes of their own between two of
them. -/
theorem names_written_apart_quotes :
    ∃ conversion, convert {} ∅ quotesDeclaration = .ok conversion
      ∧ conversion.model.builder.WrittenApart
      ∧ conversion.model.builder.properties.map Property.declarator
        = ["private lateinit var value", "private var `in`",
          "private lateinit var ``in``", "private var ``value``"]
      ∧ conversion.model.builder.body.branches.length = 7 := by
  have hshown : (convert {} ∅ quotesDeclaration).toOption.map (fun conversion =>
      (conversion.model.builder.properties.map Property.declarator,
        conversion.model.builder.body.branches.length))
        = some (["private lateinit var value", "private var `in`",
          "private lateinit var ``in``", "private var ``value``"], 7) := by
      decide +kernel
  obtain ⟨conversion, hconversion, hview⟩ := exists_ok_of_map_toOption hshown
  obtain ⟨hdeclarators, hbranches⟩ := Prod.mk.inj hview
  obtain ⟨-, -, hapart⟩ := names_written_apart hconversion
  exact ⟨conversion, hconversion, hapart, hdeclarators, hbranches⟩

end KotlinBuilders
