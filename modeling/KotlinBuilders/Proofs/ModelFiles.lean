import KotlinBuilders.Batch.Files
import KotlinBuilders.Proofs.PrintedJson
import Mathlib.Logic.Function.Basic

/-!
# The model of a module loses nothing

Two modules with the same model file are the same module.  The text of the file
is a document of one tree only, and a tree with decoded strings is what one
value writes, so equal texts come from equal values (`Json.pretty_injective`).
From the value everything that a module holds can be told: a missing factory or
initializer is `null`, which nothing else writes, the forms of a check and of a
body differ in their mark, and a type writes its arguments in full.

The main statement is `contents_model_eq_iff`.  It follows that the source text
of a module can be told from its model file, whatever name of a source stands in
it.
-/

namespace KotlinBuilders

namespace Json

/-! ## Printed values -/

/-- Different texts are spelled differently. -/
theorem StringText.ofText_injective : Function.Injective StringText.ofText := by
  intro text other hsame
  have hdecoded : (StringText.ofText text).decode
      = (StringText.ofText other).decode := congrArg _ hsame
  rw [StringText.decode_ofText, StringText.decode_ofText] at hdecoded
  exact Except.ok.inj hdecoded

mutual

/-- The tree of a value says what the value is. -/
theorem Node.eq_of_ofJson_eq :
    (a b : Json) → Node.ofJson a = Node.ofJson b → a = b
  | .null, b, hsame => by
    cases b <;> simp_all [Node.ofJson]
  | .bool value, b, hsame => by
    cases b <;> simp_all [Node.ofJson]
  | .string text, b, hsame => by
    cases b with
    | string other =>
      exact congrArg _ (StringText.ofText_injective (Node.string.inj hsame))
    | _ => simp [Node.ofJson] at hsame
  | .list elements, b, hsame => by
    cases b with
    | list others =>
      exact congrArg _
        (Node.eq_of_ofElements_eq elements others (Node.list.inj hsame).1)
    | _ => simp [Node.ofJson] at hsame
  | .object members, b, hsame => by
    cases b with
    | object others =>
      exact congrArg _
        (Node.eq_of_ofMembers_eq members others (Node.object.inj hsame).1)
    | _ => simp [Node.ofJson] at hsame

/-- Lists of elements with the same trees are the same. -/
theorem Node.eq_of_ofElements_eq :
    (a b : List Json) → Node.ofElements a = Node.ofElements b → a = b
  | [], [], _ => rfl
  | [], _ :: _, hsame | _ :: _, [], hsame => by simp [Node.ofElements] at hsame
  | element :: elements, other :: others, hsame => by
    obtain ⟨hfirst, hrest⟩ := List.cons.inj hsame
    rw [Node.eq_of_ofJson_eq element other hfirst,
      Node.eq_of_ofElements_eq elements others hrest]

/-- Lists of members with the same trees are the same. -/
theorem Node.eq_of_ofMembers_eq : (a b : List (String × Json)) →
    Node.ofMembers a = Node.ofMembers b → a = b
  | [], [], _ => rfl
  | [], _ :: _, hsame | _ :: _, [], hsame => by simp [Node.ofMembers] at hsame
  | (name, value) :: members, (otherName, other) :: others, hsame => by
    obtain ⟨hfirst, hrest⟩ := List.cons.inj hsame
    obtain ⟨hname, hvalue⟩ := Prod.mk.inj hfirst
    rw [StringText.ofText_injective hname,
      Node.eq_of_ofJson_eq value other hvalue,
      Node.eq_of_ofMembers_eq members others hrest]

end

/-- **Equal texts come from equal values.** -/
theorem pretty_injective : Function.Injective pretty := by
  intro a b hsame
  have htree : Node.ofJson a = Node.ofJson b := by
    rw [← (Node.writtenAs_pretty a).ofBytes_eq,
      ← (Node.writtenAs_pretty b).ofBytes_eq, hsame]
  exact Node.eq_of_ofJson_eq a b htree

/-! ## The parts of a module -/

/-- Objects with the same first key have the same values under it and agree on
the rest. -/
theorem object_cons_eq_iff {key : String} {value other : Json}
    {members others : List (String × Json)} :
    object ((key, value) :: members) = object ((key, other) :: others) ↔
      value = other ∧ object members = object others := by
  simp

/-- Different optional texts are written differently. -/
theorem ofText?_injective : Function.Injective ofText? := by
  intro text? other? hsame
  cases text? <;> cases other? <;> simp_all [ofText?]

/-- Lists are written differently when their elements are. -/
theorem list_map_injective {α : Type} {toJson : α → Json}
    (hinjective : Function.Injective toJson) :
    Function.Injective fun values : List α => list (values.map toJson) :=
  fun _ _ hsame => hinjective.list_map (list.inj hsame)

/-- Different lists of texts are written differently. -/
theorem ofTexts_injective : Function.Injective ofTexts :=
  list_map_injective fun _ _ => string.inj

/-- A value, or `null` where there is none, is told apart if no value is written
as `null`. -/
theorem getD_null_injective {α : Type} {toJson : α → Json}
    (hinjective : Function.Injective toJson)
    (hnull : ∀ value, toJson value ≠ .null) :
    Function.Injective
      fun value? : Option α => (value?.map toJson).getD .null := by
  intro value? other? hsame
  cases value? with
  | none =>
    cases other? with
    | none => rfl
    | some other => exact absurd hsame.symm (hnull other)
  | some value =>
    cases other? with
    | none => exact absurd hsame (hnull value)
    | some other => exact congrArg some (hinjective hsame)

end Json

open Json

namespace TypeRef

mutual

/-- Types that are written alike are the same. -/
theorem eq_of_toJson_eq : (a b : TypeRef) → a.toJson = b.toJson → a = b
  | ⟨package, simpleName, arguments, nullable⟩,
      ⟨package', simpleName', arguments', nullable'⟩, hsame => by
    simp only [toJson, object_cons_eq_iff] at hsame
    obtain ⟨hpackage, hsimpleName, harguments, hnullable, -⟩ := hsame
    rw [string.inj hpackage, string.inj hsimpleName,
      eq_of_toJsonAll_eq arguments arguments' (list.inj harguments),
      bool.inj hnullable]

/-- Lists of types that are written alike are the same. -/
theorem eq_of_toJsonAll_eq : (a b : List TypeRef) →
    toJsonAll a = toJsonAll b → a = b
  | [], [], _ => rfl
  | [], _ :: _, hsame | _ :: _, [], hsame => by simp [toJsonAll] at hsame
  | type :: types, other :: others, hsame => by
    obtain ⟨hfirst, hrest⟩ := List.cons.inj hsame
    rw [eq_of_toJson_eq type other hfirst,
      eq_of_toJsonAll_eq types others hrest]

end

/-- Different types are written differently. -/
theorem toJson_injective : Function.Injective toJson := eq_of_toJson_eq

end TypeRef

/-- Different names of fields are written differently. -/
theorem FieldName.toJson_injective : Function.Injective FieldName.toJson := by
  intro name other hsame
  exact (FieldName.mk.injEq ..).mpr (string.inj hsame)

/-- Different modifiers are different words. -/
theorem Modifier.word_injective : Function.Injective Modifier.word := by
  intro modifier other hsame
  cases modifier <;> cases other <;>
    first | rfl | exact absurd hsame (by decide)

/-- Different type parameters are written differently. -/
theorem TypeVariable.toJson_injective :
    Function.Injective TypeVariable.toJson := by
  intro a b hsame
  simp only [toJson, object_cons_eq_iff] at hsame
  obtain ⟨hname, hbounds, -⟩ := hsame
  exact (TypeVariable.mk.injEq ..).mpr ⟨string.inj hname,
    list_map_injective TypeRef.toJson_injective hbounds⟩

/-- Different properties are written differently. -/
theorem Property.toJson_injective : Function.Injective Property.toJson := by
  intro a b hsame
  simp only [toJson, object_cons_eq_iff] at hsame
  obtain ⟨hname, htype, hmodifiers, hinitializer, -⟩ := hsame
  exact (Property.mk.injEq ..).mpr ⟨FieldName.toJson_injective hname,
    TypeRef.toJson_injective htype,
    Modifier.word_injective.list_map (ofTexts_injective hmodifiers),
    ofText?_injective hinitializer⟩

/-- Different setters are written differently. -/
theorem Setter.toJson_injective : Function.Injective Setter.toJson := by
  intro a b hsame
  simp only [toJson, object_cons_eq_iff] at hsame
  obtain ⟨hname, hfield, htype, -⟩ := hsame
  exact (Setter.mk.injEq ..).mpr
    ⟨string.inj hname, FieldName.toJson_injective hfield,
      TypeRef.toJson_injective htype⟩

/-- Different constructor calls are written differently. -/
theorem ConstructorCall.toJson_injective :
    Function.Injective ConstructorCall.toJson := by
  intro a b hsame
  simp only [toJson, object_cons_eq_iff] at hsame
  obtain ⟨htarget, harguments, -⟩ := hsame
  exact (ConstructorCall.mk.injEq ..).mpr
    ⟨string.inj htarget,
      list_map_injective FieldName.toJson_injective harguments⟩

/-- The mark of a check says of which form it is. -/
theorem PresenceCheck.toJson_injective :
    Function.Injective PresenceCheck.toJson := by
  intro a b hsame
  cases a with
  | initialized field =>
    cases b with
    | initialized other =>
      simp only [toJson, object_cons_eq_iff] at hsame
      exact congrArg _ (FieldName.toJson_injective hsame.2.1)
    | differs => simp [toJson] at hsame
  | differs field literal =>
    cases b with
    | initialized => simp [toJson] at hsame
    | differs other otherLiteral =>
      simp only [toJson, object_cons_eq_iff] at hsame
      obtain ⟨-, hfield, hliteral, -⟩ := hsame
      rw [FieldName.toJson_injective hfield, string.inj hliteral]

/-- Different branches are written differently. -/
theorem Branch.toJson_injective : Function.Injective Branch.toJson := by
  intro a b hsame
  simp only [toJson, object_cons_eq_iff] at hsame
  obtain ⟨hchecks, hcall, -⟩ := hsame
  exact (Branch.mk.injEq ..).mpr
    ⟨list_map_injective PresenceCheck.toJson_injective hchecks,
      ConstructorCall.toJson_injective hcall⟩

/-- The mark of a body says of which form it is. -/
theorem BuildBody.toJson_injective : Function.Injective BuildBody.toJson := by
  intro a b hsame
  cases a with
  | direct call =>
    cases b with
    | direct other =>
      simp only [toJson, object_cons_eq_iff] at hsame
      exact congrArg _ (ConstructorCall.toJson_injective hsame.2.1)
    | guarded => simp [toJson] at hsame
  | guarded branches fallback =>
    cases b with
    | direct => simp [toJson] at hsame
    | guarded others otherFallback =>
      simp only [toJson, object_cons_eq_iff] at hsame
      obtain ⟨-, hbranches, hfallback, -⟩ := hsame
      rw [list_map_injective Branch.toJson_injective hbranches,
        ConstructorCall.toJson_injective hfallback]

/-- Different builder classes are written differently. -/
theorem BuilderClass.toJson_injective :
    Function.Injective BuilderClass.toJson := by
  intro a b hsame
  simp only [toJson, object_cons_eq_iff] at hsame
  obtain ⟨hname, htypeVariables, hproperties, hsetters,
      ⟨hreturnType, hbody, -⟩, -⟩ := hsame
  exact (BuilderClass.mk.injEq ..).mpr ⟨string.inj hname,
    list_map_injective TypeVariable.toJson_injective htypeVariables,
    list_map_injective Property.toJson_injective hproperties,
    list_map_injective Setter.toJson_injective hsetters,
    TypeRef.toJson_injective hreturnType, BuildBody.toJson_injective hbody⟩

/-- Different factories are written differently. -/
theorem Factory.toJson_injective : Function.Injective Factory.toJson := by
  intro a b hsame
  simp only [toJson, object_cons_eq_iff] at hsame
  obtain ⟨hname, hreceiver, hreturns, htypeVariables, -⟩ := hsame
  exact (Factory.mk.injEq ..).mpr ⟨string.inj hname,
    TypeRef.toJson_injective hreceiver, TypeRef.toJson_injective hreturns,
    list_map_injective TypeVariable.toJson_injective htypeVariables⟩

/-- Sets of the same list are the same. -/
theorem NameSet.toList_injective : Function.Injective NameSet.toList := by
  intro names others hsame
  exact NameSet.ext_mem fun name =>
    by rw [NameSet.mem_iff, NameSet.mem_iff, hsame]

/-- **A module can be told from its model.** -/
theorem Module.toJson_injective : Function.Injective Module.toJson := by
  intro a b hsame
  simp only [toJson, object_cons_eq_iff] at hsame
  obtain ⟨hpackage, hfileName, himports, hfactory, hbuilder, -⟩ := hsame
  have hfactories := getD_null_injective Factory.toJson_injective
    (fun factory => by simp [Factory.toJson]) hfactory
  exact (Module.mk.injEq ..).mpr ⟨string.inj hpackage, string.inj hfileName,
    NameSet.toList_injective (ofTexts_injective himports), hfactories,
    BuilderClass.toJson_injective hbuilder⟩

/-- Different modules have different model files. -/
theorem Module.pretty_toJson_injective :
    Function.Injective fun model : Module => model.toJson.pretty :=
  pretty_injective.comp Module.toJson_injective

/-- **A model file loses nothing.**  Modules have the same model file, whatever
sources they were made from, only if they are the same in every part; so the
source text that is generated for a module from a named source is a function of
its model file and of that name. -/
theorem contents_model_eq_iff :
    (∀ (a b : Module) (source source' : String),
        a.contents .model source = b.contents .model source' ↔ a = b)
      ∧ ∃ kotlin : String → String → String,
        ∀ (model : Module) (source source' : String),
          kotlin source (model.contents .model source')
            = model.contents .kotlin source := by
  constructor
  · intro a b source source'
    exact Module.pretty_toJson_injective.eq_iff
  · let kotlin := fun source =>
      Function.extend (fun model : Module => model.toJson.pretty)
        (·.contents .kotlin source) fun _ => ""
    refine ⟨kotlin, fun model source source' => ?_⟩
    exact Module.pretty_toJson_injective.extend_apply _ _ model

end KotlinBuilders
