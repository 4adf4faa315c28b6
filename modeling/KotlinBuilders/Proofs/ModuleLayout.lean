import KotlinBuilders.Kotlin.Rendering
import KotlinBuilders.Proofs.BranchReachability
import KotlinBuilders.Proofs.CodeLayout
import KotlinBuilders.Proofs.ImportClashes

/-!
# The layout of generated source

What is generated for a declaration reads as blocks within blocks, if no string
of its module breaks a line or brings a brace of its own (`Module.strings`): the
braces match, the lines are indented by them, and the class holds one line for
each property, each setter and each branch (`Module.layout_of_synthesize`).

Such strings stay inside a line, and so does what is put together from them
(`IsInline`).  A line could still begin with white space, if it began with
nothing: a slot without modifiers, or a branch without checks.  What is put
together for a declaration has neither (`BuilderClass.IsHeaded`).
-/

namespace KotlinBuilders

/-! ## Strings that stay inside a line -/

/-- Whether a text has neither a line break nor a brace. -/
def IsInline (text : String) : Prop := ∀ c ∈ text.toList, c ≠ '\n'
  ∧ c ≠ '{' ∧ c ≠ '}'

instance (text : String) : Decidable (IsInline text) :=
  List.decidableBAll _ text.toList

/-- Two inline texts are inline together. -/
theorem IsInline.append {front back : String} (hfront : IsInline front)
    (hback : IsInline back) :
    IsInline (front ++ back) := by
  rw [IsInline, String.toList_append]
  exact List.forall_mem_append.2 ⟨hfront, hback⟩

/-- The empty text is inline. -/
theorem isInline_empty : IsInline "" := by decide

/-- Inline texts are inline with an inline separator between them. -/
theorem IsInline.intercalate {separator : String}
    (hseparator : IsInline separator) :
    {texts : List String} → (∀ text ∈ texts, IsInline text) →
      IsInline (separator.intercalate texts)
  | [], _ => by
    rw [String.intercalate_nil]
    exact isInline_empty
  | [text], htexts => by
    rw [String.intercalate_singleton]
    exact htexts text List.mem_cons_self
  | first :: second :: rest, htexts => by
    obtain ⟨hfirst, hothers⟩ := List.forall_mem_cons.1 htexts
    rw [String.intercalate_cons_cons]
    exact (hfirst.append hseparator).append (hseparator.intercalate hothers)

/-- Inline texts are inline with commas between them. -/
theorem IsInline.commaList {texts : List String}
    (htexts : ∀ text ∈ texts, IsInline text) :
    IsInline (commaList texts) :=
  IsInline.intercalate (by decide) htexts

/-- An inline name stays inline as an identifier. -/
theorem IsInline.identifier {name : String} (hname : IsInline name) :
    IsInline (identifier name) := by
  unfold KotlinBuilders.identifier
  split
  · exact (IsInline.append (by decide) hname).append (by decide)
  · exact hname

/-! ## The strings of a module -/

/-- The strings of a type, those of its arguments included. -/
def TypeRef.strings (type : TypeRef) : List String :=
  type.nodes.flatMap fun node => [node.package, node.simpleName]

/-- The strings of a type parameter. -/
def TypeVariable.strings (typeVariable : TypeVariable) : List String :=
  typeVariable.name :: typeVariable.bounds.flatMap TypeRef.strings

/-- The strings of a property. -/
def Property.strings (property : Property) : List String :=
  property.name.raw :: (property.type.strings ++ property.initializer?.toList)

/-- The strings of a setter. -/
def Setter.strings (setter : Setter) : List String :=
  setter.name :: setter.field.raw :: setter.type.strings

/-- The strings of a call. -/
def ConstructorCall.strings (call : ConstructorCall) : List String :=
  call.target :: call.arguments.map FieldName.raw

/-- The strings of a test. -/
def PresenceCheck.strings : PresenceCheck → List String
  | .initialized field => [field.raw]
  | .differs field literal => [field.raw, literal]

/-- The strings of a branch. -/
def Branch.strings (branch : Branch) : List String :=
  branch.checks.flatMap PresenceCheck.strings ++ branch.call.strings

/-- The strings of what stands in the `build` function. -/
def BuildBody.strings : BuildBody → List String
  | .direct call => call.strings
  | .guarded branches fallback =>
    branches.flatMap Branch.strings ++ fallback.strings

/-- The strings of a builder class. -/
def BuilderClass.strings (builder : BuilderClass) : List String :=
  builder.name :: (builder.typeVariables.flatMap TypeVariable.strings
    ++ builder.properties.flatMap Property.strings
    ++ builder.setters.flatMap Setter.strings ++ builder.returnType.strings
    ++ builder.body.strings)

/-- The strings of a factory. -/
def Factory.strings (factory : Factory) : List String :=
  factory.name :: (factory.receiver.strings ++ factory.returns.strings
    ++ factory.typeVariables.flatMap TypeVariable.strings)

/-- The strings of the comment above a file. -/
def FileHeader.strings (header : FileHeader) : List String :=
  [header.source, header.generator]

/-- The strings of a module and of the comment above it. -/
def Module.strings (model : Module) (header? : Option FileHeader) :
    List String :=
  model.package :: model.fileName
    :: (header?.toList.flatMap FileHeader.strings ++ model.imports.toList
    ++ model.factory?.toList.flatMap Factory.strings ++ model.builder.strings)

/-! ## What is put together from them -/

/-- The strings of a type are its own two and those of its arguments. -/
theorem TypeRef.strings_eq (type : TypeRef) :
    type.strings = type.package :: type.simpleName :: type.arguments.flatMap
      TypeRef.strings := by
  rw [TypeRef.strings, type.nodes_eq, List.flatMap_cons, List.flatMap_assoc]
  rfl

mutual

/-- A type of inline strings is written inline. -/
theorem TypeRef.isInline_render :
    (type : TypeRef) → (∀ text ∈ type.strings, IsInline text) →
      IsInline type.render
  | ⟨package, simpleName, arguments, nullable⟩, hinline => by
    rw [TypeRef.strings_eq, List.forall_mem_cons,
      List.forall_mem_cons] at hinline
    have harguments := TypeRef.isInline_renderAll arguments hinline.2.2
    rw [TypeRef.render]
    refine (hinline.2.1.append ?_).append ?_
    · split
      · decide
      · exact (IsInline.append
          (by decide) (.intercalate (by decide) harguments)).append (by decide)
    · split <;> decide

/-- Types of inline strings are written inline one by one. -/
theorem TypeRef.isInline_renderAll :
    (types : List TypeRef) →
      (∀ text ∈ types.flatMap TypeRef.strings, IsInline text) →
      ∀ text ∈ TypeRef.renderAll types, IsInline text
  | [], _ => fun _ hmem => absurd hmem List.not_mem_nil
  | type :: types, hinline => by
    obtain ⟨htype, htypes⟩ :=
      List.forall_mem_append.1 (List.flatMap_cons ▸ hinline)
    exact List.forall_mem_cons.2 ⟨TypeRef.isInline_render type htype,
      TypeRef.isInline_renderAll types htypes⟩

end

/-- A bound is written inline as a constraint. -/
theorem TypeVariable.isInline_constraint {typeVariable : TypeVariable}
    (hinline : ∀ text ∈ typeVariable.strings, IsInline text) {bound : TypeRef}
    (hbound : bound ∈ typeVariable.bounds) :
    IsInline (typeVariable.constraint bound) := by
  obtain ⟨hname, hbounds⟩ := List.forall_mem_cons.1 hinline
  exact (hname.append (by decide)).append (bound.isInline_render
    (List.forall_mem_flatMap.1 hbounds bound hbound))

/-- A type parameter is written inline in the list. -/
theorem TypeVariable.isInline_inList {typeVariable : TypeVariable}
    (hinline : ∀ text ∈ typeVariable.strings, IsInline text) :
    IsInline typeVariable.inList := by
  unfold TypeVariable.inList
  split
  · next bound hbounds =>
      exact typeVariable.isInline_constraint hinline
        (hbounds ▸ List.mem_cons_self)
  · exact (List.forall_mem_cons.1 hinline).1

section

variable {typeVars : List TypeVariable}
  (hinline : ∀ text ∈ typeVars.flatMap TypeVariable.strings, IsInline text)

include hinline

/-- The list of the type parameters is inline. -/
theorem isInline_typeParameterList : IsInline (typeParameterList typeVars) := by
  unfold typeParameterList
  split
  · decide
  · have hall : ∀ text ∈ typeVars.map TypeVariable.inList, IsInline text :=
      List.forall_mem_map.2 fun typeVariable hmem =>
        typeVariable.isInline_inList (List.forall_mem_flatMap.1 hinline
          typeVariable hmem)
    exact (IsInline.append (by decide) (.commaList hall)).append (by decide)

/-- The clause with the other bounds is inline. -/
theorem isInline_whereClause : IsInline (whereClause typeVars) := by
  have hall : ∀ text ∈ severalBounds typeVars, IsInline text := by
    refine List.forall_mem_flatMap.2 fun typeVariable hmem =>
      List.forall_mem_map.2 fun bound hbound => ?_
    have hstrings := List.forall_mem_flatMap.1 hinline typeVariable
      (List.mem_of_mem_filter hmem)
    exact typeVariable.isInline_constraint hstrings hbound
  rw [whereClause]
  split
  · decide
  · exact IsInline.append (by decide) (.commaList hall)

end

/-- A call of inline strings is written inline. -/
theorem ConstructorCall.isInline_render {call : ConstructorCall}
    (hinline : ∀ text ∈ call.strings, IsInline text) :
    IsInline call.render := by
  obtain ⟨htarget, harguments⟩ := List.forall_mem_cons.1 hinline
  have hpassed : ∀ text ∈ call.arguments.map fun name =>
      name.identifier ++ " = this." ++ name.identifier, IsInline text := by
    refine List.forall_mem_map.2 fun name hmem => ?_
    have hname : IsInline name.identifier :=
      (List.forall_mem_map.1 harguments name hmem).identifier
    exact (hname.append (by decide)).append hname
  exact ((htarget.append (by decide)).append (.commaList hpassed)).append
    (by decide)

/-- A test of inline strings is written inline. -/
theorem PresenceCheck.isInline_render {check : PresenceCheck}
    (hinline : ∀ text ∈ check.strings, IsInline text) :
    IsInline check.render := by
  cases check with
  | initialized field =>
    have hname : IsInline field.identifier :=
      (List.forall_mem_singleton.1 hinline).identifier
    exact (IsInline.append (by decide) hname).append (by decide)
  | differs field literal =>
    obtain ⟨hname, hliteral⟩ := List.forall_mem_cons.1 hinline
    exact (hname.identifier.append (by decide)).append
      (List.forall_mem_singleton.1 hliteral)

/-- A branch of inline strings is written inline. -/
theorem Branch.isInline_line {branch : Branch}
    (hinline : ∀ text ∈ branch.strings, IsInline text) :
    IsInline branch.line := by
  obtain ⟨hchecks, hcall⟩ := List.forall_mem_append.1 hinline
  have hall : ∀ text ∈ branch.checks.map PresenceCheck.render,
      IsInline text := List.forall_mem_map.2 fun check hmem =>
    check.isInline_render (List.forall_mem_flatMap.1 hchecks check hmem)
  exact ((IsInline.intercalate (by decide) hall).append (by decide)).append
    (ConstructorCall.isInline_render hcall)

/-- A property of inline strings is written inline. -/
theorem Property.isInline_line {property : Property}
    (hinline : ∀ text ∈ property.strings, IsInline text) :
    IsInline property.line := by
  obtain ⟨hname, hinline⟩ := List.forall_mem_cons.1 hinline
  obtain ⟨htype, hinitializer⟩ := List.forall_mem_append.1 hinline
  have hmodifiers : ∀ text ∈ property.modifiers.map Modifier.word,
      IsInline text :=
    List.forall_mem_map.2 fun modifier _ => by cases modifier <;> decide
  have hwords :
      IsInline (" ".intercalate (property.modifiers.map Modifier.word)) :=
    .intercalate (by decide) hmodifiers
  refine ((((hwords.append (by decide)).append hname.identifier).append
    (by decide)).append (property.type.isInline_render htype)).append ?_
  split
  · next literal heq =>
    rw [heq] at hinitializer
    exact IsInline.append (by decide) (List.forall_mem_singleton.1 hinitializer)
  · decide

/-- A factory of inline strings is written inline. -/
theorem Factory.isInline_line {factory : Factory}
    (hinline : ∀ text ∈ factory.strings, IsInline text) :
    IsInline factory.line := by
  obtain ⟨hname, hinline⟩ := List.forall_mem_cons.1 hinline
  obtain ⟨htypes, htypeVars⟩ := List.forall_mem_append.1 hinline
  obtain ⟨hreceiver, hreturns⟩ := List.forall_mem_append.1 htypes
  have hsimple : IsInline factory.returns.simpleName := by
    rw [TypeRef.strings_eq, List.forall_mem_cons,
      List.forall_mem_cons] at hreturns
    exact hreturns.2.1
  have hparameters := isInline_typeParameterList htypeVars
  have hspaced :
      IsInline (if (typeParameterList factory.typeVariables).isEmpty then ""
      else typeParameterList factory.typeVariables ++ " ") := by
    split
    · decide
    · exact hparameters.append (by decide)
  exact (((((((((IsInline.append (by decide) hspaced).append
    (factory.receiver.isInline_render hreceiver)).append (by decide)).append
    hname).append (by decide)).append
    (factory.returns.isInline_render hreturns)).append
    (isInline_whereClause htypeVars)).append (by decide)).append
    hsimple).append (by decide)

/-! ## Where lines begin -/

/-- No white space is a letter. -/
theorem Text.isLetter_of_isBlank {c : Char} (hblank : isBlank c = true) :
    isLetter c = false := by
  have hcodes : ∀ range ∈ blankRanges,
      ∀ code ∈ List.range' range.1 (range.2 - range.1 + 1),
      isLetter (Char.ofNat code) = false := by decide +kernel
  obtain ⟨range, hrange, hlow, hhigh⟩ := Ranges.holds_iff.1 hblank
  have hletter :=
    hcodes range hrange c.toNat (List.mem_range'_1.2 ⟨hlow, by omega⟩)
  rwa [Char.ofNat_toNat] at hletter

/-- A text that is put together begins like its first part. -/
theorem beginsLine_foldl {first : String} (hfirst : beginsLine first = true)
    (rest : List String) :
    beginsLine (rest.foldl (· ++ ·) first) = true := by
  induction rest generalizing first with
  | nil => exact hfirst
  | cons text rest ih => exact ih (beginsLine_append hfirst text)

/-- A name stands in source text behind a letter, an underscore or a
backtick. -/
theorem beginsLine_identifier (name : String) :
    beginsLine (identifier name) = true := by
  unfold identifier
  split
  · exact beginsLine_append (beginsLine_append (by decide) name) _
  · next hplain =>
    simp only [needsEscape, Bool.or_eq_true, Bool.not_eq_true', not_or,
      Bool.not_eq_false] at hplain
    obtain ⟨-, hplain⟩ := hplain
    cases hname : name.toList with
    | nil =>
      rw [hname] at hplain
      cases hplain
    | cons first rest =>
      rw [hname, isPlainIdentifier, Bool.and_eq_true, Bool.or_eq_true,
        beq_iff_eq] at hplain
      refine beginsLine_iff.2 ⟨first, rest, hname, ?_, ?_⟩
      · rw [← Bool.not_eq_true]
        intro hblank
        rcases hplain.1 with hletter | rfl
        · rw [Text.isLetter_of_isBlank hblank] at hletter
          cases hletter
        · exact absurd hblank (by decide)
      · rintro rfl
        exact absurd hplain.1 (by decide)

/-- Every test begins a line. -/
theorem PresenceCheck.beginsLine_render (check : PresenceCheck) :
    beginsLine check.render = true := by
  cases check with
  | initialized field =>
    exact beginsLine_append (beginsLine_append (by decide) _) _
  | differs field literal =>
    exact beginsLine_append
      (beginsLine_append (beginsLine_identifier field.raw) _) _

/-- Joined texts begin like the first of them. -/
theorem beginsLine_intercalate {separator first : String}
    (hfirst : beginsLine first = true) (rest : List String) :
    beginsLine (separator.intercalate (first :: rest)) = true := by
  cases rest with
  | nil =>
    rw [String.intercalate_singleton]
    exact hfirst
  | cons second rest =>
    rw [String.intercalate_cons_cons]
    exact beginsLine_append (beginsLine_append hfirst _) _

/-- Whether each line of a class has something to begin with: each slot has a
modifier, and each branch asks for something. -/
structure BuilderClass.IsHeaded (builder : BuilderClass) : Prop where
  modifiers : ∀ property ∈ builder.properties, property.modifiers ≠ []
  checks : ∀ branch ∈ builder.body.branches, branch.checks ≠ []

/-- A property with a modifier begins a line. -/
theorem Property.beginsLine_line {property : Property}
    (hmodifiers : property.modifiers ≠ []) :
    beginsLine property.line = true := by
  obtain ⟨modifier, rest, hlist⟩ := List.exists_cons_of_ne_nil hmodifiers
  have hwords :
      beginsLine (" ".intercalate (property.modifiers.map Modifier.word))
        = true := by
    rw [hlist, List.map_cons]
    exact beginsLine_intercalate (by cases modifier <;> decide) _
  exact beginsLine_foldl hwords [_, _, _, _, _]

/-- A branch that asks for something begins a line. -/
theorem Branch.beginsLine_line {branch : Branch}
    (hchecks : branch.checks ≠ []) : beginsLine branch.line = true := by
  obtain ⟨check, rest, hlist⟩ := List.exists_cons_of_ne_nil hchecks
  have hcondition : beginsLine branch.condition = true := by
    rw [Branch.condition, hlist, List.map_cons]
    exact beginsLine_intercalate check.beginsLine_render _
  exact beginsLine_append (beginsLine_append hcondition _) _

/-- Every factory begins a line. -/
theorem Factory.beginsLine_line (factory : Factory) :
    beginsLine factory.line = true :=
  beginsLine_foldl (by decide) [_, _, _, _, _, _, _, _, _, _]

/-! ## Tidy pieces -/

/-- An inline text has neither a line break nor a brace. -/
theorem IsInline.not_mem {text : String} (hinline : IsInline text) :
    '\n' ∉ text.toList ∧ '{' ∉ text.toList ∧ '}' ∉ text.toList :=
  ⟨fun hmem => (hinline _ hmem).1 rfl, fun hmem => (hinline _ hmem).2.1 rfl,
    fun hmem => (hinline _ hmem).2.2 rfl⟩

/-- An inline text leaves the number of open braces as it is. -/
theorem IsInline.braceRun {text : String} (hinline : IsInline text)
    (depth : Nat) :
    BraceRun depth text.toList depth :=
  .of_not_mem hinline.not_mem.2.1 hinline.not_mem.2.2 depth

/-- An inline text that begins a line is tidy as a line. -/
theorem Code.isTidy_line {text : String} (hbegins : beginsLine text = true)
    (hinline : IsInline text) :
    (Code.line text).IsTidy :=
  ⟨hbegins, hinline.not_mem.1, hinline.braceRun 0⟩

/-- An inline text that begins a line is tidy as the header of a block. -/
theorem Code.isTidy_opening {header : String}
    (hbegins : beginsLine header = true) (hinline : IsInline header) :
    (Code.opening header).IsTidy :=
  ⟨hbegins, hinline.not_mem⟩

/-- A setter closes the one brace that it opens. -/
theorem Setter.isTidy_line {setter : Setter} {selfType : TypeRef}
    (hinline : ∀ text ∈ setter.strings, IsInline text)
    (hself : ∀ text ∈ selfType.strings, IsInline text) :
    (Code.line (setter.line selfType)).IsTidy := by
  obtain ⟨hname, hinline⟩ := List.forall_mem_cons.1 hinline
  obtain ⟨hfield, htype⟩ := List.forall_mem_cons.1 hinline
  let field := setter.field.identifier
  let declared := "fun " ++ setter.name ++ "(" ++ field ++ ": "
    ++ setter.type.render ++ "): " ++ selfType.render
  have hfield : IsInline field := hfield.identifier
  have hdeclared : IsInline declared :=
    ((((((IsInline.append (by decide) hname).append (by decide)).append
      hfield).append (by decide)).append (setter.type.isInline_render
        htype)).append (by decide)).append (selfType.isInline_render hself)
  have hline : setter.line selfType = declared ++ " = apply \x7b this." ++ field
      ++ " = " ++ field ++ " \x7d" := rfl
  have hopening : BraceRun 0 " = apply \x7b this.".toList 1 := by
    have hfront : BraceRun 0 " = apply ".toList 0 :=
      .of_not_mem (by decide) (by decide) 0
    exact hfront.append
      ((BraceRun.opening 0).append (.of_not_mem (by decide) (by decide) 1))
  have hclosing : BraceRun 1 " \x7d".toList 0 := by
    have hfront : BraceRun 1 " ".toList 1 :=
      .of_not_mem (by decide) (by decide) 1
    exact hfront.append (.closing 0)
  have hequals : BraceRun 1 " = ".toList 1 :=
    .of_not_mem (by decide) (by decide) 1
  rw [hline]
  refine ⟨?_, ?_, ?_⟩
  -- Twelve pieces come after the first one, those of the declared part among
  -- them.
  · exact beginsLine_foldl (by decide) [_, _, _, _, _, _, _, _, _, _, _, _]
  · simp only [String.toList_append, List.mem_append, not_or]
    exact ⟨⟨⟨⟨⟨hdeclared.not_mem.1, by decide⟩, hfield.not_mem.1⟩, by decide⟩,
      hfield.not_mem.1⟩, by decide⟩
  · simp only [String.toList_append]
    exact (((((hdeclared.braceRun 0).append hopening).append
      (hfield.braceRun 1)).append hequals).append (hfield.braceRun
        1)).append hclosing

/-! ## The pieces of a module -/

/-- Whether a piece is blank or a line that opens no block, not even one that it
closes again. -/
def Code.IsPlain : Code → Prop
  | .line text => beginsLine text = true ∧ IsInline text
  | .blank => True
  | .opening _ | .closing => False

/-- Plain pieces of code are tidy. -/
theorem Code.AllTidy.of_isPlain {codes : List Code}
    (hplain : ∀ code ∈ codes, code.IsPlain) : AllTidy codes := by
  induction codes with
  | nil => exact ⟨.nil, fun _ hmem => absurd hmem List.not_mem_nil⟩
  | cons code codes ih =>
    obtain ⟨hcode, hrest⟩ := List.forall_mem_cons.1 hplain
    obtain ⟨hnested, htidy⟩ := ih hrest
    cases code with
    | line text =>
      exact ⟨.line hnested,
        List.forall_mem_cons.2 ⟨Code.isTidy_line hcode.1 hcode.2, htidy⟩⟩
    | blank => exact ⟨.blank hnested, List.forall_mem_cons.2 ⟨trivial, htidy⟩⟩
    | opening | closing => exact hcode.elim

/-- Plain pieces have no braces. -/
theorem Code.braces_not_mem_lines {codes : List Code}
    (hplain : ∀ code ∈ codes, code.IsPlain) :
    ∀ line ∈ Code.lines 0 codes, '{' ∉ line ∧ '}' ∉ line := by
  induction codes with
  | nil => exact fun _ hmem => absurd hmem List.not_mem_nil
  | cons code codes ih =>
    obtain ⟨hcode, hrest⟩ := List.forall_mem_cons.1 hplain
    cases code with
    | line text =>
      refine List.forall_mem_cons.2 ⟨?_, ih hrest⟩
      rw [Code.written, Code.lineAt_of_beginsLine hcode.1]
      exact hcode.2.not_mem.2
    | blank =>
      exact List.forall_mem_cons.2
        ⟨⟨List.not_mem_nil, List.not_mem_nil⟩, ih hrest⟩
    | opening | closing => exact hcode.elim

/-- What stands above the class is plain. -/
theorem Module.isPlain_preamble {model : Module} {header? : Option FileHeader}
    (hinline : ∀ text ∈ model.strings header?, IsInline text) :
    ∀ code ∈ model.preamble header?, code.IsPlain := by
  obtain ⟨hpackage, hinline⟩ := List.forall_mem_cons.1 hinline
  obtain ⟨-, hinline⟩ := List.forall_mem_cons.1 hinline
  obtain ⟨hinline, -⟩ := List.forall_mem_append.1 hinline
  obtain ⟨hinline, hfactory⟩ := List.forall_mem_append.1 hinline
  obtain ⟨hheader, himports⟩ := List.forall_mem_append.1 hinline
  have hgroup {codes : List Code} (hcodes : ∀ code ∈ codes, code.IsPlain) :
      ∀ code ∈ codes ++ [.blank], code.IsPlain :=
    List.forall_mem_append.2 ⟨hcodes, List.forall_mem_singleton.2 trivial⟩
  have hsingle {text : String} (hbegins : beginsLine text = true)
      (hinline : IsInline text) :
      ∀ code ∈ [Code.line text, .blank], code.IsPlain :=
    @hgroup [.line text] (List.forall_mem_singleton.2 ⟨hbegins, hinline⟩)
  have hnone : ∀ code ∈ ([] : List Code), code.IsPlain :=
    fun _ hmem => absurd hmem List.not_mem_nil
  unfold Module.preamble
  rw [List.forall_mem_append, List.forall_mem_append, List.forall_mem_append]
  refine ⟨⟨⟨?header, ?package⟩, ?imports⟩, ?factory⟩
  case header =>
    cases header? with
    | none => exact hnone
    | some header =>
      have hstrings :=
        List.forall_mem_flatMap.1 hheader header List.mem_cons_self
      obtain ⟨hsource, hgenerator⟩ := List.forall_mem_cons.1 hstrings
      refine hgroup (List.forall_mem_cons.2 ⟨⟨?_, ?_⟩,
        List.forall_mem_singleton.2 ⟨?_, ?_⟩⟩)
      · exact beginsLine_append (beginsLine_append (by decide) _) _
      · exact (IsInline.append
          (by decide) (List.forall_mem_singleton.1
            hgenerator)).append (by decide)
      · exact beginsLine_append (by decide) _
      · exact IsInline.append (by decide) hsource
  case package =>
    split
    · exact hnone
    · exact hsingle
        (beginsLine_append (by decide) _) (IsInline.append (by decide) hpackage)
  case imports =>
    split
    · exact hnone
    · refine hgroup (List.forall_mem_map.2 fun name hmem => ⟨?_, ?_⟩)
      · exact beginsLine_append (by decide) _
      · exact IsInline.append (by decide) (himports name hmem)
  case factory =>
    split
    · next factory hsome =>
      rw [hsome] at hfactory
      have hstrings :=
        List.forall_mem_flatMap.1 hfactory factory List.mem_cons_self
      exact hsingle factory.beginsLine_line (Factory.isInline_line hstrings)
    · exact hnone

/-- The branches stand in one block, with the call for all other cases last. -/
theorem BuildBody.code_guarded (branches : List Branch)
    (fallback : ConstructorCall) :
    (BuildBody.guarded branches fallback).code
      = .opening "return when" ::
        ((branches.map (.line ·.line)
          ++ [.line ("else -> " ++ fallback.render)]) ++ [.closing]) := by
  simp [BuildBody.code]

/-- The code of a `build` function is tidy when its strings are inline and each
branch asks for something. -/
theorem BuildBody.allTidy_code {body : BuildBody}
    (hinline : ∀ text ∈ body.strings, IsInline text)
    (hchecks : ∀ branch ∈ body.branches, branch.checks ≠ []) :
    Code.AllTidy body.code := by
  cases body with
  | direct call =>
    refine .of_isPlain
      (List.forall_mem_singleton.2 ⟨beginsLine_append (by decide) _, ?_⟩)
    exact IsInline.append (by decide) (ConstructorCall.isInline_render hinline)
  | guarded branches fallback =>
    obtain ⟨hbranches, hfallback⟩ := List.forall_mem_append.1 hinline
    rw [BuildBody.code_guarded]
    refine .block (Code.isTidy_opening (by decide) (by decide)) (.of_isPlain ?_)
    refine List.forall_mem_append.2
      ⟨List.forall_mem_map.2 fun branch hmem => ⟨?_, ?_⟩,
        List.forall_mem_singleton.2 ⟨?_, ?_⟩⟩
    · exact Branch.beginsLine_line (hchecks branch hmem)
    · exact Branch.isInline_line
        (List.forall_mem_flatMap.1 hbranches branch hmem)
    · exact beginsLine_append (by decide) _
    · exact IsInline.append
        (by decide) (ConstructorCall.isInline_render hfallback)

namespace BuilderClass

/-- What stands in the class. -/
def inside (builder : BuilderClass) : List Code :=
  builder.propertyCode ++ builder.setterCode ++ builder.buildCode

/-- The code of a class is its headline with everything else in a block. -/
theorem code_eq (builder : BuilderClass) :
    builder.code = .opening builder.headline
      :: (builder.inside ++ [.closing]) :=
  rfl

/-- Whether all strings of a class stay inside a line. -/
structure IsInline (builder : BuilderClass) : Prop where
  name : KotlinBuilders.IsInline builder.name
  typeVariables : ∀ text ∈ builder.typeVariables.flatMap TypeVariable.strings,
    KotlinBuilders.IsInline text
  properties : ∀ property ∈ builder.properties, ∀ text ∈ property.strings,
    KotlinBuilders.IsInline text
  setters : ∀ setter ∈ builder.setters, ∀ text ∈ setter.strings,
    KotlinBuilders.IsInline text
  returnType : ∀ text ∈ builder.returnType.strings, KotlinBuilders.IsInline text
  body : ∀ text ∈ builder.body.strings, KotlinBuilders.IsInline text

/-- A class of inline strings is inline, part by part. -/
theorem isInline_of_strings {builder : BuilderClass}
    (hinline : ∀ text ∈ builder.strings, KotlinBuilders.IsInline text) :
    builder.IsInline := by
  obtain ⟨hname, hinline⟩ := List.forall_mem_cons.1 hinline
  obtain ⟨hinline, hbody⟩ := List.forall_mem_append.1 hinline
  obtain ⟨hinline, hreturnType⟩ := List.forall_mem_append.1 hinline
  obtain ⟨hinline, hsetters⟩ := List.forall_mem_append.1 hinline
  obtain ⟨htypeVariables, hproperties⟩ := List.forall_mem_append.1 hinline
  exact ⟨hname, htypeVariables, List.forall_mem_flatMap.1 hproperties,
    List.forall_mem_flatMap.1 hsetters, hreturnType, hbody⟩

section

variable {builder : BuilderClass} (hinline : builder.IsInline)

include hinline

/-- The strings of the type of the class are among its own. -/
theorem isInline_selfType :
    ∀ text ∈ builder.selfType.strings, KotlinBuilders.IsInline text := by
  rw [TypeRef.strings_eq]
  refine List.forall_mem_cons.2 ⟨isInline_empty,
    List.forall_mem_cons.2 ⟨hinline.name, ?_⟩⟩
  refine List.forall_mem_flatMap.2
    (List.forall_mem_map.2 fun typeVariable hmem => ?_)
  have hname :=
    (List.forall_mem_cons.1 (List.forall_mem_flatMap.1 hinline.typeVariables
      typeVariable hmem)).1
  rw [TypeRef.strings_eq]
  exact List.forall_mem_cons.2 ⟨isInline_empty,
    List.forall_mem_singleton.2 hname⟩

/-- The headline of a class is tidy. -/
theorem isTidy_headline : (Code.opening builder.headline).IsTidy := by
  refine Code.isTidy_opening ?_ ?_
  · exact beginsLine_append
      (beginsLine_append (beginsLine_append (by decide) _) _) _
  · exact ((IsInline.append
      (by decide) hinline.name).append (isInline_typeParameterList
        hinline.typeVariables)).append (isInline_whereClause
          hinline.typeVariables)

/-- The code of the properties is made of plain lines. -/
theorem isPlain_propertyCode (hheaded : builder.IsHeaded) :
    ∀ code ∈ builder.propertyCode, code.IsPlain := by
  refine List.forall_mem_append.2
    ⟨List.forall_mem_map.2 fun property hmem => ⟨?_, ?_⟩, ?_⟩
  · exact Property.beginsLine_line (hheaded.modifiers property hmem)
  · exact Property.isInline_line (hinline.properties property hmem)
  · split
    · exact fun _ hnone => absurd hnone List.not_mem_nil
    · exact List.forall_mem_singleton.2 trivial

/-- The setters of a class are tidy. -/
theorem allTidy_setterCode : Code.AllTidy builder.setterCode := by
  have hlines : ∀ setter ∈ builder.setters,
      (Code.line (setter.line builder.selfType)).IsTidy :=
    fun setter hmem => Setter.isTidy_line (hinline.setters setter hmem)
      (isInline_selfType hinline)
  unfold setterCode
  revert hlines
  induction builder.setters with
  | nil => exact fun _ => .of_isPlain fun _ hmem => absurd hmem List.not_mem_nil
  | cons setter setters ih =>
    intro hlines
    obtain ⟨hline, hlines⟩ := List.forall_mem_cons.1 hlines
    obtain ⟨hnested, htidy⟩ := ih hlines
    exact ⟨.line (.blank hnested),
      List.forall_mem_cons.2 ⟨hline, List.forall_mem_cons.2 ⟨trivial, htidy⟩⟩⟩

/-- The `build` function of a class is tidy. -/
theorem allTidy_buildCode (hheaded : builder.IsHeaded) :
    Code.AllTidy builder.buildCode := by
  refine .block (Code.isTidy_opening ?_ ?_)
    (BuildBody.allTidy_code hinline.body hheaded.checks)
  · exact beginsLine_append (by decide) _
  · exact IsInline.append
      (by decide) (builder.returnType.isInline_render hinline.returnType)

/-- What stands in a class is tidy. -/
theorem allTidy_inside (hheaded : builder.IsHeaded) :
    Code.AllTidy builder.inside :=
  ((Code.AllTidy.of_isPlain (isPlain_propertyCode hinline hheaded)).append
    (allTidy_setterCode hinline)).append (allTidy_buildCode hinline hheaded)

/-- The code of a class is tidy. -/
theorem allTidy_code (hheaded : builder.IsHeaded) : Code.AllTidy builder.code :=
  .block (isTidy_headline hinline) (allTidy_inside hinline hheaded)

end

end BuilderClass

/-! ## The lines of a class -/

/-- The lines of what stands in the `build` function. -/
def BuildBody.lines : BuildBody → List (List Char)
  | .direct call => [Code.lineAt 2 ("return " ++ call.render)]
  | .guarded branches fallback =>
    Code.lineAt 2 "return when \x7b" :: (branches.map (Code.lineAt 3 ·.line)
      ++ [Code.lineAt 3 ("else -> " ++ fallback.render), Code.lineAt 2 "\x7d"])

/-- The lines of a class from the first property to the end of `build`, without
the empty ones. -/
def BuilderClass.items (builder : BuilderClass) : List (List Char) :=
  builder.properties.map (Code.lineAt 1 ·.line)
    ++ builder.setters.map (fun setter =>
      Code.lineAt 1 (setter.line builder.selfType))
    ++ Code.lineAt 1 ("fun build(): " ++ builder.returnType.render
      ++ " \x7b") :: (builder.body.lines ++ [Code.lineAt 1 "\x7d"])

/-- Lines of text open no block. -/
theorem Code.nested_map_line {α : Type} (text : α → String) (items : List α) :
    Code.Nested (items.map fun item => .line (text item)) := by
  induction items with
  | nil => exact .nil
  | cons item items ih => exact .line ih

/-- **The lines of a body**: one for each branch and one more. -/
theorem BuildBody.lines_code (body : BuildBody) :
    Code.lines 2 body.code = body.lines := by
  cases body with
  | direct call => rfl
  | guarded branches fallback =>
    have hbranches := Code.nested_map_line Branch.line branches
    rw [BuildBody.code_guarded, Code.Nested.lines_block
      (hbranches.append (.line .nil)), hbranches.lines_append,
      Code.lines_map_line, List.append_assoc]
    rfl

/-- The code of a `build` function is well nested, whatever its strings are. -/
theorem BuildBody.nested_code (body : BuildBody) : Code.Nested body.code := by
  cases body with
  | direct call => exact .line .nil
  | guarded branches fallback =>
    rw [BuildBody.code_guarded]
    exact .block
      ((Code.nested_map_line Branch.line branches).append (.line .nil)) .nil

/-- The code of a `build` function has no blank line. -/
theorem BuildBody.blank_not_mem_code (body : BuildBody) :
    Code.blank ∉ body.code := by
  cases body <;> simp [BuildBody.code]

namespace BuilderClass

variable (builder : BuilderClass)

/-- What stands in the class besides blank lines. -/
theorem filter_inside : builder.inside.filter (· ≠ .blank)
    = builder.properties.map (.line ·.line) ++ builder.setters.map
      (fun setter => .line (setter.line builder.selfType))
      ++ builder.buildCode := by
  have hproperties : builder.propertyCode.filter (· ≠ .blank)
      = builder.properties.map (.line ·.line) := by
    have hlines :
        (builder.properties.map (Code.line ·.line)).filter (· ≠ .blank) = _ :=
      List.filter_eq_self.2 (List.forall_mem_map.2 fun _ _ => rfl)
    rw [propertyCode, List.filter_append, hlines]
    split <;> exact List.append_nil _
  have hsetters : builder.setterCode.filter (· ≠ .blank)
      = builder.setters.map
        (fun setter => .line (setter.line builder.selfType)) := by
    rw [setterCode, List.filter_flatMap, List.map_eq_flatMap]
    rfl
  have hbuild : builder.buildCode.filter (· ≠ .blank) = builder.buildCode := by
    refine List.filter_eq_self.2 (List.forall_mem_cons.2 ⟨rfl,
      List.forall_mem_append.2 ⟨fun code hmem => ?_, ?_⟩⟩)
    · exact decide_eq_true
        (ne_of_mem_of_not_mem hmem builder.body.blank_not_mem_code)
    · exact List.forall_mem_singleton.2 rfl
  rw [inside, List.filter_append, List.filter_append, hproperties,
    hsetters, hbuild]

/-- **What a class holds**: one line for each property and each setter, and the
`build` function. -/
theorem filter_lines_inside (htidy : Code.AllTidy builder.inside) :
    (Code.lines 1 builder.inside).filter (· ≠ []) = builder.items := by
  have hproperties := Code.nested_map_line Property.line builder.properties
  have hsetters :=
    Code.nested_map_line (Setter.line · builder.selfType) builder.setters
  have hbuild : Code.lines 1 builder.buildCode = _ :=
    builder.body.nested_code.lines_block 1 _ []
  rw [Code.filter_lines htidy.tidy, builder.filter_inside,
    (hproperties.append hsetters).lines_append, hproperties.lines_append,
    Code.lines_map_line, Code.lines_map_line, hbuild, BuildBody.lines_code]
  rfl

end BuilderClass

/-! ## Modules -/

/-- What is put together for a declaration has a modifier in each slot and a
check in each branch. -/
theorem isHeaded_of_synthesize {naming : Naming} {declaration : Declaration}
    {fields : List Field} {model : Module}
    (hmodel : synthesize naming declaration fields = .ok model) :
    model.builder.IsHeaded := by
  obtain ⟨typeVars, -, rfl⟩ := synthesize_eq_ok_iff.1 hmodel
  constructor
  · intro property hmem
    simp only [assemble, List.map_map, List.zipWith_map_right,
      List.zipWith_self, List.mem_map] at hmem
    obtain ⟨field, -, rfl⟩ := hmem
    change field.kind.modifiers ≠ []
    rw [Kind.modifiers]
    split <;> exact List.cons_ne_nil _ _
  · intro branch hmem
    change branch ∈ (buildBody declaration.name fields).branches at hmem
    rw [branches_buildBody, List.mem_map] at hmem
    obtain ⟨chosen, hchosen, rfl⟩ := hmem
    exact fun hnone =>
      (mem_descendingSubsets.1 hchosen).2 (List.map_eq_nil_iff.1 hnone)

/-- **Generated source is laid out by its blocks.**  If no string of a module
and of the comment above it has a line break or a brace, the braces of the text
match and its lines are indented by them.  Above the class there is no block.
The class holds one line for each property and for each setter, in order, and
the `build` function: one line for each branch and one for all other cases, or a
single line. -/
theorem Module.layout_of_synthesize {naming : Naming}
    {declaration : Declaration} {fields : List Field} {model : Module}
    {header? : Option FileHeader}
    (hmodel : synthesize naming declaration fields = .ok model)
    (hinline : ∀ text ∈ model.strings header?, IsInline text) :
    LaidOut (model.render header?).toList
      ∧ ∃ above inside, textLines (model.render header?).toList
            = above ++ Code.lineAt 0 (model.builder.headline ++ " \x7b")
              :: (inside ++ [Code.lineAt 0 "\x7d", []])
          ∧ (∀ line ∈ above, '{' ∉ line ∧ '}' ∉ line)
          ∧ inside.filter (· ≠ []) = model.builder.items := by
  have hheaded := isHeaded_of_synthesize hmodel
  have hpreamble := Module.isPlain_preamble hinline
  have hbuilder : model.builder.IsInline := by
    obtain ⟨-, hinline⟩ := List.forall_mem_cons.1 hinline
    obtain ⟨-, hinline⟩ := List.forall_mem_cons.1 hinline
    exact BuilderClass.isInline_of_strings (List.forall_mem_append.1 hinline).2
  have hinside := BuilderClass.allTidy_inside hbuilder hheaded
  have hcode : Code.AllTidy (model.code header?) :=
    (Code.AllTidy.of_isPlain hpreamble).append
      (BuilderClass.allTidy_code hbuilder hheaded)
  refine ⟨hcode.laidOut, Code.lines 0 (model.preamble header?),
    Code.lines 1 model.builder.inside, ?_, Code.braces_not_mem_lines hpreamble,
    model.builder.filter_lines_inside hinside⟩
  have hlines := hcode.textLines_renderCode
  rw [Module.code, (Code.AllTidy.of_isPlain hpreamble).nested.lines_append,
    BuilderClass.code_eq, hinside.nested.lines_block, List.append_assoc,
    List.cons_append, List.append_assoc] at hlines
  exact hlines

/-- A required and an optional field. -/
def segmentFields : List Field :=
  [⟨⟨"start"⟩, "geo.Point", false, .custom ⟨"geo", "Point"⟩ [] false⟩,
    ⟨⟨"width"⟩, "int", true, .primitive .int false⟩]

/-- A class with two slots and one branch. -/
theorem layout_of_synthesize_segment :
    ∃ model,
      synthesize {} { name := "Segment", package := "draw" } segmentFields
          = .ok model
      ∧ LaidOut (model.render (some { source := "draw.json" })).toList
      ∧ ∃ above inside,
        textLines (model.render (some { source := "draw.json" })).toList
            = above ++ "class SegmentBuilder \x7b".toList
              :: (inside ++ ["\x7d".toList, []])
          ∧ (inside.filter (· ≠ [])).map String.ofList =
            ["    private lateinit var start: Point",
              "    private var width: Int = 0",
              "    fun setStart(start: Point): SegmentBuilder = apply \x7b this.start = start \x7d",
              "    fun setWidth(width: Int): SegmentBuilder = apply \x7b this.width = width \x7d",
              "    fun build(): Segment \x7b",
              "        return when \x7b",
              "            width != 0 -> Segment(start = this.start, width = this.width)",
              "            else -> Segment(start = this.start)",
              "        \x7d",
              "    \x7d"] := by
  have hmodel : synthesize {} { name := "Segment", package := "draw" }
      segmentFields = .ok _ := rfl
  obtain ⟨hlaidOut, above, inside, hlines, -, hitems⟩ :=
    @Module.layout_of_synthesize _ _ _ _ (some { source := "draw.json" }) hmodel
      (by decide +kernel)
  refine ⟨_, hmodel, hlaidOut, above, inside, hlines, ?_⟩
  rw [hitems]
  decide +kernel

end KotlinBuilders
