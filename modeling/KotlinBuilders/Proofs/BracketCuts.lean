import KotlinBuilders.Proofs.ArityMismatches
import KotlinBuilders.Proofs.NestedKinds

/-!
# Where a type is cut

A generic type is cut at its first opening angle bracket and at its last
character, and the two need not belong together: in `Outer<Key>.Inner<Value>`
each of them is one half of another pair.  The arguments are balanced exactly
when the two do (`Text.forall_isBalanced_arguments_iff`).

What was cut apart shows in the kind.  The argument is then kept as a name of
its own, and some name that comes out of it has a bracket without its other half
(`HostType.exists_unbalanced_of_wrongClosing`), so the names of a kind tell
whether anything in the type was cut wrongly.  A name is cut once more, at a
dot, and this dot may stand inside the round brackets of a function.

`brackets_kept_iff` says both of a whole type, and `exists_brackets_cut` that
balance alone is not enough.
-/

namespace KotlinBuilders

/-! ## Texts -/

namespace Text

/-- A text whose first opening angle bracket is closed by its last character:
the brackets that are open in front of the one are open again behind the other,
and nowhere in between. -/
def ClosesAtEnd (text : List Char) : Prop :=
  ∃ front inner, '<' ∉ front ∧ text = front ++ '<' :: inner ++ ['>']
    ∧ openAfter [] (marks text) = openAfter [] (marks front)
    ∧ ∀ middle rest, inner = middle ++ rest →
        openAfter [] (marks (front ++ '<' :: middle))
          ≠ openAfter [] (marks front)

/-- In front of a balanced text, balance decides. -/
theorem isBalanced_append_iff_left {front back : List Char}
    (hjoint : NoArrow front back) (hback : isBalanced back) :
    isBalanced (front ++ back) ↔ isBalanced front := by
  have hsame :
      openAfter [] (marks (front ++ back)) = openAfter [] (marks front) := by
    rw [marks_append hjoint, openAfter_append]
    cases hfront : openAfter [] (marks front) with
    | none => rfl
    | some unclosed => exact openAfter_below (isBalanced_iff.1 hback) unclosed
  rw [isBalanced_iff, isBalanced_iff, hsame]

/-- An opening angle bracket lies on top of those that are open in front of
it. -/
theorem openAfter_append_angle {front : List Char} {outside : List Bracket}
    (hfront : openAfter [] (marks front) = some outside) (inner : List Char) :
    openAfter [] (marks (front ++ '<' :: inner))
      = openAfter (.angle :: outside) (marks inner) := by
  have hafter : marksAfter (some '<') inner = marks inner :=
    marksAfter_eq_marks (by simp)
  rw [marks_append (noArrow_of_head? (by simp)), openAfter_append,
    hfront, ← hafter]
  rfl

/-- The brackets that are open in front of the last character of
`front<inner>`. -/
theorem openAfter_angle {front inner : List Char}
    {outside unclosed : List Bracket}
    (hfront : openAfter [] (marks front) = some outside)
    (hinner : openAfter [] (marks inner) = some unclosed) :
    openAfter [] (marks (front ++ '<' :: inner))
      = some (unclosed ++ .angle :: outside) := by
  rw [openAfter_append_angle hfront]
  exact openAfter_below hinner (.angle :: outside)

/-- A last `>` closes an angle bracket, unless it is the head of an arrow. -/
theorem openAfter_marks_append_angle {text : List Char}
    {unclosed : List Bracket}
    (htext : openAfter [] (marks text) = some unclosed) :
    openAfter [] (marks (text ++ ['>'])) = some unclosed
      ∨ openAfter [] (marks (text ++ ['>']))
        = openAfter unclosed [.closing .angle] := by
  rw [marks, marksAfter_append, openAfter_append, ← marks, htext]
  by_cases harrow : text.getLast? = some '-'
  · simp [marksAfter, markAfter, harrow, openAfter]
  · simp [marksAfter, markAfter, harrow, Mark.ofChar?]

/-- What a balanced text encloses opens no bracket that it does not close. -/
theorem isBalanced_of_enclosed {front inner : List Char}
    (hwhole : isBalanced (front ++ '<' :: inner ++ ['>']))
    {unclosed : List Bracket}
    (hinner : openAfter [] (marks inner) = some unclosed) :
    isBalanced inner ∧ isBalanced front := by
  obtain ⟨outside, hfront⟩ :=
    exists_openAfter_of_isBalanced (List.append_assoc .. ▸ hwhole)
  have hend := openAfter_marks_append_angle (openAfter_angle hfront hinner)
  rw [isBalanced_iff.1 hwhole] at hend
  rcases hend with hend | hend
  · simp at hend
  · cases unclosed with
    | nil =>
      have houtside : outside = [] := by simpa [openAfter] using hend
      exact ⟨isBalanced_iff.2 hinner, isBalanced_iff.2 (houtside ▸ hfront)⟩
    | cons bracket unclosed =>
      rw [List.cons_append, openAfter] at hend
      split at hend
      · simp [openAfter] at hend
      · simp at hend

/-- A text that gets along with one more open bracket, but not without it,
closes it somewhere. -/
theorem exists_openAfter_eq_nil {bracket : Bracket}
    {unclosed final : List Bracket} {before : Option Char} {text : List Char}
    (hwithout : openAfter unclosed (marksAfter before text) = none)
    (hwith : openAfter (unclosed ++ [bracket]) (marksAfter before text)
      = some final) :
    ∃ middle rest, text = middle ++ rest
      ∧ openAfter (unclosed ++ [bracket]) (marksAfter before middle)
        = some [] := by
  -- `unclosed` holds what the text has opened itself; `bracket` is closed where
  -- a closing mark finds it empty.
  induction text generalizing unclosed before with
  | nil => simp [marksAfter, openAfter] at hwithout
  | cons c text ih =>
    rw [marksAfter] at hwithout hwith
    cases hmark : markAfter before c with
    | none =>
      rw [hmark] at hwithout hwith
      obtain ⟨middle, rest, rfl, hmiddle⟩ := ih hwithout hwith
      exact ⟨c :: middle, rest, rfl, by rwa [marksAfter, hmark]⟩
    | some mark =>
      rw [hmark] at hwithout hwith
      cases mark with
      | opening inside =>
        obtain ⟨middle, rest, rfl, hmiddle⟩ := ih hwithout hwith
        exact ⟨c :: middle, rest, rfl, by rwa [marksAfter, hmark]⟩
      | closing inside =>
        cases unclosed with
        | nil =>
          simp only [Option.toList_some, List.nil_append, List.cons_append,
            openAfter] at hwith
          split at hwith
          · next hsame =>
              exact ⟨[c], text, rfl,
                by simp [marksAfter, hmark, openAfter, hsame]⟩
          · cases hwith
        | cons last unclosed =>
          simp only [Option.toList_some, List.nil_append, List.cons_append,
            openAfter] at hwithout hwith
          split at hwith
          · next hsame =>
            rw [if_pos hsame] at hwithout
            obtain ⟨middle, rest, rfl, hmiddle⟩ := ih hwithout hwith
            refine ⟨c :: middle, rest, rfl, ?_⟩
            rw [marksAfter, hmark]
            simpa only [Option.toList_some, List.nil_append, List.cons_append,
              openAfter, if_pos hsame] using hmiddle
          · cases hwith

/-- **The last character closes the first bracket exactly when what stands
between the two is balanced.** -/
theorem closesAtEnd_iff {front inner : List Char} (hfront : '<' ∉ front)
    (hwhole : isBalanced (front ++ '<' :: inner ++ ['>'])) :
    ClosesAtEnd (front ++ '<' :: inner ++ ['>']) ↔ isBalanced inner := by
  constructor
  · rintro ⟨front', inner', hfront', hshape, hends, hopen⟩
    have hcut :
        some (front, inner ++ ['>']) = some (front', inner' ++ ['>']) := by
      rw [← cutAtFirst_append hfront, ← cutAtFirst_append hfront']
      simpa using congrArg (cutAtFirst '<') hshape
    obtain ⟨rfl, hsame⟩ := Prod.mk.inj (Option.some.inj hcut)
    obtain rfl := List.append_cancel_right hsame
    rw [isBalanced_iff.1 hwhole] at hends
    cases hinner : openAfter [] (marks inner) with
    | some unclosed => exact (isBalanced_of_enclosed hwhole hinner).1
    | none =>
      obtain ⟨final, hfinal⟩ := exists_openAfter_of_isBalanced hwhole
      rw [openAfter_append_angle hends.symm] at hfinal
      obtain ⟨middle, rest, hsplit, hmiddle⟩ :=
        exists_openAfter_eq_nil hinner hfinal
      exact absurd ((openAfter_append_angle hends.symm middle).trans
        (hmiddle.trans hends)) (hopen middle rest hsplit)
  · intro hinner
    have houter := isBalanced_iff.1
      (isBalanced_of_enclosed hwhole (isBalanced_iff.1 hinner)).2
    refine ⟨front, inner, hfront, rfl,
      (isBalanced_iff.1 hwhole).trans houter.symm, fun middle rest hsplit => ?_⟩
    obtain ⟨unclosed, hmiddle⟩ :=
      exists_openAfter_of_isBalanced (hsplit ▸ hinner)
    rw [openAfter_angle houter hmiddle, houter]
    simp

/-- **The arguments are balanced exactly when the outermost angle brackets
belong together.** -/
theorem forall_isBalanced_arguments_iff {text outer : List Char}
    {arguments : List (List Char)} (htext : isBalanced text)
    (hsplit : splitGeneric text = some (outer, arguments)) :
    (∀ argument ∈ arguments, isBalanced argument) ↔
      ClosesAtEnd (trim text) := by
  obtain ⟨front, inner, hfront, hwhole, -, rfl⟩ := exists_of_splitGeneric hsplit
  rw [← isBalanced_trim, hwhole] at htext
  rw [forall_isBalanced_splitTopLevel_iff isSeparator_comma, hwhole,
    closesAtEnd_iff hfront htext]

/-- Between balanced texts no closing bracket meets a wrong one. -/
theorem openAfter_enclosed_ne_none {front inner : List Char}
    (hfront : isBalanced front) (hinner : isBalanced inner) :
    openAfter [] (marks (front ++ '<' :: inner ++ ['>'])) ≠ none := by
  have hopen :=
    openAfter_angle (isBalanced_iff.1 hfront) (isBalanced_iff.1 hinner)
  rcases openAfter_marks_append_angle hopen with hend | hend <;> rw [hend] <;>
    simp [openAfter]

/-- The dot is a separator. -/
theorem isSeparator_dot : IsSeparator '.' := ⟨rfl, by decide, by decide⟩

/-- A dot separates the marks in front of it from those behind it. -/
theorem marks_append_dot (front back : List Char) :
    marks (front ++ '.' :: back) = marks front ++ marks back := by
  rw [marks_append (noArrow_of_head? (by simp)),
    marks_separator_cons isSeparator_dot]

end Text

/-- A bound brings no brackets along. -/
theorem marks_withoutBound (text : List Char) :
    Text.marks (withoutBound text) = Text.marks text := by
  rw [withoutBound]
  cases hbound :
      wildcardBounds.findSome? fun bound => Text.dropFront? bound text with
  | none => rfl
  | some rest =>
    obtain ⟨bound, hmem, hdrop⟩ := List.exists_of_findSome?_eq_some hbound
    have hplain : ∀ bound ∈ wildcardBounds,
        bound.all (fun c => (Text.Mark.ofChar? c).isNone)
        ∧ bound.getLast? ≠ some '-' := by decide
    obtain ⟨hunmarked, hlast⟩ := hplain bound hmem
    have hnone : Text.marks bound = [] :=
      Text.marksAfter_eq_nil fun c hc =>
        Option.isNone_iff_eq_none.1 (List.all_eq_true.1 hunmarked c hc)
    rw [Text.eq_of_dropFront? hdrop, Text.marks_append
      (Text.noArrow_of_getLast? hlast), hnone, List.nil_append]
    exact Text.marks_trim rest

/-- A text is as balanced as what is read of it. -/
theorem isBalanced_bare (text : List Char) :
    Text.isBalanced (withoutBound (Text.trim text)) = Text.isBalanced text := by
  rw [Text.isBalanced, marks_withoutBound, Text.marks_trim]
  rfl

/-! ## Names -/

namespace QualifiedName

/-- The package and the simple name are balanced, each by itself. -/
def IsWhole (name : QualifiedName) : Prop :=
  Text.isBalanced name.package.toList ∧ Text.isBalanced name.simpleName.toList

/-- A rendered name has the brackets of its two parts. -/
theorem marks_render (name : QualifiedName) :
    Text.marks name.render.toList = Text.marks name.package.toList
      ++ Text.marks name.simpleName.toList := by
  rw [render]
  split
  · next hempty =>
    rw [String.isEmpty_iff.1 hempty]
    rfl
  · rw [String.toList_append, String.toList_append, List.append_assoc]
    exact Text.marks_append_dot _ _

/-- The name that is read from a text has the marks of the text. -/
theorem marks_render_ofTrimmed (text : List Char) :
    Text.marks (ofTrimmed text).render.toList = Text.marks text := by
  rw [marks_render, ofTrimmed]
  split
  · next hcut =>
    rw [Text.eq_of_cutAtLast hcut, Text.marks_append_dot, String.toList_ofList,
      String.toList_ofList]
  · exact congrArg Text.marks String.toList_ofList

/-- Where a name is cut does not change its brackets. -/
theorem isBalanced_render_ofText (text : List Char) :
    Text.isBalanced (ofText text).render.toList = Text.isBalanced text := by
  rw [Text.isBalanced, ofText, marks_render_ofTrimmed, Text.marks_trim]
  rfl

/-- The name of a text that is kept as it is. -/
theorem toList_render_opaque (text : List Char) :
    (QualifiedName.mk "" (String.ofList text)).render.toList = text :=
  String.toList_ofList

/-- The name of a custom type has the marks of the text it is read from. -/
theorem marks_render_customName (text : List Char) :
    Text.marks (Kind.customName text).render.toList = Text.marks text := by
  rw [marks_render, Kind.customName]
  split
  · next package simpleName hcut =>
    have hwhole :
        text = package ++ '.' :: (simpleName ++ text.dropWhile (· != '<')) := by
      have hends : text.takeWhile (· != '<') ++ text.dropWhile (· != '<')
          = text := List.takeWhile_append_dropWhile
      rw [Text.eq_of_cutAtLast hcut, List.append_assoc,
        List.cons_append] at hends
      exact hends.symm
    rw [String.toList_ofList, String.toList_ofList,
      ← Text.marks_append_dot, ← hwhole]
  · exact congrArg Text.marks String.toList_ofList

/-- A balanced name is whole if its package is. -/
theorem isWhole_iff {name : QualifiedName}
    (hname : Text.isBalanced name.render.toList) :
    name.IsWhole ↔ Text.isBalanced name.package.toList := by
  refine ⟨And.left, fun hpackage => ⟨hpackage, ?_⟩⟩
  rw [Text.isBalanced_iff, marks_render, Text.openAfter_append,
    Text.isBalanced_iff.1 hpackage] at hname
  exact Text.isBalanced_iff.2 hname

/-- The parts of a whole name make a balanced one. -/
theorem IsWhole.isBalanced_render {name : QualifiedName}
    (hname : name.IsWhole) :
    Text.isBalanced name.render.toList := by
  rw [Text.isBalanced_iff, marks_render, Text.openAfter_append,
    Text.isBalanced_iff.1 hname.1]
  exact Text.isBalanced_iff.1 hname.2

end QualifiedName

namespace Kind

mutual

/-- The names of the custom types in a kind. -/
def customNames : Kind → List QualifiedName
  | .custom name arguments _ => name :: customNamesAll arguments
  | .array element _ | .collection _ _ element _ | .comparable element _
      | .enumeration element _ => customNames element
  | .map _ _ key value _ => customNames key ++ customNames value
  | _ => []

/-- The names of the custom types in several kinds. -/
def customNamesAll : List Kind → List QualifiedName
  | [] => []
  | kind :: kinds => customNames kind ++ customNamesAll kinds

end

/-- Each opaque argument names one custom type, by its whole text. -/
theorem customNamesAll_opaque (texts : List (List Char)) :
    customNamesAll (texts.map (opaqueType · false))
      = texts.map fun text => ⟨"", String.ofList text⟩ := by
  induction texts with
  | nil => rfl
  | cons text texts ih =>
    rw [List.map_cons, customNamesAll, ih, List.map_cons,
      opaqueType, customNames]
    rfl

/-- Reading a kind with flags changes none of its custom names. -/
theorem customNames_readWith (flags : TypeFlags) (kind : Kind) :
    (kind.readWith flags).customNames = kind.customNames := by
  cases kind with
  | primitive type =>
    simp only [readWith, ofPrimitive]
    split <;> rfl
  | _ => simp [readWith, customNames]

/-- An array of a primitive type names no custom type. -/
theorem customNames_ofPrimitiveArray (flags : TypeFlags) (element : Primitive) :
    (ofPrimitiveArray flags element).customNames = [] := by
  rw [ofPrimitiveArray]
  split <;> simp [customNames]

/-- A container has the names of its arguments. -/
theorem customNames_of_kind? {flags : TypeFlags} {container : Container}
    {arguments : List Kind} {kind : Kind}
    (hkind : container.kind? flags arguments = some kind) :
    kind.customNames = customNamesAll arguments := by
  rcases arguments with _ | ⟨a, _ | ⟨b, _ | ⟨c, rest⟩⟩⟩ <;> cases container <;>
    simp only [Container.kind?, Option.some.injEq, reduceCtorEq] at hkind <;>
    simp [← hkind, customNames, customNamesAll]

/-- A generic type has the names of its arguments, and unless it is a container
a name of its own. -/
theorem customNames_of_ofGeneric {flags : TypeFlags} {outer : List Char}
    {arguments : List Kind} {kind : Kind}
    (hkind : ofGeneric flags outer arguments = .ok kind) :
    kind.customNames
      = (if (Container.ofName? (String.ofList outer)).isSome then []
        else [.ofText outer])
        ++ customNamesAll arguments := by
  rw [ofGeneric] at hkind
  split at hkind
  · next container hcontainer =>
    split at hkind
    · next found hfound =>
      obtain rfl := Except.ok.inj hkind
      rw [customNames_of_kind? hfound, hcontainer]
      rfl
    · cases hkind
  · next hnone =>
    obtain rfl := Except.ok.inj hkind
    rw [customNames, hnone]
    rfl

end Kind

namespace HostType

/-- The names of custom types that a type brings along itself, those of its
parts left aside. -/
def ownNames : HostType → List QualifiedName
  | .named name => (Kind.ofName {} name).customNames
  | .applied outer _ => if (Container.ofName? (String.ofList outer)).isSome
      then [] else [.ofText outer]
  | .brokenGeneric outer arguments =>
    .ofText outer :: arguments.map fun argument => ⟨"", String.ofList argument⟩
  | .brokenName text => [⟨"", String.ofList text⟩]
  | _ => []

mutual

/-- The names of custom types that a type is classified with. -/
def customNames : HostType → List QualifiedName
  | .arrayOf element => customNames element
  | .applied outer arguments =>
    ownNames (.applied outer arguments) ++ customNamesAll arguments
  | type => ownNames type

/-- The names of custom types that several types are classified with. -/
def customNamesAll : List HostType → List QualifiedName
  | [] => []
  | type :: types => customNames type ++ customNamesAll types

end

mutual

/-- **The names in a kind can be told from the type.** -/
theorem customNames_of_classify : (type : HostType) → {flags : TypeFlags} →
    {slots : List Bool} → {kind : Kind} →
    (hkind : type.classify flags slots = .ok kind) →
    kind.customNames = type.customNames
  | .arrayOf element, flags, slots, kind, hkind => by
    obtain ⟨elementKind, helement, hkind⟩ := bind_eq_ok_iff.1 hkind
    obtain rfl := Except.ok.inj hkind
    rw [Kind.customNames, customNames, customNames_of_classify element helement]
  | .applied outer arguments, flags, slots, kind, hkind => by
    obtain ⟨kinds, hkinds, hkind⟩ := bind_eq_ok_iff.1 hkind
    rw [Kind.customNames_of_ofGeneric hkind,
      customNamesAll_of_classifyAll arguments hkinds, customNames, ownNames]
  | .named name, flags, slots, kind, hkind => by
    obtain rfl := Except.ok.inj hkind
    rw [Kind.ofName_eq_readWith, Kind.customNames_readWith]
    simp [customNames, ownNames]
  | .primitiveArray element, flags, slots, kind, hkind => by
    obtain rfl := Except.ok.inj hkind
    simp [Kind.customNames_ofPrimitiveArray, customNames, ownNames]
  | .brokenGeneric outer arguments, flags, slots, kind, hkind => by
    obtain rfl := Except.ok.inj hkind
    simp [Kind.customNames, Kind.customNamesAll_opaque, customNames, ownNames]
  | .brokenName _, flags, slots, kind, hkind => by
    obtain rfl := Except.ok.inj hkind
    simp [Kind.opaqueType, Kind.customNames, Kind.customNamesAll,
      customNames, ownNames]
  | .blank, flags, slots, kind, hkind
      | .wildcard, flags, slots, kind, hkind => by
    obtain rfl := Except.ok.inj hkind
    simp [Kind.customNames, customNames, ownNames]

/-- The custom names of classified types are those that the types are classified
with, one after the other. -/
theorem customNamesAll_of_classifyAll : (types : List HostType) →
    {slots : List Bool} → {kinds : List Kind} →
    (hkinds : classifyAll slots types = .ok kinds) →
    Kind.customNamesAll kinds = customNamesAll types
  | [], slots, kinds, hkinds => by
    obtain rfl := Except.ok.inj hkinds
    rfl
  | type :: types, slots, kinds, hkinds => by
    obtain ⟨first, hfirst, hkinds⟩ := bind_eq_ok_iff.1 hkinds
    obtain ⟨others, hothers, hkinds⟩ := bind_eq_ok_iff.1 hkinds
    obtain rfl := Except.ok.inj hkinds
    rw [Kind.customNamesAll, customNamesAll,
      customNames_of_classify type hfirst,
      customNamesAll_of_classifyAll types hothers]

end

/-- The list form collects the names of each type in turn. -/
theorem customNamesAll_eq (types : List HostType) :
    customNamesAll types = types.flatMap customNames := by
  induction types with
  | nil => rfl
  | cons type types ih => rw [customNamesAll, ih, List.flatMap_cons]

/-- The names of a type are its own and those of its parts. -/
theorem customNames_ofText (text : List Char) :
    (ofText text).customNames
      = (ofText text).ownNames ++ (Outline.ofText text).parts.flatMap
        fun part => (ofText part).customNames := by
  rw [ofText_eq]
  cases Outline.ofText text with
  | arrayOf element => simp [ofOutline, customNames, ownNames, Outline.parts]
  | applied outer arguments =>
    simp [ofOutline, customNames, customNamesAll_eq, List.flatMap_map,
      Outline.parts]
  | _ => simp [ofOutline, customNames, Outline.parts]

end HostType

/-! ## Reading -/

namespace Outline

/-- The text that a type's package and simple name are cut out of. -/
def head : Outline → List Char
  | .named text => text.takeWhile (· != '<')
  | .applied outer _ => outer
  | _ => []

section Inversion

variable {text : List Char}

/-- An outline that is a name is the name of its whole text. -/
theorem ofBare_eq_named {name : List Char}
    (houtline : ofBare text = .named name) : name = text := by
  unfold ofBare at houtline
  repeat' split at houtline
  all_goals cases houtline
  rfl

/-- An outline that is an array comes from the text of the array. -/
theorem ofBare_eq_arrayOf {element : List Char}
    (houtline : ofBare text = .arrayOf element) :
    arrayElement? text = some element := by
  unfold ofBare at houtline
  repeat' split at houtline
  all_goals cases houtline
  assumption

/-- An outline with arguments comes from a split at the brackets. -/
theorem ofBare_eq_applied {outer : List Char} {arguments : List (List Char)}
    (houtline : ofBare text = .applied outer arguments) :
    Text.splitGeneric text = some (outer, arguments) := by
  unfold ofBare at houtline
  repeat' split at houtline
  all_goals cases houtline
  assumption

/-- Only what is unbalanced is kept as it is. -/
theorem ofBare_ne_broken (hbalanced : Text.isBalanced text) :
    (∀ name, ofBare text ≠ .brokenName name)
      ∧ ∀ outer arguments, ofBare text ≠ .brokenGeneric outer arguments := by
  unfold ofBare
  rw [if_pos hbalanced]
  constructor <;> intros <;> repeat' split
  all_goals simp

end Inversion

end Outline

/-- The texts that are read on behalf of a text: the text itself, its parts, and
the texts read on behalf of them. -/
inductive Reads : List Char → List Char → Prop
  | self (text : List Char) : Reads text text
  | part {text part later : List Char}
      (hpart : part ∈ (Outline.ofText text).parts) (hlater : Reads part later) :
      Reads text later

/-- A property of all texts that are read on behalf of a text is one of the text
and of what is read on behalf of its parts. -/
theorem forall_reads_iff {text : List Char} {property : List Char → Prop} :
    (∀ later, Reads text later → property later) ↔
      property text ∧ ∀ part ∈ (Outline.ofText text).parts, ∀ later,
      Reads part later → property later := by
  constructor
  · intro hall
    exact ⟨hall text (.self text), fun part hpart later hlater =>
      hall later (.part hpart hlater)⟩
  · rintro ⟨htext, hparts⟩ later hlater
    cases hlater with
    | self => exact htext
    | part hpart hlater => exact hparts _ hpart _ hlater

/-- If the text is a generic type, the brackets that it is cut at belong
together. -/
def ClosesArguments (text : List Char) : Prop :=
  ∀ outer arguments, Outline.ofText text = .applied outer arguments →
    Text.ClosesAtEnd (withoutBound (Text.trim text))

/-- The dot that the name of the type is cut at stands outside of all
brackets. -/
def CutsAtOuterDot (text : List Char) : Prop :=
  ∀ package simpleName, Text.cutAtLast '.' (Outline.ofText text).head
    = some (package, simpleName) → Text.isBalanced package

section Balanced

variable {text : List Char}

/-- The element of an array is balanced exactly when the array is. -/
theorem isBalanced_arrayElement? {element : List Char}
    (helement : arrayElement? text = some element) :
    Text.isBalanced element = Text.isBalanced text := by
  unfold arrayElement? at helement
  split at helement
  · next raw hraw =>
    split at helement
    · cases helement
    · obtain rfl := Option.some.inj helement
      have hsuffix : Text.isBalanced arraySuffix := rfl
      have hjoint : Text.NoArrow raw arraySuffix :=
        Text.noArrow_of_head? (by decide)
      rw [Text.isBalanced_trim, Text.eq_of_dropBack? hraw, Bool.eq_iff_iff]
      exact (Text.isBalanced_append_iff_left hjoint hsuffix).symm
  · cases helement

/-- Reading hands on balanced texts only, as long as the brackets that it cuts
at belong together. -/
theorem isBalanced_of_mem_parts (htext : Text.isBalanced text)
    (hcloses : ClosesArguments text) :
    ∀ part ∈ (Outline.ofText text).parts, Text.isBalanced part := by
  have hbare : Text.isBalanced (withoutBound (Text.trim text)) := by
    rwa [isBalanced_bare]
  cases houtline : Outline.ofText text with
  | arrayOf element =>
    rw [Outline.parts, List.forall_mem_singleton,
      isBalanced_arrayElement? (Outline.ofBare_eq_arrayOf houtline)]
    exact hbare
  | applied outer arguments =>
    rw [Outline.parts, Text.forall_isBalanced_arguments_iff hbare
      (Outline.ofBare_eq_applied houtline),
      trim_withoutBound (Text.trim_trim text)]
    exact hcloses outer arguments houtline
  | _ => exact List.forall_mem_nil _

/-- **A wrong closing bracket stays in a name.**  If some bracket meets one that
it does not close, then one of the texts that the type is kept as has a bracket
without its other half. -/
theorem HostType.exists_unbalanced_of_wrongClosing
    (hwrong : Text.openAfter [] (Text.marks text) = none) :
    ∃ name ∈ (ofText text).customNames,
      Text.isBalanced name.render.toList = false := by
  have hunbalanced :
      Text.isBalanced (withoutBound (Text.trim text)) = false := by
    rw [isBalanced_bare, Bool.eq_false_iff, ne_eq, Text.isBalanced_iff, hwrong]
    simp
  rw [ofText_eq, Outline.ofText]
  rcases Outline.ofBare_of_unbalanced hunbalanced with
    houtline | ⟨outer, arguments, hsplit, houtline⟩
  · rw [houtline]
    exact ⟨_, List.mem_singleton_self _,
      by rwa [QualifiedName.toList_render_opaque]⟩
  · rw [houtline]
    obtain ⟨front, inner, -, hwhole, rfl, rfl⟩ :=
      Text.exists_of_splitGeneric hsplit
    by_contra! hall
    obtain ⟨houter, harguments⟩ := List.forall_mem_cons.1 hall
    have hfront : Text.isBalanced front := by
      simpa [QualifiedName.isBalanced_render_ofText,
        Text.isBalanced_trim] using houter
    have hinner : Text.isBalanced inner := by
      refine (Text.forall_isBalanced_splitTopLevel_iff Text.isSeparator_comma
        inner).1 fun argument hargument => ?_
      have hname := harguments _ (List.mem_map_of_mem hargument)
      simpa [QualifiedName.toList_render_opaque] using hname
    refine Text.openAfter_enclosed_ne_none hfront hinner ?_
    rw [← hwhole, Text.marks_trim, marks_withoutBound, Text.marks_trim, hwrong]

/-- **Arguments that were cut apart show in the names.** -/
theorem exists_unbalanced_of_not_closesArguments (htext : Text.isBalanced text)
    (hcut : ¬ClosesArguments text) :
    ∃ part ∈ (Outline.ofText text).parts,
      ∃ name ∈ (HostType.ofText part).customNames,
      Text.isBalanced name.render.toList = false := by
  simp only [ClosesArguments, not_forall] at hcut
  obtain ⟨outer, arguments, houtline, hopen⟩ := hcut
  obtain ⟨front, inner, hfront, hwhole, -, rfl⟩ :=
    Text.exists_of_splitGeneric (Outline.ofBare_eq_applied houtline)
  rw [trim_withoutBound (Text.trim_trim text)] at hwhole
  have hbare : Text.isBalanced (front ++ '<' :: inner ++ ['>']) := by
    rwa [← hwhole, isBalanced_bare]
  have hinner : Text.isBalanced inner = false := by
    rwa [hwhole, Text.closesAtEnd_iff hfront hbare, Bool.not_eq_true] at hopen
  have hwrong : Text.openAfter [] (Text.marks inner) = none := by
    cases hrun : Text.openAfter [] (Text.marks inner) with
    | none => rfl
    | some unclosed =>
      exact absurd (Text.isBalanced_of_enclosed hbare hrun).1 (by simp [hinner])
  rw [houtline, Outline.parts, Text.splitTopLevel_of_unbalanced hinner]
  exact ⟨_, List.mem_singleton_self _,
    HostType.exists_unbalanced_of_wrongClosing (by rwa [Text.marks_trim])⟩

/-- What is asked of the names in a kind can be asked of the texts that are
read: that they are cut between brackets that belong together, and whatever else
the names that each text brings along itself are asked. -/
theorem forall_customNames_iff {good : QualifiedName → Prop}
    {fits : List Char → Prop}
    (hgood : ∀ name, good name → Text.isBalanced name.render.toList)
    (hown : ∀ text, Text.isBalanced text → ClosesArguments text →
      ((∀ name ∈ (HostType.ofText text).ownNames, good name) ↔ fits text))
    {text : List Char} (htext : Text.isBalanced text) :
    (∀ name ∈ (HostType.ofText text).customNames, good name) ↔
      ∀ part, Reads text part → ClosesArguments part ∧ fits part := by
  rw [HostType.customNames_ofText, List.forall_mem_append,
    List.forall_mem_flatMap, forall_reads_iff]
  by_cases hcloses : ClosesArguments text
  · have hparts :
        (∀ part ∈ (Outline.ofText text).parts,
          ∀ name ∈ (HostType.ofText part).customNames, good name) ↔
          ∀ part ∈ (Outline.ofText text).parts, ∀ later, Reads part later →
          ClosesArguments later ∧ fits later := by
      refine forall₂_congr fun part hpart => ?_
      have hshorter := Outline.length_lt_of_mem_parts hpart
      exact forall_customNames_iff hgood hown
        (isBalanced_of_mem_parts htext hcloses part hpart)
    rw [hown text htext hcloses, hparts]
    simp only [hcloses, true_and]
  -- Where the text is cut apart, a name in one of its parts is unbalanced, and
  -- neither side holds.
  · obtain ⟨part, hpart, name, hname, hunbalanced⟩ :=
      exists_unbalanced_of_not_closesArguments htext hcloses
    constructor
    · rintro ⟨-, hall⟩
      exact absurd (hgood name (hall part hpart name hname))
        (by simp [hunbalanced])
    · rintro ⟨hself, -⟩
      exact absurd hself.1 hcloses
termination_by text.length

end Balanced

/-! ## The names of one text -/

/-- A known name has no brackets. -/
theorem marks_of_isKnownName {text : List Char}
    (hknown : IsKnownName (String.ofList text)) : Text.marks text = [] := by
  refine Text.marksAfter_eq_nil fun c hc => ?_
  by_contra hmark
  exact not_isKnownName_of_mem (by rwa [String.toList_ofList]) hmark hknown

namespace QualifiedName

/-- The package of a name without brackets is balanced. -/
theorem isBalanced_package_of_marks {name : QualifiedName}
    (hname : Text.marks name.render.toList = []) :
    Text.isBalanced name.package.toList := by
  rw [marks_render] at hname
  rw [Text.isBalanced, (List.append_eq_nil_iff.1 hname).1]
  rfl

/-- The package of a trimmed text is balanced when what stands in front of its
last dot is. -/
theorem isBalanced_package_ofTrimmed_iff (text : List Char) :
    Text.isBalanced (ofTrimmed text).package.toList ↔
      ∀ package simpleName,
        Text.cutAtLast '.' text = some (package, simpleName) →
          Text.isBalanced package := by
  rw [ofTrimmed]
  rcases Text.cutAtLast '.' text with _ | ⟨package, simpleName⟩ <;> simp

/-- The package of a custom type is balanced when what stands in front of the
last dot before its arguments is. -/
theorem isBalanced_package_customName_iff (text : List Char) :
    Text.isBalanced (Kind.customName text).package.toList ↔
      ∀ package simpleName,
        Text.cutAtLast '.' (text.takeWhile (· != '<'))
            = some (package, simpleName) →
          Text.isBalanced package := by
  rw [Kind.customName]
  rcases Text.cutAtLast '.' (text.takeWhile (· != '<')) with
    _ | ⟨package, simpleName⟩ <;> simp

end QualifiedName

namespace Kind

variable {flags : TypeFlags} {text : List Char}

/-- A plain name is classified with no custom name but its own. -/
theorem customNames_ofName_subset :
    ∀ name ∈ (ofName flags text).customNames, name = customName text := by
  rw [ofName]
  cases Primitive.ofSpelling? (String.ofList text) with
  | some type =>
    simp only [ofPrimitive]
    split <;> simp [customNames]
  | none =>
    cases hlibrary : ofLibraryName? flags (String.ofList text) with
    | none => simp [customNames, customNamesAll]
    | some kind =>
      obtain ⟨type, rfl⟩ := exists_of_ofLibraryName? hlibrary
      cases type <;> simp [LibraryType.kind, customNames]

/-- A plain name that is not known is classified with its own. -/
theorem customNames_ofName_unknown
    (hunknown : ¬IsKnownName (String.ofList text)) :
    (ofName flags text).customNames = [customName text] := by
  rw [ofName, ofSpelling?_unknown hunknown, ofLibraryName?_unknown hunknown,
    customNames, customNamesAll]

/-- The name of a balanced text is whole if its package is, and what has a name
of its own in the tables has no brackets. -/
theorem forall_isWhole_ofName_iff (htext : Text.isBalanced text) :
    (∀ name ∈ (ofName flags text).customNames, name.IsWhole) ↔
      Text.isBalanced (customName text).package.toList := by
  have hmarks := QualifiedName.marks_render_customName text
  have hrender : Text.isBalanced (customName text).render.toList := by
    rw [Text.isBalanced, hmarks]
    exact htext
  by_cases hknown : IsKnownName (String.ofList text)
  · rw [marks_of_isKnownName hknown] at hmarks
    have hpackage := QualifiedName.isBalanced_package_of_marks hmarks
    refine ⟨fun _ => hpackage, fun _ name hname => ?_⟩
    rw [customNames_ofName_subset name hname]
    exact (QualifiedName.isWhole_iff hrender).2 hpackage
  · rw [customNames_ofName_unknown hknown, List.forall_mem_singleton,
      QualifiedName.isWhole_iff hrender]

end Kind

section OwnNames

variable {text : List Char}

/-- The name in front of brackets that belong together is balanced. -/
theorem isBalanced_outer {outer : List Char} {arguments : List (List Char)}
    (htext : Text.isBalanced text) (hcloses : ClosesArguments text)
    (houtline : Outline.ofText text = .applied outer arguments) :
    Text.isBalanced outer ∧ Text.trim outer = outer := by
  obtain ⟨front, inner, hfront, hwhole, rfl, -⟩ :=
    Text.exists_of_splitGeneric (Outline.ofBare_eq_applied houtline)
  rw [trim_withoutBound (Text.trim_trim text)] at hwhole
  have hbare : Text.isBalanced (front ++ '<' :: inner ++ ['>']) := by
    rwa [← hwhole, isBalanced_bare]
  have hinner := hcloses _ _ houtline
  rw [hwhole, Text.closesAtEnd_iff hfront hbare, Text.isBalanced_iff] at hinner
  rw [Text.isBalanced_trim]
  exact ⟨(Text.isBalanced_of_enclosed hbare hinner).2, Text.trim_trim front⟩

/-- Where the text is balanced and its arguments are closed, its own names are
balanced as they are written. -/
theorem isBalanced_of_mem_ownNames (htext : Text.isBalanced text)
    (hcloses : ClosesArguments text) :
    ∀ name ∈ (HostType.ofText text).ownNames,
      Text.isBalanced name.render.toList := by
  have hbare : Text.isBalanced (withoutBound (Text.trim text)) := by
    rwa [isBalanced_bare]
  obtain ⟨hname, hgeneric⟩ := Outline.ofBare_ne_broken hbare
  rw [HostType.ofText_eq]
  cases houtline : Outline.ofText text with
  | named bare =>
    intro name hmem
    rw [Kind.customNames_ofName_subset name hmem, Text.isBalanced,
      QualifiedName.marks_render_customName, Outline.ofBare_eq_named houtline]
    exact hbare
  | applied outer arguments =>
    rw [HostType.ofOutline, HostType.ownNames]
    split
    · exact List.forall_mem_nil _
    · rw [List.forall_mem_singleton, QualifiedName.isBalanced_render_ofText]
      exact (isBalanced_outer htext hcloses houtline).1
  | brokenName bare => exact absurd houtline (hname bare)
  | brokenGeneric outer arguments =>
    exact absurd houtline (hgeneric outer arguments)
  | _ => exact List.forall_mem_nil _

/-- Where the text is balanced and its arguments are closed, its own names are
whole exactly when they are cut at an outer dot. -/
theorem forall_isWhole_ownNames_iff (htext : Text.isBalanced text)
    (hcloses : ClosesArguments text) :
    (∀ name ∈ (HostType.ofText text).ownNames, name.IsWhole) ↔
      CutsAtOuterDot text := by
  have hbare : Text.isBalanced (withoutBound (Text.trim text)) := by
    rwa [isBalanced_bare]
  obtain ⟨hname, hgeneric⟩ := Outline.ofBare_ne_broken hbare
  rw [HostType.ofText_eq, CutsAtOuterDot]
  cases houtline : Outline.ofText text with
  | named bare =>
    have hsame := Outline.ofBare_eq_named houtline
    rw [HostType.ofOutline, HostType.ownNames, Outline.head,
      ← QualifiedName.isBalanced_package_customName_iff]
    exact Kind.forall_isWhole_ofName_iff (hsame ▸ hbare)
  | applied outer arguments =>
    obtain ⟨houter, htrimmed⟩ := isBalanced_outer htext hcloses houtline
    rw [HostType.ofOutline, HostType.ownNames, Outline.head,
      ← QualifiedName.isBalanced_package_ofTrimmed_iff]
    split
    · next hcontainer =>
      obtain ⟨container, hfound⟩ := Option.isSome_iff_exists.1 hcontainer
      have hknown : IsKnownName (String.ofList outer) :=
        .inr (.inr ⟨container, hasName_of_ofName? hfound⟩)
      have hmarks := QualifiedName.marks_render_ofTrimmed outer
      rw [marks_of_isKnownName hknown] at hmarks
      exact iff_of_true (List.forall_mem_nil _)
        (QualifiedName.isBalanced_package_of_marks hmarks)
    · rw [List.forall_mem_singleton, QualifiedName.isWhole_iff,
        QualifiedName.ofText, htrimmed]
      rwa [QualifiedName.isBalanced_render_ofText]
  | brokenName bare => exact absurd houtline (hname bare)
  | brokenGeneric outer arguments =>
    exact absurd houtline (hgeneric outer arguments)
  | _ =>
    simp [HostType.ofOutline, HostType.ownNames, Outline.head, Text.cutAtLast]

end OwnNames

/-- **When a balanced type is cut between brackets that belong together.**  The
arguments of a generic type are balanced exactly when its first opening angle
bracket is closed by its last character.  Every name in the kind is balanced
exactly when this holds of each generic type that is read on the way, and the
package and the simple name of each are so exactly when in addition every name
is cut at a dot outside of all brackets. -/
theorem brackets_kept_iff {type : String}
    (htype : Text.isBalanced type.toList) :
    (∀ outer arguments,
        Text.splitGeneric type.toList = some (outer, arguments) →
          ((∀ argument ∈ arguments, Text.isBalanced argument) ↔
            Text.ClosesAtEnd (Text.trim type.toList)))
      ∧ ∀ flags slots kind, classify flags slots type = .ok kind →
          ((∀ name ∈ kind.customNames, Text.isBalanced name.render.toList) ↔
              ∀ part, Reads type.toList part → ClosesArguments part)
            ∧ ((∀ name ∈ kind.customNames, name.IsWhole) ↔
              ∀ part, Reads type.toList part →
                ClosesArguments part ∧ CutsAtOuterDot part) := by
  refine ⟨fun outer arguments hsplit =>
    Text.forall_isBalanced_arguments_iff htype hsplit, ?_⟩
  intro flags slots kind hkind
  rw [HostType.customNames_of_classify _ hkind]
  constructor
  · have hown : ∀ text, Text.isBalanced text → ClosesArguments text →
        ((∀ name ∈ (HostType.ofText text).ownNames,
          Text.isBalanced name.render.toList) ↔ True) :=
      fun text htext hcloses =>
        iff_true_intro (isBalanced_of_mem_ownNames htext hcloses)
    simpa using forall_customNames_iff (fun _ hname => hname) hown htype
  · exact forall_customNames_iff (fun _ hname => hname.isBalanced_render)
      (fun _ htext hcloses => forall_isWhole_ownNames_iff htext hcloses) htype

/-- The type of a map whose values are functions to a generic type. -/
def handlersType : String :=
  "java.util.Map<lib.Key[],? extends (lib.Event) -> lib.Result<lib.Value>>"

/-- A function to a generic type ends in brackets that belong together. -/
theorem brackets_kept_handlers :
    Text.isBalanced handlersType.toList
      ∧ ∀ part, Reads handlersType.toList part →
        ClosesArguments part ∧ CutsAtOuterDot part := by
  have hbalanced : Text.isBalanced handlersType.toList := by decide +kernel
  have hshown :
      (classify {} [] handlersType).toOption.map (fun kind => kind.customNames)
        = some [⟨"lib", "Key"⟩, ⟨"(lib.Event) -> lib", "Result"⟩,
          ⟨"lib", "Value"⟩] := by decide +kernel
  obtain ⟨kind, hkind, hnames⟩ := exists_ok_of_map_toOption hshown
  have hwhole : ∀ name ∈ kind.customNames, name.IsWhole := by
    rw [hnames]
    simp only [List.forall_mem_cons, QualifiedName.IsWhole]
    decide +kernel
  exact ⟨hbalanced,
    ((brackets_kept_iff hbalanced).2 {} [] kind hkind).2.1 hwhole⟩

/-- A generic class inside a generic class: its first opening and its last
closing bracket belong to different pairs. -/
def innerType : String := "lib.Outer<lib.Key>.Inner<lib.Value>"

/-- A function type with its last dot inside the brackets. -/
def functionType : String := "(lib.Key) -> Unit"

/-- **Balance does not keep brackets together.**  The inner class is cut apart
into an argument without balance, which becomes a name; the name of the function
is balanced, but its two parts are not. -/
theorem exists_brackets_cut :
    (Text.isBalanced innerType.toList
        ∧ Text.splitGeneric innerType.toList
          = some ("lib.Outer".toList, ["lib.Key>.Inner<lib.Value".toList])
        ∧ ¬Text.isBalanced "lib.Key>.Inner<lib.Value".toList
        ∧ ∃ kind, classify {} [] innerType = .ok kind
          ∧ ¬∀ name ∈ kind.customNames, Text.isBalanced name.render.toList)
      ∧ Text.isBalanced functionType.toList
      ∧ ∃ kind, classify {} [] functionType = .ok kind
        ∧ ¬∀ name ∈ kind.customNames, name.IsWhole := by
  have hinner :
      (classify {} [] innerType).toOption.map (fun kind => kind.customNames)
        = some [⟨"lib", "Outer"⟩, ⟨"", "lib.Key>.Inner<lib.Value"⟩] := by
    decide +kernel
  have hfunction :
      (classify {} [] functionType).toOption.map (fun kind => kind.customNames)
        = some [⟨"(lib", "Key) -> Unit"⟩] := by decide +kernel
  obtain ⟨innerKind, hinner, hinnerNames⟩ := exists_ok_of_map_toOption hinner
  obtain ⟨functionKind, hfunction, hfunctionNames⟩ :=
    exists_ok_of_map_toOption hfunction
  refine ⟨⟨by decide +kernel, by decide +kernel, by decide +kernel, innerKind,
    hinner, ?_⟩, by decide +kernel, functionKind, hfunction, ?_⟩
  · rw [hinnerNames]
    decide +kernel
  · rw [hfunctionNames, List.forall_mem_singleton, QualifiedName.IsWhole]
    decide +kernel

end KotlinBuilders
