import KotlinBuilders.Proofs.FieldConversion
import KotlinBuilders.Proofs.KnownNames
import KotlinBuilders.Proofs.Pieces

/-!
# When a type cannot be classified

The one thing that can go wrong is a known container with the wrong number of
type arguments.  Whether a type is such a container can be seen from the type
alone (`mismatch?`), so the failing types can be told without classifying them:
they are those with such a container anywhere inside.

Arguments are classified from the left, each before the type that they belong
to.  `postorder` lists the types inside a type in that order, and the failure is
the first one in it (`mismatchOf?_classify`).  A text whose brackets do not
balance shows no arguments, and therefore does not fail.

The main statement is `mismatch_first_in_postorder`.
-/

namespace KotlinBuilders

/-- The mismatch that a classification failed with, if it failed. -/
def mismatchOf? {α : Type} : Except ArityMismatch α → Option ArityMismatch
  | .error mismatch => some mismatch
  | .ok _ => none

/-- The mismatch of a failed classification is the one it failed with. -/
theorem mismatchOf?_eq_some_iff {α : Type} {result : Except ArityMismatch α}
    {mismatch : ArityMismatch} :
    mismatchOf? result = some mismatch ↔ result = .error mismatch := by
  cases result <;> simp [mismatchOf?]

/-- There is no mismatch where the classification succeeded. -/
theorem mismatchOf?_eq_none_iff {α : Type} {result : Except ArityMismatch α} :
    mismatchOf? result = none ↔ ∃ value, result = .ok value := by
  cases result <;> simp [mismatchOf?]

namespace HostType

mutual

/-- A type and the types inside it, the parts of each one in front of it. -/
def postorder : HostType → List HostType
  | .arrayOf element => postorder element ++ [.arrayOf element]
  | .applied outer arguments =>
    postorderAll arguments ++ [.applied outer arguments]
  | type => [type]

/-- Several types, each with the types inside it in front. -/
def postorderAll : List HostType → List HostType
  | [] => []
  | type :: types => postorder type ++ postorderAll types

end

/-- What is wrong with the number of a type's own arguments. -/
def mismatch? : HostType → Option ArityMismatch
  | .applied outer arguments =>
    (Container.ofName? (String.ofList outer)).bind fun container =>
      if arguments.length = container.arity then none
      else some ⟨String.ofList outer, container.arity, arguments.length⟩
  | _ => none

/-- Classifying several types gives a kind for each of them. -/
theorem length_of_classifyAll {slots : List Bool} {types : List HostType}
    {kinds : List Kind} (hkinds : classifyAll slots types = .ok kinds) :
    kinds.length = types.length := by
  induction types generalizing slots kinds with
  | nil =>
    obtain rfl := Except.ok.inj hkinds
    rfl
  | cons type types ih =>
    rw [classifyAll] at hkinds
    obtain ⟨first, -, hkinds⟩ := bind_eq_ok_iff.1 hkinds
    obtain ⟨others, hothers, hkinds⟩ := bind_eq_ok_iff.1 hkinds
    obtain rfl := Except.ok.inj hkinds
    rw [List.length_cons, List.length_cons, ih hothers]

/-- A generic type of classified arguments fails when their number is wrong. -/
theorem mismatchOf?_ofGeneric {flags : TypeFlags} {outer : List Char}
    {arguments : List HostType} {kinds : List Kind}
    (hlength : kinds.length = arguments.length) :
    mismatchOf? (Kind.ofGeneric flags outer kinds)
      = (HostType.applied outer arguments).mismatch? := by
  rw [Kind.ofGeneric, mismatch?]
  cases Container.ofName? (String.ofList outer) with
  | none => rfl
  | some container =>
    have hsome := container.isSome_kind? flags kinds
    rw [hlength] at hsome
    rw [Option.bind_some]
    cases hkind : container.kind? flags kinds with
    | none =>
      have hwrong : arguments.length ≠ container.arity := by
        simpa [hkind] using hsome
      simp only [hkind, mismatchOf?, hlength, if_neg hwrong]
    | some kind =>
      have hright : arguments.length = container.arity := by
        simpa [hkind] using hsome
      simp only [hkind, mismatchOf?, if_pos hright]

mutual

/-- **A type fails with the first mismatch in post-order.** -/
theorem mismatchOf?_classify (flags : TypeFlags) (slots : List Bool) :
    (type : HostType) →
      mismatchOf? (type.classify flags slots)
        = type.postorder.findSome? mismatch?
  | .arrayOf element => by
    have helement :=
      mismatchOf?_classify (.nested (firstSlot slots)) slots.tail element
    rw [classify, postorder, List.findSome?_append, ← helement]
    cases element.classify (.nested (firstSlot slots)) slots.tail <;> rfl
  | .applied outer arguments => by
    have harguments := mismatchOf?_classifyAll slots arguments
    rw [classify, postorder, List.findSome?_append, ← harguments]
    cases hkinds : classifyAll slots arguments with
    | error mismatch => rfl
    | ok kinds =>
      show mismatchOf? (Kind.ofGeneric flags outer kinds) = _
      rw [mismatchOf?_ofGeneric (length_of_classifyAll hkinds), mismatchOf?,
        Option.none_or, List.findSome?_singleton]
  | .blank | .wildcard | .named _ | .primitiveArray _ | .brokenGeneric ..
      | .brokenName _ => by
    simp [classify, postorder, mismatchOf?, mismatch?]

/-- Several types are classified up to the first mismatch among their nodes. -/
theorem mismatchOf?_classifyAll (slots : List Bool) : (types : List HostType) →
    mismatchOf? (classifyAll slots types)
      = (postorderAll types).findSome? mismatch?
  | [] => rfl
  | type :: types => by
    have htype :=
      mismatchOf?_classify (.nested (firstSlot slots)) slots.tail type
    have htypes :=
      mismatchOf?_classifyAll (slots.drop (type.nestedCount + 1)) types
    rw [classifyAll, postorderAll, List.findSome?_append, ← htype, ← htypes]
    cases type.classify (.nested (firstSlot slots)) slots.tail with
    | error mismatch => rfl
    | ok kind =>
      cases classifyAll (slots.drop (type.nestedCount + 1)) types <;> rfl

end

/-- Only a known container has a mismatch, and only if its arguments are not as
many as it takes. -/
theorem mismatch?_eq_some_iff {type : HostType} {mismatch : ArityMismatch} :
    type.mismatch? = some mismatch ↔
      ∃ (container : Container) (arguments : List HostType),
        type = .applied mismatch.outer.toList arguments
        ∧ container.HasName mismatch.outer
        ∧ mismatch.expected = container.arity
        ∧ mismatch.found = arguments.length
        ∧ arguments.length ≠ container.arity := by
  constructor
  · intro hmismatch
    cases type with
    | applied outer arguments =>
      obtain ⟨container, hname, hwrong⟩ := Option.bind_eq_some_iff.1 hmismatch
      split at hwrong
      · cases hwrong
      · next hne =>
        obtain rfl := Option.some.inj hwrong
        exact ⟨container, arguments, by simp, hasName_of_ofName? hname,
          rfl, rfl, hne⟩
    | _ => cases hmismatch
  · rintro ⟨container, arguments, rfl, hname, hexpected, hfound, hne⟩
    obtain ⟨outer, expected, found⟩ := mismatch
    subst hexpected hfound
    simp [mismatch?, ofName?_of_hasName hname, hne]

end HostType

namespace Outline

variable {text outer : List Char} {arguments : List (List Char)}

/-- A balanced text with arguments is a generic type. -/
theorem ofBare_of_isBalanced (htrimmed : Text.trim text = text)
    (hbalanced : Text.isBalanced text)
    (hsplit : Text.splitGeneric text = some (outer, arguments)) :
    ofBare text = .applied outer arguments := by
  obtain ⟨front, inner, -, hwhole, -, -⟩ := Text.exists_of_splitGeneric hsplit
  rw [htrimmed] at hwhole
  have hangle : '<' ∈ text := by simp [hwhole]
  have hnonempty : ¬text.isEmpty := by simpa using List.ne_nil_of_mem hangle
  have hwildcard : ¬(text = ['?'] ∨ text = ['*']) := by
    intro hwild
    rcases hwild with rfl | rfl <;> simp at hangle
  have harray : arrayElement? text = none := by
    rw [hwhole]
    exact arrayElement?_eq_none (by decide)
  rw [ofBare, if_neg hnonempty, if_neg hwildcard, if_pos hbalanced,
    harray, hsplit]

/-- A text whose brackets do not balance is kept as it is, or as the parts of
its own text. -/
theorem ofBare_of_unbalanced (hunbalanced : Text.isBalanced text = false) :
    ofBare text = .brokenName text
      ∨ ∃ outer arguments, Text.splitGeneric text = some (outer, arguments)
          ∧ ofBare text = .brokenGeneric outer arguments := by
  have hnonempty : ¬text.isEmpty := by
    intro hempty
    rw [List.isEmpty_iff.1 hempty] at hunbalanced
    exact Bool.false_ne_true hunbalanced.symm
  have hwildcard : ¬(text = ['?'] ∨ text = ['*']) := by
    intro hwild
    rcases hwild with rfl | rfl <;> exact absurd hunbalanced (by decide)
  rw [ofBare, if_neg hnonempty, if_neg hwildcard,
    if_neg (by simp [hunbalanced])]
  cases Text.splitGeneric text with
  | none => exact .inl rfl
  | some parts => exact .inr ⟨parts.1, parts.2, rfl, rfl⟩

end Outline

/-- Cutting a wildcard's bound off leaves no white space around the text. -/
theorem trim_withoutBound {text : List Char}
    (htrimmed : Text.trim text = text) :
    Text.trim (withoutBound text) = withoutBound text := by
  rw [withoutBound]
  cases wildcardBounds.findSome? fun bound => Text.dropFront? bound text with
  | none => exact htrimmed
  | some rest => exact Text.trim_trim rest

/-- A balanced text that can be split is a generic type. -/
theorem HostType.ofText_of_isBalanced {text outer : List Char}
    {arguments : List (List Char)}
    (hbalanced : Text.isBalanced (withoutBound (Text.trim text)))
    (hsplit : Text.splitGeneric (withoutBound (Text.trim text))
      = some (outer, arguments)) :
    ofText text = .applied outer (arguments.map ofText) := by
  have htrimmed := trim_withoutBound (Text.trim_trim text)
  rw [ofText_eq, Outline.ofText,
    Outline.ofBare_of_isBalanced htrimmed hbalanced hsplit, ofOutline]

/-- An unbalanced text has no arguments that could be too many or too few. -/
theorem HostType.findSome?_postorder_of_unbalanced {text : List Char}
    (hunbalanced : Text.isBalanced (withoutBound (Text.trim text)) = false) :
    (ofText text).postorder.findSome? mismatch? = none := by
  rw [ofText_eq, Outline.ofText]
  rcases Outline.ofBare_of_unbalanced hunbalanced with
    houtline | ⟨outer, arguments, -, houtline⟩
  · rw [houtline]
    rfl
  · rw [houtline]
    rfl

/-- Where no type of a list has a mismatch inside, the list has none. -/
theorem HostType.findSome?_postorderAll {types : List HostType}
    (htypes : ∀ type ∈ types, type.postorder.findSome? mismatch? = none) :
    (postorderAll types).findSome? mismatch? = none := by
  induction types with
  | nil => rfl
  | cons type types ih =>
    obtain ⟨htype, htypes⟩ := List.forall_mem_cons.1 htypes
    rw [postorderAll, List.findSome?_append, htype, ih htypes, Option.none_or]

section Types

variable {type : String} {flags : TypeFlags} {slots : List Bool}

/-- A classification fails with the first mismatch in post-order. -/
theorem classify_eq_error_iff {mismatch : ArityMismatch} :
    classify flags slots type = .error mismatch ↔
      (HostType.ofText type.toList).postorder.findSome? HostType.mismatch?
        = some mismatch := by
  rw [← mismatchOf?_eq_some_iff]
  exact Eq.congr_left (HostType.mismatchOf?_classify flags slots _)

/-- Whether a type can be classified depends neither on flags nor on slots. -/
theorem exists_classify_eq_ok_iff :
    (∃ kind, classify flags slots type = .ok kind) ↔
      (HostType.ofText type.toList).postorder.findSome? HostType.mismatch?
        = none := by
  rw [← mismatchOf?_eq_none_iff]
  exact Eq.congr_left (HostType.mismatchOf?_classify flags slots _)

/-- A mismatch is that of a known container somewhere in the type. -/
theorem exists_container_of_classify {mismatch : ArityMismatch}
    (hmismatch : classify flags slots type = .error mismatch) :
    ∃ (container : Container) (arguments : List HostType),
      container.HasName mismatch.outer
      ∧ .applied mismatch.outer.toList arguments
        ∈ (HostType.ofText type.toList).postorder
      ∧ mismatch.found = arguments.length ∧ mismatch.expected = container.arity
      ∧ mismatch.found ≠ mismatch.expected := by
  obtain ⟨node, hnode, hwrong⟩ :=
    List.exists_of_findSome?_eq_some (classify_eq_error_iff.1 hmismatch)
  obtain ⟨container, arguments, rfl, hname, hexpected, hfound, hne⟩ :=
    HostType.mismatch?_eq_some_iff.1 hwrong
  exact ⟨container, arguments, hname, hnode, hfound, hexpected,
    by rwa [hexpected, hfound]⟩

/-- Behind arguments that can be classified, the mismatch is that of the type
itself. -/
theorem classify_eq_error_iff_of_arguments {outer : List Char}
    {arguments : List (List Char)} {mismatch : ArityMismatch}
    (hbalanced : Text.isBalanced (withoutBound (Text.trim type.toList)))
    (hsplit : Text.splitGeneric (withoutBound (Text.trim type.toList))
      = some (outer, arguments))
    (harguments : ∀ argument ∈ arguments, ∃ flags slots kind,
      classify flags slots (String.ofList argument) = .ok kind) :
    classify flags slots type = .error mismatch ↔
      (HostType.applied outer (arguments.map HostType.ofText)).mismatch?
        = some mismatch := by
  have hparts :
      (HostType.postorderAll (arguments.map HostType.ofText)).findSome?
        HostType.mismatch? = none := by
    refine HostType.findSome?_postorderAll
      (List.forall_mem_map.2 fun argument hargument => ?_)
    obtain ⟨flags, slots, hkind⟩ := harguments argument hargument
    simpa using exists_classify_eq_ok_iff.1 hkind
  rw [classify_eq_error_iff, HostType.ofText_of_isBalanced hbalanced hsplit,
    HostType.postorder, List.findSome?_append, hparts, Option.none_or,
    List.findSome?_singleton]

end Types

/-- **Failures are wrong numbers of arguments, and the first one in post-order
is reported.**  A classification fails exactly with the first mismatch that a
walk finds which looks at the arguments, from the left, before the type that
they belong to.  Every mismatch names a known container of one or of two
arguments, which stands somewhere in the type, and counts its arguments.  A text
with unbalanced brackets never fails; a generic type whose arguments can all be
classified fails exactly when it is a known container of another number of
arguments. -/
theorem mismatch_first_in_postorder (type : String) (flags : TypeFlags)
    (slots : List Bool) :
    let bare := withoutBound (Text.trim type.toList)
    let postorder := (HostType.ofText type.toList).postorder
    (∀ mismatch, classify flags slots type = .error mismatch ↔
        postorder.findSome? HostType.mismatch? = some mismatch)
      ∧ (∀ mismatch, classify flags slots type = .error mismatch →
          ∃ (container : Container) (arguments : List HostType),
            container.HasName mismatch.outer
              ∧ .applied mismatch.outer.toList arguments ∈ postorder
              ∧ mismatch.found = arguments.length
              ∧ mismatch.expected = container.arity
              ∧ (mismatch.expected = 1 ∨ mismatch.expected = 2)
              ∧ mismatch.found ≠ mismatch.expected)
      ∧ (Text.isBalanced bare = false →
          ∃ kind, classify flags slots type = .ok kind)
      ∧ ∀ outer arguments, Text.isBalanced bare →
        Text.splitGeneric bare = some (outer, arguments) →
          (∀ argument ∈ arguments, ∃ flags slots kind,
            classify flags slots (String.ofList argument) = .ok kind) →
            ((∃ mismatch, classify flags slots type = .error mismatch) ↔
              ∃ container : Container, container.HasName (String.ofList outer)
                ∧ arguments.length ≠ container.arity) := by
  intro bare postorder
  refine ⟨fun mismatch => classify_eq_error_iff, ?_, ?_, ?_⟩
  · intro mismatch hmismatch
    obtain ⟨container, arguments, hname, hnode, hfound, hexpected, hne⟩ :=
      exists_container_of_classify hmismatch
    have harity : container.arity = 1 ∨ container.arity = 2 := by
      cases container <;> simp [Container.arity]
    exact ⟨container, arguments, hname, hnode, hfound, hexpected,
      hexpected ▸ harity, hne⟩
  · intro hunbalanced
    exact exists_classify_eq_ok_iff.2
      (HostType.findSome?_postorder_of_unbalanced hunbalanced)
  · intro outer arguments hbalanced hsplit harguments
    simp only [classify_eq_error_iff_of_arguments hbalanced hsplit harguments]
    constructor
    · rintro ⟨mismatch, hmismatch⟩
      obtain ⟨container, parts, happlied, hname, -, -, hne⟩ :=
        HostType.mismatch?_eq_some_iff.1 hmismatch
      obtain ⟨houter, hparts⟩ := HostType.applied.inj happlied
      refine ⟨container, by rwa [houter, String.ofList_toList], ?_⟩
      rwa [← hparts, List.length_map] at hne
    · rintro ⟨container, hname, hne⟩
      refine ⟨⟨String.ofList outer, container.arity, arguments.length⟩, ?_⟩
      exact HostType.mismatch?_eq_some_iff.2 ⟨container,
        arguments.map HostType.ofText, by simp, hname, rfl, by simp,
        by simpa using hne⟩

example :
    mismatchOf? (classify {} []
      "java.util.Map<Box<java.util.List<A, B>>, java.util.Set<A, B>, C>")
      = some ⟨"java.util.List", 1, 2⟩ := by
  decide +kernel

end KotlinBuilders
