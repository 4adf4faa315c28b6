import KotlinBuilders.Kind.Primitive
import KotlinBuilders.Text.Split

/-!
# Types in host notation

A host writes types the way the virtual machine prints them:
`java.util.List<? extends Foo>`, `int[]`, `T`.  Reading such a text gives a
tree.  `Outline` is what the text shows at its outermost level, its parts still
unread, and `HostType.ofText` reads the parts in turn.  Each part is shorter
than the text (`Outline.length_lt_of_mem_parts`), so reading ends.

Text never fails to read.  Where the brackets do not balance, no level below the
outermost one can be told apart, and the texts are kept as they are.
-/

namespace KotlinBuilders

/-- The bounds that a wildcard can name. -/
def wildcardBounds : List (List Char) :=
  ["? extends ".toList, "? super ".toList]

/-- A trimmed text without the first wildcard bound, if it begins with one. -/
def withoutBound (text : List Char) : List Char :=
  ((wildcardBounds.findSome? fun bound => Text.dropFront? bound text).map
    Text.trim).getD text

/-- Cutting a wildcard's bound off never lengthens the text. -/
theorem length_withoutBound_le (text : List Char) :
    (withoutBound text).length ≤ text.length := by
  unfold withoutBound
  cases h :
      wildcardBounds.findSome? fun bound => Text.dropFront? bound text with
  | none => simp
  | some rest =>
    obtain ⟨bound, _, hbound⟩ := List.exists_of_findSome?_eq_some h
    have whole := congrArg List.length (Text.eq_of_dropFront? hbound)
    have trimmed := Text.length_trim_le rest
    simp only [List.length_append] at whole
    simp only [Option.map_some, Option.getD_some]
    omega

/-- The brackets after the element type of an array. -/
def arraySuffix : List Char := "[]".toList

/-- The trimmed element type of an array type, if there is one. -/
def arrayElement? (text : List Char) : Option (List Char) :=
  match Text.dropBack? arraySuffix text with
  | some element => if (Text.trim element).isEmpty then none
      else some (Text.trim element)
  | none => none

/-- The element type of an array text is shorter than the text. -/
theorem length_lt_of_arrayElement? {text element : List Char}
    (h : arrayElement? text = some element) :
    element.length < text.length := by
  unfold arrayElement? at h
  split at h
  · next raw hraw =>
    split at h
    · simp at h
    · have whole := congrArg List.length (Text.eq_of_dropBack? hraw)
      have trimmed := Text.length_trim_le raw
      rw [← Option.some.inj h]
      have two : arraySuffix.length = 2 := rfl
      simp only [List.length_append] at whole
      omega
  · simp at h

/-- What the text of a type shows at its outermost level. -/
inductive Outline where
  | blank
  | wildcard
  | named (text : List Char)
  | primitiveArray (element : Primitive)
  | arrayOf (element : List Char)
  | applied (outer : List Char) (arguments : List (List Char))
  | brokenGeneric (outer : List Char) (arguments : List (List Char))
  | brokenName (text : List Char)
  deriving DecidableEq, Repr

namespace Outline

/-- The outline of a text without padding and without a wildcard bound. -/
def ofBare (text : List Char) : Outline :=
  if text.isEmpty then .blank
  else if text = ['?'] ∨ text = ['*'] then .wildcard
  else if Text.isBalanced text then
    match arrayElement? text with
    | some element =>
      match Primitive.ofKeyword? (String.ofList element) with
      | some primitive => .primitiveArray primitive
      | none => .arrayOf element
    | none =>
      match Text.splitGeneric text with
      | some (outer, arguments) => .applied outer arguments
      | none => .named text
  else
    match Text.splitGeneric text with
    | some (outer, arguments) => .brokenGeneric outer arguments
    | none => .brokenName text

/-- The outline of a text. -/
def ofText (text : List Char) : Outline :=
  ofBare (withoutBound (Text.trim text))

/-- The texts that are types of their own. -/
def parts : Outline → List (List Char)
  | .arrayOf element => [element]
  | .applied _ arguments => arguments
  | _ => []

/-- Every part of a bare type text is shorter than the text, which is what the
recursion into the parts descends on. -/
theorem length_lt_of_mem_parts_ofBare {text part : List Char}
    (h : part ∈ (ofBare text).parts) :
    part.length < text.length := by
  unfold ofBare at h
  repeat' split at h
  all_goals try simp [parts] at h
  · next element hElement _ _ => exact h ▸ length_lt_of_arrayElement? hElement
  · next hSplit => exact Text.length_lt_of_mem_arguments hSplit h

/-- A part is shorter than the text. -/
theorem length_lt_of_mem_parts {text part : List Char}
    (h : part ∈ (ofText text).parts) :
    part.length < text.length :=
  Nat.lt_of_lt_of_le (length_lt_of_mem_parts_ofBare h)
    (Nat.le_trans (length_withoutBound_le _) (Text.length_trim_le _))

end Outline

/-- A type as a host writes it. -/
inductive HostType where
  | blank
  | wildcard
  | named (text : List Char)
  | primitiveArray (element : Primitive)
  | arrayOf (element : HostType)
  | applied (outer : List Char) (arguments : List HostType)
  | brokenGeneric (outer : List Char) (arguments : List (List Char))
  | brokenName (text : List Char)
  deriving Repr, Inhabited

namespace HostType

/-- Reads a type. -/
def ofText (text : List Char) : HostType :=
  match h : Outline.ofText text with
  | .blank => .blank
  | .wildcard => .wildcard
  | .named name => .named name
  | .primitiveArray element => .primitiveArray element
  | .arrayOf element =>
    have : element.length < text.length :=
      Outline.length_lt_of_mem_parts (by simp [h, Outline.parts])
    .arrayOf (ofText element)
  | .applied outer arguments =>
    .applied outer (arguments.attach.map fun ⟨argument, mem⟩ =>
      have : argument.length < text.length :=
        Outline.length_lt_of_mem_parts (by simpa [h, Outline.parts])
      ofText argument)
  | .brokenGeneric outer arguments => .brokenGeneric outer arguments
  | .brokenName name => .brokenName name
termination_by text.length

/-- The type with a given outline, each part read in its turn. -/
def ofOutline : Outline → HostType
  | .blank => .blank
  | .wildcard => .wildcard
  | .named name => .named name
  | .primitiveArray element => .primitiveArray element
  | .arrayOf element => .arrayOf (ofText element)
  | .applied outer arguments => .applied outer (arguments.map ofText)
  | .brokenGeneric outer arguments => .brokenGeneric outer arguments
  | .brokenName name => .brokenName name

/-- A text is read by its outline. -/
theorem ofText_eq (text : List Char) :
    ofText text = ofOutline (Outline.ofText text) := by
  unfold ofText
  split <;> simp_all [ofOutline]

mutual

/-- The number of types inside a type, at any depth; each of them has a
nullability of its own. -/
def nestedCount : HostType → Nat
  | .arrayOf element => nestedCount element + 1
  | .applied _ arguments => nestedCountAll arguments
  | _ => 0

/-- The number of the given types and of the types inside them. -/
def nestedCountAll : List HostType → Nat
  | [] => 0
  | type :: types => nestedCount type + 1 + nestedCountAll types

end

end HostType

end KotlinBuilders
