/-!
# Sets of names in ascending order

Imports, known types and clashes are sets that are written out in ascending
order, by code point, which is also the order of the UTF-8 bytes.  The order is
part of the type, so two sets with the same members are equal
(`NameSet.ext_mem`).
-/

namespace KotlinBuilders

/-- A set of names, listed in ascending order. -/
structure NameSet where
  toList : List String
  ascending : toList.Pairwise (· < ·) := by simp
  deriving DecidableEq

namespace NameSet

/-- Puts a name in its place, unless it is there. -/
def place (name : String) : List String → List String
  | [] => [name]
  | first :: others =>
    if name < first then name :: first :: others
    else if name = first then first :: others
    else first :: place name others

/-- Placing a name adds it and nothing else. -/
theorem mem_place {name other : String} {names : List String} :
    other ∈ place name names ↔ other = name ∨ other ∈ names := by
  induction names with
  | nil => simp [place]
  | cons first others ih =>
    unfold place
    split
    · simp
    · split
      · next h => subst h; simp
      · simp only [List.mem_cons, ih]
        constructor <;> rintro (h | h | h) <;> simp [h]

/-- Placing a name keeps the list strictly ascending. -/
theorem pairwise_place {name : String} {names : List String}
    (h : names.Pairwise (· < ·)) :
    (place name names).Pairwise (· < ·) := by
  induction names with
  | nil => simp [place]
  | cons first others ih =>
    have ⟨head, tail⟩ := List.pairwise_cons.1 h
    unfold place
    split
    · next lt =>
      refine List.pairwise_cons.2 ⟨fun other mem => ?_, h⟩
      rcases List.mem_cons.1 mem with rfl | mem
      · exact lt
      · exact String.lt_trans lt (head other mem)
    · split
      · exact h
      · next notLt ne =>
        refine List.pairwise_cons.2 ⟨fun other mem => ?_, ih tail⟩
        rcases mem_place.1 mem with rfl | mem
        · rcases Std.lt_trichotomy first other with lt | eq | gt
          · exact lt
          · exact absurd eq.symm ne
          · exact absurd gt notLt
        · exact head other mem

/-- The set without members. -/
def empty : NameSet := { toList := [] }

/-- The set with one more member. -/
def insert (names : NameSet) (name : String) : NameSet :=
  ⟨place name names.toList, pairwise_place names.ascending⟩

/-- The set with the names of a list added. -/
def insertAll (names : NameSet) (more : List String) : NameSet :=
  more.foldl insert names

/-- The names of a list, each once and in ascending order. -/
def ofList (names : List String) : NameSet := empty.insertAll names

/-- Whether a name is in the set. -/
def contains (names : NameSet) (name : String) : Bool :=
  names.toList.contains name

/-- Whether the set has no members. -/
def isEmpty (names : NameSet) : Bool := names.toList.isEmpty

instance : EmptyCollection NameSet := ⟨empty⟩

instance : Inhabited NameSet := ⟨empty⟩

instance : Membership String NameSet := ⟨fun names name => name ∈ names.toList⟩

/-- Membership in a set is membership in its list. -/
theorem mem_iff {names : NameSet} {name : String} : name ∈ names ↔
    name ∈ names.toList := .rfl

@[simp] theorem not_mem_empty {name : String} : name ∉ empty := by
  simp [mem_iff, empty]

/-- The members after an insertion are the old ones and the new one. -/
@[simp] theorem mem_insert {names : NameSet} {name other : String} :
    other ∈ names.insert name ↔ other = name ∨ other ∈ names := mem_place

/-- The members after inserting a list are the old ones and those of the
list. -/
@[simp] theorem mem_insertAll {names : NameSet} {more : List String}
    {name : String} :
    name ∈ names.insertAll more ↔ name ∈ names ∨ name ∈ more := by
  induction more generalizing names with
  | nil => simp [insertAll]
  | cons first others ih =>
    have step : names.insertAll (first :: others)
        = (names.insert first).insertAll others := rfl
    rw [step, ih, mem_insert, List.mem_cons, @or_comm (name = first), or_assoc]

/-- A set built from a list has that list's members. -/
@[simp] theorem mem_ofList {names : List String} {name : String} :
    name ∈ ofList names ↔ name ∈ names := by
  simp [ofList]

/-- Ascending lists with the same members are equal. -/
theorem eq_of_mem_iff {a b : List String} (ascendingA : a.Pairwise (· < ·))
    (ascendingB : b.Pairwise (· < ·))
    (same : ∀ name, name ∈ a ↔ name ∈ b) : a = b := by
  induction a generalizing b with
  | nil =>
    cases b with
    | nil => rfl
    | cons y ys => exact absurd ((same y).2 List.mem_cons_self) List.not_mem_nil
  | cons x xs ih =>
    cases b with
    | nil => exact absurd ((same x).1 List.mem_cons_self) List.not_mem_nil
    | cons y ys =>
      have ⟨headA, tailA⟩ := List.pairwise_cons.1 ascendingA
      have ⟨headB, tailB⟩ := List.pairwise_cons.1 ascendingB
      have eq : x = y := by
        rcases List.mem_cons.1 ((same x).1 List.mem_cons_self) with eq | memY
        · exact eq
        · rcases List.mem_cons.1 ((same y).2 List.mem_cons_self) with eq | memX
          · exact eq.symm
          · exact absurd (headA y memX) (String.lt_asymm (headB x memY))
      subst eq
      refine congrArg (x :: ·) (ih tailA tailB fun name =>
        ⟨fun mem => ?_, fun mem => ?_⟩)
      · rcases List.mem_cons.1 ((same name).1 (List.mem_cons_of_mem _ mem)) with
          rfl | mem'
        · exact absurd (headA _ mem) (String.lt_irrefl _)
        · exact mem'
      · rcases List.mem_cons.1 ((same name).2 (List.mem_cons_of_mem _ mem)) with
          rfl | mem'
        · exact absurd (headB _ mem) (String.lt_irrefl _)
        · exact mem'

/-- Sets with the same members are equal. -/
theorem ext_mem {a b : NameSet}
    (same : ∀ name, name ∈ a ↔ name ∈ b) : a = b := by
  cases a with | mk a ascendingA =>
  cases b with | mk b ascendingB =>
  have eq := eq_of_mem_iff ascendingA ascendingB same
  subst eq
  rfl

/-- The computed test decides membership. -/
@[simp] theorem contains_iff {names : NameSet} {name : String} :
    names.contains name = true ↔ name ∈ names := by
  simp [contains, mem_iff]

end NameSet

end KotlinBuilders
