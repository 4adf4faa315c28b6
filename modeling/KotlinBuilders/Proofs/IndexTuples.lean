import KotlinBuilders.Proofs.Subsets
import Mathlib.Data.List.Sort

/-!
# Subsets by their indices

Items may be equal, so a subset is told by the indices of its items and not by
the items.  Choosing commutes with any replacement of the items
(`combinations_map`), hence what is chosen from items is what is chosen from
their indices, with each index replaced by its item.

The indices of a subset are a strictly increasing tuple, and `TupleList` says
that a list holds all the wanted ones, each once and in a given order.  Tuples
of one length are listed in lexicographic order (`pairwise_lex_combinations`),
and those of all lengths with the longer ones first; `combinations_by_indices`
says both.
-/

namespace KotlinBuilders

variable {α β : Type}

/-- Longer tuples come first, and tuples of one length in lexicographic
order. -/
def LongerFirst {n : Nat} (first second : List (Fin n)) : Prop :=
  second.length < first.length ∨ first.length = second.length
    ∧ List.Lex (· < ·) first second

/-- A list of all the strictly increasing tuples of indices that are wanted,
each of them once, in a given order. -/
structure TupleList {n : Nat} (wanted : List (Fin n) → Prop)
    (before : List (Fin n) → List (Fin n) → Prop)
    (tuples : List (List (Fin n))) : Prop where
  mem_iff : ∀ tuple, tuple ∈ tuples ↔ tuple.Pairwise (· < ·) ∧ wanted tuple
  ordered : tuples.Pairwise before
  once : tuples.Nodup

/-! ## Replacing the items -/

/-- Choosing from replaced items gives the replaced choices. -/
theorem combinations_map (replace : α → β) (size : Nat) (items : List α) :
    combinations size (items.map replace)
      = (combinations size items).map (List.map replace) := by
  induction items generalizing size with
  | nil => cases size <;> rfl
  | cons first rest ih =>
    cases size with
    | zero => rfl
    | succ size =>
      have hwith : ((combinations size rest).map (List.map replace)).map
          (replace first :: ·)
            = ((combinations size rest).map (first :: ·)).map
              (List.map replace) := by
        rw [List.map_map, List.map_map]
        rfl
      rw [List.map_cons, combinations, ih, ih, hwith, combinations,
        List.map_append]

/-- Subsets up to a size are chosen by place, whatever the items are. -/
theorem subsetsUpTo_map (replace : α → β) (items : List α) (bound : Nat) :
    subsetsUpTo (items.map replace) bound
      = (subsetsUpTo items bound).map (List.map replace) := by
  induction bound with
  | zero => rfl
  | succ bound ih =>
    rw [subsetsUpTo, combinations_map, ih, subsetsUpTo, List.map_append]

/-- All subsets, the large ones first, are chosen by place, whatever the items
are. -/
theorem descendingSubsets_map (replace : α → β) (items : List α) :
    descendingSubsets (items.map replace)
      = (descendingSubsets items).map (List.map replace) := by
  rw [descendingSubsets, List.length_map, subsetsUpTo_map, descendingSubsets]

/-! ## Tuples of indices -/

section Tuples

variable {n : Nat}

/-- The strictly increasing tuples are the sublists of all indices. -/
theorem sublist_finRange_iff {tuple : List (Fin n)} :
    tuple.Sublist (List.finRange n) ↔ tuple.Pairwise (· < ·) := by
  have hall : (List.finRange n).Pairwise (· < ·) := List.pairwise_lt_finRange n
  constructor
  · exact fun hsub => hall.sublist hsub
  · intro hincreasing
    have hdistinct : tuple.Nodup := hincreasing.imp ne_of_lt
    have hsubperm : tuple.Subperm (List.finRange n) :=
      hdistinct.subperm fun index _ => List.mem_finRange index
    exact List.sublist_of_subperm_of_pairwise hsubperm hincreasing hall

/-- **Choices of one size from increasing items are listed in lexicographic
order.** -/
theorem pairwise_lex_combinations {items : List (Fin n)}
    (hincreasing : items.Pairwise (· < ·)) (size : Nat) :
    (combinations size items).Pairwise (List.Lex (· < ·)) := by
  induction items generalizing size with
  | nil => cases size <;> simp [combinations]
  | cons first rest ih =>
    obtain ⟨hfirst, hrest⟩ := List.pairwise_cons.1 hincreasing
    cases size with
    | zero => exact List.pairwise_singleton _ _
    | succ size =>
      rw [combinations, List.pairwise_append, List.pairwise_map]
      refine ⟨?_, ih hrest (size + 1), ?_⟩
      · exact (ih hrest size).imp List.Lex.cons
      -- A choice without the first item begins with a later one.
      · intro choice hchoice other hother
        obtain ⟨tail, -, rfl⟩ := List.mem_map.1 hchoice
        obtain ⟨hsub, hlength⟩ := mem_combinations.1 hother
        obtain ⟨later, others, rfl⟩ :=
          List.exists_cons_of_length_eq_add_one hlength
        exact .rel (hfirst later (hsub.subset List.mem_cons_self))

/-- **Choices of several sizes are listed with the larger ones first.** -/
theorem pairwise_longerFirst_subsetsUpTo {items : List (Fin n)}
    (hincreasing : items.Pairwise (· < ·)) (bound : Nat) :
    (subsetsUpTo items bound).Pairwise LongerFirst := by
  induction bound with
  | zero => exact List.Pairwise.nil
  | succ bound ih =>
    have hsize : (combinations (bound + 1) items).Pairwise LongerFirst := by
      refine (pairwise_lex_combinations hincreasing _).imp_of_mem
        fun hfirst hsecond hlex => ?_
      exact .inr ⟨(mem_combinations.1 hfirst).2.trans
        (mem_combinations.1 hsecond).2.symm, hlex⟩
    rw [subsetsUpTo, List.pairwise_append]
    refine ⟨hsize, ih, fun long hlong short hshort => .inl ?_⟩
    have hlength := (mem_combinations.1 hlong).2
    have hle := (mem_subsetsUpTo.1 hshort).2.2
    omega

/-- The combinations of indices are the increasing tuples of their size, in
lexicographic order. -/
theorem tupleList_combinations (size : Nat) :
    TupleList (fun tuple => tuple.length = size) (List.Lex (· < ·))
      (combinations size (List.finRange n)) where
  mem_iff tuple := by rw [mem_combinations, sublist_finRange_iff]
  ordered := pairwise_lex_combinations (List.pairwise_lt_finRange n) size
  once := nodup_combinations (List.nodup_finRange n)

/-- The descending subsets of indices are the increasing tuples that are not
empty, longer ones first. -/
theorem tupleList_descendingSubsets :
    TupleList (fun tuple => tuple ≠ []) LongerFirst
      (descendingSubsets (List.finRange n)) where
  mem_iff tuple := by rw [mem_descendingSubsets, sublist_finRange_iff]
  ordered := pairwise_longerFirst_subsetsUpTo (List.pairwise_lt_finRange n) _
  once := nodup_descendingSubsets (List.nodup_finRange n)

end Tuples

/-- **Subsets are listed by their indices.**  The choices of a size are the
items at all strictly increasing tuples of that many indices, in lexicographic
order, as many as the binomial coefficient says; the subsets are the items at
all nonempty ones, longer tuples first and in lexicographic order where they
have one length, one less than a power of two. -/
theorem combinations_by_indices (items : List α) :
    (∀ size, ∃ tuples : List (List (Fin items.length)),
        TupleList (fun tuple => tuple.length = size) (List.Lex (· < ·)) tuples
          ∧ combinations size items = tuples.map (List.map items.get)
          ∧ (combinations size items).length = items.length.choose size)
      ∧ ∃ tuples : List (List (Fin items.length)),
          TupleList (fun tuple => tuple ≠ []) LongerFirst tuples
            ∧ descendingSubsets items = tuples.map (List.map items.get)
            ∧ (descendingSubsets items).length + 1 = 2 ^ items.length := by
  have hitems : (List.finRange items.length).map items.get = items :=
    List.map_get_finRange items
  constructor
  · intro size
    refine ⟨_, tupleList_combinations size, ?_, length_combinations⟩
    rw [← combinations_map, hitems]
  · refine ⟨_, tupleList_descendingSubsets, ?_, length_descendingSubsets⟩
    rw [← descendingSubsets_map, hitems]

/-- Equal items are told apart by their indices. -/
example : combinations 2 ['a', 'b', 'a']
    = [['a', 'b'], ['a', 'a'], ['b', 'a']] := by decide

end KotlinBuilders
