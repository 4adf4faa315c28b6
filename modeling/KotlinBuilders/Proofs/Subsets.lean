import KotlinBuilders.Builder.Subsets
import Mathlib.Data.Nat.Choose.Sum

/-!
# The order of the subsets

`combinations` lists exactly the sublists of a given length, and
`descendingSubsets` exactly the nonempty ones.  The order matters where the
first subset is wanted all of whose members satisfy a test: every such subset is
a sublist of `items.filter test`, so a longer list cannot qualify and one of the
same length is that filter itself.  Hence the first one found is the largest
there is (`find?_descendingSubsets`).

There are as many combinations of a length as a binomial coefficient says, and
so one subset less than a power of two (`length_descendingSubsets`).  Of items
that differ no subset is listed twice (`nodup_descendingSubsets`), so each of
them is the first one found for the test that its own members pass
(`findIdx?_descendingSubsets`).
-/

namespace KotlinBuilders

variable {α : Type}

/-- The combinations of a size are the sublists of that length. -/
theorem mem_combinations {size : Nat} {items subset : List α} :
    subset ∈ combinations size items ↔ subset.Sublist items
      ∧ subset.length = size := by
  induction items generalizing size subset with
  | nil =>
    cases size with
    | zero => simp [combinations]
    | succ size =>
      simp only [combinations, List.not_mem_nil, List.sublist_nil,
        false_iff, not_and]
      intro hempty
      simp [hempty]
  | cons first rest ih =>
    cases size with
    | zero =>
      simp only [combinations, List.mem_singleton,
        List.length_eq_zero_iff, iff_and_self]
      intro hempty
      simp [hempty]
    | succ size =>
      simp only [combinations, List.mem_append, List.mem_map, ih]
      constructor
      · intro hmem
        rcases hmem with ⟨tail, ⟨hsub, hlen⟩, rfl⟩ | ⟨hsub, hlen⟩
        · exact ⟨hsub.cons_cons first, by simp [hlen]⟩
        · exact ⟨hsub.cons first, hlen⟩
      · intro hsublist
        obtain ⟨hsub, hlen⟩ := hsublist
        cases hsub with
        | cons _ hsub => exact .inr ⟨hsub, hlen⟩
        | cons_cons _ hsub => exact .inl ⟨_, ⟨hsub, by simpa using hlen⟩, rfl⟩

/-- The subsets up to a size are those in the order of the items that are
neither empty nor larger. -/
theorem mem_subsetsUpTo {bound : Nat} {items subset : List α} :
    subset ∈ subsetsUpTo items bound ↔
      subset.Sublist items ∧ subset ≠ [] ∧ subset.length ≤ bound := by
  induction bound with
  | zero => simp +contextual [subsetsUpTo, List.length_eq_zero_iff]
  | succ bound ih =>
    rw [subsetsUpTo, List.mem_append, mem_combinations, ih]
    constructor
    · intro hmem
      rcases hmem with ⟨hsub, hlen⟩ | ⟨hsub, hne, hle⟩
      · exact ⟨hsub, List.ne_nil_of_length_eq_add_one hlen, Nat.le_of_eq hlen⟩
      · exact ⟨hsub, hne, Nat.le_succ_of_le hle⟩
    · intro hsublist
      obtain ⟨hsub, hne, hle⟩ := hsublist
      rcases Nat.lt_or_eq_of_le hle with hlt | heq
      · exact .inr ⟨hsub, hne, Nat.le_of_lt_succ hlt⟩
      · exact .inl ⟨hsub, heq⟩

/-- The descending subsets are all that are not empty, in the order of the
items. -/
theorem mem_descendingSubsets {items subset : List α} :
    subset ∈ descendingSubsets items ↔ subset.Sublist items ∧ subset ≠ [] := by
  rw [descendingSubsets, mem_subsetsUpTo]
  exact ⟨fun h => ⟨h.1, h.2.1⟩, fun h => ⟨h.1, h.2, h.1.length_le⟩⟩

/-- There are as many combinations as the binomial coefficient says. -/
theorem length_combinations {size : Nat} {items : List α} :
    (combinations size items).length = items.length.choose size := by
  induction items generalizing size with
  | nil => cases size <;> simp [combinations]
  | cons first rest ih =>
    cases size with
    | zero => simp [combinations]
    | succ size =>
      rw [combinations, List.length_append, List.length_map, ih, ih,
        List.length_cons, Nat.choose_succ_succ']

/-- Together with the empty one, the sublists up to a length are counted by a
row of binomial coefficients. -/
theorem length_subsetsUpTo {items : List α} {bound : Nat} :
    (subsetsUpTo items bound).length + 1 = ∑ size ∈ Finset.range (bound + 1),
      items.length.choose size := by
  induction bound with
  | zero => simp [subsetsUpTo]
  | succ bound ih =>
    rw [subsetsUpTo, List.length_append, length_combinations, Nat.add_assoc,
      ih, Nat.add_comm, ← Finset.sum_range_succ]

/-- Only the empty sublist is left out. -/
theorem length_descendingSubsets {items : List α} :
    (descendingSubsets items).length + 1 = 2 ^ items.length := by
  rw [descendingSubsets, length_subsetsUpTo, Nat.sum_range_choose]

/-! ## Items that differ -/

/-- Sublists of items that differ are told apart by their members. -/
theorem eq_of_sublist_of_mem_iff {items first second : List α}
    (hitems : items.Nodup) (hfirst : first.Sublist items)
    (hsecond : second.Sublist items)
    (hsame : ∀ item, item ∈ first ↔ item ∈ second) : first = second := by
  have hperm : first.Perm second :=
    (List.perm_ext_iff_of_nodup (hfirst.nodup hitems) (hsecond.nodup hitems)).2
      hsame
  exact (hitems.perm_iff_eq_of_sublist hfirst hsecond).1 hperm

/-- No combination of distinct items comes twice. -/
theorem nodup_combinations {size : Nat} {items : List α}
    (hitems : items.Nodup) : (combinations size items).Nodup := by
  induction items generalizing size with
  | nil => cases size <;> simp [combinations]
  | cons first rest ih =>
    obtain ⟨hfirst, hrest⟩ := List.nodup_cons.1 hitems
    cases size with
    | zero => simp [combinations]
    | succ size =>
      have hwith : ((combinations size rest).map (first :: ·)).Nodup :=
        (ih hrest).map List.cons_injective
      refine List.nodup_append'.2 ⟨hwith, ih hrest,
        List.disjoint_left.2 fun subset hleft hright => ?_⟩
      obtain ⟨tail, -, rfl⟩ := List.mem_map.1 hleft
      exact hfirst ((mem_combinations.1 hright).1.subset List.mem_cons_self)

/-- No subset up to a size comes twice. -/
theorem nodup_subsetsUpTo {bound : Nat} {items : List α}
    (hitems : items.Nodup) : (subsetsUpTo items bound).Nodup := by
  induction bound with
  | zero => exact List.nodup_nil
  | succ bound ih =>
    refine List.nodup_append'.2 ⟨nodup_combinations hitems, ih,
      List.disjoint_left.2 fun subset hlong hshort => ?_⟩
    have hlen := (mem_combinations.1 hlong).2
    have hle := (mem_subsetsUpTo.1 hshort).2.2
    omega

/-- **No subset is listed twice.** -/
theorem nodup_descendingSubsets {items : List α} (hitems : items.Nodup) :
    (descendingSubsets items).Nodup :=
  nodup_subsetsUpTo hitems

/-! ## The first subset that qualifies -/

variable {test : α → Bool} {items : List α}

/-- A sublist whose members all satisfy a test is a sublist of those that do. -/
theorem sublist_filter_of_all {subset : List α} (hsub : subset.Sublist items)
    (hall : subset.all test) :
    subset.Sublist (items.filter test) := by
  have hkept : subset.filter test = subset :=
    List.filter_eq_self.2 (List.all_eq_true.1 hall)
  exact hkept ▸ hsub.filter test

/-- No combination of more items than satisfy the test has only such items. -/
theorem find?_combinations_eq_none {size : Nat}
    (hsize : (items.filter test).length < size) :
    (combinations size items).find? (·.all test) = none := by
  refine List.find?_eq_none.2 fun subset hmem hall => ?_
  obtain ⟨hsub, hlen⟩ := mem_combinations.1 hmem
  have hle := (sublist_filter_of_all hsub hall).length_le
  omega

/-- Of the combinations of as many items as satisfy the test, only the one of
all of them qualifies. -/
theorem find?_combinations_eq_some :
    (combinations (items.filter test).length items).find? (·.all test)
      = some (items.filter test) := by
  have hfilter :
      items.filter test ∈ combinations (items.filter test).length items :=
    mem_combinations.2 ⟨List.filter_sublist, rfl⟩
  cases hfound :
      (combinations (items.filter test).length items).find? (·.all test) with
  | none =>
    have hno := List.find?_eq_none.1 hfound _ hfilter
    exact absurd (List.all_eq_true.2 fun item hitem =>
      (List.mem_filter.1 hitem).2) hno
  | some subset =>
    obtain ⟨hsub, hlen⟩ := mem_combinations.1 (List.mem_of_find?_eq_some hfound)
    have hall :=
      List.find?_some (p := fun subset : List α => subset.all test) hfound
    rw [(sublist_filter_of_all hsub hall).eq_of_length hlen]

/-- The first subset whose items all pass a test is that of the items that pass
it, if it is not too large. -/
theorem find?_subsetsUpTo {bound : Nat} (hne : items.filter test ≠ [])
    (hbound : (items.filter test).length ≤ bound) :
    (subsetsUpTo items bound).find? (·.all test)
      = some (items.filter test) := by
  induction bound with
  | zero => exact absurd (List.length_eq_zero_iff.1 (Nat.le_zero.1 hbound)) hne
  | succ bound ih =>
    rw [subsetsUpTo, List.find?_append]
    rcases Nat.lt_or_eq_of_le hbound with hlt | heq
    · rw [find?_combinations_eq_none hlt, ih (Nat.le_of_lt_succ hlt),
        Option.none_or]
    · rw [← heq, find?_combinations_eq_some, Option.some_or]

/-- **The first subset that qualifies is the largest.**  It consists of all
items that satisfy the test; there is none when no item does. -/
theorem find?_descendingSubsets :
    (descendingSubsets items).find? (·.all test)
      = if items.filter test = [] then none else some (items.filter test) := by
  split
  · next hnone =>
    refine List.find?_eq_none.2 fun subset hmem hall => ?_
    obtain ⟨hsub, hne⟩ := mem_descendingSubsets.1 hmem
    exact hne (List.sublist_nil.1 (hnone ▸ sublist_filter_of_all hsub hall))
  · next hne => exact find?_subsetsUpTo hne (List.length_filter_le test items)

/-- **Every subset can be the first that qualifies**, for a test that its
members pass and no other item does. -/
theorem findIdx?_descendingSubsets {place : Nat} (hitems : items.Nodup)
    (hplace : (descendingSubsets items)[place]? = some (items.filter test)) :
    (descendingSubsets items).findIdx? (·.all test) = some place := by
  obtain ⟨hbound, hget⟩ := List.getElem?_eq_some_iff.1 hplace
  have hne : items.filter test ≠ [] :=
    (mem_descendingSubsets.1 (List.mem_of_getElem? hplace)).2
  have hfound : (descendingSubsets items).find? (·.all test)
      = some (items.filter test) := by
    rw [find?_descendingSubsets, if_neg hne]
  obtain ⟨hall, index, hindex, hsame, hbefore⟩ :=
    List.find?_eq_some_iff_getElem.1 hfound
  -- No subset is listed twice, so the one that is found stands at the given
  -- place.
  obtain rfl : index = place :=
    (nodup_descendingSubsets hitems).getElem_inj_iff.1 (hsame.trans hget.symm)
  refine List.findIdx?_eq_some_iff_getElem.2 ⟨hindex, hsame ▸ hall,
    fun earlier hearlier => ?_⟩
  simpa using hbefore earlier hearlier

end KotlinBuilders
