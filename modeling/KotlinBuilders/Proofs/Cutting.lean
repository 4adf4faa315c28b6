import KotlinBuilders.Text.Cut

/-!
# Where a text is cut

The converse of the lemmas beside the definitions: a text that was put together
around a separator is cut exactly there, as long as the part on the searched
side holds no separator of its own.
-/

namespace KotlinBuilders.Text

variable {separator : Char} {front back text : List Char}

/-- There is no cut at a separator that is absent. -/
theorem cutAtFirst_eq_none (habsent : separator ∉ text) :
    cutAtFirst separator text = none := by
  induction text with
  | nil => rfl
  | cons c rest ih =>
    obtain ⟨hne, hrest⟩ := not_or.1 (mt List.mem_cons.2 habsent)
    rw [cutAtFirst, if_neg (Ne.symm hne), ih hrest, Option.map_none]

/-- A text is cut at a separator that is absent in front of it. -/
theorem cutAtFirst_append (habsent : separator ∉ front) :
    cutAtFirst separator (front ++ separator :: back) = some (front, back) := by
  induction front with
  | nil => simp [cutAtFirst]
  | cons c front ih =>
    obtain ⟨hne, hfront⟩ := not_or.1 (mt List.mem_cons.2 habsent)
    rw [List.cons_append, cutAtFirst, if_neg (Ne.symm hne), ih hfront,
      Option.map_some]

/-- Nothing is left to cut in front of the first separator. -/
theorem not_mem_of_cutAtFirst
    (hcut : cutAtFirst separator text = some (front, back)) :
    separator ∉ front := by
  induction text generalizing front with
  | nil => simp [cutAtFirst] at hcut
  | cons c rest ih =>
    rw [cutAtFirst] at hcut
    split at hcut
    · obtain ⟨rfl, -⟩ := Prod.mk.inj (Option.some.inj hcut)
      exact List.not_mem_nil
    · next hne =>
      obtain ⟨parts, hrest, hparts⟩ := Option.map_eq_some_iff.1 hcut
      obtain ⟨rfl, rfl⟩ := Prod.mk.inj hparts
      exact List.not_mem_cons_of_ne_of_not_mem (Ne.symm hne) (ih hrest)

/-- There is no last cut at a separator that is absent. -/
theorem cutAtLast_eq_none (habsent : separator ∉ text) :
    cutAtLast separator text = none := by
  induction text with
  | nil => rfl
  | cons c rest ih =>
    obtain ⟨hne, hrest⟩ := not_or.1 (mt List.mem_cons.2 habsent)
    simp [cutAtLast, ih hrest, Ne.symm hne]

/-- A text is cut last at a separator that is absent behind it. -/
theorem cutAtLast_append (habsent : separator ∉ back) :
    cutAtLast separator (front ++ separator :: back) = some (front, back) := by
  induction front with
  | nil => simp [cutAtLast, cutAtLast_eq_none habsent]
  | cons c front ih => simp [cutAtLast, ih]

/-- Where there is no cut the separator is absent. -/
theorem not_mem_of_cutAtLast_eq_none (hcut : cutAtLast separator text = none) :
    separator ∉ text := by
  intro hmem
  obtain ⟨front, back, rfl⟩ := List.append_of_mem hmem
  induction front with
  | nil =>
    rw [List.nil_append, cutAtLast] at hcut
    cases hback : cutAtLast separator back <;> simp [hback] at hcut
  | cons c front ih =>
    rw [List.cons_append, cutAtLast] at hcut
    cases hrest : cutAtLast separator (front ++ separator :: back) with
    | none => exact ih hrest (by simp)
    | some parts => simp [hrest] at hcut

/-- Nothing is left to cut behind the last separator. -/
theorem not_mem_of_cutAtLast
    (hcut : cutAtLast separator text = some (front, back)) :
    separator ∉ back := by
  induction text generalizing front with
  | nil => simp [cutAtLast] at hcut
  | cons c rest ih =>
    rw [cutAtLast] at hcut
    cases hrest : cutAtLast separator rest with
    | some parts =>
      obtain ⟨front', back'⟩ := parts
      simp only [hrest, Option.some.injEq, Prod.mk.injEq] at hcut
      obtain ⟨-, rfl⟩ := hcut
      exact ih hrest
    | none =>
      have hsame : rest = back := by
        simp only [hrest] at hcut
        split at hcut
        · exact (Prod.mk.inj (Option.some.inj hcut)).2
        · cases hcut
      exact hsame ▸ not_mem_of_cutAtLast_eq_none hrest

/-- A front is dropped from a text that begins with it. -/
@[simp] theorem dropFront?_append :
    dropFront? front (front ++ back) = some back := by
  induction front with
  | nil => simp [dropFront?]
  | cons c front ih => simp [dropFront?, ih]

/-- A back is dropped from a text that ends with it. -/
@[simp] theorem dropBack?_append :
    dropBack? back (front ++ back) = some front := by
  simp [dropBack?]

/-- No front is dropped from a text that begins with another character. -/
theorem dropFront?_eq_none {c d : Char} (hne : c ≠ d) :
    dropFront? (c :: front) (d :: text) = none := by
  rw [dropFront?, if_neg hne]

/-- No back is dropped from a text that ends with another character. -/
theorem dropBack?_eq_none {c d : Char} (hne : c ≠ d) :
    dropBack? (back ++ [c]) (text ++ [d]) = none := by
  simp [dropBack?, dropFront?_eq_none hne]

end KotlinBuilders.Text
