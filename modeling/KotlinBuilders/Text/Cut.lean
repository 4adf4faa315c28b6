/-!
# Cutting texts

A text is cut at the first or at the last place where a character occurs; the
character itself belongs to neither part.  A given front or back is taken away
from a text that has it.  The lemmas say that nothing else is lost.
-/

namespace KotlinBuilders.Text

/-- The parts before and after the first occurrence of a character. -/
def cutAtFirst (separator : Char) : List Char → Option (List Char × List Char)
  | [] => none
  | c :: rest =>
    if c = separator then some ([], rest)
    else (cutAtFirst separator rest).map fun (front, back) => (c :: front, back)

/-- The parts before and after the last occurrence of a character. -/
def cutAtLast (separator : Char) : List Char → Option (List Char × List Char)
  | [] => none
  | c :: rest =>
    match cutAtLast separator rest with
    | some (front, back) => some (c :: front, back)
    | none => if c = separator then some ([], rest) else none

/-- A cut at the first separator puts the text back together. -/
theorem eq_of_cutAtFirst {separator : Char} {text front back : List Char}
    (h : cutAtFirst separator text = some (front, back)) :
    text = front ++ separator :: back := by
  induction text generalizing front with
  | nil => simp [cutAtFirst] at h
  | cons c rest ih =>
    unfold cutAtFirst at h
    split at h
    · simp_all
    · obtain ⟨⟨front', back'⟩, hcut, heq⟩ := Option.map_eq_some_iff.1 h
      simp only [Prod.mk.injEq] at heq
      obtain ⟨rfl, rfl⟩ := heq
      rw [ih hcut]; rfl

/-- A cut at the last separator puts the text back together. -/
theorem eq_of_cutAtLast {separator : Char} {text front back : List Char}
    (h : cutAtLast separator text = some (front, back)) :
    text = front ++ separator :: back := by
  induction text generalizing front with
  | nil => simp [cutAtLast] at h
  | cons c rest ih =>
    unfold cutAtLast at h
    split at h
    · next front' back' hcut =>
      simp only [Option.some.injEq, Prod.mk.injEq] at h
      obtain ⟨rfl, rfl⟩ := h
      rw [ih hcut]; rfl
    · split at h <;> simp_all

/-- What follows a front that the text begins with. -/
def dropFront? : List Char → List Char → Option (List Char)
  | [], text => some text
  | _ :: _, [] => none
  | c :: front, d :: text => if c = d then dropFront? front text else none

/-- What precedes a back that the text ends with. -/
def dropBack? (back text : List Char) : Option (List Char) :=
  (dropFront? back.reverse text.reverse).map List.reverse

/-- A dropped front and the rest are the whole text. -/
theorem eq_of_dropFront? {front text rest : List Char}
    (h : dropFront? front text = some rest) :
    text = front ++ rest := by
  fun_induction dropFront? front text with
  | case1 text => exact Option.some.inj h
  | case2 => simp at h
  | case3 front d text ih => rw [ih h]; rfl
  | case4 => simp at h

/-- The rest and a dropped back are the whole text. -/
theorem eq_of_dropBack? {back text rest : List Char}
    (h : dropBack? back text = some rest) :
    text = rest ++ back := by
  obtain ⟨front, hfront, rfl⟩ := Option.map_eq_some_iff.1 h
  have whole := congrArg List.reverse (eq_of_dropFront? hfront)
  simpa using whole

end KotlinBuilders.Text
