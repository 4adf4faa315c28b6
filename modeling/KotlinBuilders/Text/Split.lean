import KotlinBuilders.Text.Blank
import KotlinBuilders.Text.Bracket
import KotlinBuilders.Text.Cut

/-!
# Splitting a text outside its brackets

A list of types or of members is split at the separators that stand outside
every bracket.  A text whose brackets do not balance is one piece, because no
place in it can be called outside.

`splitGeneric` takes a type apart into the name before its first angle bracket
and its arguments.  No piece is longer than the text it comes from, and an
argument is shorter (`length_lt_of_mem_arguments`), which is what lets a reader
of types call itself on the arguments.
-/

namespace KotlinBuilders.Text

/-- The number of open brackets after a mark. -/
def depthAfter (depth : Nat) : Option Mark → Nat
  | some (.opening _) => depth + 1
  | some (.closing _) => depth - 1
  | none => depth

/-- Puts a character in front of the first piece. -/
def growFirst (c : Char) : List (List Char) → List (List Char)
  | [] => [[c]]
  | piece :: pieces => (c :: piece) :: pieces

/-- The pieces between the separators outside brackets, for a text that follows
the character `before` at a given depth.  A bracket is never a separator. -/
def cutOutside (separator : Char) (depth : Nat) (before : Option Char) :
    List Char → List (List Char)
  | [] => [[]]
  | c :: rest =>
    if c = separator ∧ depth = 0 ∧ Mark.ofChar? c = none then
      [] :: cutOutside separator depth (some c) rest
    else
      growFirst c (cutOutside separator (depthAfter depth (markAfter before c))
        (some c) rest)

/-- The trimmed pieces of a text between the separators outside its brackets. -/
def splitTopLevel (separator : Char) (text : List Char) : List (List Char) :=
  match trim text with
  | [] => []
  | c :: rest =>
    if isBalanced (c :: rest)
      then (cutOutside separator 0 none (c :: rest)).map trim else [c :: rest]

/-- The outer name and the arguments of a type such as `Outer<A, B>`, if it has
an argument list. -/
def splitGeneric (text : List Char) : Option (List Char × List (List Char)) :=
  match cutAtFirst '<' (trim text) with
  | some (outer, inner) =>
    if inner.getLast? = some '>'
      then some (trim outer, splitTopLevel ',' inner.dropLast) else none
  | none => none

/-- Growing the first piece by a character lengthens no piece by more than
one. -/
theorem length_le_of_mem_growFirst {c : Char} {pieces : List (List Char)}
    {piece : List Char} {n : Nat} (bound : ∀ p ∈ pieces, p.length ≤ n)
    (h : piece ∈ growFirst c pieces) : piece.length ≤ n + 1 := by
  cases pieces with
  | nil => simp_all [growFirst]
  | cons first others =>
    simp only [growFirst, List.mem_cons] at h bound
    rcases h with rfl | h
    · exact Nat.succ_le_succ (bound _ (.inl rfl))
    · exact Nat.le_succ_of_le (bound _ (.inr h))

/-- No piece of a split is longer than the text. -/
theorem length_le_of_mem_cutOutside {separator : Char} {depth : Nat}
    {before : Option Char} {text piece : List Char}
    (h : piece ∈ cutOutside separator depth before text) :
    piece.length ≤ text.length := by
  induction text generalizing depth before piece with
  | nil => simp_all [cutOutside]
  | cons c rest ih =>
    unfold cutOutside at h
    split at h
    · rcases List.mem_cons.1 h with rfl | h
      · simp
      · exact Nat.le_succ_of_le (ih h)
    · exact length_le_of_mem_growFirst (fun p hp => ih hp) h

/-- No piece is longer than the text. -/
theorem length_le_of_mem_splitTopLevel {separator : Char}
    {text piece : List Char} (h : piece ∈ splitTopLevel separator text) :
    piece.length ≤ text.length := by
  unfold splitTopLevel at h
  split at h
  · simp at h
  · next c rest trimmed =>
    have whole := trimmed ▸ length_trim_le text
    split at h
    · obtain ⟨raw, hraw, rfl⟩ := List.mem_map.1 h
      exact Nat.le_trans (length_trim_le _)
        (Nat.le_trans (length_le_of_mem_cutOutside hraw) whole)
    · rw [List.mem_singleton.1 h]
      exact whole

/-- An argument is shorter than the type. -/
theorem length_lt_of_mem_arguments {text outer argument : List Char}
    {arguments : List (List Char)}
    (h : splitGeneric text = some (outer, arguments))
    (mem : argument ∈ arguments) :
    argument.length < text.length := by
  unfold splitGeneric at h
  split at h
  · next front inner hcut =>
    split at h
    · simp only [Option.some.injEq, Prod.mk.injEq] at h
      obtain ⟨_, rfl⟩ := h
      have piece := length_le_of_mem_splitTopLevel mem
      have whole := congrArg List.length (eq_of_cutAtFirst hcut)
      have trimmed := length_trim_le text
      simp only [List.length_append, List.length_cons, List.length_dropLast]
        at whole piece
      omega
    · simp at h
  · simp at h

end KotlinBuilders.Text
