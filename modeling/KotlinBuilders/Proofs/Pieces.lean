import KotlinBuilders.Proofs.Cutting
import KotlinBuilders.Proofs.Splitting

/-!
# The pieces of a split text

Splitting cuts a text where balance allows it.  Put together again with the
separators, the raw pieces are the text (`intercalate_cutOutside`), and if the
text is balanced, each of them is a piece that nothing could cut again
(`isPiece_of_mem_cutOutside`).  So splitting it loses nothing but blanks
(`exists_raws_of_isBalanced`).  The other way round, pieces that are put
together are cut out again (`cutOutside_intercalate`), blank ones included.

Trimming the whole text first changes nothing but the blanks around the two
outermost pieces, which are trimmed anyway (`splitTopLevel_intercalate`).
-/

namespace KotlinBuilders.Text

/-! ## Cutting -/

section Walk

variable {separator : Char}

/-- Growing the first piece leaves at least one. -/
theorem growFirst_ne_nil (c : Char) (pieces : List (List Char)) :
    growFirst c pieces ≠ [] := by
  cases pieces <;> simp [growFirst]

/-- A text is cut into at least one piece. -/
theorem cutOutside_ne_nil (depth : Nat) (before : Option Char)
    (text : List Char) :
    cutOutside separator depth before text ≠ [] := by
  cases text with
  | nil => simp [cutOutside]
  | cons c rest =>
    rw [cutOutside]
    split
    · simp
    · exact growFirst_ne_nil c _

/-- A character that the first piece grows by stands in front of the joined
text. -/
theorem intercalate_growFirst {c : Char} {pieces : List (List Char)}
    (hpieces : pieces ≠ []) :
    [separator].intercalate (growFirst c pieces)
      = c :: [separator].intercalate pieces := by
  match pieces, hpieces with
  | [piece], _ => simp [growFirst]
  | piece :: next :: rest, _ => simp [growFirst, List.intercalate_cons_cons]

/-- **Cutting loses nothing.** -/
theorem intercalate_cutOutside (depth : Nat) (before : Option Char)
    (text : List Char) :
    [separator].intercalate (cutOutside separator depth before text)
      = text := by
  induction text generalizing depth before with
  | nil => simp [cutOutside]
  | cons c rest ih =>
    rw [cutOutside]
    split
    · next hcut =>
      have hnonempty : cutOutside separator depth (some c) rest ≠ [] :=
        cutOutside_ne_nil depth (some c) rest
      obtain ⟨next, others, hrest⟩ := List.exists_cons_of_ne_nil hnonempty
      have hwhole := ih depth (some c)
      rw [hrest] at hwhole ⊢
      rw [List.intercalate_cons_cons, hwhole, hcut.1]
      rfl
    · rw [intercalate_growFirst (cutOutside_ne_nil _ _ _), ih]

/-- What the walk passes over up to the next cut: it closes the brackets that
were open, and each separator in it stands inside brackets. -/
structure ClosesFrom (separator : Char) (unclosed : List Bracket)
    (before : Option Char) (text : List Char) : Prop where
  closed : openAfter unclosed (marksAfter before text) = some []
  inside : ∀ front back, text = front ++ separator :: back →
    openAfter unclosed (marksAfter before front) ≠ some []

/-- With no bracket open, what the walk passes over is a piece. -/
theorem ClosesFrom.isPiece {before : Option Char} (hbefore : before ≠ some '-')
    {text : List Char} (htext : ClosesFrom separator [] before text) :
    IsPiece separator text := by
  have harrow : ∀ front : List Char, marksAfter before front = marks front :=
    fun front => marksAfter_eq_marks fun h => absurd h hbefore
  refine ⟨isBalanced_iff.2 (harrow text ▸ htext.closed), ?_⟩
  intro front back hfront
  have hopen := htext.inside front back hfront
  rwa [Bool.eq_false_iff, ne_eq, isBalanced_iff, ← harrow]

/-- The walk cuts what closes the open brackets into one text that closes them
and pieces. -/
theorem exists_pieces_cutOutside (hseparator : IsSeparator separator)
    {unclosed : List Bracket} {before : Option Char} {text : List Char}
    (hrun : openAfter unclosed (marksAfter before text) = some []) :
    ∃ first pieces,
      cutOutside separator unclosed.length before text = first :: pieces
      ∧ ClosesFrom separator unclosed before first
      ∧ ∀ piece ∈ pieces, IsPiece separator piece := by
  induction text generalizing unclosed before with
  | nil => exact ⟨[], [], rfl, ⟨hrun, by simp⟩, List.forall_mem_nil _⟩
  | cons c text ih =>
    rw [cutOutside]
    split
    · next hcut =>
      obtain ⟨rfl, hlength, hplain⟩ := hcut
      obtain rfl := List.length_eq_zero_iff.1 hlength
      have hmark : markAfter before c = none := by simp [markAfter, hplain]
      have hrest : openAfter [] (marksAfter (some c) text) = some [] := by
        rwa [marksAfter, hmark] at hrun
      obtain ⟨first, pieces, hpieces, hfirst, hall⟩ := ih hrest
      have hnext : some c ≠ some '-' :=
        fun h => hseparator.noDash (Option.some.inj h)
      exact ⟨[], _, rfl, ⟨rfl, by simp⟩,
        hpieces ▸ List.forall_mem_cons.2 ⟨hfirst.isPiece hnext, hall⟩⟩
    · next hstay =>
      obtain ⟨middle, hmark, hdepth, hrest⟩ :=
        exists_openAfter_of_toList_append hrun
      obtain ⟨first, pieces, hpieces, hfirst, hall⟩ := ih hrest
      refine ⟨c :: first, pieces, by rw [hdepth, hpieces, growFirst],
        ⟨?_, ?_⟩, hall⟩
      · rw [marksAfter, openAfter_append, hmark]
        exact hfirst.closed
      · intro front back hfront
        cases front with
        | nil =>
          obtain ⟨rfl, -⟩ := List.cons.inj hfront
          intro hopen
          have hnone : unclosed = [] := Option.some.inj hopen
          exact hstay ⟨rfl, by rw [hnone]; rfl, hseparator.plain⟩
        | cons d front =>
          obtain ⟨rfl, hrest⟩ := List.cons.inj hfront
          rw [marksAfter, openAfter_append, hmark]
          exact hfirst.inside front back hrest

/-- **A balanced text is cut into pieces.** -/
theorem isPiece_of_mem_cutOutside (hseparator : IsSeparator separator)
    {text : List Char} (htext : isBalanced text) :
    ∀ piece ∈ cutOutside separator 0 none text, IsPiece separator piece := by
  obtain ⟨first, pieces, hpieces, hfirst, hall⟩ :=
    exists_pieces_cutOutside hseparator (isBalanced_iff.1 htext)
  rw [show (0 : Nat) = ([] : List Bracket).length from rfl, hpieces]
  exact List.forall_mem_cons.2 ⟨hfirst.isPiece (by simp), hall⟩

/-- **Splitting a balanced text loses nothing but blanks**: its parts are
trimmed raw pieces. -/
theorem exists_raws_of_isBalanced (hseparator : IsSeparator separator)
    {text : List Char} (htext : isBalanced text) :
    ∃ raws, splitTopLevel separator text = raws.map trim
      ∧ [separator].intercalate raws = trim text
      ∧ ∀ raw ∈ raws, IsPiece separator raw := by
  rw [← isBalanced_trim] at htext
  rw [splitTopLevel]
  split
  · next hempty => exact ⟨[], rfl, hempty.symm, List.forall_mem_nil _⟩
  · next c rest hcons =>
    rw [hcons] at htext ⊢
    rw [if_pos htext]
    exact ⟨_, rfl, intercalate_cutOutside 0 none (c :: rest),
      isPiece_of_mem_cutOutside hseparator htext⟩

/-- A text that is not balanced is its own only part. -/
theorem splitTopLevel_of_unbalanced {text : List Char}
    (htext : isBalanced text = false) :
    splitTopLevel separator text = [trim text] := by
  rw [← isBalanced_trim] at htext
  rw [splitTopLevel]
  split
  · next hempty =>
    rw [hempty] at htext
    exact absurd htext (by decide)
  · next c rest hcons =>
    rw [hcons] at htext
    rw [if_neg (by simp [htext]), hcons]

/-- **The parts of a split text are balanced exactly when the text is.** -/
theorem forall_isBalanced_splitTopLevel_iff (hseparator : IsSeparator separator)
    (text : List Char) :
    (∀ piece ∈ splitTopLevel separator text, isBalanced piece) ↔
      isBalanced text := by
  cases htext : isBalanced text with
  | false =>
    rw [splitTopLevel_of_unbalanced htext, List.forall_mem_singleton,
      isBalanced_trim, htext]
  | true =>
    refine iff_of_true (fun piece hpiece => ?_) rfl
    obtain ⟨raws, hsplit, -, hraws⟩ :=
      exists_raws_of_isBalanced hseparator htext
    rw [hsplit] at hpiece
    obtain ⟨raw, hraw, rfl⟩ := List.mem_map.1 hpiece
    rw [isBalanced_trim]
    exact (hraws raw hraw).balanced

/-- What was put together from pieces is cut into the same pieces. -/
theorem cutOutside_intercalate (hseparator : IsSeparator separator)
    {pieces : List (List Char)} (hnonempty : pieces ≠ [])
    (hpieces : ∀ piece ∈ pieces, IsPiece separator piece) {before : Option Char}
    (hbefore : before ≠ some '-') :
    cutOutside separator 0 before ([separator].intercalate pieces)
      = pieces := by
  induction pieces generalizing before with
  | nil => exact absurd rfl hnonempty
  | cons piece pieces ih =>
    obtain ⟨hpiece, hpieces⟩ := List.forall_mem_cons.1 hpieces
    cases pieces with
    | nil =>
      rw [List.intercalate_singleton]
      exact cutOutside_piece hbefore hpiece
    | cons next rest =>
      have hnext : some separator ≠ some '-' :=
        fun h => hseparator.noDash (Option.some.inj h)
      rw [List.intercalate_cons_cons, List.append_assoc, List.singleton_append,
        cutOutside_piece_append hbefore hseparator.plain hpiece,
        ih (by simp) hpieces hnext]

/-- A separator has no mark. -/
theorem marks_separator_cons (hseparator : IsSeparator separator)
    (text : List Char) :
    marks (separator :: text) = marks text := by
  have hmark : markAfter none separator = none := by
    simp [markAfter, hseparator.plain]
  have hafter : marksAfter (some separator) text = marks text :=
    marksAfter_eq_marks fun h => absurd (Option.some.inj h) hseparator.noDash
  rw [marks, marksAfter, hmark, hafter]
  rfl

/-- Balanced pieces are balanced with a separator between them. -/
theorem isBalanced_intercalate (hseparator : IsSeparator separator)
    {pieces : List (List Char)} (hpieces : ∀ piece ∈ pieces, isBalanced piece) :
    isBalanced ([separator].intercalate pieces) := by
  induction pieces with
  | nil => rfl
  | cons piece pieces ih =>
    obtain ⟨hpiece, hpieces⟩ := List.forall_mem_cons.1 hpieces
    cases pieces with
    | nil => rwa [List.intercalate_singleton]
    | cons next rest =>
      rw [List.intercalate_cons_cons, List.append_assoc, List.singleton_append]
      refine isBalanced_append hpiece ?_
      rw [isBalanced, marks_separator_cons hseparator]
      exact ih hpieces

/-! ## Blanks around the text -/

/-- What stands before a text matters only if it makes an arrow. -/
theorem cutOutside_before {depth : Nat} {before : Option Char}
    (hbefore : before ≠ some '-') (text : List Char) :
    cutOutside separator depth before text
      = cutOutside separator depth none text := by
  cases text with
  | nil => rfl
  | cons c rest =>
    have hmark : markAfter before c = markAfter none c := by
      simp [markAfter, hbefore]
    rw [cutOutside, cutOutside, hmark]

/-- Blanks in front of a text belong to the first piece. -/
theorem cutOutside_blanks_append (hseparator : IsSeparator separator)
    {blanks : List Char} (hblanks : AllBlank blanks) (text : List Char) :
    cutOutside separator 0 none (blanks ++ text)
      = blanks.foldr growFirst (cutOutside separator 0 none text) := by
  have hlast : blanks.getLast?.or none ≠ some '-' := by
    rw [Option.or_none]
    intro hdash
    exact absurd (hblanks _ (List.mem_of_getLast? hdash)) (by decide)
  rw [(isPiece_of_allBlank hseparator.solid hblanks).cutOutside_append
    (by simp), cutOutside_before hlast]

/-- Blanks are a single piece, at any depth. -/
theorem cutOutside_blanks (hseparator : IsSeparator separator) {depth : Nat}
    {before : Option Char} {blanks : List Char} (hblanks : AllBlank blanks) :
    cutOutside separator depth before blanks = [blanks] := by
  induction blanks generalizing depth before with
  | nil => rfl
  | cons c blanks ih =>
    obtain ⟨hc, hblanks⟩ := List.forall_mem_cons.1 hblanks
    have hstay : ¬(c = separator ∧ depth = 0 ∧ Mark.ofChar? c = none) := by
      intro hcut
      exact Bool.false_ne_true (hseparator.solid.symm.trans (hcut.1 ▸ hc))
    rw [cutOutside, if_neg hstay, ih hblanks, growFirst]

/-- Blanks behind a text belong to the last piece. -/
theorem exists_cutOutside_append_blanks (hseparator : IsSeparator separator)
    {blanks : List Char} (hblanks : AllBlank blanks) (depth : Nat)
    (before : Option Char) (text : List Char) :
    ∃ others last, cutOutside separator depth before text = others ++ [last]
      ∧ cutOutside separator depth before (text ++ blanks)
        = others ++ [last ++ blanks] := by
  induction text generalizing depth before with
  | nil => exact ⟨[], [], rfl, cutOutside_blanks hseparator hblanks⟩
  | cons c rest ih =>
    rw [List.cons_append, cutOutside, cutOutside]
    split
    · obtain ⟨others, last, hrest, hpadded⟩ := ih depth (some c)
      exact ⟨[] :: others, last, by rw [hrest]; rfl, by rw [hpadded]; rfl⟩
    · obtain ⟨others, last, hrest, hpadded⟩ :=
        ih (depthAfter depth (markAfter before c)) (some c)
      rw [hrest, hpadded]
      cases others with
      | nil => exact ⟨[], c :: last, rfl, rfl⟩
      | cons first others => exact ⟨(c :: first) :: others, last, rfl, rfl⟩

/-- Blanks around a text do not show in the trimmed pieces. -/
theorem map_trim_cutOutside_trim (hseparator : IsSeparator separator)
    (text : List Char) :
    (cutOutside separator 0 none text).map trim
      = (cutOutside separator 0 none (trim text)).map trim := by
  obtain ⟨before, after, hbefore, hafter, hwhole⟩ := exists_blanks_trim text
  obtain ⟨others, last, htrimmed, hpadded⟩ :=
    exists_cutOutside_append_blanks hseparator hafter 0 none (trim text)
  have hends : (cutOutside separator 0 none (trim text ++ after)).map trim
      = (cutOutside separator 0 none (trim text)).map trim := by
    rw [htrimmed, hpadded, List.map_append, List.map_append, List.map_singleton,
      List.map_singleton, trim_append_blanks hafter]
  have hstart : cutOutside separator 0 none text
      = before.foldr growFirst
        (cutOutside separator 0 none (trim text ++ after)) := by
    rw [← cutOutside_blanks_append hseparator hbefore,
      ← List.append_assoc, ← hwhole]
  have hnonempty : cutOutside separator 0 none (trim text ++ after) ≠ [] :=
    cutOutside_ne_nil 0 none _
  obtain ⟨first, pieces, hpieces⟩ := List.exists_cons_of_ne_nil hnonempty
  rw [← hends, hstart, hpieces, foldr_growFirst, List.map_cons, List.map_cons,
    trim_blanks_append hbefore]

/-- **Splitting gives back the pieces that were put together**, trimmed, as long
as there is anything but blanks. -/
theorem splitTopLevel_intercalate (hseparator : IsSeparator separator)
    {pieces : List (List Char)}
    (hpieces : ∀ piece ∈ pieces, IsPiece separator piece)
    (hsolid : trim ([separator].intercalate pieces) ≠ []) :
    splitTopLevel separator ([separator].intercalate pieces)
      = pieces.map trim := by
  have hnonempty : pieces ≠ [] := by
    intro hnone
    rw [hnone] at hsolid
    exact hsolid rfl
  have hbalanced : isBalanced (trim ([separator].intercalate pieces)) := by
    rw [isBalanced_trim]
    exact isBalanced_intercalate hseparator fun piece hpiece =>
      (hpieces piece hpiece).balanced
  have hcut :
      (cutOutside separator 0 none (trim ([separator].intercalate pieces))).map
        trim = pieces.map trim := by
    rw [← map_trim_cutOutside_trim hseparator,
      cutOutside_intercalate hseparator hnonempty hpieces (by simp)]
  rw [splitTopLevel]
  split
  · next hempty => exact absurd hempty hsolid
  · next c rest hcons =>
    rw [← hcons, if_pos hbalanced, hcut]

/-- White space around a text changes no piece. -/
theorem splitTopLevel_trim (text : List Char) :
    splitTopLevel separator (trim text) = splitTopLevel separator text := by
  rw [splitTopLevel, splitTopLevel, trim_trim]

end Walk

/-! ## Generic types -/

/-- **A generic type as it was cut**: at the first opening angle bracket, if the
last character is a closing one. -/
theorem exists_of_splitGeneric {text outer : List Char}
    {arguments : List (List Char)}
    (hsplit : splitGeneric text = some (outer, arguments)) :
    ∃ front inner, '<' ∉ front ∧ trim text = front ++ '<' :: inner ++ ['>']
      ∧ outer = trim front
      ∧ arguments = splitTopLevel ',' inner := by
  rw [splitGeneric] at hsplit
  split at hsplit
  · next front back hcut =>
    split at hsplit
    · next hlast =>
      obtain ⟨rfl, rfl⟩ := Prod.mk.inj (Option.some.inj hsplit)
      obtain ⟨inner, rfl⟩ := List.getLast?_eq_some_iff.1 hlast
      rw [List.dropLast_concat]
      exact ⟨front, inner, not_mem_of_cutAtFirst hcut,
        by simp [eq_of_cutAtFirst hcut], rfl, rfl⟩
    · cases hsplit
  · cases hsplit

end KotlinBuilders.Text
