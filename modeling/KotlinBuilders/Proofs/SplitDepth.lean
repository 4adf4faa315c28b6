import KotlinBuilders.Proofs.Pieces

/-!
# The depth counter of a split

Splitting counts open brackets in a number, whatever their kind, while balance
keeps them on a stack.  `depthBehind` is the number behind a text, and the walk
goes on from there with nothing else to remember than the last character
(`cutOutside_append_eq`).  Along a balanced text the number is the height of the
stack, and it is never zero in front of a closing bracket, where one less than
zero would have to be counted as zero (`depthKeepsStep_of_isBalanced`).

So "outside every bracket" can be read off either of them, and a piece is a
balanced text with no separator where the number is zero (`isPiece_iff`).  The
main statement is `splitTopLevel_cuts_and_rejoins`: a balanced text is cut into
such pieces without any loss, and such pieces are found again when they were
joined with blanks around the separators, empty pieces included, unless there is
nothing but one empty piece.
-/

namespace KotlinBuilders.Text

/-- The number of open brackets that is counted behind a text. -/
def depthBehind (depth : Nat) (before : Option Char) : List Char → Nat
  | [] => depth
  | c :: rest =>
    depthBehind (depthAfter depth (markAfter before c)) (some c) rest

/-- The pieces of two texts that stand behind one another: at the seam the last
piece of the one and the first piece of the other are one piece. -/
def joinAtSeam : List (List Char) → List (List Char) → List (List Char)
  | [], later => later
  | [piece], later => piece.foldr growFirst later
  | piece :: next :: pieces, later => piece :: joinAtSeam (next :: pieces) later

/-- No separator in a text stands where no open bracket is counted. -/
def NoneOutside (separator : Char) (text : List Char) : Prop :=
  ∀ front back, text = front ++ separator :: back → depthBehind 0 none front ≠ 0

/-- All along a text, the number that the walk counts is the height of the stack
that balance keeps, and it is never decreased from zero. -/
structure DepthKeepsStep (separator : Char) (text : List Char) : Prop where
  /-- The number is what the walk goes on with behind a front of the text. -/
  counted : ∀ front back, text = front ++ back →
    cutOutside separator 0 none text
      = joinAtSeam (cutOutside separator 0 none front)
        (cutOutside separator (depthBehind 0 none front) front.getLast? back)
  height : ∀ front back, text = front ++ back →
    ∃ unclosed, openAfter [] (marks front) = some unclosed
    ∧ depthBehind 0 none front = unclosed.length
  positive : ∀ front c back bracket, text = front ++ c :: back →
    markAfter front.getLast? c = some (.closing bracket) →
    depthBehind 0 none front ≠ 0

section Walk

variable {separator : Char}

/-- The seam stands behind all pieces but the last. -/
theorem joinAtSeam_cons {piece : List Char} {pieces later : List (List Char)}
    (hpieces : pieces ≠ []) :
    joinAtSeam (piece :: pieces) later = piece :: joinAtSeam pieces later := by
  obtain ⟨next, others, rfl⟩ := List.exists_cons_of_ne_nil hpieces
  rfl

/-- Growing the first piece does not touch the seam. -/
theorem joinAtSeam_growFirst {c : Char} {pieces later : List (List Char)}
    (hpieces : pieces ≠ []) :
    joinAtSeam (growFirst c pieces) later
      = growFirst c (joinAtSeam pieces later) := by
  match pieces, hpieces with
  | [piece], _ => rfl
  | piece :: next :: others, _ => rfl

/-- **The walk goes on with the depth that it has counted.** -/
theorem cutOutside_append_eq (depth : Nat) (before : Option Char)
    (front back : List Char) :
    cutOutside separator depth before (front ++ back)
      = joinAtSeam (cutOutside separator depth before front)
          (cutOutside separator (depthBehind depth before front)
            (front.getLast?.or before) back) := by
  induction front generalizing depth before with
  | nil => rfl
  | cons c front ih =>
    have hlast :
        (c :: front).getLast?.or before = front.getLast?.or (some c) := by
      rw [List.getLast?_cons]
      cases front.getLast? <;> rfl
    rw [List.cons_append, cutOutside, cutOutside, depthBehind, hlast]
    split
    · next hcut =>
      -- A separator makes no mark, so the depth stays.
      have hmark : markAfter before c = none := by simp [markAfter, hcut.2.2]
      rw [hmark, depthAfter, joinAtSeam_cons (cutOutside_ne_nil _ _ _), ih]
    · rw [joinAtSeam_growFirst (cutOutside_ne_nil _ _ _), ih]

/-- As long as there is a stack of open brackets, its height is what is
counted. -/
theorem depthBehind_eq_length {unclosed unclosed' : List Bracket}
    {before : Option Char} {text : List Char}
    (hrun : openAfter unclosed (marksAfter before text) = some unclosed') :
    depthBehind unclosed.length before text = unclosed'.length := by
  induction text generalizing unclosed before with
  | nil =>
    obtain rfl := Option.some.inj hrun
    rfl
  | cons c text ih =>
    obtain ⟨middle, -, hdepth, hrest⟩ := exists_openAfter_of_toList_append hrun
    rw [depthBehind, hdepth, ih hrest]

/-- At every place of a balanced text there is a stack of open brackets, of the
height that is counted. -/
theorem exists_height_of_isBalanced {front back : List Char}
    (hbalanced : isBalanced (front ++ back)) :
    ∃ unclosed, openAfter [] (marks front) = some unclosed
      ∧ depthBehind 0 none front = unclosed.length := by
  obtain ⟨unclosed, hfront⟩ := exists_openAfter_of_isBalanced hbalanced
  exact ⟨unclosed, hfront, depthBehind_eq_length hfront⟩

/-- In front of a closing bracket of a balanced text, some bracket is open. -/
theorem depthBehind_ne_zero_of_closing {front back : List Char} {c : Char}
    {bracket : Bracket} (hbalanced : isBalanced (front ++ c :: back))
    (hclosing : markAfter front.getLast? c = some (.closing bracket)) :
    depthBehind 0 none front ≠ 0 := by
  obtain ⟨unclosed, hfront, hheight⟩ := exists_height_of_isBalanced hbalanced
  rw [hheight]
  intro hzero
  obtain rfl := List.length_eq_zero_iff.1 hzero
  rw [isBalanced_iff, marks, marksAfter_append, openAfter_append, ← marks,
    hfront, Option.or_none, marksAfter, hclosing] at hbalanced
  cases hbalanced

/-- All along a balanced text the count keeps step with the stack. -/
theorem depthKeepsStep_of_isBalanced {text : List Char}
    (hbalanced : isBalanced text) :
    DepthKeepsStep separator text where
  counted := by
    rintro front back rfl
    rw [cutOutside_append_eq, Option.or_none]
  height := by
    rintro front back rfl
    exact exists_height_of_isBalanced hbalanced
  positive := by
    rintro front c back bracket rfl hclosing
    exact depthBehind_ne_zero_of_closing hbalanced hclosing

/-- **A piece is a balanced text with no separator outside**, by the depth that
is counted. -/
theorem isPiece_iff {text : List Char} : IsPiece separator text ↔
    isBalanced text ∧ NoneOutside separator text := by
  have hplaces :
      isBalanced text → ∀ front back, text = front ++ separator :: back →
        (isBalanced front = false ↔ depthBehind 0 none front ≠ 0) := by
    rintro hbalanced front back rfl
    obtain ⟨unclosed, hfront, hheight⟩ := exists_height_of_isBalanced hbalanced
    rw [Bool.eq_false_iff, ne_eq, isBalanced_iff, hfront, hheight,
      Option.some.injEq, ne_eq, List.length_eq_zero_iff]
  constructor
  · intro hpiece
    exact ⟨hpiece.balanced, fun front back h =>
      (hplaces hpiece.balanced front back h).1 (hpiece.inside front back h)⟩
  · rintro ⟨hbalanced, hnone⟩
    exact ⟨hbalanced, fun front back h =>
      (hplaces hbalanced front back h).2 (hnone front back h)⟩

/-- A text without separators has none outside brackets. -/
theorem noneOutside_of_not_mem {text : List Char} (habsent : separator ∉ text) :
    NoneOutside separator text := by
  intro front back hplace
  exact absurd (by simp [hplace]) habsent

/-- A piece stays one when the blanks around it are trimmed away. -/
theorem isPiece_trim {text : List Char} (htext : IsPiece separator text) :
    IsPiece separator (trim text) := by
  obtain ⟨before, after, hbefore, -, hwhole⟩ := exists_blanks_trim text
  refine ⟨by rw [isBalanced_trim]; exact htext.balanced, ?_⟩
  intro front back hfront
  have hplace : text = (before ++ front) ++ separator :: (back ++ after) := by
    rw [hwhole, hfront]
    simp
  have hinside := htext.inside _ _ hplace
  rw [Bool.eq_false_iff] at hinside ⊢
  have hblanks : isBalanced before :=
    isBalanced_of_unmarked fun c hc => ofChar?_of_isBlank (hbefore c hc)
  exact mt
    (isBalanced_append_iff (noArrow_of_allBlank hbefore) hblanks).2 hinside

/-- A joined text is made of raw pieces: those that were joined, with the blanks
beside them. -/
theorem Joined.exists_raws (hseparator : IsSeparator separator)
    {pieces : List (List Char)} {text : List Char}
    (hjoined : Joined separator pieces text)
    (hpieces : ∀ piece ∈ pieces, IsPiece separator piece) {padding : List Char}
    (hpadding : AllBlank padding) :
    ∃ raws, [separator].intercalate raws = padding ++ text
      ∧ raws.map trim = pieces.map trim
      ∧ ∀ raw ∈ raws, IsPiece separator raw := by
  -- The blanks behind a separator go with the next piece, so every piece comes
  -- with some in front.
  induction hjoined generalizing padding with
  | single piece =>
    have hraw := (hpieces piece List.mem_cons_self).pad hseparator.solid
      hpadding allBlank_nil
    rw [List.append_nil] at hraw
    exact ⟨[padding ++ piece], List.intercalate_singleton ..,
      by simp [trim_blanks_append hpadding], List.forall_mem_singleton.2 hraw⟩
  | @cons piece before after text pieces hbefore hafter hrest ih =>
    obtain ⟨hpiece, hpieces⟩ := List.forall_mem_cons.1 hpieces
    obtain ⟨raws, hwhole, htrims, hraws⟩ := ih hpieces hafter
    have hnonempty : raws ≠ [] := by
      rintro rfl
      cases hrest <;> cases htrims
    obtain ⟨raw, others, rfl⟩ := List.exists_cons_of_ne_nil hnonempty
    refine ⟨(padding ++ piece ++ before) :: raw :: others, ?_, ?_, ?_⟩
    · rw [List.intercalate_cons_cons, hwhole]
      simp
    · rw [List.map_cons, htrims, List.map_cons, trim_blanks hpadding hbefore]
    · exact List.forall_mem_cons.2
        ⟨hpiece.pad hseparator.solid hpadding hbefore, hraws⟩

/-- A joined text is blank only if it is a single blank piece. -/
theorem Joined.trim_ne_nil (hseparator : IsSeparator separator)
    {pieces : List (List Char)} {text : List Char}
    (hjoined : Joined separator pieces text)
    (htrimmed : ∀ piece ∈ pieces, trim piece = piece)
    (hpieces : pieces ≠ [[]]) : trim text ≠ [] := by
  intro hblank
  cases hjoined with
  | single =>
    rw [htrimmed text List.mem_cons_self] at hblank
    exact hpieces (by rw [hblank])
  | cons hbefore hafter hrest =>
    have hseparated := allBlank_of_trim_eq_nil hblank separator (by simp)
    exact Bool.false_ne_true (hseparator.solid.symm.trans hseparated)

/-- **Splitting undoes joining**, with blanks around the separators and around
the whole, empty pieces included. -/
theorem splitTopLevel_of_joined_pieces (hseparator : IsSeparator separator)
    {pieces : List (List Char)} {text : List Char}
    (hjoined : Joined separator pieces text) (hpieces : pieces ≠ [[]])
    (hall : ∀ piece ∈ pieces, trim piece = piece ∧ IsPiece separator piece)
    {before after : List Char} (hbefore : AllBlank before)
    (hafter : AllBlank after) :
    splitTopLevel separator (before ++ text ++ after) = pieces := by
  obtain ⟨raws, hwhole, htrims, hraws⟩ :=
    hjoined.exists_raws hseparator (fun piece hpiece =>
      (hall piece hpiece).2) allBlank_nil
  rw [List.nil_append] at hwhole
  have hsolid := hjoined.trim_ne_nil hseparator
    (fun piece hpiece => (hall piece hpiece).1) hpieces
  have htrimmed : pieces.map trim = pieces :=
    (List.map_congr_left fun piece hpiece => (hall piece hpiece).1).trans
      (List.map_id _)
  rw [← splitTopLevel_trim, trim_blanks hbefore hafter, splitTopLevel_trim,
    ← hwhole, splitTopLevel_intercalate hseparator hraws (hwhole ▸ hsolid),
    htrims, htrimmed]

/-- **Splitting cuts without loss and undoes joining.**  The parts of a balanced
text are trimmed raw pieces that make up the trimmed text, balanced and with no
separator outside, and the depth is counted right all along.  Trimmed pieces of
this kind are the parts of every text that joins them, unless they are a single
empty piece. -/
theorem splitTopLevel_cuts_and_rejoins (hseparator : IsSeparator separator) :
    (∀ text, isBalanced text →
        (∃ raws, splitTopLevel separator text = raws.map trim
            ∧ [separator].intercalate raws = trim text
            ∧ ∀ raw ∈ raws, isBalanced raw ∧ NoneOutside separator raw)
          ∧ (∀ piece ∈ splitTopLevel separator text,
            isBalanced piece ∧ NoneOutside separator piece)
          ∧ DepthKeepsStep separator (trim text))
      ∧ ∀ pieces text, Joined separator pieces text → pieces ≠ [[]] →
          (∀ piece ∈ pieces, trim piece = piece ∧ isBalanced piece
            ∧ NoneOutside separator piece) →
          ∀ before after, AllBlank before → AllBlank after →
            splitTopLevel separator (before ++ text ++ after) = pieces := by
  constructor
  · intro text htext
    obtain ⟨raws, hsplit, hwhole, hraws⟩ :=
      exists_raws_of_isBalanced hseparator htext
    refine ⟨⟨raws, hsplit, hwhole, fun raw hraw =>
      isPiece_iff.1 (hraws raw hraw)⟩, ?_, ?_⟩
    · rw [hsplit]
      intro piece hpiece
      obtain ⟨raw, hraw, rfl⟩ := List.mem_map.1 hpiece
      exact isPiece_iff.1 (isPiece_trim (hraws raw hraw))
    · exact depthKeepsStep_of_isBalanced (by rwa [isBalanced_trim])
  · intro pieces text hjoined hpieces hall before after hbefore hafter
    refine splitTopLevel_of_joined_pieces hseparator hjoined hpieces
      (fun piece hpiece => ?_) hbefore hafter
    obtain ⟨htrimmed, hpiece⟩ := hall piece hpiece
    exact ⟨htrimmed, isPiece_iff.2 hpiece⟩

end Walk

/-- A piece with a separator inside its brackets, an empty piece, and a piece
that ends in the front of an arrow. -/
def arrowPieces : List (List Char) :=
  [['(', 'K', ';', 'V', ')'], [], ['x', '-']]

def arrowText : List Char := "(K;V) ; ;x-".toList

/-- The text is cut at its two outer separators, and the pieces are found again
in it. -/
theorem splitTopLevel_cuts_and_rejoins_arrow :
    IsSeparator ';'
      ∧ isBalanced arrowText
      ∧ (∃ raws, splitTopLevel ';' arrowText = raws.map trim
        ∧ [';'].intercalate raws = trim arrowText)
      ∧ DepthKeepsStep ';' (trim arrowText)
      ∧ Joined ';' arrowPieces arrowText
      ∧ splitTopLevel ';' (' ' :: arrowText) = arrowPieces := by
  have hseparator : IsSeparator ';' := ⟨rfl, by decide, by decide⟩
  have hbalanced : isBalanced arrowText := by decide +kernel
  have hjoined : Joined ';' arrowPieces arrowText :=
    .cons allBlank_space allBlank_nil
      (.cons allBlank_space allBlank_nil (.single _))
  have hbracketed : IsPiece ';' ('(' :: ['K', ';', 'V'] ++ [')']) :=
    isPiece_bracketed rfl rfl rfl (by decide) (noArrow_of_getLast? (by decide))
  have hpieces : ∀ piece ∈ arrowPieces, trim piece = piece ∧ isBalanced piece
      ∧ NoneOutside ';' piece := by
    refine List.forall_mem_cons.2 ⟨⟨by decide, isPiece_iff.1 hbracketed⟩,
      List.forall_mem_cons.2 ⟨?_, ?_⟩⟩
    · exact ⟨rfl, rfl, noneOutside_of_not_mem (by decide)⟩
    · exact List.forall_mem_singleton.2 ⟨by decide, by decide,
        noneOutside_of_not_mem (by decide)⟩
  obtain ⟨hcuts, hrejoins⟩ := splitTopLevel_cuts_and_rejoins hseparator
  obtain ⟨⟨raws, hsplit, hwhole, -⟩, -, hdepth⟩ := hcuts arrowText hbalanced
  have hparts := hrejoins arrowPieces arrowText hjoined
    (by decide) hpieces [' '] [] allBlank_space allBlank_nil
  exact ⟨hseparator, hbalanced, ⟨raws, hsplit, hwhole⟩, hdepth, hjoined,
    by simpa using hparts⟩

end KotlinBuilders.Text
