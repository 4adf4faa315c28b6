import KotlinBuilders.Proofs.Balance
import KotlinBuilders.Text.Split
import Mathlib.Data.List.TakeWhile

/-!
# Splitting what was joined

`Joined` says that a text is a list of pieces with separators between them,
blanks allowed at every separator.  Splitting such a text outside its brackets
gives the pieces back (`splitTopLevel_of_joined`), whatever brackets and
separators they hold inside.

The walk counts open brackets where balance keeps a stack of them.  While a
stack exists its length is that count, so a piece is passed over without a cut
and the walk goes on behind it at the depth it had before (`cutOutside_append`).
-/

namespace KotlinBuilders.Text

/-- A text of blank characters. -/
def AllBlank (text : List Char) : Prop := ∀ c ∈ text, isBlank c

/-- Nothing is blank. -/
theorem allBlank_nil : AllBlank [] := fun _ hc => absurd hc List.not_mem_nil

/-- A space is blank. -/
theorem allBlank_space : AllBlank [' '] := List.forall_mem_singleton.2 rfl

/-- There is nothing to drop at the start of a text that begins with no
blank. -/
theorem trimStart_eq_self_iff {text : List Char} :
    trimStart text = text ↔ ∀ c, text.head? = some c → isBlank c = false := by
  cases text with
  | nil => simp [trimStart]
  | cons c rest => simp [trimStart, List.dropWhile_eq_self_iff]

/-- A text is trimmed when neither its first nor its last character is blank. -/
theorem trim_eq_self_iff {text : List Char} :
    trim text = text ↔ (∀ c, text.head? = some c → isBlank c = false)
      ∧ ∀ c, text.getLast? = some c → isBlank c = false := by
  have hend : trimEnd text = text ↔ ∀ c, text.getLast? = some c →
      isBlank c = false := by
    rw [trimEnd, List.reverse_eq_iff, trimStart_eq_self_iff, List.head?_reverse]
  rw [← trimStart_eq_self_iff, ← hend]
  constructor
  · intro htrim
    have hstart : trimStart text = text := by
      refine (List.dropWhile_suffix _).eq_of_length
        (Nat.le_antisymm (length_trimStart_le text) ?_)
      have hle := length_trimEnd_le (trimStart text)
      rwa [← trim, htrim] at hle
    refine ⟨hstart, ?_⟩
    rwa [trim, hstart] at htrim
  · intro hends
    rw [trim, hends.1, hends.2]

/-- Blanks behind a text are dropped with those at its end. -/
theorem trimEnd_append_blanks {text after : List Char}
    (hafter : AllBlank after) :
    trimEnd (text ++ after) = trimEnd text := by
  rw [trimEnd, trimEnd, List.reverse_append, trimStart, trimStart,
    List.dropWhile_append_of_pos fun c hc => hafter c (List.mem_reverse.1 hc)]

/-- Blanks around a text are trimmed away. -/
theorem trim_blanks {before text after : List Char} (hbefore : AllBlank before)
    (hafter : AllBlank after) :
    trim (before ++ text ++ after) = trim text := by
  have hstart :
      trimStart (before ++ text ++ after) = trimStart (text ++ after) := by
    rw [List.append_assoc, trimStart,
      List.dropWhile_append_of_pos hbefore, trimStart]
  rw [trim, hstart, trimStart, List.dropWhile_append]
  split
  · next hnone =>
    have htext : trimStart text = [] := List.isEmpty_iff.1 hnone
    rw [trim, htext, List.dropWhile_eq_nil_iff.2 hafter]
  · rw [trimEnd_append_blanks hafter, ← trimStart, trim]

/-- Blanks in front of a text are trimmed away. -/
theorem trim_blanks_append {before text : List Char}
    (hbefore : AllBlank before) :
    trim (before ++ text) = trim text := by
  simpa using trim_blanks hbefore allBlank_nil

/-- Blanks behind a text are trimmed away. -/
theorem trim_append_blanks {text after : List Char} (hafter : AllBlank after) :
    trim (text ++ after) = trim text :=
  trim_blanks allBlank_nil hafter

/-- Any text is its trimmed text with blanks around it. -/
theorem exists_blanks_trim (text : List Char) :
    ∃ before after, AllBlank before ∧ AllBlank after
      ∧ text = before ++ trim text ++ after := by
  have hstart : text.takeWhile isBlank ++ trimStart text = text :=
    List.takeWhile_append_dropWhile
  have hend : trim text ++ ((trimStart text).reverse.takeWhile isBlank).reverse
      = trimStart text := by
    have hreverse := congrArg List.reverse
      (List.takeWhile_append_dropWhile (p := isBlank)
        (l := (trimStart text).reverse))
    rwa [List.reverse_append, List.reverse_reverse] at hreverse
  refine ⟨text.takeWhile isBlank,
    ((trimStart text).reverse.takeWhile isBlank).reverse, ?_, ?_, ?_⟩
  · exact fun c hc => List.mem_takeWhile_imp hc
  · exact fun c hc => List.mem_takeWhile_imp (List.mem_reverse.1 hc)
  · rw [List.append_assoc, hend, hstart]

/-- A text of which trimming leaves nothing is blank. -/
theorem allBlank_of_trim_eq_nil {text : List Char} (htrim : trim text = []) :
    AllBlank text := by
  obtain ⟨before, after, hbefore, hafter, hwhole⟩ := exists_blanks_trim text
  rw [htrim, List.append_nil] at hwhole
  rw [hwhole]
  exact List.forall_mem_append.2 ⟨hbefore, hafter⟩

/-- A blank is no bracket. -/
theorem ofChar?_of_isBlank {c : Char} (hblank : isBlank c) :
    Mark.ofChar? c = none := by
  unfold Mark.ofChar?
  split
  case h_7 => rfl
  all_goals exact absurd hblank (by decide)

/-- Blanks are a piece. -/
theorem isPiece_of_allBlank {separator : Char}
    (hseparator : isBlank separator = false) {text : List Char}
    (htext : AllBlank text) : IsPiece separator text := by
  refine isPiece_of_isPlain fun c hc => ⟨ofChar?_of_isBlank (htext c hc), ?_⟩
  intro hsame
  subst separator
  exact Bool.false_ne_true (hseparator.symm.trans (htext c hc))

/-- Blanks make no arrow with what stands behind them. -/
theorem noArrow_of_allBlank {before text : List Char}
    (hbefore : AllBlank before) : NoArrow before text := by
  refine noArrow_of_getLast? fun hlast => ?_
  exact absurd (hbefore _ (List.mem_of_getLast? hlast)) (by decide)

/-- A piece with blanks around it is one. -/
theorem IsPiece.pad {separator : Char} (hseparator : isBlank separator = false)
    {before text after : List Char} (hbefore : AllBlank before)
    (htext : IsPiece separator text) (hafter : AllBlank after) :
    IsPiece separator (before ++ text ++ after) :=
  ((isPiece_of_allBlank hseparator hbefore).append htext).append
    (isPiece_of_allBlank hseparator hafter)

/-- A balanced text with blanks around it is balanced. -/
theorem isBalanced_pad {before text after : List Char}
    (hbefore : AllBlank before) (htext : isBalanced text)
    (hafter : AllBlank after) : isBalanced (before ++ text ++ after) := by
  rw [isBalanced_append_unmarked fun c hc => ofChar?_of_isBlank (hafter c hc)]
  exact isBalanced_append (isBalanced_of_unmarked fun c hc =>
    ofChar?_of_isBlank (hbefore c hc)) htext

/-- Trimming twice is trimming once. -/
theorem trim_trim (text : List Char) : trim (trim text) = trim text := by
  obtain ⟨before, after, hbefore, hafter, hwhole⟩ := exists_blanks_trim text
  have hpadded : trim (before ++ trim text ++ after) = trim (trim text) :=
    trim_blanks hbefore hafter
  rwa [← hwhole, eq_comm] at hpadded

/-- Blanks make no marks. -/
theorem marks_trim (text : List Char) : marks (trim text) = marks text := by
  obtain ⟨before, after, hbefore, hafter, hwhole⟩ := exists_blanks_trim text
  have hmarks : marks text = marks (before ++ trim text ++ after) :=
    congrArg marks hwhole
  have hfront : marks before = [] :=
    marksAfter_eq_nil fun c hc => ofChar?_of_isBlank (hbefore c hc)
  have hback : marks after = [] :=
    marksAfter_eq_nil fun c hc => ofChar?_of_isBlank (hafter c hc)
  have hjoint : NoArrow (before ++ trim text) after :=
    noArrow_of_unmarked fun c hc => ofChar?_of_isBlank (hafter c hc)
  rw [hmarks, marks_append hjoint, marks_append (noArrow_of_allBlank hbefore),
    hfront, hback, List.nil_append, List.append_nil]

/-- Trimming changes nothing about the balance. -/
theorem isBalanced_trim (text : List Char) :
    isBalanced (trim text) = isBalanced text := by
  rw [isBalanced, isBalanced, marks_trim]

/-- The separators of a text that stand outside all brackets, those of the text
`front` in front of it included: the text in front of such a separator is
balanced. -/
def countOutside (separator : Char) (front : List Char) : List Char → Nat
  | [] => 0
  | c :: rest =>
    (if c = separator ∧ isBalanced front then 1
      else 0) + countOutside separator (front ++ [c]) rest

/-- The number of pieces of a text: none if it is blank, otherwise one more than
the separators outside brackets. -/
def pieceCount (separator : Char) (text : List Char) : Nat :=
  if (trim text).isEmpty then 0 else countOutside separator [] (trim text) + 1

section Cutting

variable {separator : Char}

/-- Growing the first of several pieces by a text puts the text in front of
it. -/
theorem foldr_growFirst {text piece : List Char} {pieces : List (List Char)} :
    text.foldr growFirst (piece :: pieces) = (text ++ piece) :: pieces := by
  induction text with
  | nil => rfl
  | cons c rest ih => rw [List.foldr_cons, ih, growFirst, List.cons_append]

/-- Growing the first piece keeps the number of pieces. -/
theorem length_growFirst {c : Char} {pieces : List (List Char)}
    (hpieces : pieces ≠ []) :
    (growFirst c pieces).length = pieces.length := by
  cases pieces with
  | nil => exact absurd rfl hpieces
  | cons piece pieces => rfl

/-- As long as there is a stack of open brackets, its length is the depth. -/
theorem exists_openAfter_of_toList_append {unclosed unclosed' : List Bracket}
    {mark : Option Mark} {run : List Mark}
    (hrun : openAfter unclosed (mark.toList ++ run) = some unclosed') :
    ∃ middle, openAfter unclosed mark.toList = some middle
      ∧ depthAfter unclosed.length mark = middle.length
      ∧ openAfter middle run = some unclosed' := by
  rw [openAfter_append] at hrun
  obtain ⟨middle, hmark, hrest⟩ := Option.bind_eq_some_iff.1 hrun
  refine ⟨middle, hmark, ?_, hrest⟩
  match mark, unclosed with
  | none, unclosed => rw [← Option.some.inj hmark, depthAfter]
  | some (.opening bracket), unclosed =>
    rw [← Option.some.inj hmark, depthAfter, List.length_cons]
  | some (.closing bracket), [] => simp [openAfter] at hmark
  | some (.closing bracket), last :: unclosed =>
    simp only [Option.toList_some, openAfter] at hmark
    split at hmark
    · rw [← Option.some.inj hmark, depthAfter, List.length_cons,
        Nat.add_sub_cancel]
    · simp at hmark

/-- **A text without separators outside brackets is passed over.**  The walk
goes on behind it, with the brackets that it leaves open. -/
theorem cutOutside_append {unclosed unclosed' : List Bracket}
    {before : Option Char} {text rest : List Char}
    (hrun : openAfter unclosed (marksAfter before text) = some unclosed')
    (hinside : ∀ front back, text = front ++ separator :: back →
      openAfter unclosed (marksAfter before front) ≠ some []) :
    cutOutside separator unclosed.length before (text ++ rest)
      = text.foldr growFirst (cutOutside separator unclosed'.length
        (text.getLast?.or before) rest) := by
  induction text generalizing unclosed before with
  | nil => rw [← Option.some.inj hrun]; rfl
  | cons c text ih =>
    have hstay :
        ¬(c = separator ∧ unclosed.length = 0 ∧ Mark.ofChar? c = none) := by
      intro hcut
      obtain ⟨hsame, hlength, -⟩ := hcut
      have hopen : openAfter unclosed (marksAfter before []) = some [] := by
        rw [List.length_eq_zero_iff.1 hlength]
        rfl
      exact hinside [] text (by rw [hsame]; rfl) hopen
    obtain ⟨middle, hmark, hdepth, hrest⟩ :=
      exists_openAfter_of_toList_append hrun
    have hinside' : ∀ front back, text = front ++ separator :: back →
        openAfter middle (marksAfter (some c) front) ≠ some [] := by
      intro front back htext
      have hcons := hinside (c :: front) back (by rw [htext]; rfl)
      rwa [marksAfter, openAfter_append, hmark] at hcons
    rw [List.cons_append, cutOutside, if_neg hstay, hdepth, ih hrest hinside',
      List.foldr_cons, List.getLast?_cons, Option.or_some]
    rfl

/-- A piece runs without a cut from no open bracket to none. -/
theorem IsPiece.cutOutside_append {before : Option Char}
    (hbefore : before ≠ some '-') {text rest : List Char}
    (htext : IsPiece separator text) :
    cutOutside separator 0 before (text ++ rest)
      = text.foldr growFirst
        (cutOutside separator 0 (text.getLast?.or before) rest) := by
  have harrow : ∀ front : List Char, marksAfter before front = marks front :=
    fun front => marksAfter_eq_marks fun h => absurd h hbefore
  have hrun : openAfter [] (marksAfter before text) = some [] := by
    rw [harrow]
    exact isBalanced_iff.1 htext.balanced
  have hinside : ∀ front back, text = front ++ separator :: back →
      openAfter [] (marksAfter before front) ≠ some [] := by
    intro front back hfront
    have hopen := htext.inside front back hfront
    rwa [Bool.eq_false_iff, ne_eq, isBalanced_iff, ← harrow] at hopen
  exact Text.cutOutside_append hrun hinside

/-- A piece is not cut. -/
theorem cutOutside_piece {before : Option Char} (hbefore : before ≠ some '-')
    {text : List Char} (htext : IsPiece separator text) :
    cutOutside separator 0 before text = [text] := by
  have hwhole : cutOutside separator 0 before (text ++ []) = _ :=
    htext.cutOutside_append hbefore
  rw [List.append_nil] at hwhole
  rw [hwhole, cutOutside, foldr_growFirst, List.append_nil]

/-- A piece is cut off at the separator behind it. -/
theorem cutOutside_piece_append {before : Option Char}
    (hbefore : before ≠ some '-') (hseparator : Mark.ofChar? separator = none)
    {text rest : List Char} (htext : IsPiece separator text) :
    cutOutside separator 0 before (text ++ separator :: rest)
      = text :: cutOutside separator 0 (some separator) rest := by
  rw [htext.cutOutside_append hbefore, cutOutside,
    if_pos ⟨rfl, rfl, hseparator⟩, foldr_growFirst, List.append_nil]

/-- The walk cuts once at each separator outside all brackets. -/
theorem length_cutOutside (hseparator : Mark.ofChar? separator = none)
    {unclosed unclosed' : List Bracket} {front rest : List Char}
    (hfront : openAfter [] (marks front) = some unclosed)
    (hrest : openAfter unclosed (marksAfter front.getLast? rest)
      = some unclosed') :
    (cutOutside separator unclosed.length front.getLast? rest).length
      = countOutside separator front rest + 1 := by
  induction rest generalizing front unclosed with
  | nil => rfl
  | cons c rest ih =>
    obtain ⟨middle, hmark, hdepth, hafter⟩ :=
      exists_openAfter_of_toList_append hrest
    have hgrown : openAfter [] (marks (front ++ [c])) = some middle := by
      rw [marks, marksAfter_append, openAfter_append, ← marks, hfront]
      simpa [marksAfter] using hmark
    have hlast : (front ++ [c]).getLast? = some c := List.getLast?_concat
    have hwalk := ih hgrown (by rw [hlast]; exact hafter)
    rw [hlast] at hwalk
    -- The walk has a depth where balance has a stack: `front` is balanced where
    -- the depth is zero.
    have hoff : isBalanced front = true ↔ unclosed.length = 0 := by
      rw [isBalanced_iff, hfront, Option.some.injEq, List.length_eq_zero_iff]
    rw [countOutside, cutOutside]
    by_cases hcut : c = separator ∧ unclosed.length = 0
    · have hplain : markAfter front.getLast? c = none := by
        simp [markAfter, hcut.1, hseparator]
      have hsame : middle = unclosed := by
        rw [hplain] at hmark
        exact (Option.some.inj hmark).symm
      rw [if_pos ⟨hcut.1, hcut.2, hcut.1 ▸ hseparator⟩,
        if_pos ⟨hcut.1, hoff.2 hcut.2⟩, List.length_cons, ← hsame, hwalk]
      omega
    · rw [if_neg fun h => hcut ⟨h.1, h.2.1⟩, if_neg fun h =>
        hcut ⟨h.1, hoff.1 h.2⟩, hdepth, length_growFirst, hwalk, Nat.zero_add]
      exact List.ne_nil_of_length_pos (by omega)

/-- Splitting a balanced text finds as many pieces as there are. -/
theorem length_splitTopLevel (hseparator : Mark.ofChar? separator = none)
    {text : List Char} (htext : isBalanced text) :
    (splitTopLevel separator text).length = pieceCount separator text := by
  have htrimmed : isBalanced (trim text) := by rwa [isBalanced_trim]
  rw [splitTopLevel, pieceCount]
  split
  · next hempty => rw [hempty]; rfl
  · next c rest hcons =>
    rw [hcons] at htrimmed ⊢
    have hempty : openAfter [] (marks []) = some [] := rfl
    have hcut := length_cutOutside hseparator hempty (isBalanced_iff.1 htrimmed)
    rw [if_pos htrimmed, List.length_map]
    exact hcut
end Cutting

/-- A character that can separate pieces. -/
structure IsSeparator (separator : Char) : Prop where
  plain : Mark.ofChar? separator = none
  solid : isBlank separator = false
  noDash : separator ≠ '-'

/-- The comma is a separator. -/
theorem isSeparator_comma : IsSeparator ',' := ⟨rfl, by decide, by decide⟩

/-- A piece without blanks around it. -/
structure IsEntry (separator : Char) (text : List Char) :
    Prop extends IsPiece separator text where
  trimmed : trim text = text
  nonempty : text ≠ []

/-- A text of pieces with a separator between every two of them, blanks allowed
around the separators. -/
inductive Joined (separator : Char) : List (List Char) → List Char → Prop
  | single (piece : List Char) : Joined separator [piece] piece
  | cons {piece before after text : List Char} {pieces : List (List Char)}
      (hbefore : AllBlank before) (hafter : AllBlank after)
      (hrest : Joined separator pieces text) :
      Joined separator (piece :: pieces)
        (piece ++ before ++ separator :: (after ++ text))

section Joined

variable {separator : Char} {pieces : List (List Char)} {text : List Char}

/-- A joined text begins and ends like its outermost pieces. -/
theorem Joined.ends (hjoined : Joined separator pieces text)
    (hpieces : ∀ piece ∈ pieces, IsEntry separator piece) :
    text ≠ [] ∧ trim text = text := by
  induction hjoined with
  | single piece =>
    have hpiece := hpieces piece List.mem_cons_self
    exact ⟨hpiece.nonempty, hpiece.trimmed⟩
  | @cons piece before after text pieces hbefore hafter hrest ih =>
    obtain ⟨hpiece, hpieces⟩ := List.forall_mem_cons.1 hpieces
    obtain ⟨hnonempty, htrimmed⟩ := ih hpieces
    refine ⟨by simp [hpiece.nonempty], trim_eq_self_iff.2 ⟨?_, ?_⟩⟩
    · intro c hc
      refine (trim_eq_self_iff.1 hpiece.trimmed).1 c ?_
      obtain ⟨d, hd⟩ := Option.ne_none_iff_exists'.1
        (mt List.head?_eq_none_iff.1 hpiece.nonempty)
      simpa [List.head?_append, hd] using hc
    · intro c hc
      refine (trim_eq_self_iff.1 htrimmed).2 c ?_
      obtain ⟨d, hd⟩ :=
        Option.ne_none_iff_exists'.1 (mt List.getLast?_eq_none_iff.1 hnonempty)
      simpa [List.getLast?_append, List.getLast?_cons, hd] using hc

/-- There are at most as many pieces, none of them empty, as characters. -/
theorem Joined.length_le (hjoined : Joined separator pieces text)
    (hpieces : ∀ piece ∈ pieces, piece ≠ []) :
    pieces.length ≤ text.length := by
  induction hjoined with
  | single piece =>
    exact List.length_pos_iff.2 (hpieces piece List.mem_cons_self)
  | cons hbefore hafter hrest ih =>
    have hle := ih (List.forall_mem_cons.1 hpieces).2
    simp only [List.length_append, List.length_cons]
    omega

/-- A joined text ends like one of its pieces. -/
theorem Joined.getLast?_ne {c : Char} (hjoined : Joined separator pieces text)
    (hpieces : ∀ piece ∈ pieces, piece ≠ [] ∧ piece.getLast? ≠ some c) :
    text ≠ [] ∧ text.getLast? ≠ some c := by
  induction hjoined with
  | single piece => exact hpieces piece List.mem_cons_self
  | @cons piece before after text pieces hbefore hafter hrest ih =>
    obtain ⟨hnonempty, hlast⟩ := ih (List.forall_mem_cons.1 hpieces).2
    obtain ⟨d, hd⟩ :=
      Option.ne_none_iff_exists'.1 (mt List.getLast?_eq_none_iff.1 hnonempty)
    refine ⟨by simp, ?_⟩
    simpa [List.getLast?_append, List.getLast?_cons, hd] using hlast

/-- Balanced pieces joined by separators are balanced. -/
theorem Joined.isBalanced (hseparator : IsSeparator separator)
    (hjoined : Joined separator pieces text)
    (hpieces : ∀ piece ∈ pieces, isBalanced piece) : isBalanced text := by
  induction hjoined with
  | single piece => exact hpieces piece List.mem_cons_self
  | @cons piece before after text pieces hbefore hafter hrest ih =>
    obtain ⟨hpiece, hpieces⟩ := List.forall_mem_cons.1 hpieces
    have hplain :
        ∀ c ∈ before ++ separator :: after, Mark.ofChar? c = none := by
      intro c hc
      rcases List.mem_append.1 hc with hc | hc
      · exact ofChar?_of_isBlank (hbefore c hc)
      · rcases List.mem_cons.1 hc with rfl | hc
        · exact hseparator.plain
        · exact ofChar?_of_isBlank (hafter c hc)
    have hfront : Text.isBalanced (piece ++ (before ++ separator :: after)) :=
      isBalanced_append hpiece (isBalanced_of_unmarked hplain)
    simpa using isBalanced_append hfront (ih hpieces)

/-- The walk cuts a joined text at its separators. -/
theorem Joined.map_trim_cutOutside (hseparator : IsSeparator separator)
    (hjoined : Joined separator pieces text)
    (hpieces : ∀ piece ∈ pieces, IsEntry separator piece) {padding : List Char}
    (hpadding : AllBlank padding) {before : Option Char}
    (hbefore : before ≠ some '-') :
    (cutOutside separator 0 before (padding ++ text)).map trim = pieces := by
  induction hjoined generalizing padding before with
  | single piece =>
    have hpiece := hpieces piece List.mem_cons_self
    have hraw := hpiece.toIsPiece.pad hseparator.solid hpadding allBlank_nil
    rw [List.append_nil] at hraw
    rw [cutOutside_piece hbefore hraw, List.map_singleton,
      trim_blanks_append hpadding, hpiece.trimmed]
  | @cons piece gap gap' text pieces hgap hgap' hrest ih =>
    obtain ⟨hpiece, hpieces⟩ := List.forall_mem_cons.1 hpieces
    have hraw := hpiece.toIsPiece.pad hseparator.solid hpadding hgap
    have hnext : some separator ≠ some '-' :=
      fun h => hseparator.noDash (Option.some.inj h)
    have hshape : padding ++ (piece ++ gap ++ separator :: (gap' ++ text))
        = padding ++ piece ++ gap ++ separator :: (gap' ++ text) := by simp
    rw [hshape, cutOutside_piece_append hbefore hseparator.plain hraw,
      List.map_cons, trim_blanks hpadding hgap, hpiece.trimmed,
      ih hpieces hgap' hnext]

/-- **Splitting gives back what was joined**, whatever blanks stand around the
pieces. -/
theorem splitTopLevel_of_joined (hseparator : IsSeparator separator)
    (hjoined : Joined separator pieces text)
    (hpieces : ∀ piece ∈ pieces, IsEntry separator piece)
    {before after : List Char} (hbefore : AllBlank before)
    (hafter : AllBlank after) :
    splitTopLevel separator (before ++ text ++ after) = pieces := by
  obtain ⟨hnonempty, htrimmed⟩ := hjoined.ends hpieces
  have hbalanced := hjoined.isBalanced hseparator fun piece hpiece =>
    (hpieces piece hpiece).balanced
  have hcut : (cutOutside separator 0 none ([] ++ text)).map trim = pieces :=
    hjoined.map_trim_cutOutside hseparator hpieces allBlank_nil (by simp)
  obtain ⟨c, rest, rfl⟩ := List.exists_cons_of_ne_nil hnonempty
  rw [splitTopLevel, trim_blanks hbefore hafter, htrimmed]
  exact (if_pos hbalanced).trans hcut

end Joined

end KotlinBuilders.Text
