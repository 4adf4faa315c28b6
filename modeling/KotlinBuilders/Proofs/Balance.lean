import KotlinBuilders.Text.Blank
import KotlinBuilders.Text.Bracket

/-!
# Texts put together from balanced parts

Balance is read off a stack of open brackets.  `openAfter` keeps the stack that
a run of marks leaves, so a text put together from parts is run part by part
(`openAfter_append`), and brackets that were open before stay untouched below
those that a part opens and closes itself (`openAfter_below`).

The one thing that can go wrong at a joint is an arrow: a part that ends in `-`
before one that begins with `>`.  `NoArrow` excludes it, and so does balance of
the part behind (`noArrow_of_isBalanced`).

An `IsPiece` is what a splitter must not cut: it is balanced, and every
separator in it stands inside brackets, which is to say that the text in front
of the separator is not balanced.
-/

namespace KotlinBuilders.Text

/-- The brackets that are open after a run of marks, innermost first.  There are
none to speak of when a closing mark meets the wrong bracket. -/
def openAfter : (unclosed : List Bracket) → List Mark → Option (List Bracket)
  | unclosed, [] => some unclosed
  | unclosed, .opening bracket :: rest => openAfter (bracket :: unclosed) rest
  | [], .closing _ :: _ => none
  | last :: unclosed, .closing bracket :: rest =>
    if last = bracket then openAfter unclosed rest else none

/-- A run of marks closes what is open exactly when nothing is open after it. -/
theorem closeAll_iff {unclosed : List Bracket} {run : List Mark} :
    closeAll unclosed run = true ↔ openAfter unclosed run = some [] := by
  fun_induction closeAll unclosed run with
  | case1 unclosed => simp [openAfter]
  | case2 unclosed bracket rest ih => simpa [openAfter] using ih
  | case3 bracket rest => simp [openAfter]
  | case4 last unclosed bracket rest ih =>
    by_cases hlast : last = bracket
    · simpa [openAfter, hlast] using ih
    · simp [openAfter, hlast]

/-- A second run of marks goes on with what the first one leaves open. -/
theorem openAfter_append {unclosed : List Bracket} {front back : List Mark} :
    openAfter unclosed (front ++ back)
      = (openAfter unclosed front).bind fun unclosed => openAfter
        unclosed back := by
  fun_induction openAfter unclosed front with
  | case1 unclosed => rfl
  | case2 unclosed bracket rest ih => simpa [openAfter] using ih
  | case3 bracket rest => rfl
  | case4 last unclosed rest ih => simpa [openAfter] using ih
  | case5 last unclosed bracket rest hlast => simp [openAfter, hlast]

/-- Brackets that were open before are still open below. -/
theorem openAfter_below {unclosed unclosed' : List Bracket} {run : List Mark}
    (hrun : openAfter unclosed run = some unclosed') (outer : List Bracket) :
    openAfter (unclosed ++ outer) run = some (unclosed' ++ outer) := by
  fun_induction openAfter unclosed run with
  | case1 unclosed => rw [openAfter, Option.some.inj hrun]
  | case2 unclosed bracket rest ih => exact ih hrun
  | case3 bracket rest => simp at hrun
  | case4 last unclosed rest ih => simpa [openAfter] using ih hrun
  | case5 last unclosed bracket rest hlast => simp at hrun

/-- The marks of a joined text are those of its parts, the second one read
behind the last character of the first. -/
theorem marksAfter_append {before : Option Char} {front back : List Char} :
    marksAfter before (front ++ back)
      = marksAfter before front
        ++ marksAfter (front.getLast?.or before) back := by
  induction front generalizing before with
  | nil => rfl
  | cons c rest ih => simp [marksAfter, ih, List.getLast?_cons]

/-- What stands before a text matters only if it makes an arrow. -/
theorem marksAfter_eq_marks {before : Option Char} {text : List Char}
    (harrow : before = some '-' → text.head? ≠ some '>') :
    marksAfter before text = marks text := by
  cases text with
  | nil => rfl
  | cons c rest =>
    have hmark : markAfter before c = markAfter none c := by
      unfold markAfter
      by_cases hc : c = '>' ∧ before = some '-'
      · exact absurd (by simp [hc.1]) (harrow hc.2)
      · simp [hc]
    simp [marks, marksAfter, hmark]

/-- No arrow stands across the joint of two texts. -/
def NoArrow (front back : List Char) : Prop := front.getLast? = some '-' →
  back.head? ≠ some '>'

/-- No arrow stands across a joint behind a character that is not a dash. -/
theorem noArrow_of_getLast? {front back : List Char}
    (hlast : front.getLast? ≠ some '-') : NoArrow front back :=
  fun h => absurd h hlast

/-- No arrow stands across a joint before a character that is not `>`. -/
theorem noArrow_of_head? {front back : List Char}
    (hhead : back.head? ≠ some '>') : NoArrow front back :=
  fun _ => hhead

/-- A shorter text behind the joint completes no arrow either. -/
theorem NoArrow.of_append {front middle back : List Char}
    (hjoint : NoArrow front (middle ++ back)) :
    NoArrow front middle := by
  intro hlast hhead
  refine hjoint hlast ?_
  cases middle <;> simp_all

/-- A longer text in front of the joint completes no arrow either. -/
theorem NoArrow.cons {c : Char} {front back : List Char}
    (hjoint : NoArrow front back) (hc : c ≠ '-') :
    NoArrow (c :: front) back := by
  intro hlast
  cases hfront : front.getLast? with
  | none => exact absurd (by simpa [List.getLast?_cons, hfront] using hlast) hc
  | some d => exact hjoint (by simpa [List.getLast?_cons, hfront] using hlast)

/-- Without an arrow across the joint the marks of a text are those of its
parts. -/
theorem marks_append {front back : List Char} (hjoint : NoArrow front back) :
    marks (front ++ back) = marks front ++ marks back := by
  rw [marks, marksAfter_append, Option.or_none, marksAfter_eq_marks hjoint]
  rfl

/-- A text is balanced when nothing is open after its marks. -/
theorem isBalanced_iff {text : List Char} : isBalanced text = true ↔
    openAfter [] (marks text) = some [] :=
  closeAll_iff

/-- After a balanced text, what follows decides. -/
theorem isBalanced_append_iff {front back : List Char}
    (hjoint : NoArrow front back) (hfront : isBalanced front) :
    isBalanced (front ++ back) = true ↔ isBalanced back = true := by
  rw [isBalanced_iff, isBalanced_iff, marks_append hjoint, openAfter_append,
    isBalanced_iff.1 hfront]
  rfl

/-- A balanced text does not begin with a closing bracket, so no arrow ends in
one. -/
theorem noArrow_of_isBalanced {front back : List Char}
    (hback : isBalanced back) : NoArrow front back := by
  refine noArrow_of_head? fun hhead => ?_
  obtain ⟨rest, rfl⟩ := List.head?_eq_some_iff.1 hhead
  cases hback

/-- Balanced texts can be put behind one another. -/
theorem isBalanced_append {front back : List Char} (hfront : isBalanced front)
    (hback : isBalanced back) :
    isBalanced (front ++ back) :=
  (isBalanced_append_iff (noArrow_of_isBalanced hback) hfront).2 hback

/-- A balanced text in which every separator stands inside brackets. -/
structure IsPiece (separator : Char) (text : List Char) : Prop where
  balanced : isBalanced text
  inside : ∀ front back, text = front ++ separator :: back →
    isBalanced front = false

/-- A character that is neither a bracket nor the separator. -/
def IsPlain (separator c : Char) : Prop := Mark.ofChar? c = none ∧ c ≠ separator

/-- A text without brackets has no marks. -/
theorem marksAfter_eq_nil {before : Option Char} {text : List Char}
    (hplain : ∀ c ∈ text, Mark.ofChar? c = none) :
    marksAfter before text = [] := by
  induction text generalizing before with
  | nil => rfl
  | cons c rest ih =>
    obtain ⟨hc, hrest⟩ := List.forall_mem_cons.1 hplain
    simp [marksAfter, markAfter, hc, ih hrest]

/-- A text without brackets is balanced. -/
theorem isBalanced_of_unmarked {text : List Char}
    (hplain : ∀ c ∈ text, Mark.ofChar? c = none) :
    isBalanced text := by
  rw [isBalanced, marks, marksAfter_eq_nil hplain]
  rfl

/-- A text without brackets makes no arrow with what stands in front of it. -/
theorem noArrow_of_unmarked {front back : List Char}
    (hplain : ∀ c ∈ back, Mark.ofChar? c = none) :
    NoArrow front back := by
  refine noArrow_of_head? fun hhead => ?_
  simpa [Mark.ofChar?] using hplain _ (List.mem_of_head? hhead)

/-- Characters that are no brackets change nothing about the balance. -/
theorem isBalanced_append_unmarked {front back : List Char}
    (hback : ∀ c ∈ back, Mark.ofChar? c = none) :
    isBalanced (front ++ back) = isBalanced front := by
  rw [isBalanced, marks_append (noArrow_of_unmarked hback), marks, marks,
    marksAfter_eq_nil hback, List.append_nil]
  rfl

/-- A text of plain characters is a piece. -/
theorem isPiece_of_isPlain {separator : Char} {text : List Char}
    (hplain : ∀ c ∈ text, IsPlain separator c) : IsPiece separator text where
  balanced := isBalanced_of_unmarked fun c hc => (hplain c hc).1
  inside front back htext :=
    absurd rfl (hplain separator (by simp [htext])).2

/-- Two pieces are one piece together. -/
theorem IsPiece.append {separator : Char} {front back : List Char}
    (hfront : IsPiece separator front) (hback : IsPiece separator back) :
    IsPiece separator (front ++ back) where
  balanced := isBalanced_append hfront.balanced hback.balanced
  inside := by
    intro left right htext
    rcases List.append_eq_append_iff.1 htext with
      ⟨middle, rfl, hmiddle⟩ | ⟨middle, hmiddle, hrest⟩
    · have hinside := hback.inside middle right hmiddle
      have hjoint : NoArrow front middle :=
        NoArrow.of_append (hmiddle ▸ noArrow_of_isBalanced hback.balanced)
      rw [Bool.eq_false_iff] at hinside ⊢
      exact mt (isBalanced_append_iff hjoint hfront.balanced).1 hinside
    · cases middle with
      | nil => exact absurd (hback.inside [] right hrest.symm) (by simp)
      | cons c middle =>
        simp only [List.cons_append, List.cons.injEq] at hrest
        exact hfront.inside left middle (by rw [hmiddle, hrest.1])

/-- Every beginning of a balanced text leaves some brackets open and closes none
that it did not open. -/
theorem exists_openAfter_of_isBalanced {front back : List Char}
    (hbalanced : isBalanced (front ++ back)) :
    ∃ unclosed, openAfter [] (marks front) = some unclosed := by
  rw [isBalanced_iff, marks, marksAfter_append, openAfter_append] at hbalanced
  obtain ⟨unclosed, hfront, -⟩ := Option.bind_eq_some_iff.1 hbalanced
  exact ⟨unclosed, hfront⟩

section Bracketed

variable {bracket : Bracket} {first last : Char}

/-- A bracket is not a dash. -/
theorem ne_dash_of_ofChar? {mark : Mark} {c : Char}
    (hmark : Mark.ofChar? c = some mark) : c ≠ '-' := by
  intro hdash
  simp [hdash, Mark.ofChar?] at hmark

/-- The brackets that are open after an opening one and a text that keeps its
own in order. -/
theorem openAfter_opening
    (hfirst : Mark.ofChar? first = some (.opening bracket)) {text : List Char}
    {unclosed : List Bracket}
    (htext : openAfter [] (marks text) = some unclosed) :
    openAfter [] (marks (first :: text)) = some (unclosed ++ [bracket]) := by
  have hmark : markAfter none first = some (.opening bracket) := by
    simp [markAfter, hfirst]
  have hafter : marksAfter (some first) text = marks text :=
    marksAfter_eq_marks fun h =>
      absurd (Option.some.inj h) (ne_dash_of_ofChar? hfirst)
  rw [marks, marksAfter, hmark, hafter]
  exact openAfter_below htext [bracket]

/-- A balanced text in brackets is a piece, whatever separators stand in it. -/
theorem isPiece_bracketed {separator : Char}
    (hfirst : Mark.ofChar? first = some (.opening bracket))
    (hlast : Mark.ofChar? last = some (.closing bracket))
    (hseparator : Mark.ofChar? separator = none) {text : List Char}
    (htext : isBalanced text) (hjoint : NoArrow text [last]) :
    IsPiece separator (first :: text ++ [last]) where
  balanced := by
    have hopened := openAfter_opening hfirst (isBalanced_iff.1 htext)
    have hmark : marks [last] = [.closing bracket] := by
      simp [marks, marksAfter, markAfter, hlast]
    rw [isBalanced_iff, marks_append (hjoint.cons (ne_dash_of_ofChar? hfirst)),
      openAfter_append, hopened, hmark]
    simp [openAfter]
  inside := by
    intro front back hwhole
    cases front with
    | nil =>
      obtain ⟨rfl, -⟩ := List.cons.inj hwhole
      simp [hseparator] at hfirst
    | cons c front =>
      obtain ⟨rfl, hrest⟩ := List.cons.inj hwhole
      -- The last character is no separator, so the text in front of one ends
      -- inside the brackets.
      obtain ⟨middle, htext'⟩ : ∃ middle, text = front ++ middle := by
        rcases List.append_eq_append_iff.1 hrest with
          ⟨middle, -, hmiddle⟩ | ⟨middle, hmiddle, -⟩
        · rcases middle with _ | ⟨d, middle⟩
          · obtain ⟨rfl, -⟩ := List.cons.inj hmiddle
            simp [hseparator] at hlast
          · simp at hmiddle
        · exact ⟨middle, hmiddle⟩
      obtain ⟨unclosed, hunclosed⟩ :=
        exists_openAfter_of_isBalanced (htext' ▸ htext)
      rw [Bool.eq_false_iff, ne_eq, isBalanced_iff,
        openAfter_opening hfirst hunclosed]
      simp

end Bracketed

end KotlinBuilders.Text
