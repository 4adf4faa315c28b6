import KotlinBuilders.Proofs.Balance

/-!
# Balance as a grammar

Balance is decided by a machine that keeps a stack of open brackets and looks
one character back.  `IsDyckWord` says the same without a stack: a word of
brackets is empty, or it opens with one half of a pair that is closed by the
other half, with one such word between the two and one behind them.  A text is
balanced exactly when its `bracketWord` is a Dyck word
(`isBalanced_iff_isDyckWord`), where the bracket word leaves out each `>` that
stands right behind a `-`.

A word closes a stack of brackets when it is cut by their other halves into Dyck
words, innermost first (`ClosesStack`).  This is what the machine runs by: each
mark is taken off the front of such a word.

Balanced texts can be put behind one another and into brackets.  An arrow could
form at a joint, but no balanced text begins with `>`, so the only joint that
counts is the one in front of a closing angle bracket
(`isBalanced_enclose_iff`).  `dyck_balance` is the main statement.
-/

namespace KotlinBuilders.Text

/-- The character that opens a bracket. -/
def Bracket.first : Bracket → Char
  | .angle => '<'
  | .round => '('
  | .square => '['

/-- The character that closes a bracket. -/
def Bracket.last : Bracket → Char
  | .angle => '>'
  | .round => ')'
  | .square => ']'

/-- Whether a character is one half of a bracket pair. -/
def isHalf (c : Char) : Bool := ['<', '>', '(', ')', '[', ']'].contains c

/-- Whether a character is the head of an arrow, by what stands in front of
it. -/
def isArrowHead (before : Option Char) (c : Char) : Bool :=
  before == some '-' && c == '>'

/-- The characters of a text, each with the one in front of it. -/
def withBefore (before : Option Char) (text : List Char) :
    List (Option Char × Char) :=
  (before :: text.map some).zip text

/-- The brackets of a text in order, heads of arrows left out. -/
def bracketWord (text : List Char) : List Char :=
  ((withBefore none text).filter fun (before, c) => isHalf c
    && !isArrowHead before c).map Prod.snd

/-- The words over the three bracket pairs in which every bracket is closed in
order. -/
inductive IsDyckWord : List Char → Prop
  | empty : IsDyckWord []
  | nest (bracket : Bracket) {inside rest : List Char}
      (hinside : IsDyckWord inside) (hrest : IsDyckWord rest) :
      IsDyckWord (bracket.first :: inside ++ bracket.last :: rest)

/-! ## Words and marks -/

/-- The first half of a bracket is read as its opening mark. -/
@[simp] theorem ofChar?_first (bracket : Bracket) :
    Mark.ofChar? bracket.first = some (.opening bracket) := by
  cases bracket <;> rfl

/-- The last half of a bracket is read as its closing mark. -/
@[simp] theorem ofChar?_last (bracket : Bracket) :
    Mark.ofChar? bracket.last = some (.closing bracket) := by
  cases bracket <;> rfl

/-- A half of a bracket pair opens or closes its bracket, and no other character
makes a mark. -/
theorem isHalf_cases (c : Char) :
    (isHalf c = true ∧ ∃ bracket : Bracket, c = bracket.first
      ∨ c = bracket.last)
      ∨ (isHalf c = false ∧ Mark.ofChar? c = none) := by
  unfold Mark.ofChar?
  split
  case h_1 => exact .inl ⟨rfl, .angle, .inl rfl⟩
  case h_2 => exact .inl ⟨rfl, .round, .inl rfl⟩
  case h_3 => exact .inl ⟨rfl, .square, .inl rfl⟩
  case h_4 => exact .inl ⟨rfl, .angle, .inr rfl⟩
  case h_5 => exact .inl ⟨rfl, .round, .inr rfl⟩
  case h_6 => exact .inl ⟨rfl, .square, .inr rfl⟩
  case h_7 => exact .inr ⟨by simp_all [isHalf], rfl⟩

/-- The bracket word of a text has only halves of brackets. -/
theorem isHalf_of_mem_bracketWord {text : List Char} {c : Char}
    (hc : c ∈ bracketWord text) : isHalf c = true := by
  obtain ⟨⟨before, _⟩, hmem, rfl⟩ := List.mem_map.1 hc
  exact (Bool.and_eq_true_iff.1 (List.mem_filter.1 hmem).2).1

/-- The marks of a text are those of its bracket word. -/
theorem filterMap_bracketWord (text : List Char) :
    (bracketWord text).filterMap Mark.ofChar? = marks text := by
  have hafter : ∀ before : Option Char,
      (((withBefore before text).filter fun (before, c) => isHalf c
        && !isArrowHead before c).map Prod.snd).filterMap Mark.ofChar?
          = marksAfter before text := by
    -- What stands in front of the text is what the previous step of the
    -- induction was about.
    induction text with
    | nil => exact fun _ => rfl
    | cons c rest ih =>
      intro before
      have hshift : withBefore before (c :: rest)
          = (before, c) :: withBefore (some c) rest := rfl
      rw [hshift, marksAfter, ← ih (some c), List.filter_cons, markAfter]
      rcases isHalf_cases c with ⟨hhalf, bracket, hbracket⟩ | ⟨hplain, hnone⟩
      · by_cases harrow : c = '>' ∧ before = some '-'
        · simp [harrow, isArrowHead]
        · have hkept : isArrowHead before c = false := by
            rw [← Bool.not_eq_true, isArrowHead, Bool.and_eq_true, beq_iff_eq,
              beq_iff_eq, and_comm]
            exact harrow
          rcases hbracket with rfl | rfl <;> simp [harrow, hkept, hhalf]
      · simp [hplain, hnone]
  exact hafter none

/-! ## The machine and the grammar -/

/-- A Dyck word leaves every stack as it was. -/
theorem IsDyckWord.openAfter_filterMap {word : List Char}
    (hword : IsDyckWord word) (unclosed : List Bracket) :
    openAfter unclosed (word.filterMap Mark.ofChar?) = some unclosed := by
  induction hword generalizing unclosed with
  | empty => rfl
  | @nest bracket inside rest _ _ hinside hrest =>
    rw [List.filterMap_append, openAfter_append, List.filterMap_cons,
      ofChar?_first]
    simp only [openAfter, hinside, Option.bind_some]
    rw [List.filterMap_cons, ofChar?_last]
    simp only [openAfter, if_true, hrest]

/-- A word closes the brackets of a stack, innermost first, with a Dyck word in
front of each closing half and one behind the last. -/
inductive ClosesStack : List Bracket → List Char → Prop
  | empty {word : List Char} (hword : IsDyckWord word) : ClosesStack [] word
  | close {bracket : Bracket} {unclosed : List Bracket} {word rest : List Char}
      (hword : IsDyckWord word) (hrest : ClosesStack unclosed rest) :
      ClosesStack (bracket :: unclosed) (word ++ bracket.last :: rest)

/-- A bracket that is opened and closed in front changes nothing. -/
theorem ClosesStack.nest {bracket : Bracket} {unclosed : List Bracket}
    {inside rest : List Char} (hinside : IsDyckWord inside)
    (hrest : ClosesStack unclosed rest) :
    ClosesStack unclosed (bracket.first :: inside ++ bracket.last :: rest) := by
  cases hrest with
  | empty hword => exact .empty (.nest bracket hinside hword)
  | @close outer unclosed word rest hword hrest =>
    have hshape : ClosesStack (outer :: unclosed)
        ((bracket.first :: inside ++ bracket.last :: word)
          ++ outer.last :: rest) :=
      .close (.nest bracket hinside hword) hrest
    simpa using hshape

/-- **What the machine accepts, the grammar derives.** -/
theorem closesStack_of_openAfter {unclosed : List Bracket} {word : List Char}
    (hhalves : ∀ c ∈ word, isHalf c = true)
    (hrun : openAfter unclosed (word.filterMap Mark.ofChar?) = some []) :
    ClosesStack unclosed word := by
  induction word generalizing unclosed with
  | nil =>
    obtain rfl := Option.some.inj hrun
    exact .empty .empty
  | cons c word ih =>
    obtain ⟨hc, hword⟩ := List.forall_mem_cons.1 hhalves
    rcases isHalf_cases c with ⟨-, bracket, rfl | rfl⟩ | ⟨hplain, -⟩
    · rw [List.filterMap_cons, ofChar?_first] at hrun
      -- The rest closes the new bracket first, and what it closes it with is
      -- nested.
      cases ih hword hrun with
      | close hinside hrest => exact .nest hinside hrest
    · rw [List.filterMap_cons, ofChar?_last] at hrun
      cases unclosed with
      | nil => cases hrun
      | cons innermost unclosed =>
        simp only [openAfter] at hrun
        split at hrun
        · next hsame =>
          subst hsame
          exact .close .empty (ih hword hrun)
        · cases hrun
    · rw [hplain] at hc
      cases hc

/-- **A text is balanced exactly when its brackets are a Dyck word.** -/
theorem isBalanced_iff_isDyckWord (text : List Char) : isBalanced text ↔
    IsDyckWord (bracketWord text) := by
  rw [isBalanced_iff, ← filterMap_bracketWord]
  constructor
  · intro hrun
    cases closesStack_of_openAfter
        (fun c hc => isHalf_of_mem_bracketWord hc) hrun with
    | empty hword => exact hword
  · exact fun hword => hword.openAfter_filterMap []

/-! ## Putting balanced texts together -/

/-- A text between the two halves of a bracket pair. -/
def Bracket.enclose (bracket : Bracket) (text : List Char) : List Char :=
  bracket.first :: text ++ [bracket.last]

/-- **A balanced text can be put into brackets**, but a last `-` would make an
arrow of a closing angle bracket. -/
theorem isBalanced_enclose_iff {text : List Char} (htext : isBalanced text)
    (bracket : Bracket) :
    isBalanced (bracket.enclose text) ↔
      (bracket = .angle → text.getLast? ≠ some '-') := by
  constructor
  · rintro hwhole rfl hdash
    have hopened :=
      openAfter_opening (ofChar?_first .angle) (isBalanced_iff.1 htext)
    have hlast : (Bracket.angle.first :: text).getLast? = some '-' := by
      simp [List.getLast?_cons, hdash]
    rw [Bracket.enclose, isBalanced_iff, marks, marksAfter_append,
      openAfter_append, ← marks, hopened, hlast] at hwhole
    cases hwhole
  · intro hdash
    have hjoint : NoArrow text [bracket.last] := by
      intro hlast hhead
      cases bracket with
      | angle => exact hdash rfl hlast
      | round => cases hhead
      | square => cases hhead
    have hpiece : IsPiece ',' (bracket.enclose text) :=
      isPiece_bracketed (ofChar?_first bracket) (ofChar?_last bracket)
        rfl htext hjoint
    exact hpiece.balanced

/-- **Balance is what the grammar says**: a text is balanced exactly when its
brackets, heads of arrows left out, are a Dyck word.  Balanced texts stay
balanced behind one another and, unless an arrow forms, between brackets. -/
theorem dyck_balance (text : List Char) :
    (isBalanced text ↔ IsDyckWord (bracketWord text))
      ∧ (isBalanced text → ∀ other, isBalanced other →
          isBalanced (text ++ other))
      ∧ (isBalanced text → ∀ bracket : Bracket,
          isBalanced (bracket.enclose text) ↔
            (bracket = .angle → text.getLast? ≠ some '-')) :=
  ⟨isBalanced_iff_isDyckWord text, fun htext _ hother =>
    isBalanced_append htext hother, isBalanced_enclose_iff⟩

/-- The type of a function, whose arrow is no bracket. -/
def functionText : List Char := "(K,V[])->Map<K>".toList

/-- The brackets of the function type nest, and another arrow may follow it; it
fits into angle brackets, which the front of an arrow does not. -/
theorem dyck_balance_function :
    isBalanced functionText
      ∧ IsDyckWord ['(', '[', ']', ')', '<', '>']
      ∧ isBalanced (functionText ++ ['-', '>', 'V'])
      ∧ isBalanced (Bracket.angle.enclose functionText)
      ∧ ¬isBalanced (Bracket.angle.enclose ['K', '-']) := by
  have hbalanced : isBalanced functionText := by decide +kernel
  have hfront : isBalanced ['K', '-'] := by decide
  have hword : bracketWord functionText = ['(', '[', ']', ')', '<', '>'] := by
    decide +kernel
  have hends : functionText.getLast? ≠ some '-' := by decide +kernel
  obtain ⟨hdyck, hafter, hinside⟩ := dyck_balance functionText
  obtain ⟨-, -, harrow⟩ := dyck_balance ['K', '-']
  refine ⟨hbalanced, hword ▸ hdyck.1 hbalanced,
    hafter hbalanced _ (by decide), ?_, ?_⟩
  · exact (hinside hbalanced .angle).2 fun _ => hends
  · exact fun hwhole => (harrow hfront .angle).1 hwhole rfl rfl

end KotlinBuilders.Text
