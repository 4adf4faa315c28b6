import KotlinBuilders.Proofs.CodeLayout

/-!
# Well-nested code at a depth

Well-nested pieces may be written on any page, below any text and inside any
number of open blocks.  The page gets back the depth that it had, no block of it
is closed, and its text is only added to.  What is added are the lines that the
same pieces make on an empty page, moved in by the depth
(`Page.writeAll_of_nested`).

All of it goes along the nesting.  A block writes its opening line, then what
stands in it one deeper, then its closing line, then what follows
(`Page.writeAll_block`); what stands in it keeps the depth, so the closing line
finds a block to close and leaves the depth from before.
-/

namespace KotlinBuilders

/-- A line moved in by four spaces for each of a number of blocks.  An empty
line stays empty. -/
def indentLine (depth : Nat) (line : List Char) : List Char :=
  if line.isEmpty then [] else List.replicate (4 * depth) ' ' ++ line

/-- A line that is not empty stands behind four spaces for each block. -/
theorem indentLine_of_ne_nil {line : List Char} (hline : line ≠ [])
    (depth : Nat) :
    indentLine depth line = List.replicate (4 * depth) ' ' ++ line :=
  if_neg (by simpa using hline)

/-- Moving in twice. -/
theorem indentLine_indentLine (more depth : Nat) (line : List Char) :
    indentLine more (indentLine depth line)
      = indentLine (depth + more) line := by
  by_cases hline : line = []
  · rw [hline]
    rfl
  · have hmoved : List.replicate (4 * depth) ' ' ++ line ≠ [] :=
      List.append_ne_nil_of_right_ne_nil _ hline
    rw [indentLine_of_ne_nil hline, indentLine_of_ne_nil hmoved,
      indentLine_of_ne_nil hline, ← List.append_assoc,
      List.replicate_append_replicate, ← Nat.mul_add, Nat.add_comm more depth]

namespace Page

/-- Code is written piece by piece, the second part behind the first. -/
theorem writeAll_append (page : Page) (codes more : List Code) :
    page.writeAll (codes ++ more) = (page.writeAll codes).writeAll more :=
  List.foldl_append

/-- The steps of a block. -/
theorem writeAll_block (page : Page) (header : String)
    (inside rest : List Code) :
    page.writeAll (.opening header :: (inside ++ .closing :: rest))
      = ((((page.write (.opening header)).writeAll inside).write
        .closing).writeAll rest) :=
  writeAll_append (page.write (.opening header)) inside (.closing :: rest)

/-- An opening line leads one block further in. -/
@[simp] theorem depth_write_opening (page : Page) (header : String) :
    (page.write (.opening header)).depth = page.depth + 1 :=
  rfl

/-- A closing line leads one block back, if there is one. -/
@[simp] theorem depth_write_closing (page : Page) :
    (page.write .closing).depth = page.depth - 1 :=
  rfl

end Page

namespace Code

/-- The text that is given for a piece of code. -/
def text : Code → String
  | .line text => text
  | .opening header => header
  | .blank | .closing => ""

/-! ## The depth -/

/-- **Well-nested pieces leave the depth of a page as it was.** -/
theorem Nested.depth_writeAll {codes : List Code} (hcodes : Nested codes)
    (page : Page) :
    (page.writeAll codes).depth = page.depth := by
  induction hcodes generalizing page with
  | nil => rfl
  | @line text _ _ ih => exact ih (page.write (.line text))
  | blank _ ih => exact ih (page.write .blank)
  | block _ _ ihinside ihrest =>
    rw [Page.writeAll_block, ihrest, Page.depth_write_closing, ihinside,
      Page.depth_write_opening, Nat.add_sub_cancel]

/-- Behind a block the page is as deep as in front of it. -/
theorem Nested.depth_write_block {inside : List Code} (hinside : Nested inside)
    (page : Page) (header : String) :
    (((page.write (.opening header)).writeAll inside).write .closing).depth
      = page.depth := by
  rw [Page.depth_write_closing, hinside.depth_writeAll,
    Page.depth_write_opening, Nat.add_sub_cancel]

/-- **Well-nested pieces close no block but their own.**  In front of each
closing line among them the page is deeper than where they began. -/
theorem Nested.depth_lt_at_closing {codes front back : List Code}
    (hcodes : Nested codes) (hclosing : codes = front ++ .closing :: back)
    (page : Page) : page.depth < (page.writeAll front).depth := by
  -- Over all pages, since what stands in a block begins one deeper and what
  -- follows it begins on a longer page.
  induction hcodes generalizing front back page with
  | nil => simp at hclosing
  | @line text _ _ ih =>
    cases front with
    | nil => cases hclosing
    | cons first front =>
      obtain ⟨rfl, hrest⟩ := List.cons.inj hclosing
      exact ih hrest (page.write (.line text))
  | blank _ ih =>
    cases front with
    | nil => cases hclosing
    | cons first front =>
      obtain ⟨rfl, hrest⟩ := List.cons.inj hclosing
      exact ih hrest (page.write .blank)
  | @block header inside rest hinside _ ihinside ihrest =>
    cases front with
    | nil => cases hclosing
    | cons first front =>
      obtain ⟨rfl, hcut⟩ := List.cons.inj hclosing
      let opened := page.write (.opening header)
      have hopened : page.depth < opened.depth := Nat.lt_succ_self page.depth
      have hown : page.depth < (opened.writeAll inside).depth := by
        rwa [hinside.depth_writeAll]
      -- The closing line stands behind the block or in it, and between the two
      -- it is the block's own.
      rcases List.append_eq_append_iff.1 hcut with
        ⟨more, rfl, hmore⟩ | ⟨more, rfl, hmore⟩
      · cases more with
        | nil => rwa [List.append_nil]
        | cons second more =>
          obtain ⟨rfl, hrest⟩ := List.cons.inj hmore
          have hbehind := ihrest hrest ((opened.writeAll inside).write .closing)
          rwa [hinside.depth_write_block, ← Page.writeAll_block] at hbehind
      · cases more with
        | nil => rwa [List.append_nil] at hown
        | cons second more =>
          obtain ⟨rfl, -⟩ := List.cons.inj hmore
          exact Nat.lt_trans hopened (ihinside rfl opened)

/-! ## The lines -/

/-- A line of text at a depth is the text moved in. -/
theorem lineAt_eq (depth : Nat) (text : String) :
    lineAt depth text = indentLine depth text.toList := by
  simp only [lineAt, indentLine, String.isEmpty_iff, List.isEmpty_iff,
    String.toList_eq_nil_iff]

/-- **Well-nested pieces make the same lines at every depth**, moved in by what
it is deeper. -/
theorem Nested.lines_add {codes : List Code} (hcodes : Nested codes)
    (depth more : Nat) :
    lines (depth + more) codes = (lines depth codes).map (indentLine more) := by
  have hlineAt (depth : Nat) (text : String) :
      lineAt (depth + more) text = indentLine more (lineAt depth text) := by
    rw [lineAt_eq, lineAt_eq, indentLine_indentLine]
  induction hcodes generalizing depth with
  | nil => rfl
  | @line text rest _ ih =>
    exact congrArg₂ List.cons (hlineAt depth text) (ih depth)
  | blank _ ih => exact congrArg ([] :: ·) (ih depth)
  | @block header inside rest hinside _ ihinside ihrest =>
    rw [hinside.lines_block, hinside.lines_block, List.map_cons,
      List.map_append, List.map_cons, ← hlineAt, ← hlineAt, ← ihinside,
      ← ihrest, Nat.add_right_comm]

/-- A text that is a single line stays one at every depth. -/
theorem newline_not_mem_lineAt {text : String} (hsingle : '\n' ∉ text.toList)
    (depth : Nat) :
    '\n' ∉ lineAt depth text := by
  rw [lineAt]
  split
  · exact List.not_mem_nil
  · have hspaces : '\n' ∉ List.replicate (4 * depth) ' ' :=
      fun hmem => absurd (List.eq_of_mem_replicate hmem) (by decide)
    exact fun hmem => (List.mem_append.1 hmem).elim hspaces hsingle

/-- A piece whose text has no line break is a single line. -/
theorem newline_not_mem_written {code : Code}
    (hsingle : '\n' ∉ code.text.toList) (depth : Nat) :
    '\n' ∉ (code.written depth).1 := by
  cases code with
  | line text => exact newline_not_mem_lineAt hsingle depth
  | blank => exact List.not_mem_nil
  | opening header =>
    have hheader : '\n' ∉ (header ++ " \x7b").toList := by
      rw [String.toList_append]
      exact fun hmem => (List.mem_append.1 hmem).elim hsingle (by decide)
    exact newline_not_mem_lineAt hheader depth
  | closing =>
    have hbrace : '\n' ∉ "\x7d".toList := by decide
    exact newline_not_mem_lineAt hbrace (depth - 1)

/-- Code made of single lines has no line break inside a line. -/
theorem newline_not_mem_lines {codes : List Code}
    (hsingle : ∀ code ∈ codes, '\n' ∉ code.text.toList) (depth : Nat) :
    ∀ line ∈ lines depth codes, '\n' ∉ line := by
  induction codes generalizing depth with
  | nil => exact fun _ hmem => absurd hmem List.not_mem_nil
  | cons code codes ih =>
    obtain ⟨hcode, hrest⟩ := List.forall_mem_cons.1 hsingle
    exact List.forall_mem_cons.2 ⟨newline_not_mem_written hcode depth,
      ih hrest (code.written depth).2⟩

end Code

/-- **Well-nested pieces write the same at every depth.**  On any page, whatever
was written before and however many blocks are open, the depth behind the pieces
is what it was, they close no block but their own, and the text from before
stays as it is.  The lines that they add are those that they make on an empty
page, each moved in by the depth; an empty one stays empty. -/
theorem Page.writeAll_of_nested (page : Page) {codes : List Code}
    (hnested : Code.Nested codes)
    (hsingle : ∀ code ∈ codes, '\n' ∉ code.text.toList) :
    (page.writeAll codes).depth = page.depth
      ∧ (∀ front back, codes = front ++ .closing :: back →
          page.depth < (page.writeAll front).depth)
      ∧ ∃ added, (page.writeAll codes).text = page.text ++ added
        ∧ textLines added.toList
          = (textLines (renderCode codes).toList).map
            (indentLine page.depth) := by
  refine ⟨hnested.depth_writeAll page, fun front back hclosing =>
    hnested.depth_lt_at_closing hclosing page,
      String.ofList (joinLines (Code.lines page.depth codes)), ?_, ?_⟩
  · rw [← String.toList_inj, page.toList_writeAll, String.toList_append,
      String.toList_ofList]
  · have hlines : Code.lines page.depth codes
        = (Code.lines 0 codes).map (indentLine page.depth) := by
      rw [← hnested.lines_add, Nat.zero_add]
    rw [String.toList_ofList,
      textLines_joinLines (Code.newline_not_mem_lines hsingle page.depth),
      hlines, toList_renderCode,
      textLines_joinLines (Code.newline_not_mem_lines hsingle 0),
      List.map_append]
    rfl

/-- A page inside two blocks, with a closing line that closes nothing and a text
that is no single line above them. -/
def companionPage : Page :=
  ({} : Page).writeAll [.closing, .opening "class Box",
    .line "val rule = \"-\n-\"", .opening "companion object"]

/-- A function with an empty line and a block in it. -/
def sizeFunction : List Code :=
  [.opening "fun size(): Int", .blank, .opening "return when",
    .line "else -> 0", .closing, .closing]

/-- A function two blocks deep. -/
theorem writeAll_of_nested_companion :
    Code.Nested sizeFunction ∧ (∀ code ∈ sizeFunction, '\n' ∉ code.text.toList)
      ∧ companionPage.depth = 2
      ∧ (companionPage.writeAll sizeFunction).depth = 2
      ∧ (∀ front back, sizeFunction = front ++ .closing :: back →
          2 < (companionPage.writeAll front).depth)
      ∧ ∃ added,
        (companionPage.writeAll sizeFunction).text = companionPage.text ++ added
        ∧ (textLines added.toList).map String.ofList =
          ["        fun size(): Int \x7b",
            "",
            "            return when \x7b",
            "                else -> 0",
            "            \x7d",
            "        \x7d",
            ""] := by
  have hnested : Code.Nested sizeFunction :=
    .block (.blank (.block (.line .nil) .nil)) .nil
  have hsingle : ∀ code ∈ sizeFunction, '\n' ∉ code.text.toList := by decide
  obtain ⟨hdepth, hclosings, added, htext, hlines⟩ :=
    Page.writeAll_of_nested companionPage hnested hsingle
  refine ⟨hnested, hsingle, rfl, hdepth, hclosings, added, htext, ?_⟩
  rw [hlines]
  decide +kernel

end KotlinBuilders
