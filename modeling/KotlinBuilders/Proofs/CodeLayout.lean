import KotlinBuilders.Kotlin.Code
import KotlinBuilders.Text.Blank
import Mathlib.Data.List.Basic

/-!
# The layout of source code

Pieces of code are well nested if every block is closed behind what stands in it
(`Code.Nested`).  Written one after the other they make the lines of a text
(`Code.lines`, `toList_renderCode`).

A reader finds the blocks again by counting braces: none is closed that is not
open, all are closed in the end, and each line stands as far in as braces are
open above it (`LaidOut`).  This holds for well-nested pieces whose texts are
single lines and leave no brace open (`Code.AllTidy.laidOut`).

The proof follows the nesting.  `LineRun` is the invariant: what a list of lines
does to the number of open braces, and that each line stands where it should.
It holds of each single line, and of one run behind another.
-/

namespace KotlinBuilders

/-- The lines of a text, with an empty one after the last line break. -/
def textLines (text : List Char) : List (List Char) := text.splitOn '\n'

/-- Whether a line begins with a closing brace. -/
def isClosingLine (line : List Char) : Bool :=
  (Text.trimStart line).head? == some '}'

/-- The number of blocks that are open below some lines. -/
def openBlocks (above : List (List Char)) : Nat :=
  above.flatten.count '{' - above.flatten.count '}'

/-- Whether a line is empty or stands behind four spaces for each of a number of
blocks, and no further. -/
def IsIndented (depth : Nat) (line : List Char) : Prop :=
  line = [] ∨ ∃ first rest, line = List.replicate (4 * depth) ' '
    ++ first :: rest ∧ Text.isBlank first = false

/-- Whether the braces of a text match and its lines are indented by them.  A
closing line counts its own block as closed. -/
structure LaidOut (text : List Char) : Prop where
  closes : ∀ front, front <+: text → front.count '}' ≤ front.count '{'
  balanced : text.count '{' = text.count '}'
  indented : ∀ above line below, textLines text = above ++ line :: below →
    IsIndented (openBlocks above - if isClosingLine line then 1 else 0) line

/-! ## Counting braces -/

/-- Whether a text takes the number of open braces from one to another and never
closes one that is not open. -/
structure BraceRun (before : Nat) (text : List Char) (after : Nat) : Prop where
  closes : ∀ front, front <+: text → front.count '}' ≤ before + front.count '{'
  total : before + text.count '{' = after + text.count '}'

namespace BraceRun

/-- Two runs of braces that fit together are one. -/
theorem append {before between after : Nat} {front back : List Char}
    (hfront : BraceRun before front between)
    (hback : BraceRun between back after) :
    BraceRun before (front ++ back) after := by
  have htotal := hfront.total
  refine ⟨fun start hstart => ?_, ?_⟩
  · obtain ⟨rest, hrest⟩ := hstart
    rcases List.append_eq_append_iff.1 hrest with
      ⟨more, rfl, -⟩ | ⟨more, rfl, rfl⟩
    · exact hfront.closes start (List.prefix_append start more)
    · have hcloses := hback.closes more (List.prefix_append more rest)
      simp only [List.count_append]
      omega
  · have hback := hback.total
    simp only [List.count_append]
    omega

/-- A text without braces opens and closes nothing. -/
theorem of_not_mem {text : List Char} (hopening : '{' ∉ text)
    (hclosing : '}' ∉ text) (depth : Nat) :
    BraceRun depth text depth := by
  refine ⟨fun front hfront => ?_, ?_⟩
  · rw [List.count_eq_zero_of_not_mem fun hmem => hclosing (hfront.subset hmem)]
    exact Nat.zero_le _
  · rw [List.count_eq_zero_of_not_mem hopening,
      List.count_eq_zero_of_not_mem hclosing]

/-- A text that closes all it opens does so inside open braces as well. -/
theorem inside {text : List Char} (hrun : BraceRun 0 text 0) (depth : Nat) :
    BraceRun depth text depth := by
  have htotal := hrun.total
  refine ⟨fun front hfront => ?_, by omega⟩
  have hcloses := hrun.closes front hfront
  omega

/-- An opening brace raises the depth by one. -/
theorem opening (depth : Nat) : BraceRun depth ['{'] (depth + 1) := by
  refine ⟨fun front hfront => ?_, rfl⟩
  rcases List.prefix_cons_iff.1 hfront with rfl | ⟨_, rfl, hnil⟩
  · exact Nat.zero_le _
  · rw [List.prefix_nil.1 hnil]
    exact Nat.zero_le _

/-- A closing brace lowers the depth by one. -/
theorem closing (depth : Nat) : BraceRun (depth + 1) ['}'] depth := by
  refine ⟨fun front hfront => ?_, rfl⟩
  rcases List.prefix_cons_iff.1 hfront with rfl | ⟨_, rfl, hnil⟩
  · exact Nat.zero_le _
  · rw [List.prefix_nil.1 hnil]
    exact Nat.succ_le_succ (Nat.zero_le _)

end BraceRun

/-! ## Runs of lines -/

/-- The text of some lines, each with its end. -/
def joinLines (lines : List (List Char)) : List Char :=
  lines.flatMap (· ++ ['\n'])

/-- The first of joined lines stands in front with its end. -/
theorem joinLines_cons (line : List Char) (lines : List (List Char)) :
    joinLines (line :: lines) = line ++ '\n' :: joinLines lines := by
  simp [joinLines]

/-- Joining lines goes through both parts of a list. -/
theorem joinLines_append (front back : List (List Char)) :
    joinLines (front ++ back) = joinLines front ++ joinLines back :=
  List.flatMap_append

/-- The lines of a text that is made of lines. -/
theorem textLines_joinLines {lines : List (List Char)}
    (hlines : ∀ line ∈ lines, '\n' ∉ line) :
    textLines (joinLines lines) = lines ++ [[]] := by
  induction lines with
  | nil => rfl
  | cons line lines ih =>
    obtain ⟨hline, hlines⟩ := List.forall_mem_cons.1 hlines
    rw [joinLines_cons, textLines, List.splitOn_append_cons_self,
      List.splitOn_eq_singleton hline, ← textLines, ih hlines]
    rfl

/-- Joining lines adds no character but line breaks. -/
theorem count_joinLines {c : Char} (hc : c ≠ '\n') (lines : List (List Char)) :
    (joinLines lines).count c = lines.flatten.count c := by
  induction lines with
  | nil => rfl
  | cons line lines ih =>
    rw [joinLines_cons, List.flatten_cons, List.count_append, List.count_append,
      List.count_cons_of_ne hc.symm, ih]

/-- Whether some lines take the number of open braces from one to another, and
each of them stands as far in as braces are open above it. -/
structure LineRun (before : Nat) (lines : List (List Char))
    (after : Nat) : Prop where
  braces : BraceRun before (joinLines lines) after
  single : ∀ line ∈ lines, '\n' ∉ line
  indented : ∀ above line below, lines = above ++ line :: below →
    IsIndented (before + above.flatten.count '{' - above.flatten.count '}'
      - if isClosingLine line then 1 else 0) line

namespace LineRun

/-- No lines keep the depth. -/
theorem nil (depth : Nat) : LineRun depth [] depth where
  braces := .of_not_mem List.not_mem_nil List.not_mem_nil depth
  single _ hmem := absurd hmem List.not_mem_nil
  indented _ _ _ hlines := by simp at hlines

/-- What a run of lines opens and closes makes up for the change of depth. -/
theorem total {before after : Nat} {lines : List (List Char)}
    (hrun : LineRun before lines after) :
    before + lines.flatten.count '{' = after + lines.flatten.count '}' := by
  have htotal := hrun.braces.total
  rwa [count_joinLines (by decide), count_joinLines (by decide)] at htotal

/-- One run behind another. -/
theorem append {before between after : Nat} {front back : List (List Char)}
    (hfront : LineRun before front between)
    (hback : LineRun between back after) :
    LineRun before (front ++ back) after where
  braces := joinLines_append front back ▸ hfront.braces.append hback.braces
  single := List.forall_mem_append.2 ⟨hfront.single, hback.single⟩
  indented above line below hlines := by
    have hbelow (more : List (List Char))
        (hmore : back = more ++ line :: below) :
        IsIndented (before + (front ++ more).flatten.count '{'
          - (front ++ more).flatten.count '}'
          - if isClosingLine line then 1 else 0) line := by
      have htotal := hfront.total
      have hindented := hback.indented more line below hmore
      rw [List.flatten_append, List.count_append, List.count_append]
      convert hindented using 1
      omega
    -- The line is one of the second run, or of the first; at the joint, nothing
    -- of the first is left below it.
    rcases List.append_eq_append_iff.1 hlines with
      ⟨more, rfl, hmore⟩ | ⟨more, rfl, hmore⟩
    · exact hbelow more hmore
    · cases more with
      | nil => simpa using hbelow [] (by simpa using hmore.symm)
      | cons first more =>
        obtain ⟨rfl, rfl⟩ := List.cons.inj hmore
        exact hfront.indented above line more rfl

/-- A run of a single line. -/
theorem of_line {before after : Nat} {line : List Char}
    (hbraces : BraceRun before line after) (hsingle : '\n' ∉ line)
    (hindented : IsIndented (before - if isClosingLine line then 1 else 0)
      line) : LineRun before [line] after where
  braces := by
    have hend : BraceRun after ['\n'] after :=
      .of_not_mem (by decide) (by decide) after
    have hjoin : joinLines [line] = line ++ ['\n'] := List.append_nil _
    exact hjoin ▸ hbraces.append hend
  single := List.forall_mem_singleton.2 hsingle
  indented above other below hlines := by
    rcases List.singleton_eq_append_iff.1 hlines with
      ⟨rfl, hother⟩ | ⟨-, hother⟩
    · obtain ⟨rfl, -⟩ := List.cons.inj hother
      exact hindented
    · cases hother

/-- **A run from no open brace to none is laid out.** -/
theorem laidOut {lines : List (List Char)} (hrun : LineRun 0 lines 0) :
    LaidOut (joinLines lines) where
  closes front hfront := by
    have hcloses := hrun.braces.closes front hfront
    omega
  balanced := by
    have htotal := hrun.braces.total
    omega
  indented above line below hlines := by
    rw [textLines_joinLines hrun.single] at hlines
    rcases List.append_eq_append_iff.1 hlines with
      ⟨more, rfl, hmore⟩ | ⟨more, rfl, hmore⟩
    · rcases List.singleton_eq_append_iff.1 hmore with ⟨rfl, hlast⟩ | ⟨-, hlast⟩
      · exact .inl (List.cons.inj hlast).1
      · cases hlast
    · cases more with
      | nil => exact .inl (List.cons.inj hmore).1
      | cons first more =>
        obtain ⟨rfl, -⟩ := List.cons.inj hmore
        have hindented := hrun.indented above line more rfl
        rwa [Nat.zero_add] at hindented

end LineRun

/-! ## Pieces of code -/

namespace Code

/-- Whether every block is closed behind what stands in it. -/
inductive Nested : List Code → Prop
  | nil : Nested []
  | line {text : String} {rest : List Code} (hrest : Nested rest) :
      Nested (.line text :: rest)
  | blank {rest : List Code} (hrest : Nested rest) : Nested (.blank :: rest)
  | block {header : String} {inside rest : List Code} (hinside : Nested inside)
      (hrest : Nested rest) :
      Nested (.opening header :: (inside ++ .closing :: rest))

/-- A line of text at a depth; an empty one stays empty. -/
def lineAt (depth : Nat) (text : String) : List Char :=
  if text.isEmpty then [] else List.replicate (4 * depth) ' ' ++ text.toList

/-- The line of a piece of code at a depth, and the depth behind it. -/
def written (depth : Nat) : Code → List Char × Nat
  | .line text => (lineAt depth text, depth)
  | .blank => ([], depth)
  | .opening header => (lineAt depth (header ++ " \x7b"), depth + 1)
  | .closing => (lineAt (depth - 1) "\x7d", depth - 1)

/-- The lines of pieces of code, from a depth on. -/
def lines : (depth : Nat) → List Code → List (List Char)
  | _, [] => []
  | depth, code :: rest =>
    (code.written depth).1 :: lines (code.written depth).2 rest

end Code

namespace Page

/-- An indented text is its line at the depth, with the end of the line. -/
theorem toList_indented (depth : Nat) (text : String) :
    (indented depth text).toList = Code.lineAt depth text ++ ['\n'] := by
  rw [indented, Code.lineAt, String.toList_append]
  split
  · rfl
  · rw [String.toList_append, indentation, String.toList_ofList]
    rfl

/-- One piece of code adds its line. -/
theorem write_eq (page : Page) (code : Code) :
    (page.write code).text.toList
      = page.text.toList ++ ((code.written page.depth).1 ++ ['\n'])
      ∧ (page.write code).depth = (code.written page.depth).2 := by
  cases code <;>
    exact ⟨by rw [write, addLine, String.toList_append, toList_indented]; rfl,
      rfl⟩

/-- **Pieces of code add their lines.** -/
theorem toList_writeAll (page : Page) (codes : List Code) :
    (page.writeAll codes).text.toList
      = page.text.toList ++ joinLines (Code.lines page.depth codes) := by
  induction codes generalizing page with
  | nil => exact (List.append_nil _).symm
  | cons code codes ih =>
    obtain ⟨htext, hdepth⟩ := page.write_eq code
    have hrest := ih (page.write code)
    rw [htext, hdepth] at hrest
    rw [Code.lines]
    exact hrest.trans (List.append_assoc _ _ _)

end Page

/-- Rendered code is its lines, joined. -/
theorem toList_renderCode (codes : List Code) :
    (renderCode codes).toList = joinLines (Code.lines 0 codes) :=
  Page.toList_writeAll {} codes

namespace Code

/-- Two well nested pieces of code are well nested together. -/
theorem Nested.append {codes more : List Code} (hcodes : Nested codes)
    (hmore : Nested more) :
    Nested (codes ++ more) := by
  induction hcodes with
  | nil => exact hmore
  | line _ ih => exact .line ih
  | blank _ ih => exact .blank ih
  | block hinside _ _ ih =>
    rw [List.cons_append, List.append_assoc]
    exact .block hinside ih

/-- **Behind well-nested pieces the depth is what it was.** -/
theorem Nested.lines_append {codes : List Code} (hcodes : Nested codes)
    (depth : Nat) (more : List Code) :
    lines depth (codes ++ more) = lines depth codes ++ lines depth more := by
  induction hcodes generalizing depth more with
  | nil => rfl
  | line _ ih | blank _ ih => exact congrArg (_ :: ·) (ih depth more)
  | @block header inside rest _ _ ihinside ihrest =>
    have hclosing (others : List Code) :
        lines (depth + 1) (inside ++ .closing :: others)
          = lines (depth + 1) inside ++ lineAt depth "\x7d"
            :: lines depth others :=
      ihinside (depth + 1) (.closing :: others)
    rw [List.cons_append, List.append_assoc, List.cons_append, lines, lines]
    change _ :: lines (depth + 1) (inside ++ .closing :: (rest ++ more))
      = (_ :: lines (depth + 1) (inside ++ .closing :: rest))
        ++ lines depth more
    rw [hclosing, hclosing, ihrest, List.cons_append, List.append_assoc,
      List.cons_append]

/-- The lines of a block. -/
theorem Nested.lines_block {inside : List Code} (hinside : Nested inside)
    (depth : Nat) (header : String) (rest : List Code) :
    lines depth (.opening header :: (inside ++ .closing :: rest))
      = lineAt depth (header ++ " \x7b") :: (lines (depth + 1) inside
        ++ lineAt depth "\x7d" :: lines depth rest) :=
  congrArg (_ :: ·) (hinside.lines_append (depth + 1) (.closing :: rest))

end Code

/-! ## Tidy pieces -/

/-- Whether a text begins with a character that is neither white space nor a
closing brace. -/
def beginsLine (text : String) : Bool :=
  text.toList.head?.any fun c => !Text.isBlank c && c != '}'

/-- A text begins a line when its first character is neither blank nor a closing
brace. -/
theorem beginsLine_iff {text : String} :
    beginsLine text = true ↔ ∃ first rest, text.toList = first :: rest
      ∧ Text.isBlank first = false ∧ first ≠ '}' := by
  rw [beginsLine]
  cases text.toList with
  | nil => simp
  | cons first rest => simp

/-- What follows does not matter for how a text begins. -/
theorem beginsLine_append {front : String} (hfront : beginsLine front = true)
    (back : String) :
    beginsLine (front ++ back) = true := by
  obtain ⟨first, rest, htext, hfirst⟩ := beginsLine_iff.1 hfront
  exact beginsLine_iff.2 ⟨first, rest ++ back.toList,
    by rw [String.toList_append, htext, List.cons_append], hfirst⟩

namespace Code

/-- Whether the text of a piece is a single line that begins at its place and
leaves no brace open. -/
def IsTidy : Code → Prop
  | .line text => beginsLine text = true ∧ '\n' ∉ text.toList
      ∧ BraceRun 0 text.toList 0
  | .opening header =>
    beginsLine header = true ∧ '\n' ∉ header.toList ∧ '{' ∉ header.toList
      ∧ '}' ∉ header.toList
  | .blank | .closing => True

/-- Trimming takes away all of an indentation. -/
theorem trimStart_replicate (n : Nat) (text : List Char) :
    Text.trimStart (List.replicate n ' ' ++ text) = Text.trimStart text := by
  induction n with
  | zero => rfl
  | succ n ih => exact ih

/-- Whether a line closes a block is told by the first character behind its
indentation. -/
theorem isClosingLine_replicate {first : Char}
    (hblank : Text.isBlank first = false) (n : Nat) (rest : List Char) :
    isClosingLine (List.replicate n ' ' ++ first :: rest) = (first == '}') := by
  rw [isClosingLine, trimStart_replicate, Text.trimStart,
    List.dropWhile_cons_of_neg (by simp [hblank])]
  rfl

/-- A line behind the spaces of its depth. -/
theorem lineRun_replicate {first : Char} {rest : List Char}
    {depth before after : Nat} (hblank : Text.isBlank first = false)
    (hdepth : (before - if first == '}' then 1 else 0) = depth)
    (hsingle : '\n' ∉ first :: rest)
    (hbraces : BraceRun before (first :: rest) after) :
    LineRun before [List.replicate (4 * depth) ' ' ++ first :: rest] after := by
  have hspaces {c : Char} (hc : c ≠ ' ') : c ∉ List.replicate (4 * depth) ' ' :=
    fun hmem => hc (List.eq_of_mem_replicate hmem)
  have hindent : BraceRun before (List.replicate (4 * depth) ' ') before :=
    .of_not_mem (hspaces (by decide)) (hspaces (by decide)) before
  refine .of_line (hindent.append hbraces) ?_ ?_
  · exact fun hmem =>
      (List.mem_append.1 hmem).elim (hspaces (by decide)) hsingle
  · rw [isClosingLine_replicate hblank, hdepth]
    exact .inr ⟨first, rest, rfl, hblank⟩

/-- A text that begins a line stands behind four spaces for each block. -/
theorem lineAt_of_beginsLine {text : String} (hbegins : beginsLine text = true)
    (depth : Nat) :
    lineAt depth text = List.replicate (4 * depth) ' ' ++ text.toList := by
  refine if_neg fun hempty => ?_
  rw [String.isEmpty_iff.1 hempty] at hbegins
  cases hbegins

/-- A line that begins at its place. -/
theorem lineRun_lineAt {text : String} {before after : Nat}
    (hbegins : beginsLine text = true) (hsingle : '\n' ∉ text.toList)
    (hbraces : BraceRun before text.toList after) :
    LineRun before [lineAt before text] after := by
  obtain ⟨first, rest, htext, hblank, hbrace⟩ := beginsLine_iff.1 hbegins
  rw [lineAt_of_beginsLine hbegins, htext]
  rw [htext] at hsingle hbraces
  exact lineRun_replicate hblank (by simp [hbrace]) hsingle hbraces

/-- The line that closes a block stands at the place of the line that opened
it. -/
theorem lineRun_closing (depth : Nat) :
    LineRun (depth + 1) [lineAt depth "\x7d"] depth :=
  lineRun_replicate (by decide) rfl (by decide) (.closing depth)

/-- **The lines of well-nested, tidy pieces are indented by their blocks.** -/
theorem Nested.lineRun {codes : List Code} (hcodes : Nested codes)
    (htidy : ∀ code ∈ codes, code.IsTidy) (depth : Nat) :
    LineRun depth (lines depth codes) depth := by
  induction hcodes generalizing depth with
  | nil => exact .nil depth
  | @line text rest _ ih =>
    obtain ⟨⟨hbegins, hsingle, hbraces⟩, hrest⟩ := List.forall_mem_cons.1 htidy
    exact (lineRun_lineAt hbegins hsingle (hbraces.inside depth)).append
      (ih hrest depth)
  | blank _ ih =>
    obtain ⟨-, hrest⟩ := List.forall_mem_cons.1 htidy
    have hempty : LineRun depth [[]] depth :=
      .of_line (.of_not_mem List.not_mem_nil List.not_mem_nil depth)
        List.not_mem_nil (.inl rfl)
    exact hempty.append (ih hrest depth)
  | @block header inside rest hinside _ ihinside ihrest =>
    obtain ⟨⟨hbegins, hsingle, hopening, hclosing⟩, htidy⟩ :=
      List.forall_mem_cons.1 htidy
    obtain ⟨htidy, hrest⟩ := List.forall_mem_append.1 htidy
    obtain ⟨-, hrest⟩ := List.forall_mem_cons.1 hrest
    have hheader :
        LineRun depth [lineAt depth (header ++ " \x7b")] (depth + 1) := by
      refine lineRun_lineAt (beginsLine_append hbegins _) ?_ ?_
      · rw [String.toList_append]
        exact fun hmem => (List.mem_append.1 hmem).elim hsingle (by decide)
      · rw [String.toList_append]
        have hblank : BraceRun depth (header.toList ++ [' ']) depth :=
          (BraceRun.of_not_mem hopening hclosing depth).append
            (.of_not_mem (by decide) (by decide) depth)
        have hbraces := hblank.append (.opening depth)
        rwa [List.append_assoc] at hbraces
    rw [hinside.lines_block]
    exact hheader.append ((ihinside htidy (depth + 1)).append
      ((lineRun_closing depth).append (ihrest hrest depth)))

/-- Whether pieces of code are well nested and tidy. -/
structure AllTidy (codes : List Code) : Prop where
  nested : Nested codes
  tidy : ∀ code ∈ codes, code.IsTidy

namespace AllTidy

/-- Two tidy pieces of code are tidy together. -/
theorem append {codes more : List Code} (hcodes : AllTidy codes)
    (hmore : AllTidy more) : AllTidy (codes ++ more) :=
  ⟨hcodes.nested.append hmore.nested,
    List.forall_mem_append.2 ⟨hcodes.tidy, hmore.tidy⟩⟩

/-- A tidy header with tidy code inside makes a tidy block. -/
theorem block {header : String} {inside : List Code}
    (hheader : (opening header).IsTidy) (hinside : AllTidy inside) :
    AllTidy (.opening header :: (inside ++ [.closing])) where
  nested := .block hinside.nested .nil
  tidy := List.forall_mem_cons.2
    ⟨hheader, List.forall_mem_append.2 ⟨hinside.tidy,
      List.forall_mem_singleton.2 trivial⟩⟩

/-- **The text of well-nested, tidy pieces is laid out.** -/
theorem laidOut {codes : List Code} (hcodes : AllTidy codes) :
    LaidOut (renderCode codes).toList := by
  rw [toList_renderCode]
  exact (hcodes.nested.lineRun hcodes.tidy 0).laidOut

/-- A reader of the text finds the lines that the pieces make. -/
theorem textLines_renderCode {codes : List Code} (hcodes : AllTidy codes) :
    textLines (renderCode codes).toList = lines 0 codes ++ [[]] := by
  rw [toList_renderCode,
    textLines_joinLines (hcodes.nested.lineRun hcodes.tidy 0).single]

end AllTidy

/-- The line of a text that begins one is not empty. -/
theorem lineAt_ne_nil {text : String} (hbegins : beginsLine text = true)
    (depth : Nat) : lineAt depth text ≠ [] := by
  obtain ⟨first, rest, htext, -⟩ := beginsLine_iff.1 hbegins
  rw [lineAt_of_beginsLine hbegins, htext]
  exact List.append_ne_nil_of_right_ne_nil _ (List.cons_ne_nil first rest)

/-- The lines of tidy pieces that are not empty are those of the pieces that are
not blank. -/
theorem filter_lines {codes : List Code} (htidy : ∀ code ∈ codes, code.IsTidy)
    (depth : Nat) :
    (lines depth codes).filter (· ≠ [])
      = lines depth (codes.filter (· ≠ .blank)) := by
  induction codes generalizing depth with
  | nil => rfl
  | cons code codes ih =>
    obtain ⟨hcode, htidy⟩ := List.forall_mem_cons.1 htidy
    have hrest := ih htidy (code.written depth).2
    have hshown (hline : (code.written depth).1 ≠ []) (hcode : code ≠ .blank) :
        (lines depth (code :: codes)).filter (· ≠ [])
          = lines depth ((code :: codes).filter (· ≠ .blank)) := by
      rw [lines, List.filter_cons_of_pos (by simpa using hline),
        List.filter_cons_of_pos (by simpa using hcode), lines, hrest]
    cases code with
    | line text => exact hshown (lineAt_ne_nil hcode.1 depth) nofun
    | opening header =>
      exact hshown (lineAt_ne_nil (beginsLine_append hcode.1 _) depth) nofun
    | closing =>
      exact hshown
        (List.append_ne_nil_of_right_ne_nil _ (List.cons_ne_nil '}' [])) nofun
    | blank => exact hrest

/-- Lines of text at a depth are written one by one. -/
theorem lines_map_line {α : Type} (text : α → String) (depth : Nat)
    (items : List α) :
    lines depth (items.map fun item => .line (text item))
      = items.map fun item => lineAt depth (text item) := by
  induction items with
  | nil => rfl
  | cons item items ih => exact congrArg (_ :: ·) ih

end Code

end KotlinBuilders
