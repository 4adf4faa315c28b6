import KotlinBuilders.Json.Value
import KotlinBuilders.Proofs.WrittenTrees

/-!
# Printed values are documents

A printed value is a document of one tree, `Node.ofJson`, on one line as well as
over several lines (`Node.writtenAs_compact`, `Node.writtenAs_pretty`).  Its
strings are kept the way the printer writes them: an escape for each character
that has one, and otherwise the UTF-8 bytes of the character.  Decoding such a
string gives the text back (`StringText.decode_ofText`).

The printers put white space between the tokens of the tree and nothing else.
Both are followed token by token: `Prints` says of a text that it spells some
tokens, whatever tokens are spelled after it.
-/

namespace KotlinBuilders.Json

/-! ## Bytes of characters -/

/-- The UTF-8 bytes of characters. -/
def utf8 (text : List Char) : List UInt8 := text.flatMap String.utf8EncodeChar

@[simp] theorem utf8_nil : utf8 [] = [] := rfl

@[simp] theorem utf8_cons (c : Char) (text : List Char) :
    utf8 (c :: text) = String.utf8EncodeChar c ++ utf8 text := rfl

@[simp] theorem utf8_append (front back : List Char) :
    utf8 (front ++ back) = utf8 front ++ utf8 back :=
  List.flatMap_append

/-- The bytes of a string are those of its characters. -/
theorem toUTF8_ofList (text : List Char) :
    (String.ofList text).toUTF8.data.toList = utf8 text := by
  rw [String.toUTF8_eq_toByteArray, String.toByteArray_ofList, List.utf8Encode,
    List.data_toByteArray, List.toList_toArray, utf8]

/-- A string is decoded from the bytes of its characters. -/
theorem fromUTF8?_utf8 (text : String) :
    String.fromUTF8? ⟨(utf8 text.toList).toArray⟩ = some text := by
  have hbytes : (⟨(utf8 text.toList).toArray⟩ : ByteArray)
      = text.toByteArray := by
    rw [← toUTF8_ofList, String.ofList_toList, String.toUTF8_eq_toByteArray]
  rw [hbytes, String.fromUTF8?, dif_pos text.isValidUTF8]
  rfl

/-- A character of ASCII is one byte, its code. -/
theorem utf8EncodeChar_of_lt {c : Char} (hascii : c.toNat < 128) :
    String.utf8EncodeChar c = [UInt8.ofNat c.toNat] := by
  have hle : c.val.toNat ≤ 0x7f := Nat.le_of_lt_succ hascii
  simp only [String.utf8EncodeChar, hle, if_true]
  rfl

/-- Every byte of a character that is not ASCII has its first bit. -/
theorem le_of_mem_utf8EncodeChar {c : Char}
    (hascii : ¬c.toNat < 128) {b : UInt8} (hmem : b ∈ String.utf8EncodeChar c) :
    128 ≤ b.toNat := by
  have hsize := c.val.toNat_lt
  have hle : ¬c.val.toNat ≤ 0x7f := fun hle => hascii (Nat.lt_succ_of_le hle)
  simp only [String.utf8EncodeChar, hle, if_false] at hmem
  split_ifs at hmem <;>
    simp only [List.mem_cons, List.not_mem_nil, or_false] at hmem
  · rcases hmem with rfl | rfl <;> simp only [UInt8.toNat_ofNat'] <;> omega
  · rcases hmem with rfl | rfl | rfl <;>
      simp only [UInt8.toNat_ofNat'] <;> omega
  · rcases hmem with rfl | rfl | rfl | rfl <;>
      simp only [UInt8.toNat_ofNat'] <;> omega

/-! ## Strings as they are printed -/

/-- The pieces that the printer writes for a character. -/
def escapedPieces (c : Char) : List Piece :=
  if c = '"' then [.escaped 34]
  else if c = '\\' then [.escaped 92]
  else if c = '\n' then [.escaped 10]
  else if c = '\r' then [.escaped 13]
  else if c = '\t' then [.escaped 9]
  else if c.toNat = 8 then [.escaped 8]
  else if c.toNat = 12 then [.escaped 12]
  else if c.toNat < 32 then [.unit c.toNat]
  else (String.utf8EncodeChar c).map .byte

/-- A text as it is printed. -/
def StringText.ofText (text : String) : StringText :=
  ⟨text.toList.flatMap escapedPieces, .closed⟩

/-- The texts of pieces, one behind the other, are a text of all of them. -/
theorem PiecesText.append {pieces more : List Piece} {text rest : List UInt8}
    (hpieces : PiecesText pieces text) (hmore : PiecesText more rest) :
    PiecesText (pieces ++ more) (text ++ rest) := by
  induction hpieces with
  | nil => exact hmore
  | cons hpiece _ ih =>
    rw [List.append_assoc]
    exact .cons hpiece ih

/-- The text of one piece is a text of a list of it. -/
theorem piecesText_single {piece : Piece} {text : List UInt8}
    (hpiece : PieceText piece text) :
    PiecesText [piece] text := by
  simpa using PiecesText.cons hpiece .nil

/-- Bytes that need no escape are a text of themselves. -/
theorem piecesText_bytes {bytes : List UInt8}
    (hplain : ∀ b ∈ bytes, 32 ≤ b ∧ b ≠ 34 ∧ b ≠ 92) :
    PiecesText (bytes.map .byte) bytes := by
  induction bytes with
  | nil => exact .nil
  | cons b bytes ih =>
    obtain ⟨⟨hcontrol, hmark, hescape⟩, hplain⟩ := List.forall_mem_cons.1 hplain
    exact .cons (.byte hcontrol hmark hescape) (ih hplain)

/-- A hexadecimal digit is one byte, which is read as its value. -/
theorem exists_utf8EncodeChar_digitChar {digit : Nat} (hdigit : digit < 16) :
    ∃ b, String.utf8EncodeChar (Nat.digitChar digit) = [b]
      ∧ hexValue? b = some digit := by
  interval_cases digit <;> exact ⟨_, rfl, rfl⟩

/-- Four digits write the unit that they are read as. -/
theorem piecesText_fourDigits {n : Nat} (hunit : n < 0x10000) :
    PiecesText [.unit n] (utf8 ('\\' :: 'u' :: fourDigits n)) := by
  obtain ⟨a, ha, hanum⟩ :=
    exists_utf8EncodeChar_digitChar (Nat.mod_lt (n / 4096) (by omega : 0 < 16))
  obtain ⟨b, hb, hbnum⟩ :=
    exists_utf8EncodeChar_digitChar (Nat.mod_lt (n / 256) (by omega : 0 < 16))
  obtain ⟨c, hc, hcnum⟩ :=
    exists_utf8EncodeChar_digitChar (Nat.mod_lt (n / 16) (by omega : 0 < 16))
  obtain ⟨d, hd, hdnum⟩ :=
    exists_utf8EncodeChar_digitChar (Nat.mod_lt n (by omega : 0 < 16))
  have hvalue : unitValue? a b c d = some n := by
    simp only [unitValue?, hanum, hbnum, hcnum, hdnum, Option.bind_eq_bind,
      Option.bind_some, Option.pure_def, Option.some.injEq]
    omega
  simp only [fourDigits, utf8_cons, ha, hb, hc, hd]
  exact piecesText_single (.unit hvalue)

/-- An escaped character is a text of the pieces that are printed for it. -/
theorem piecesText_escape (c : Char) :
    PiecesText (escapedPieces c) (utf8 (escape c)) := by
  unfold escapedPieces escape
  split_ifs with hmark hescape _ _ _ _ _ hcontrol
  all_goals try exact piecesText_single (.escaped rfl)
  · exact piecesText_fourDigits (by omega)
  · rw [utf8_cons, utf8_nil, List.append_nil]
    refine piecesText_bytes fun b hmem => ?_
    by_cases hascii : c.toNat < 128
    · rw [utf8EncodeChar_of_lt hascii, List.mem_singleton] at hmem
      have hb : b.toNat = c.toNat := by
        rw [hmem, UInt8.toNat_ofNat', Nat.mod_eq_of_lt (by omega)]
      refine ⟨UInt8.le_iff_toNat_le.2 (by simpa [hb] using hcontrol), ?_, ?_⟩
      · rintro rfl
        exact hmark (Char.toNat_inj.1 hb.symm)
      · rintro rfl
        exact hescape (Char.toNat_inj.1 hb.symm)
    · have hb := le_of_mem_utf8EncodeChar hascii hmem
      refine ⟨UInt8.le_iff_toNat_le.2 (Nat.le_trans (by decide) hb), ?_, ?_⟩
      all_goals
        rintro rfl
        exact absurd hb (by decide)

/-- **A printed text is a string of its pieces.** -/
theorem spelledBy_quote (text : String) :
    (StringText.ofText text).SpelledBy (utf8 (quote text.toList)) := by
  have hinside : PiecesText (text.toList.flatMap escapedPieces)
      (utf8 (text.toList.flatMap escape)) := by
    induction text.toList with
    | nil => exact .nil
    | cons c text ih =>
      rw [List.flatMap_cons, List.flatMap_cons, utf8_append]
      exact (piecesText_escape c).append ih
  have hquote : utf8 (quote text.toList)
      = 34 :: (utf8 (text.toList.flatMap escape) ++ [34]) := by
    rw [quote, utf8_append]
    rfl
  rw [hquote]
  exact .mk hinside

/-- An escaped byte is decoded as itself. -/
theorem piecesBytes_escaped {b : UInt8} {more : List Piece} {bytes : List UInt8}
    (hmore : piecesBytes .closed more = .ok bytes) :
    piecesBytes .closed (.escaped b :: more) = .ok (b :: bytes) := by
  rw [piecesBytes, hmore, Except.map]

/-- An escaped code below the surrogates is decoded as the bytes of its
character. -/
theorem piecesBytes_unit {n : Nat} (hunit : n < 0xd800) {more : List Piece}
    {bytes : List UInt8} (hmore : piecesBytes .closed more = .ok bytes) :
    piecesBytes .closed (.unit n :: more) = .ok (pointBytes n ++ bytes) := by
  have htrailing : isTrailing n = false := by
    simp only [isTrailing, Bool.and_eq_false_imp, decide_eq_true_eq]; omega
  have hleading : isLeading n = false := by
    simp only [isLeading, Bool.and_eq_false_imp, decide_eq_true_eq]; omega
  rw [piecesBytes.eq_def]
  simp only [htrailing, hleading, hmore, Except.map,
    Bool.false_eq_true, if_false]

/-- Plain bytes are decoded as themselves. -/
theorem piecesBytes_map_byte (inside : List UInt8) {more : List Piece}
    {bytes : List UInt8} (hmore : piecesBytes .closed more = .ok bytes) :
    piecesBytes .closed (inside.map .byte ++ more) = .ok (inside ++ bytes) := by
  induction inside with
  | nil => exact hmore
  | cons b inside ih =>
    rw [List.map_cons, List.cons_append, piecesBytes, ih, Except.map,
      List.cons_append]

/-- The pieces of a character are decoded to its bytes. -/
theorem piecesBytes_escapedPieces (c : Char) {more : List Piece}
    {bytes : List UInt8} (hmore : piecesBytes .closed more = .ok bytes) :
    piecesBytes .closed (escapedPieces c ++ more)
      = .ok (String.utf8EncodeChar c ++ bytes) := by
  unfold escapedPieces
  split_ifs with hmark hescape hfeed hreturn htab hback hform hcontrol
  · exact hmark ▸ piecesBytes_escaped hmore
  · exact hescape ▸ piecesBytes_escaped hmore
  · exact hfeed ▸ piecesBytes_escaped hmore
  · exact hreturn ▸ piecesBytes_escaped hmore
  · exact htab ▸ piecesBytes_escaped hmore
  · rw [utf8EncodeChar_of_lt (by omega), hback]
    exact piecesBytes_escaped hmore
  · rw [utf8EncodeChar_of_lt (by omega), hform]
    exact piecesBytes_escaped hmore
  · have hbytes : pointBytes c.toNat = String.utf8EncodeChar c := by
      rw [pointBytes, Char.ofNat_toNat]
    exact hbytes ▸ piecesBytes_unit (by omega) hmore
  · exact piecesBytes_map_byte _ hmore

/-- The pieces that are printed for a text are decoded as its bytes. -/
theorem piecesBytes_flatMap (text : List Char) :
    piecesBytes .closed (text.flatMap escapedPieces) = .ok (utf8 text) := by
  induction text with
  | nil => rfl
  | cons c text ih => exact piecesBytes_escapedPieces c ih

/-- **A printed text is decoded to itself.** -/
theorem StringText.decode_ofText (text : String) :
    (StringText.ofText text).decode = .ok text := by
  rw [StringText.decode, StringText.ofText]
  simp only [piecesBytes_flatMap, fromUTF8?_utf8]

/-! ## The tree of a value -/

mutual

/-- The tree that a printed value writes. -/
def Node.ofJson : Json → Node
  | .null => .word .null .complete
  | .bool value => .word (.bool value) .complete
  | .string text => .string (.ofText text)
  | .list elements => .list (Node.ofElements elements) .closed
  | .object members => .object (Node.ofMembers members) .closed

/-- The trees of the elements of a list. -/
def Node.ofElements : List Json → List Node
  | [] => []
  | element :: elements => Node.ofJson element :: Node.ofElements elements

/-- The trees of the members of an object. -/
def Node.ofMembers : List (String × Json) → List (StringText × Node)
  | [] => []
  | (name, value) :: members =>
    (.ofText name, Node.ofJson value) :: Node.ofMembers members

end

/-- The list form makes the tree of each element in its place. -/
theorem Node.ofElements_eq_map (elements : List Json) :
    Node.ofElements elements = elements.map Node.ofJson := by
  induction elements with
  | nil => rfl
  | cons element elements ih => rw [Node.ofElements, ih, List.map_cons]

/-- The list form makes the trees of each key and each value in their place. -/
theorem Node.ofMembers_eq_map (members : List (String × Json)) :
    Node.ofMembers members = members.map fun member =>
      (StringText.ofText member.1, Node.ofJson member.2) := by
  induction members with
  | nil => rfl
  | cons member members ih => rw [Node.ofMembers, ih, List.map_cons]

mutual

/-- The tree of a printed value has no fault in it. -/
theorem Node.isWhole_ofJson : (json : Json) → (Node.ofJson json).IsWhole
  | .null | .bool _ | .string _ => rfl
  | .list elements => ⟨Node.allWhole_ofElements elements, rfl⟩
  | .object members => ⟨Node.membersWhole_ofMembers members, rfl⟩

/-- The trees of printed elements have no fault in them. -/
theorem Node.allWhole_ofElements : (elements : List Json) →
    Node.AllWhole (Node.ofElements elements)
  | [] => trivial
  | element :: elements =>
    ⟨Node.isWhole_ofJson element, Node.allWhole_ofElements elements⟩

/-- The trees of printed members have no fault in them. -/
theorem Node.membersWhole_ofMembers : (members : List (String × Json)) →
    Node.MembersWhole (Node.ofMembers members)
  | [] => trivial
  | (_, value) :: members =>
    ⟨⟨rfl, Node.isWhole_ofJson value⟩, Node.membersWhole_ofMembers members⟩

end

/-! ## What the printers write -/

/-- Whether a text spells tokens, whatever tokens are spelled after it. -/
def Prints (written : List Token) (text : List Char) : Prop :=
  ∀ (more : List Token) (rest : List UInt8), Spelled more rest →
    Spelled (written ++ more) (utf8 text ++ rest)

/-- What is printed behind a text spells its tokens behind those of the text. -/
theorem Prints.append {written more : List Token} {text rest : List Char}
    (hwritten : Prints written text) (hmore : Prints more rest) :
    Prints (written ++ more) (text ++ rest) := by
  intro others after hafter
  rw [List.append_assoc, utf8_append, List.append_assoc]
  exact hwritten _ _ (hmore _ _ hafter)

/-- Where nothing follows, a printed text spells its tokens. -/
theorem Prints.spelled {written : List Token} {text : List Char}
    (hwritten : Prints written text) :
    Spelled written (utf8 text) := by
  have hspelled := hwritten [] [] (.nil allSpace_nil)
  rwa [List.append_nil, List.append_nil] at hspelled

/-- A lexeme that nothing can continue prints its token. -/
theorem Prints.single {token : Token} {text : List Char}
    (hlexeme : token.SpelledBy (utf8 text))
    (hends : ∀ rest, token.EndsBefore rest) : Prints [token] text :=
  fun _ _ hafter => .cons allSpace_nil hlexeme (hends _) hafter

/-- A spelling may be preceded by several bytes of white space. -/
theorem Spelled.blank_append {written : List Token} {blanks text : List UInt8}
    (hblanks : AllSpace blanks) (hspelled : Spelled written text) :
    Spelled written (blanks ++ text) := by
  induction blanks with
  | nil => exact hspelled
  | cons b blanks ih =>
    obtain ⟨hspace, hblanks⟩ := List.forall_mem_cons.1 hblanks
    exact (ih hblanks).space_cons hspace

/-- A text goes on spelling the same tokens after white space. -/
theorem Prints.blank {written : List Token} {blanks text : List Char}
    (hblanks : AllSpace (utf8 blanks)) (hprints : Prints written text) :
    Prints written (blanks ++ text) := by
  intro more rest hafter
  rw [utf8_append, List.append_assoc]
  exact (hprints more rest hafter).blank_append hblanks

/-- A line break and an indentation are white space. -/
theorem allSpace_newline (depth : Nat) : AllSpace (utf8 (newline depth)) := by
  have hspaces : AllSpace (utf8 (List.replicate (2 * depth) ' ')) := by
    induction 2 * depth with
    | zero => exact allSpace_nil
    | succ n ih => exact List.forall_mem_cons.2 ⟨rfl, ih⟩
  exact List.forall_mem_cons.2 ⟨rfl, hspaces⟩

/-- A space is white space. -/
theorem allSpace_space : AllSpace (utf8 [' ']) :=
  List.forall_mem_cons.2 ⟨rfl, allSpace_nil⟩

/-- A text in its marks prints a string. -/
theorem prints_string (text : String) :
    Prints [.string (.ofText text)] (quote text.toList) :=
  .single (.string (spelledBy_quote text)) fun _ => trivial

/-- The bytes of a word print the word. -/
theorem prints_word (word : Word) (text : List Char)
    (hword : utf8 text = word.bytes) :
    Prints [.word word .complete] text :=
  .single (hword ▸ .word word) fun _ => trivial

/-- The bracket that opens a list prints it. -/
theorem prints_openList : Prints [.openList] ['['] :=
  .single .openList fun _ => trivial

/-- The bracket that closes a list prints it. -/
theorem prints_closeList : Prints [.closeList] [']'] :=
  .single .closeList fun _ => trivial

/-- The brace that opens an object prints it. -/
theorem prints_openObject : Prints [.openObject] ['{'] :=
  .single .openObject fun _ => trivial

/-- The brace that closes an object prints it. -/
theorem prints_closeObject : Prints [.closeObject] ['}'] :=
  .single .closeObject fun _ => trivial

/-- A comma prints itself. -/
theorem prints_comma : Prints [.comma] [','] := .single .comma fun _ => trivial

/-- A colon prints itself. -/
theorem prints_colon : Prints [.colon] [':'] := .single .colon fun _ => trivial

/-- A truth value prints its word. -/
theorem prints_boolWord (value : Bool) :
    Prints [.word (.bool value) .complete] (boolWord value) := by
  cases value <;> exact prints_word _ _ rfl

/-- A key, a colon and a value. -/
theorem prints_member {name : String} {written : List Token}
    {key value : List Char} (hkey : Prints [.string (.ofText name)] key)
    (hvalue : Prints written value) :
    Prints (.string (.ofText name) :: .colon :: written)
      (key ++ ':' :: value) :=
  hkey.append (prints_colon.append hvalue)

mutual

/-- A value in compact form prints its tree. -/
theorem prints_compactChars :
    (json : Json) → Prints (Node.ofJson json).spelling (compactChars json)
  | .null => prints_word .null _ rfl
  | .bool value => prints_boolWord value
  | .string text => prints_string text
  | .list [] => prints_openList.append prints_closeList
  | .list (element :: elements) =>
    prints_openList.append ((prints_compactChars element).append
      (prints_compactElements elements))
  | .object [] => prints_openObject.append prints_closeObject
  | .object ((name, value) :: members) =>
    prints_openObject.append
      ((prints_member (prints_string name) (prints_compactChars value)).append
        (prints_compactMembers members))

/-- Elements in compact form print their trees. -/
theorem prints_compactElements :
    (elements : List Json) →
      Prints (Node.elementsSpelling (Node.ofElements elements))
        (compactElements elements)
  | [] => prints_closeList
  | element :: elements =>
    prints_comma.append ((prints_compactChars element).append
      (prints_compactElements elements))

/-- Members in compact form print their trees. -/
theorem prints_compactMembers :
    (members : List (String × Json)) →
      Prints (Node.membersSpelling (Node.ofMembers members))
        (compactMembers members)
  | [] => prints_closeObject
  | (name, value) :: members =>
    prints_comma.append
      ((prints_member (prints_string name) (prints_compactChars value)).append
        (prints_compactMembers members))

end

mutual

/-- An indented value prints its tree. -/
theorem prints_prettyChars :
    (depth : Nat) → (json : Json) →
      Prints (Node.ofJson json).spelling (prettyChars depth json)
  | _, .null => prints_word .null _ rfl
  | _, .bool value => prints_boolWord value
  | _, .string text => prints_string text
  | _, .list [] => prints_openList.append prints_closeList
  | depth, .list (element :: elements) =>
    prints_openList.append
      (((prints_prettyChars (depth + 1) element).blank
        (allSpace_newline _)).append (prints_prettyElements depth elements))
  | _, .object [] => prints_openObject.append prints_closeObject
  | depth, .object ((name, value) :: members) =>
    prints_openObject.append
      ((prints_member ((prints_string name).blank (allSpace_newline _))
          ((prints_prettyChars (depth + 1) value).blank allSpace_space)).append
        (prints_prettyMembers depth members))

/-- Indented elements print their trees. -/
theorem prints_prettyElements :
    (depth : Nat) → (elements : List Json) →
      Prints (Node.elementsSpelling (Node.ofElements elements))
        (prettyElements depth elements)
  | depth, [] => prints_closeList.blank (allSpace_newline depth)
  | depth, element :: elements =>
    prints_comma.append
      (((prints_prettyChars (depth + 1) element).blank
        (allSpace_newline _)).append (prints_prettyElements depth elements))

/-- Indented members print their trees. -/
theorem prints_prettyMembers :
    (depth : Nat) → (members : List (String × Json)) →
      Prints (Node.membersSpelling (Node.ofMembers members))
        (prettyMembers depth members)
  | depth, [] => prints_closeObject.blank (allSpace_newline depth)
  | depth, (name, value) :: members =>
    prints_comma.append
      ((prints_member ((prints_string name).blank (allSpace_newline _))
          ((prints_prettyChars (depth + 1) value).blank allSpace_space)).append
        (prints_prettyMembers depth members))

end

/-- **A value on one line is a document of its tree.** -/
theorem Node.writtenAs_compact (json : Json) :
    (Node.ofJson json).WrittenAs json.compact.toUTF8.data.toList := by
  rw [compact, toUTF8_ofList]
  exact ⟨Node.isWhole_ofJson json, (prints_compactChars json).spelled⟩

/-- **A value over several lines is a document of its tree.** -/
theorem Node.writtenAs_pretty (json : Json) :
    (Node.ofJson json).WrittenAs json.pretty.toUTF8.data.toList := by
  rw [pretty, toUTF8_ofList]
  exact ⟨Node.isWhole_ofJson json, (prints_prettyChars 0 json).spelled⟩

end KotlinBuilders.Json
