import KotlinBuilders.Host.HostType
import KotlinBuilders.Proofs.Cutting
import KotlinBuilders.Proofs.Splitting

/-!
# Types as a host writes them

`HostType.WrittenAs` relates a type to the texts in which a host can write it:
blanks are free around the arguments and their commas, before `<`, and before
`[]`.  Reading such a text gives the type back (`ofText_of_writtenAs`).

Names must not hold brackets, commas, blanks or wildcards.  They must not hold a
dash either, because a dash in front of a closing `>` would make an arrow of it.
An array of a primitive keyword is a type of its own, so no other array may have
a bare keyword for its element.
-/

namespace KotlinBuilders

open Text (AllBlank IsEntry Joined NoArrow)

/-- A character that can stand in the name of a type. -/
def IsNameChar (c : Char) : Prop :=
  Text.isBlank c = false ∧ Text.Mark.ofChar? c = none ∧ c ≠ ',' ∧ c ≠ '?'
    ∧ c ≠ '*' ∧ c ≠ '-'

/-- A nonempty text of such characters. -/
def IsTypeName (name : List Char) : Prop := name ≠ [] ∧ ∀ c ∈ name, IsNameChar c

/-- The letters, digits and signs that the known names are made of. -/
def isNameLetter (c : Char) : Bool := c.isAlphanum || c == '.' || c == '$'

/-- The letters and digits of ASCII by their codes. -/
theorem code_of_isAlphanum {c : Char} (hc : c.isAlphanum) :
    (65 ≤ c.toNat ∧ c.toNat ≤ 90) ∨ (97 ≤ c.toNat ∧ c.toNat ≤ 122)
      ∨ (48 ≤ c.toNat ∧ c.toNat ≤ 57) := by
  have hcases : ((c.isUpper || c.isLower) || c.isDigit) = true := hc
  rw [Bool.or_eq_true, Bool.or_eq_true] at hcases
  rcases hcases with (hupper | hlower) | hdigit
  · have hbounds : 'A'.val ≤ c.val ∧ c.val ≤ 'Z'.val := of_decide_eq_true hupper
    exact .inl hbounds
  · have hbounds : (decide ('a'.val ≤ c.val) && decide (c.val ≤ 'z'.val))
        = true := hlower
    rw [Bool.and_eq_true, decide_eq_true_eq, decide_eq_true_eq] at hbounds
    exact .inr (.inl hbounds)
  · have hbounds : (decide ('0'.val ≤ c.val) && decide (c.val ≤ '9'.val))
        = true := hdigit
    rw [Bool.and_eq_true, decide_eq_true_eq, decide_eq_true_eq] at hbounds
    exact .inr (.inr hbounds)

/-- The letters, digits and signs of the known names can stand in a name. -/
theorem isNameChar_of_isNameLetter {c : Char} (hletter : isNameLetter c) :
    IsNameChar c := by
  refine ⟨?_, ?_, ?_, ?_, ?_, ?_⟩
  · have hcode : (65 ≤ c.toNat ∧ c.toNat ≤ 90) ∨ (97 ≤ c.toNat ∧ c.toNat ≤ 122)
        ∨ (48 ≤ c.toNat ∧ c.toNat ≤ 57)
        ∨ c.toNat = 46 ∨ c.toNat = 36 := by
      rw [isNameLetter, Bool.or_eq_true, Bool.or_eq_true, beq_iff_eq,
        beq_iff_eq] at hletter
      rcases hletter with (halphanum | rfl) | rfl
      · have hcode := code_of_isAlphanum halphanum
        omega
      · exact .inr (.inr (.inr (.inl rfl)))
      · exact .inr (.inr (.inr (.inr rfl)))
    simp only [Text.isBlank, Text.Ranges.holds, Text.blankRanges, List.any_cons,
      List.any_nil, Bool.or_eq_false_iff, Bool.and_eq_false_imp,
      decide_eq_true_eq, decide_eq_false_iff_not, and_true]
    omega
  · unfold Text.Mark.ofChar?
    split <;> first | rfl | exact absurd hletter (by decide)
  all_goals
    intro hsign
    subst c
    exact absurd hletter (by decide)

/-- Letters, digits and signs of the known names make the name of a type. -/
theorem isTypeName_of_letters {letters : List Char}
    (hnonempty : letters.isEmpty = false)
    (hletters : letters.all isNameLetter) : IsTypeName letters :=
  ⟨List.isEmpty_eq_false_iff.1 hnonempty, fun c hc =>
    isNameChar_of_isNameLetter (List.all_eq_true.1 hletters c hc)⟩

/-- A literal of such letters, which nothing has to decode. -/
theorem isTypeName_literal {letters : List Char}
    (hnonempty : letters.isEmpty = false)
    (hletters : letters.all isNameLetter) :
    IsTypeName (String.ofList letters).toList := by
  rw [String.toList_ofList]
  exact isTypeName_of_letters hnonempty hletters

namespace HostType

mutual

/-- The texts in which a type can be written. -/
inductive WrittenAs : HostType → List Char → Prop
  | named (name : List Char) : WrittenAs (.named name) name
  | primitiveArray {element : Primitive} {keyword : String} {gap : List Char}
      (hkeyword : element.keyword? = some keyword) (hgap : AllBlank gap) :
      WrittenAs (.primitiveArray element) (keyword.toList ++ gap ++ arraySuffix)
  | arrayOf {element : HostType} {body gap : List Char}
      (hbody : WrittenAs element body) (hgap : AllBlank gap) :
      WrittenAs (.arrayOf element) (body ++ gap ++ arraySuffix)
  | applied {outer gap before inner after : List Char}
      {arguments : List HostType} {texts : List (List Char)}
      (harguments : WrittenAllAs arguments texts)
      (hinner : Joined ',' texts inner) (hgap : AllBlank gap)
      (hbefore : AllBlank before) (hafter : AllBlank after) :
      WrittenAs (.applied outer arguments)
        (outer ++ gap ++ ('<' :: (before ++ inner ++ after) ++ ['>']))

/-- The texts in which several types can be written. -/
inductive WrittenAllAs : List HostType → List (List Char) → Prop
  | nil : WrittenAllAs [] []
  | cons {type : HostType} {text : List Char} {types : List HostType}
      {texts : List (List Char)} (htype : WrittenAs type text)
      (htypes : WrittenAllAs types texts) :
      WrittenAllAs (type :: types) (text :: texts)

end

mutual

/-- A type whose names can be told apart from the notation around them. -/
def IsWritable : HostType → Prop
  | .named name => IsTypeName name
  | .primitiveArray _ => True
  | .arrayOf element =>
    IsWritable element ∧ ∀ name, element = .named name →
      Primitive.ofKeyword? (String.ofList name) = none
  | .applied outer arguments => IsTypeName outer ∧ AllWritable arguments
  | _ => False

def AllWritable : List HostType → Prop
  | [] => True
  | type :: types => IsWritable type ∧ AllWritable types

end

end HostType

/-- What the text of a type looks like from outside: a piece of a list, which
begins with a character of a name and makes no arrow with a closing bracket. -/
structure IsTypeText (text : List Char) : Prop extends IsEntry ',' text where
  head : ∃ c rest, text = c :: rest ∧ IsNameChar c
  noDash : text.getLast? ≠ some '-'

/-- The name of a type is the text of a type. -/
theorem IsTypeName.isTypeText {name : List Char} (hname : IsTypeName name) :
    IsTypeText name where
  toIsPiece := Text.isPiece_of_isPlain fun c hc =>
    ⟨(hname.2 c hc).2.1, (hname.2 c hc).2.2.1⟩
  trimmed := Text.trim_eq_self_iff.2
    ⟨fun c hc => (hname.2 c (List.mem_of_head? hc)).1, fun c hc =>
      (hname.2 c (List.mem_of_getLast? hc)).1⟩
  nonempty := hname.1
  head := by
    obtain ⟨c, rest, rfl⟩ := List.exists_cons_of_ne_nil hname.1
    exact ⟨c, rest, rfl, hname.2 c List.mem_cons_self⟩
  noDash hlast := (hname.2 '-' (List.mem_of_getLast? hlast)).2.2.2.2.2 rfl

/-- The first angle bracket after a name and its blanks is the one behind
them. -/
theorem IsTypeName.angle_not_mem_append {name gap : List Char}
    (hname : IsTypeName name) (hgap : AllBlank gap) :
    '<' ∉ name ++ gap := by
  intro hmem
  rcases List.mem_append.1 hmem with h | h
  · simpa [Text.Mark.ofChar?] using (hname.2 _ h).2.1
  · exact absurd (hgap _ h) (by decide)

/-- A type's text with balanced brackets behind it, blanks between the two. -/
theorem IsTypeText.append_bracketed {text gap inner : List Char}
    {bracket : Text.Bracket} {first last : Char} (htext : IsTypeText text)
    (hgap : AllBlank gap)
    (hfirst : Text.Mark.ofChar? first = some (.opening bracket))
    (hlast : Text.Mark.ofChar? last = some (.closing bracket))
    (hinner : Text.isBalanced inner) (hjoint : NoArrow inner [last]) :
    IsTypeText (text ++ gap ++ (first :: inner ++ [last])) where
  toIsPiece := by
    have hpadded :=
      htext.toIsPiece.pad Text.isSeparator_comma.solid Text.allBlank_nil hgap
    exact hpadded.append (Text.isPiece_bracketed hfirst hlast rfl hinner hjoint)
  trimmed := by
    obtain ⟨c, rest, rfl, hc⟩ := htext.head
    refine Text.trim_eq_self_iff.2 ⟨fun d hd => ?_, fun d hd => ?_⟩
    · have hd : c = d := by simpa using hd
      exact hd ▸ hc.1
    · have hd : last = d := by simpa [List.getLast?_cons] using hd
      rw [← hd, Bool.eq_false_iff]
      exact fun hblank => by simp [Text.ofChar?_of_isBlank hblank] at hlast
  nonempty := by simp
  head := by
    obtain ⟨c, rest, rfl, hc⟩ := htext.head
    exact ⟨c, _, rfl, hc⟩
  noDash := by simpa [List.getLast?_cons] using Text.ne_dash_of_ofChar? hlast

namespace HostType

/-- A keyword is the name of a type. -/
theorem isTypeName_keyword {element : Primitive} {keyword : String}
    (hkeyword : element.keyword? = some keyword) :
    IsTypeName keyword.toList := by
  cases element <;> cases hkeyword <;> exact isTypeName_literal rfl rfl

/-- The text of a type with the array suffix is one. -/
theorem isTypeText_array {body gap : List Char} (hbody : IsTypeText body)
    (hgap : AllBlank gap) :
    IsTypeText (body ++ gap ++ arraySuffix) := by
  have hopening : Text.Mark.ofChar? '[' = some (.opening .square) := rfl
  have hclosing : Text.Mark.ofChar? ']' = some (.closing .square) := rfl
  exact hbody.append_bracketed hgap hopening hclosing Text.isBalanced_nil
    (Text.noArrow_of_head? (by simp))

/-- The text of a generic type is one when the texts of its arguments are. -/
theorem isTypeText_applied {outer gap before inner after : List Char}
    {texts : List (List Char)} (houter : IsTypeName outer)
    (htexts : ∀ text ∈ texts, IsTypeText text) (hinner : Joined ',' texts inner)
    (hgap : AllBlank gap) (hbefore : AllBlank before)
    (hafter : AllBlank after) :
    IsTypeText (outer ++ gap
      ++ ('<' :: (before ++ inner ++ after) ++ ['>'])) := by
  have hbalanced := hinner.isBalanced Text.isSeparator_comma fun text htext =>
    (htexts text htext).balanced
  obtain ⟨hnonempty, hdash⟩ := hinner.getLast?_ne (c := '-')
    fun text htext => ⟨(htexts text htext).nonempty, (htexts text htext).noDash⟩
  have hopening : Text.Mark.ofChar? '<' = some (.opening .angle) := rfl
  have hclosing : Text.Mark.ofChar? '>' = some (.closing .angle) := rfl
  refine houter.isTypeText.append_bracketed hgap hopening hclosing
    (Text.isBalanced_pad hbefore hbalanced hafter) (Text.noArrow_of_getLast? ?_)
  obtain ⟨c, hc⟩ :=
    Option.ne_none_iff_exists'.1 (mt List.getLast?_eq_none_iff.1 hnonempty)
  cases hend : after.getLast? with
  | none => simpa [List.getLast?_append, hend, hc] using hdash
  | some d =>
    have hblank := hafter d (List.mem_of_getLast? hend)
    intro hlast
    have hd : d = '-' := by simpa [List.getLast?_append, hend] using hlast
    exact absurd hblank (by rw [hd]; decide)

mutual

/-- What a type is written as is the text of a type. -/
theorem isTypeText_of_writtenAs {type : HostType} {text : List Char}
    (htype : type.IsWritable) :
    (htext : WrittenAs type text) → IsTypeText text
  | .named name => htype.isTypeText
  | .primitiveArray hkeyword hgap =>
    isTypeText_array (isTypeName_keyword hkeyword).isTypeText hgap
  | .arrayOf hbody hgap =>
    isTypeText_array (isTypeText_of_writtenAs htype.1 hbody) hgap
  | .applied harguments hinner hgap hbefore hafter =>
    isTypeText_applied htype.1 (isTypeText_of_writtenAllAs htype.2 harguments)
      hinner hgap hbefore hafter

/-- What several types are written as are texts of types. -/
theorem isTypeText_of_writtenAllAs {types : List HostType}
    {texts : List (List Char)} (htypes : AllWritable types) :
    (htexts : WrittenAllAs types texts) → ∀ text ∈ texts, IsTypeText text
  | .nil => by simp
  | .cons htype hrest => by
    have htext := isTypeText_of_writtenAs htypes.1 htype
    exact List.forall_mem_cons.2 ⟨htext,
      isTypeText_of_writtenAllAs htypes.2 hrest⟩

end

end HostType

/-- Nothing is taken off a text that begins with a character of a name. -/
theorem IsTypeText.withoutBound {text : List Char} (htext : IsTypeText text) :
    KotlinBuilders.withoutBound text = text := by
  obtain ⟨c, rest, rfl, hc⟩ := htext.head
  have hbound :
      ∀ bound ∈ wildcardBounds, Text.dropFront? bound (c :: rest) = none := by
    have hquestion :
        ∀ bound ∈ wildcardBounds, bound = '?' :: bound.tail := by decide
    intro bound hmem
    rw [hquestion bound hmem]
    exact Text.dropFront?_eq_none (Ne.symm hc.2.2.2.1)
  rw [KotlinBuilders.withoutBound, List.findSome?_eq_none_iff.2 hbound,
    Option.map_none, Option.getD_none]

namespace Outline

variable {text : List Char}

/-- The outline of a type's text is that of a balanced text, an array before a
generic type. -/
theorem ofText_of_isTypeText (htext : IsTypeText text) :
    ofText text =
      match arrayElement? text with
      | some element =>
        match Primitive.ofKeyword? (String.ofList element) with
        | some primitive => .primitiveArray primitive
        | none => .arrayOf element
      | none =>
        match Text.splitGeneric text with
        | some (outer, arguments) => .applied outer arguments
        | none => .named text := by
  obtain ⟨c, rest, rfl, hc⟩ := htext.head
  have hwildcard : ¬(c :: rest = ['?'] ∨ c :: rest = ['*']) := by
    intro hwild
    rcases hwild with h | h
    · exact hc.2.2.2.1 (List.cons.inj h).1
    · exact hc.2.2.2.2.1 (List.cons.inj h).1
  have hbare : ofText (c :: rest) = ofBare (c :: rest) := by
    rw [ofText, htext.trimmed, htext.withoutBound]
  rw [hbare, ofBare, if_neg (by simp), if_neg hwildcard]
  exact if_pos htext.balanced

/-- A text that does not end in a square bracket is no array. -/
theorem arrayElement?_eq_none {front : List Char} {last : Char}
    (hlast : last ≠ ']') :
    arrayElement? (front ++ [last]) = none := by
  have hsuffix : arraySuffix = ['['] ++ [']'] := rfl
  rw [arrayElement?, hsuffix, Text.dropBack?_eq_none (Ne.symm hlast)]

/-- A type's text that ends like a name has neither an array suffix nor an
argument list at its end. -/
theorem ofText_of_getLast? (htext : IsTypeText text) {last : Char}
    (hlast : text.getLast? = some last) (hchar : IsNameChar last) :
    ofText text = .named text := by
  have hplain : ∀ bracket : Char, Text.Mark.ofChar? bracket ≠ none →
      last ≠ bracket := by
    intro bracket hmark hsame
    exact hmark (hsame ▸ hchar.2.1)
  have harray : arrayElement? text = none := by
    obtain ⟨front, rfl⟩ := List.getLast?_eq_some_iff.1 hlast
    exact arrayElement?_eq_none (hplain ']' (by simp [Text.Mark.ofChar?]))
  have hgeneric : Text.splitGeneric text = none := by
    rw [Text.splitGeneric, htext.trimmed]
    split
    · next outer inner hcut =>
      have hinner : inner.getLast? ≠ some '>' := by
        intro hclosed
        rw [Text.eq_of_cutAtFirst hcut] at hlast
        have hsame : '>' = last := by
          simpa [List.getLast?_append, List.getLast?_cons, hclosed] using hlast
        exact hplain '>' (by simp [Text.Mark.ofChar?]) hsame.symm
      rw [if_neg hinner]
    · rfl
  rw [ofText_of_isTypeText htext, harray, hgeneric]

/-- A name is outlined as a name. -/
theorem ofText_named (hname : IsTypeName text) : ofText text = .named text := by
  obtain ⟨last, hlast⟩ :=
    Option.ne_none_iff_exists'.1 (mt List.getLast?_eq_none_iff.1 hname.1)
  exact ofText_of_getLast? hname.isTypeText hlast
    (hname.2 last (List.mem_of_getLast? hlast))

/-- An array is outlined as one: of a primitive type if it is a keyword's, of
other elements if not. -/
theorem ofText_array {body gap : List Char} (hbody : IsTypeText body)
    (hgap : AllBlank gap) :
    ofText (body ++ gap ++ arraySuffix) =
      match Primitive.ofKeyword? (String.ofList body) with
      | some primitive => .primitiveArray primitive
      | none => .arrayOf body := by
  have htrim : Text.trim (body ++ gap) = body :=
    (Text.trim_append_blanks hgap).trans hbody.trimmed
  have harray : arrayElement? (body ++ gap ++ arraySuffix) = some body := by
    have hdrop : Text.dropBack? arraySuffix (body ++ gap ++ arraySuffix)
        = some (body ++ gap) :=
      Text.dropBack?_append
    simp [arrayElement?, hdrop, htrim, hbody.nonempty, -List.append_assoc]
  rw [ofText_of_isTypeText (HostType.isTypeText_array hbody hgap), harray]

/-- A generic type is outlined by its name and the texts of its arguments. -/
theorem ofText_applied {outer gap before inner after : List Char}
    {texts : List (List Char)} (houter : IsTypeName outer)
    (htexts : ∀ text ∈ texts, IsTypeText text) (hinner : Joined ',' texts inner)
    (hgap : AllBlank gap) (hbefore : AllBlank before)
    (hafter : AllBlank after) :
    ofText (outer ++ gap ++ ('<' :: (before ++ inner ++ after) ++ ['>']))
      = .applied outer texts := by
  have htext :=
    HostType.isTypeText_applied houter htexts hinner hgap hbefore hafter
  have harray :
      arrayElement? (outer ++ gap
        ++ ('<' :: (before ++ inner ++ after) ++ ['>'])) = none := by
    rw [← List.append_assoc]
    exact arrayElement?_eq_none (by decide)
  have htrim : Text.trim (outer ++ gap) = outer :=
    (Text.trim_append_blanks hgap).trans houter.isTypeText.trimmed
  have hsplit := Text.splitTopLevel_of_joined Text.isSeparator_comma hinner
    (fun text htext => (htexts text htext).toIsEntry) hbefore hafter
  rw [ofText_of_isTypeText htext, harray, Text.splitGeneric, htext.trimmed,
    List.cons_append, Text.cutAtFirst_append (houter.angle_not_mem_append hgap)]
  simp only [List.getLast?_append, List.getLast?_singleton, Option.some_or,
    if_true, List.dropLast_concat, htrim, hsplit]

end Outline

namespace HostType

/-- The keyword that a primitive type is found by is its own. -/
theorem keyword?_of_ofKeyword? {element : Primitive} {text : String}
    (hfound : Primitive.ofKeyword? text = some element) :
    element.keyword? = some text := by
  have hspelled := List.find?_some
    (p := fun primitive => Primitive.keyword? primitive == some text) hfound
  exact beq_iff_eq.1 hspelled

/-- A keyword is a name, so a text with brackets in it is none. -/
theorem ofKeyword?_eq_none {text : List Char} {c : Char} (hc : c ∈ text)
    (hmark : Text.Mark.ofChar? c ≠ none) :
    Primitive.ofKeyword? (String.ofList text) = none := by
  cases hfound : Primitive.ofKeyword? (String.ofList text) with
  | none => rfl
  | some element =>
    have hkeyword := isTypeName_keyword (keyword?_of_ofKeyword? hfound)
    rw [String.toList_ofList] at hkeyword
    exact absurd (hkeyword.2 c hc).2.1 hmark

/-- A primitive type is found by its keyword. -/
theorem ofKeyword?_keyword {element : Primitive} {keyword : String}
    (hkeyword : element.keyword? = some keyword) :
    Primitive.ofKeyword? keyword = some element := by
  cases element <;> cases hkeyword <;> decide

/-- The element of an array is not written as a bare keyword. -/
theorem WrittenAs.ofKeyword?_eq_none {element : HostType} {body : List Char}
    (hbody : WrittenAs element body)
    (hbare : ∀ name, element = .named name →
      Primitive.ofKeyword? (String.ofList name) = none) :
    Primitive.ofKeyword? (String.ofList body) = none := by
  cases hbody with
  | named => exact hbare body rfl
  | primitiveArray | arrayOf =>
    exact HostType.ofKeyword?_eq_none (c := '[')
      (by simp [arraySuffix]) (by simp [Text.Mark.ofChar?])
  | applied =>
    exact HostType.ofKeyword?_eq_none (c := '<')
      (by simp) (by simp [Text.Mark.ofChar?])

mutual

/-- **Reading inverts writing**, whatever blanks the host put into the text. -/
theorem ofText_of_writtenAs {type : HostType} {text : List Char}
    (htype : type.IsWritable) :
    (htext : WrittenAs type text) → ofText text = type
  | .named name => by rw [ofText_eq, Outline.ofText_named htype, ofOutline]
  | .primitiveArray hkeyword hgap => by
    rw [ofText_eq, Outline.ofText_array (isTypeName_keyword hkeyword).isTypeText
      hgap, String.ofList_toList, ofKeyword?_keyword hkeyword, ofOutline]
  | .arrayOf hbody hgap => by
    rw [ofText_eq,
      Outline.ofText_array (isTypeText_of_writtenAs htype.1 hbody) hgap,
      hbody.ofKeyword?_eq_none htype.2, ofOutline,
      ofText_of_writtenAs htype.1 hbody]
  | .applied harguments hinner hgap hbefore hafter => by
    have htexts := isTypeText_of_writtenAllAs htype.2 harguments
    rw [ofText_eq, Outline.ofText_applied htype.1 htexts hinner hgap hbefore
      hafter, ofOutline, map_ofText_of_writtenAllAs htype.2 harguments]

/-- The types that several texts are written for are read back from them. -/
theorem map_ofText_of_writtenAllAs {types : List HostType}
    {texts : List (List Char)} (htypes : AllWritable types) :
    (htexts : WrittenAllAs types texts) → texts.map ofText = types
  | .nil => rfl
  | .cons htype hrest => by
    rw [List.map_cons, ofText_of_writtenAs htypes.1 htype,
      map_ofText_of_writtenAllAs htypes.2 hrest]

end

end HostType

end KotlinBuilders
