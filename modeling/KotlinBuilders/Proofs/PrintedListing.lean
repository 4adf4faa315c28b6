import KotlinBuilders.Host.Listing
import KotlinBuilders.Proofs.HostNotation

/-!
# Listings as a host prints them

A host prints the value members of a declaration, its constructors, a function
`component<N>` for each slot of the constructor, and whatever else it knows of,
in an order of its own.  A `PrintedEntry` is one of these with what the host
means by it, `IsListingOf` says which entries make up the listing of a
declaration, and `PrintedAs` where the text of a listing may hold blanks.

The main statement is `parseListing_printed`: whatever the order, and whatever
stands between the entries that matter, the members come out in the order of the
constructor, each with the value that its component function points to.
-/

namespace KotlinBuilders

open Text (AllBlank IsPiece IsEntry Joined)

/-- A nonempty name without blanks, brackets and commas. -/
def IsCallName (name : List Char) : Prop :=
  name ≠ [] ∧ ∀ c ∈ name, Text.isBlank c = false
    ∧ Text.Mark.ofChar? c = none ∧ c ≠ ','

/-- Letters, digits and signs make a name that can be called. -/
theorem isCallName_of_letters {letters : List Char}
    (hnonempty : letters.isEmpty = false)
    (hletters : letters.all isNameLetter) : IsCallName letters := by
  obtain ⟨hnonempty, hname⟩ := isTypeName_of_letters hnonempty hletters
  exact ⟨hnonempty, fun c hc =>
    ⟨(hname c hc).1, (hname c hc).2.1, (hname c hc).2.2.1⟩⟩

/-- The name of a component function: the word with a number behind it. -/
def IsComponentName (name : List Char) : Prop :=
  ∃ digits, digits ≠ [] ∧ digits.all Char.isDigit
    ∧ name = componentWord ++ digits

/-- The text of a function and its arguments. -/
def callText (name arguments : List Char) : List Char :=
  name ++ ('(' :: arguments ++ [')'])

/-- An entry of a listing, by what the host means by it.  The primary
constructor is the one that takes the slots. -/
inductive PrintedEntry where
  | value (name : List Char)
  | primary (name arguments : List Char)
  | component (index : Nat)
  | companion (name : List Char)
  | function (name arguments : List Char)
  | secondary (name arguments : List Char)
  deriving DecidableEq, Repr

namespace PrintedEntry

/-- The text of an entry. -/
def text : PrintedEntry → List Char
  | value name | companion name => name
  | primary name arguments | function name arguments
      | secondary name arguments => callText name arguments
  | component index => callText (componentWord ++ Nat.toDigits 10 index) []

/-- What the entries of a listing look like, for a declaration whose slots take
the given types.

A function whose text holds a comma outside its brackets would be two entries,
so there is none.  Any balanced arguments will do (`isPiece_callText`). -/
def IsPrintable (declaration : List Char) (types : List (List Char)) :
    PrintedEntry → Prop
  | value name =>
    Text.trim name = name ∧ name ≠ [] ∧ (∀ c ∈ name, Text.IsPlain ',' c)
      ∧ name.map Char.toLower ≠ companionWord
  | primary name arguments =>
    (name = declaration ∨ name = constructorName) ∧ '\n' ∉ arguments
      ∧ ∃ before inner after, AllBlank before ∧ AllBlank after
        ∧ Joined ',' types inner
        ∧ arguments = before ++ inner ++ after
  | component _ => True
  | companion name => name.map Char.toLower = companionWord
  | function name arguments =>
    IsCallName name ∧ name ≠ declaration
      ∧ ¬(IsComponentName name ∧ AllBlank arguments) ∧ '\n' ∉ arguments
      ∧ IsPiece ',' (callText name arguments)
  | secondary name arguments =>
    (name = declaration ∨ name = constructorName) ∧ '\n' ∉ arguments
      ∧ Text.isBalanced arguments
      ∧ Text.pieceCount ',' arguments ≠ types.length

def value? : PrintedEntry → Option (List Char)
  | value name => some name
  | _ => none

def component? : PrintedEntry → Option Nat
  | component index => some index
  | _ => none

/-- What an entry is read as. -/
def read (types : List (List Char)) : PrintedEntry → ListingEntry
  | value name => .value name
  | primary .. => .constructor types
  | component index => .component index
  | companion _ | function .. => .other
  | secondary _ arguments => .constructor (Text.splitTopLevel ',' arguments)

end PrintedEntry

/-- **The listing of a declaration** whose slot `i` takes the type `types
i` and is backed by `values (order i)`: the values and the component functions
each in their own order, and the constructor somewhere among them. -/
structure IsListingOf (declaration : List Char) {n : Nat}
    (values types : Fin n → List Char) (order : Fin n → Fin n)
    (entries : List PrintedEntry) : Prop where
  isCallName : IsCallName declaration
  notComponentName : ¬IsComponentName declaration
  isEntry : ∀ slot, IsEntry ',' (types slot)
  printable : ∀ entry ∈ entries, entry.IsPrintable declaration (List.ofFn types)
  values_eq : entries.filterMap PrintedEntry.value? = List.ofFn values
  components_eq : entries.filterMap PrintedEntry.component?
    = List.ofFn fun slot => (order slot).val + 1
  exists_primary : ∃ name arguments, .primary name arguments ∈ entries

/-- The texts in which a listing can be printed: blanks around the entries, and
around the brackets any text in which the brackets can be told apart from it. -/
def PrintedAs (entries : List PrintedEntry) (listing : List Char) : Prop :=
  ∃ front before body after back, '[' ∉ front ∧ ']' ∉ back ∧ AllBlank before
    ∧ AllBlank after
    ∧ Joined ',' (entries.map PrintedEntry.text) body
    ∧ listing = front ++ '[' :: (before ++ body ++ after ++ ']' :: back)

section Calls

/-- What stands in front of the arguments: the name of a function, or that of a
constructor. -/
structure IsCallHead (name : List Char) : Prop extends IsPiece ',' name where
  nonempty : name ≠ []
  solid : name.any Text.isBlank = false
  absent : '(' ∉ name

/-- A name that can be called stands in front of arguments. -/
theorem IsCallName.isCallHead {name : List Char} (hname : IsCallName name) :
    IsCallHead name where
  toIsPiece := Text.isPiece_of_isPlain fun c hc => (hname.2 c hc).2
  nonempty := hname.1
  solid := List.any_eq_false.2 fun c hc => by simp [(hname.2 c hc).1]
  absent hc := by simpa [Text.Mark.ofChar?] using (hname.2 _ hc).2.1

/-- A name that can be called is not the other name of a constructor. -/
theorem IsCallName.ne_constructorName {name : List Char}
    (hname : IsCallName name) : name ≠ constructorName := by
  intro hsame
  subst name
  exact absurd (hname.2 '<' (by decide)).2.1 (by decide)

/-- A name that can be called is an entry by itself. -/
theorem IsCallName.isEntry {name : List Char} (hname : IsCallName name) :
    IsEntry ',' name where
  toIsPiece := hname.isCallHead.toIsPiece
  trimmed := Text.trim_eq_self_iff.2
    ⟨fun c hc => (hname.2 c (List.mem_of_head? hc)).1, fun c hc =>
      (hname.2 c (List.mem_of_getLast? hc)).1⟩
  nonempty := hname.1

/-- The other name of a constructor stands in front of arguments too. -/
theorem isCallHead_constructorName : IsCallHead constructorName where
  toIsPiece := by
    have hshape :
        constructorName = '<' :: ['i', 'n', 'i', 't'] ++ ['>'] := by decide
    have hopening : Text.Mark.ofChar? '<' = some (.opening .angle) := rfl
    have hclosing : Text.Mark.ofChar? '>' = some (.closing .angle) := rfl
    rw [hshape]
    exact Text.isPiece_bracketed hopening hclosing rfl
      (by decide) (Text.noArrow_of_getLast? (by decide))
  nonempty := by decide
  solid := by decide
  absent := by decide

variable {name arguments : List Char}

/-- A function of balanced arguments is not cut. -/
theorem isPiece_callText (hname : IsCallHead name)
    (harguments : Text.isBalanced arguments) :
    IsPiece ',' (callText name arguments) := by
  have hopening : Text.Mark.ofChar? '(' = some (.opening .round) := rfl
  have hclosing : Text.Mark.ofChar? ')' = some (.closing .round) := rfl
  refine hname.toIsPiece.append ?_
  exact Text.isPiece_bracketed hopening hclosing rfl harguments
    (Text.noArrow_of_head? (by simp))

/-- A function with its arguments is an entry if it is a piece. -/
theorem isEntry_callText (hname : IsCallHead name)
    (hpiece : IsPiece ',' (callText name arguments)) :
    IsEntry ',' (callText name arguments) where
  toIsPiece := hpiece
  trimmed := by
    obtain ⟨c, rest, rfl⟩ := List.exists_cons_of_ne_nil hname.nonempty
    refine Text.trim_eq_self_iff.2 ⟨fun d hd => ?_, fun d hd => ?_⟩
    · have hd : c = d := by simpa [callText] using hd
      simpa [hd] using List.any_eq_false.1 hname.solid c List.mem_cons_self
    · have hd : ')' = d := by simpa [callText, List.getLast?_cons] using hd
      rw [← hd]
      decide
  nonempty := by simp [callText]

/-- A function with its arguments is read as one, provided they stand on one
line. -/
theorem functionCall?_callText (hname : IsCallHead name)
    (hline : '\n' ∉ arguments) :
    functionCall? (callText name arguments) = some (name, arguments) := by
  rw [functionCall?, callText, List.cons_append,
    Text.cutAtFirst_append hname.absent]
  simp [hname.nonempty, hname.solid, hline]

/-- An entry without an opening parenthesis is no function. -/
theorem functionCall?_eq_none {entry : List Char} (habsent : '(' ∉ entry) :
    functionCall? entry = none := by
  rw [functionCall?, Text.cutAtFirst_eq_none habsent]

end Calls

section Components

/-- The decimal digits of a number have its value. -/
theorem decimalValue_toDigits (index : Nat) :
    Text.decimalValue (Nat.toDigits 10 index) = index := by
  have hsame : Text.decimalValue (Nat.toDigits 10 index)
      = Nat.ofDigitChars 10 (Nat.toDigits 10 index) 0 := by
    simp only [Text.decimalValue, Text.decimalValueFrom, Text.digitValue,
      Nat.ofDigitChars_eq_foldl, Nat.mul_comm]
  rw [hsame, Nat.ofDigitChars_ten_toDigits]

/-- The decimal digits of a number are digits. -/
theorem all_isDigit_toDigits (index : Nat) :
    (Nat.toDigits 10 index).all Char.isDigit :=
  List.all_eq_true.2 fun _ hc =>
    Nat.isDigit_of_mem_toDigits (by decide) (by decide) hc

/-- The index that was printed is read, as long as it is a machine word. -/
theorem componentIndex?_toDigits {index : Nat} (hindex : index < Nat.pow 2 64) :
    componentIndex? (componentWord ++ Nat.toDigits 10 index) = some index := by
  have hread : Nat.toDigits 10 index ≠ []
      ∧ (Nat.toDigits 10 index).all Char.isDigit ∧ index < Nat.pow 2 64 :=
    ⟨Nat.toDigits_ne_nil, all_isDigit_toDigits index, hindex⟩
  rw [componentIndex?, Text.dropFront?_append]
  simp only [decimalValue_toDigits]
  rw [if_pos hread]

/-- A name that is not that of a component function has no index. -/
theorem componentIndex?_eq_none {name : List Char}
    (hname : ¬IsComponentName name) : componentIndex? name = none := by
  rw [componentIndex?]
  split
  · next digits hdigits =>
    have hfails :
        ¬(digits ≠ [] ∧ digits.all Char.isDigit
          ∧ Text.decimalValue digits < Nat.pow 2 64) :=
      fun h => hname ⟨digits, h.1, h.2.1, Text.eq_of_dropFront? hdigits⟩
    rw [if_neg hfails]
  · rfl

/-- The name of a component function can be called. -/
theorem isCallName_component (index : Nat) :
    IsCallName (componentWord ++ Nat.toDigits 10 index) := by
  have hword : componentWord.all isNameLetter := by decide
  have hdigits : (Nat.toDigits 10 index).all isNameLetter := by
    refine List.all_eq_true.2 fun c hc => ?_
    have hdigit := List.all_eq_true.1 (all_isDigit_toDigits index) c hc
    simp [isNameLetter, Char.isAlphanum, hdigit]
  have hnonempty := List.append_ne_nil_of_right_ne_nil componentWord
    (Nat.toDigits_ne_nil (n := index) (b := 10))
  exact isCallName_of_letters (List.isEmpty_eq_false_iff.2 hnonempty)
    (by rw [List.all_append, hword, hdigits]; rfl)

/-- The word with a number behind it is the name of a component function. -/
theorem isComponentName_component (index : Nat) :
    IsComponentName (componentWord ++ Nat.toDigits 10 index) :=
  ⟨_, Nat.toDigits_ne_nil, all_isDigit_toDigits index, rfl⟩

end Components

section Entries

variable {declaration : List Char} {types : List (List Char)}
  {entry : PrintedEntry}

/-- A character that is a letter in lowercase is a letter. -/
theorem isAlpha_of_toLower {c : Char} (hlower : c.toLower.isAlpha) :
    c.isAlpha := by
  by_cases hupper : c.isUpper = true
  · have halpha : (c.isUpper || c.isLower) = true := by
      rw [hupper, Bool.true_or]
    exact halpha
  · have hsame : c.toLower = c := dif_neg fun h => hupper (decide_eq_true h)
    rwa [hsame] at hlower

/-- A text that is a given word but for its case is made of letters. -/
theorem isCallName_of_companion {name : List Char}
    (hname : name.map Char.toLower = companionWord) :
    IsCallName name := by
  have hword : companionWord.all Char.isAlpha := by decide
  have hnonempty : name.isEmpty = false := by
    rw [← List.isEmpty_map, hname]
    decide
  refine isCallName_of_letters hnonempty (List.all_eq_true.2 fun c hc => ?_)
  have hlower : c.toLower.isAlpha :=
    List.all_eq_true.1 hword _ (hname ▸ List.mem_map_of_mem hc)
  simp [isNameLetter, Char.isAlphanum, isAlpha_of_toLower hlower]

/-- Both names of a constructor stand in front of arguments. -/
theorem isCallHead_of_constructs (hdeclaration : IsCallName declaration)
    {name : List Char} (hname : name = declaration ∨ name = constructorName) :
    IsCallHead name := by
  rcases hname with rfl | rfl
  · exact hdeclaration.isCallHead
  · exact isCallHead_constructorName

/-- A function of either name is a constructor with the types among its
arguments. -/
theorem ofFunction_of_constructs {name arguments : List Char}
    (hname : name = declaration ∨ name = constructorName) :
    ListingEntry.ofFunction declaration name arguments
      = .constructor (Text.splitTopLevel ',' arguments) :=
  if_pos hname

/-- A function that neither constructs nor points to a value says nothing. -/
theorem ofFunction_of_noise {name arguments : List Char}
    (hname : ¬(name = declaration ∨ name = constructorName))
    (hnoise : ¬(IsComponentName name ∧ AllBlank arguments)) :
    ListingEntry.ofFunction declaration name arguments = .other := by
  rw [ListingEntry.ofFunction, if_neg hname]
  split
  · next hempty =>
    have hblank : AllBlank arguments :=
      Text.allBlank_of_trim_eq_nil (List.isEmpty_iff.1 hempty)
    rw [componentIndex?_eq_none fun h => hnoise ⟨h, hblank⟩]
  · rfl

/-- The arguments of a constructor are split into its types. -/
theorem splitTopLevel_arguments (htypes : ∀ type ∈ types, IsEntry ',' type)
    {before inner after : List Char} (hbefore : AllBlank before)
    (hafter : AllBlank after) (hinner : Joined ',' types inner) :
    Text.splitTopLevel ',' (before ++ inner ++ after) = types :=
  Text.splitTopLevel_of_joined Text.isSeparator_comma hinner htypes
    hbefore hafter

/-- A printable entry is an entry of the list. -/
theorem PrintedEntry.IsPrintable.isEntry
    (hentry : entry.IsPrintable declaration types)
    (hdeclaration : IsCallName declaration)
    (htypes : ∀ type ∈ types, IsEntry ',' type) : IsEntry ',' entry.text := by
  cases entry with
  | value name =>
    obtain ⟨htrimmed, hnonempty, hplain, -⟩ := hentry
    exact ⟨Text.isPiece_of_isPlain hplain, htrimmed, hnonempty⟩
  | primary name arguments =>
    obtain ⟨hname, hline, before, inner, after, hbefore, hafter, hinner, rfl⟩ :=
      hentry
    have hhead := isCallHead_of_constructs hdeclaration hname
    have hbalanced := hinner.isBalanced Text.isSeparator_comma fun type htype =>
      (htypes type htype).balanced
    exact isEntry_callText hhead
      (isPiece_callText hhead (Text.isBalanced_pad hbefore hbalanced hafter))
  | component index =>
    have hhead := (isCallName_component index).isCallHead
    exact isEntry_callText hhead (isPiece_callText hhead Text.isBalanced_nil)
  | companion name =>
    exact (isCallName_of_companion hentry).isEntry
  | function name arguments =>
    exact isEntry_callText hentry.1.isCallHead hentry.2.2.2.2
  | secondary name arguments =>
    obtain ⟨hname, hline, hbalanced, -⟩ := hentry
    have hhead := isCallHead_of_constructs hdeclaration hname
    exact isEntry_callText hhead (isPiece_callText hhead hbalanced)

/-- **Every entry is read as what the host meant by it.** -/
theorem PrintedEntry.IsPrintable.ofText_text
    (hentry : entry.IsPrintable declaration types)
    (hdeclaration : IsCallName declaration)
    (hcomponent : ¬IsComponentName declaration)
    (htypes : ∀ type ∈ types, IsEntry ',' type)
    (hindex : ∀ index ∈ entry.component?, index < Nat.pow 2 64) :
    ListingEntry.ofText declaration entry.text = entry.read types := by
  cases entry with
  | value name =>
    obtain ⟨htrimmed, hnonempty, hplain, hcompanion⟩ := hentry
    have habsent : '(' ∉ name :=
      fun hc => by simpa [Text.Mark.ofChar?] using (hplain _ hc).1
    simp [ListingEntry.ofText, text, read, functionCall?_eq_none habsent,
      hnonempty, hcompanion]
  | primary name arguments =>
    obtain ⟨hname, hline, before, inner, after, hbefore, hafter, hinner, rfl⟩ :=
      hentry
    have hhead := isCallHead_of_constructs hdeclaration hname
    simp only [ListingEntry.ofText, text, read,
      functionCall?_callText hhead hline, ofFunction_of_constructs hname,
      splitTopLevel_arguments htypes hbefore hafter hinner]
  | component index =>
    have hname := isCallName_component index
    have hother : componentWord ++ Nat.toDigits 10 index ≠ declaration := by
      intro hsame
      subst declaration
      exact hcomponent (isComponentName_component index)
    have hline : '\n' ∉ ([] : List Char) := List.not_mem_nil
    simp only [ListingEntry.ofText, text, read,
      functionCall?_callText hname.isCallHead hline, ListingEntry.ofFunction,
      if_neg (not_or.2 ⟨hother, hname.ne_constructorName⟩), Text.trim_nil,
      List.isEmpty_nil, if_true, componentIndex?_toDigits (hindex index rfl)]
  | companion name =>
    have habsent := (isCallName_of_companion hentry).isCallHead.absent
    have hlower : name.map Char.toLower = companionWord := hentry
    simp [ListingEntry.ofText, text, read,
      functionCall?_eq_none habsent, hlower]
  | function name arguments =>
    obtain ⟨hname, hother, hnoise, hline, -⟩ := hentry
    simp only [ListingEntry.ofText, text, read,
      functionCall?_callText hname.isCallHead hline,
      ofFunction_of_noise (not_or.2 ⟨hother, hname.ne_constructorName⟩) hnoise]
  | secondary name arguments =>
    obtain ⟨hname, hline, hbalanced, -⟩ := hentry
    have hhead := isCallHead_of_constructs hdeclaration hname
    simp only [ListingEntry.ofText, text, read,
      functionCall?_callText hhead hline, ofFunction_of_constructs hname]

end Entries

section Members

/-- The members of a constructor whose slots are all backed, slot by slot. -/
theorem slotMembers?_ofFn {values : List (List Char)} {n : Nat}
    {names : Fin n → List Char} {places : Fin n → Nat}
    (hplaces : ∀ slot, values[places slot]? = some (names slot))
    (types : Fin n → List Char) :
    slotMembers? values (List.ofFn fun slot => places slot + 1)
      (List.ofFn types)
        = some (List.ofFn fun slot => ⟨String.ofList (names slot),
          String.ofList (types slot)⟩) := by
  induction n with
  | zero => rfl
  | succ n ih =>
    have hrest := ih (fun slot => hplaces slot.succ) fun slot => types slot.succ
    simp only [List.ofFn_succ, slotMembers?, backingMember?, hplaces 0, hrest]
    rfl

/-- The search finds a list that is there, if no other one of its length is. -/
theorem find?_length_eq {lists : List (List (List Char))}
    {types : List (List Char)} (hmem : types ∈ lists)
    (honly : ∀ list ∈ lists, list.length = types.length → list = types) :
    lists.find? (fun list => list.length == types.length) = some types := by
  cases hfound : lists.find? fun list => list.length == types.length with
  | none => exact absurd (List.find?_eq_none.1 hfound types hmem) (by simp)
  | some list =>
    have hlength : list.length = types.length := by
      simpa using List.find?_some hfound
    rw [honly list (List.mem_of_find?_eq_some hfound) hlength]

variable {declaration : List Char} {n : Nat} {values types : Fin n → List Char}
  {order : Fin n → Fin n} {entries : List PrintedEntry}

/-- Reading an entry keeps the value that it names. -/
theorem value?_comp_read (types : List (List Char)) :
    ListingEntry.value? ∘ PrintedEntry.read types = PrintedEntry.value? := by
  funext entry
  cases entry <;> rfl

/-- Reading an entry keeps the index of its component function. -/
theorem component?_comp_read (types : List (List Char)) :
    ListingEntry.component? ∘ PrintedEntry.read types
      = PrintedEntry.component? := by
  funext entry
  cases entry <;> rfl

/-- There is no other constructor of as many slots. -/
theorem PrintedEntry.IsPrintable.eq_of_constructor? {types : List (List Char)}
    {entry : PrintedEntry} (hentry : entry.IsPrintable declaration types)
    {arguments : List (List Char)}
    (harguments : (entry.read types).constructor? = some arguments)
    (hlength : arguments.length = types.length) :
    arguments = types := by
  cases entry with
  | primary => exact (Option.some.inj harguments).symm
  | secondary name text =>
    obtain ⟨-, -, hbalanced, hcount⟩ := hentry
    have hsplit : Text.splitTopLevel ',' text = arguments :=
      Option.some.inj harguments
    rw [← hsplit, Text.length_splitTopLevel rfl hbalanced] at hlength
    exact absurd hlength hcount
  | _ => cases harguments

/-- **The entries of a listing agree on the members**, in the order of the
constructor. -/
theorem reconcile?_read
    (hlisting : IsListingOf declaration values types order entries) :
    reconcile? (entries.map (PrintedEntry.read (List.ofFn types)))
      = some (List.ofFn fun slot => ⟨String.ofList (values (order slot)),
        String.ofList (types slot)⟩) := by
  have hvalues : (entries.map (PrintedEntry.read (List.ofFn types))).filterMap
      ListingEntry.value?
        = List.ofFn values := by
    rw [List.filterMap_map, value?_comp_read, hlisting.values_eq]
  have hcomponents :
      (entries.map (PrintedEntry.read (List.ofFn types))).filterMap
        ListingEntry.component?
        = List.ofFn fun slot => (order slot).val + 1 := by
    rw [List.filterMap_map, component?_comp_read, hlisting.components_eq]
  have hconstructor :
      ((entries.map (PrintedEntry.read (List.ofFn types))).filterMap
        ListingEntry.constructor?).find? (fun list => list.length
          == (List.ofFn types).length) = some (List.ofFn types) := by
    refine find?_length_eq ?_ fun list hlist hlength => ?_
    · obtain ⟨name, arguments, hprimary⟩ := hlisting.exists_primary
      exact List.mem_filterMap.2 ⟨_, List.mem_map_of_mem hprimary, rfl⟩
    · obtain ⟨_, hread, hsome⟩ := List.mem_filterMap.1 hlist
      obtain ⟨entry, hentry, rfl⟩ := List.mem_map.1 hread
      exact (hlisting.printable entry hentry).eq_of_constructor? hsome hlength
  have hplaces : ∀ slot, (List.ofFn values)[(order slot).val]?
      = some (values (order slot)) := fun slot => by simp
  simp only [List.length_ofFn] at hconstructor
  simp only [reconcile?, hvalues, hcomponents, List.length_ofFn,
    hconstructor, if_true]
  exact slotMembers?_ofFn hplaces types

/-- A slot is backed by one of the values, and each value has an entry. -/
theorem component_le_length
    (hlisting : IsListingOf declaration values types order entries)
    {index : Nat} (hindex : .component index ∈ entries) :
    index ≤ entries.length := by
  have hmem : index ∈ List.ofFn fun slot => (order slot).val + 1 :=
    hlisting.components_eq ▸ List.mem_filterMap.2 ⟨_, hindex, rfl⟩
  obtain ⟨slot, rfl⟩ := List.mem_ofFn.1 hmem
  have hvalues := congrArg List.length hlisting.values_eq
  have hle := List.length_filterMap_le PrintedEntry.value? entries
  rw [List.length_ofFn] at hvalues
  omega

/-- The body of a listing stands between its brackets, whatever is around
them. -/
theorem listingBody?_of_brackets {front before body after back : List Char}
    (hfront : '[' ∉ front) (hback : ']' ∉ back) (hbefore : AllBlank before)
    (hafter : AllBlank after) (hnonempty : body ≠ [])
    (htrimmed : Text.trim body = body) :
    listingBody? (front ++ '[' :: (before ++ body ++ after ++ ']' :: back))
      = some body := by
  simp only [listingBody?, Text.cutAtFirst_append hfront,
    Text.cutAtLast_append hback, Text.trim_blanks hbefore hafter, htrimmed]
  rw [if_neg (by simpa using hnonempty)]

/-- **A printed listing gives back the members of the constructor**: slot by
slot the value that its component function points to and the type that the
constructor takes there, in whatever order the entries were printed, whatever
else stands between them, and wherever blanks were put.  A listing that fits
into memory is shorter than a machine word can count. -/
theorem parseListing_printed {listing : List Char}
    (hlisting : IsListingOf declaration values types order entries)
    (hprinted : PrintedAs entries listing)
    (hlength : listing.length < Nat.pow 2 64) :
    parseListing (String.ofList declaration) (String.ofList listing)
      = some (List.ofFn fun slot => ⟨String.ofList (values (order slot)),
        String.ofList (types slot)⟩) := by
  obtain ⟨front, before, body, after, back, hfront, hback, hbefore, hafter,
      hbody, rfl⟩ := hprinted
  have htypes : ∀ type ∈ List.ofFn types, IsEntry ',' type := by
    simpa [List.mem_ofFn] using hlisting.isEntry
  have hentries : ∀ text ∈ entries.map PrintedEntry.text, IsEntry ',' text :=
    List.forall_mem_map.2 fun entry hentry =>
      (hlisting.printable entry hentry).isEntry hlisting.isCallName htypes
  have hread : ∀ entry ∈ entries, ListingEntry.ofText declaration entry.text
      = entry.read (List.ofFn types) := by
    intro entry hentry
    refine (hlisting.printable entry hentry).ofText_text hlisting.isCallName
      hlisting.notComponentName htypes ?_
    intro index hindex
    cases entry with
    | component printed =>
      obtain rfl := Option.some.inj hindex
      -- An index counts values, and each value has an entry that takes up room
      -- in the listing.
      have hle := component_le_length hlisting hentry
      have hroom :=
        hbody.length_le fun text htext => (hentries text htext).nonempty
      simp only [List.length_map, List.length_append, List.length_cons]
        at hroom hlength
      omega
    | _ => cases hindex
  obtain ⟨hnonempty, htrimmed⟩ := hbody.ends hentries
  have hsplit : Text.splitTopLevel ',' ([] ++ body ++ [])
      = entries.map PrintedEntry.text :=
    Text.splitTopLevel_of_joined Text.isSeparator_comma hbody hentries
      Text.allBlank_nil Text.allBlank_nil
  have hentries' : listingEntries declaration body
      = entries.map (PrintedEntry.read (List.ofFn types)) := by
    rw [List.nil_append, List.append_nil] at hsplit
    rw [listingEntries, hsplit, List.map_map]
    exact List.map_congr_left hread
  simp only [parseListing, String.toList_ofList,
    listingBody?_of_brackets hfront hback hbefore hafter hnonempty htrimmed,
    hentries', reconcile?_read hlisting]

end Members

section Point

/-- The entries of a listing whose slots stand in another order than its
values. -/
def pointEntries : List PrintedEntry :=
  [.value "x".toList, .companion "COMPANION".toList,
    .secondary "Point".toList "int".toList, .value "y".toList,
    .primary "Point".toList " java.util.Map<K,V> ,int[]".toList,
    .function "copy".toList "int,long".toList, .component 2, .component 1]

def pointListing : String :=
  "members: [x,COMPANION, Point(int) ,y,Point( java.util.Map<K,V> ,int[]), copy(int,long),component2(),component1() ]"

/-- A generic type with a comma inside its brackets is an entry. -/
theorem isEntry_mapType : IsEntry ',' "java.util.Map<K,V>".toList := by
  have hnone : AllBlank [] := Text.allBlank_nil
  have hwritten :
      HostType.WrittenAs (.applied "java.util.Map".toList [.named ['K'],
        .named ['V']]) _ :=
    .applied (.cons (.named _) (.cons (.named _) .nil))
      (.cons hnone hnone (.single _)) hnone hnone hnone
  have hwritable :
      (HostType.applied "java.util.Map".toList [.named ['K'],
        .named ['V']]).IsWritable :=
    ⟨isTypeName_literal rfl rfl, isTypeName_of_letters rfl rfl,
      isTypeName_of_letters rfl rfl, trivial⟩
  exact (HostType.isTypeText_of_writtenAs hwritable hwritten).toIsEntry

/-- An array type is an entry. -/
theorem isEntry_arrayType : IsEntry ',' "int[]".toList := by
  have hwritten :
      HostType.WrittenAs (.primitiveArray .int)
        ("int".toList ++ [] ++ arraySuffix) :=
    .primitiveArray rfl Text.allBlank_nil
  have hwritable : (HostType.primitiveArray .int).IsWritable := trivial
  exact (HostType.isTypeText_of_writtenAs hwritable hwritten).toIsEntry

/-- The entries are a listing of a point whose slots stand the other way
round. -/
theorem isListingOf_point :
    IsListingOf "Point".toList (fun slot : Fin 2 =>
      ["x".toList, "y".toList][slot]) (fun slot => ["java.util.Map<K,V>".toList,
          "int[]".toList][slot]) (fun slot => [1, 0][slot]) pointEntries where
  isCallName := isCallName_of_letters rfl rfl
  notComponentName := by
    intro hcomponent
    obtain ⟨digits, -, -, hname⟩ := hcomponent
    have hword : componentWord.length = 9 := by decide
    have hpoint : "Point".toList.length = 5 := by decide
    have hlength := congrArg List.length hname
    rw [List.length_append] at hlength
    omega
  isEntry := Fin.forall_fin_two.2 ⟨isEntry_mapType, isEntry_arrayType⟩
  printable := by
    have hnone : AllBlank [] := Text.allBlank_nil
    have hspace := Text.allBlank_space
    have hcopy : IsCallName "copy".toList := isCallName_of_letters rfl rfl
    have hx : IsCallName "x".toList := isCallName_of_letters rfl rfl
    have hy : IsCallName "y".toList := isCallName_of_letters rfl rfl
    have hcompanion :
        "COMPANION".toList.map Char.toLower = companionWord := by decide
    simp only [pointEntries, List.forall_mem_cons]
    refine ⟨?_, hcompanion, ?_, ?_, ?_, ?_, trivial, trivial, by simp⟩
    · exact ⟨hx.isEntry.trimmed, hx.1, fun c hc => (hx.2 c hc).2, by decide⟩
    · exact ⟨.inl rfl, by decide, by decide, by decide⟩
    · exact ⟨hy.isEntry.trimmed, hy.1, fun c hc => (hy.2 c hc).2, by decide⟩
    · exact ⟨.inl rfl, by decide, [' '], _, [], hspace, hnone,
        .cons hspace hnone (.single _), rfl⟩
    · exact ⟨hcopy, by decide, fun h =>
        absurd (h.2 'i' (by decide)) (by decide), by decide,
          isPiece_callText hcopy.isCallHead (by decide)⟩
  values_eq := rfl
  components_eq := rfl
  exists_primary := ⟨_, _, List.mem_of_getElem? (i := 4) rfl⟩

/-- The text prints these entries. -/
theorem printedAs_point : PrintedAs pointEntries pointListing.toList := by
  have hnone : AllBlank [] := Text.allBlank_nil
  have hspace := Text.allBlank_space
  have hbody : Joined ',' (pointEntries.map PrintedEntry.text) _ :=
    .cons hnone hnone <| .cons hnone hspace <| .cons hspace hnone <|
      .cons hnone hnone <| .cons hnone hspace <| .cons hnone hnone <|
      .cons hnone hnone (.single _)
  exact ⟨"members: ".toList, [], _, [' '], [], by decide, by decide, hnone,
    hspace, hbody, by decide +kernel⟩

/-- The slots of the point are read in their own order, each with its member's
name. -/
theorem parseListing_printed_point :
    pointListing.length < Nat.pow 2 64
      ∧ parseListing "Point" pointListing
        = some [⟨"y", "java.util.Map<K,V>"⟩, ⟨"x", "int[]"⟩] := by
  have hlength : pointListing.length < Nat.pow 2 64 := by decide +kernel
  have hmembers :=
    parseListing_printed isListingOf_point printedAs_point hlength
  rw [String.ofList_toList, String.ofList_toList] at hmembers
  exact ⟨hlength, hmembers⟩

end Point

end KotlinBuilders
