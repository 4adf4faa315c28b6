import KotlinBuilders.Json.Node
import KotlinBuilders.Proofs.Lexemes
import Mathlib.Data.List.Basic

/-!
# Trees and the texts that write them

A whole tree is written by the tokens that its grammar gives (`Node.spelling`):
a list by its elements between brackets and commas, an object by its members,
each a key, a colon and a value.  A text writes the tree, and is a document,
when it spells these tokens with white space between them (`Node.WrittenAs`).

The machine that builds trees is held to this grammar in both directions.  Fed
with the spelling of a whole tree it builds that tree (`foldl_spelling`); and
whatever it is fed with, the tree it builds is either broken somewhere or whole,
and then its spelling is what the machine was fed with first
(`isBroken_or_spelling`).  For the second, `State.After` says which tokens lead
to a state without any fault, one step keeps it (`State.After.step`), and a
fault stays in the tree once it is there (`State.IsBroken.step`).

Together, a text builds a whole tree exactly when it begins with a document of
that tree.
-/

namespace KotlinBuilders.Json

namespace Node

/-! ## Whole trees and broken ones -/

mutual

/-- Whether everything in a tree is well formed and closed. -/
def IsWhole : Node → Prop
  | .missing | .stray => False
  | .word _ ending => ending = .complete
  | .number n => n.ending = .complete
  | .string s => s.ending = .closed
  | .list elements stop => AllWhole elements ∧ stop = .closed
  | .object members stop => MembersWhole members ∧ stop = .closed

/-- Whether all nodes are whole. -/
def AllWhole : List Node → Prop
  | [] => True
  | node :: nodes => IsWhole node ∧ AllWhole nodes

/-- Whether all keys are closed and all values whole. -/
def MembersWhole : List (StringText × Node) → Prop
  | [] => True
  | (key, node) :: members => (key.ending = .closed ∧ IsWhole node)
      ∧ MembersWhole members

end

/-- Whether a tree has a fault somewhere.  What a list or object stopped inside
of is one of its own elements, so this stop is no fault by itself. -/
inductive IsBroken : Node → Prop
  | missing : IsBroken .missing
  | stray : IsBroken .stray
  | word {word : Word} {ending : Ending} (hending : ending ≠ .complete) :
      IsBroken (.word word ending)
  | number {number : NumberText} (hending : number.ending ≠ .complete) :
      IsBroken (.number number)
  | string {string : StringText} (hending : string.ending ≠ .closed) :
      IsBroken (.string string)
  | element {elements : List Node} {stop : ListStop} {node : Node}
      (hmem : node ∈ elements) (hnode : IsBroken node) :
      IsBroken (.list elements stop)
  | listStop {elements : List Node} {stop : ListStop} (hclosed : stop ≠ .closed)
      (hinside : stop ≠ .inside) :
      IsBroken (.list elements stop)
  | member {members : List (StringText × Node)} {stop : ObjectStop}
      {key : StringText} {node : Node} (hmem : (key, node) ∈ members)
      (hnode : IsBroken node) : IsBroken (.object members stop)
  | key {members : List (StringText × Node)} {stop : ObjectStop}
      {key : StringText} {node : Node} (hmem : (key, node) ∈ members)
      (hkey : key.ending ≠ .closed) : IsBroken (.object members stop)
  | objectStop {members : List (StringText × Node)} {stop : ObjectStop}
      (hclosed : stop ≠ .closed) (hinside : stop ≠ .inside) :
      IsBroken (.object members stop)

/-- Nodes are whole when each of them is. -/
theorem allWhole_iff {nodes : List Node} : AllWhole nodes ↔
    ∀ node ∈ nodes, node.IsWhole := by
  induction nodes with
  | nil => simp [AllWhole]
  | cons node nodes ih => simp [AllWhole, ih]

/-- Members are whole when each key is closed and each value is whole. -/
theorem membersWhole_iff {members : List (StringText × Node)} :
    MembersWhole members ↔ ∀ member ∈ members, member.1.ending = .closed
      ∧ member.2.IsWhole := by
  induction members with
  | nil => simp [MembersWhole]
  | cons member members ih => simp [MembersWhole, ih]

/-! ## The tokens of a tree -/

mutual

/-- The tokens that write a tree. -/
def spelling : Node → List Token
  | .missing => []
  | .stray => [.stray]
  | .word w ending => [.word w ending]
  | .number n => [.number n]
  | .string s => [.string s]
  | .list [] _ => [.openList, .closeList]
  | .list (element :: elements) _ =>
    .openList :: (spelling element ++ elementsSpelling elements)
  | .object [] _ => [.openObject, .closeObject]
  | .object ((key, node) :: members) _ =>
    .openObject :: .string key :: .colon
      :: (spelling node ++ membersSpelling members)

/-- The tokens that write the elements after the first one, and the end of the
list. -/
def elementsSpelling : List Node → List Token
  | [] => [.closeList]
  | element :: elements =>
    .comma :: (spelling element ++ elementsSpelling elements)

/-- The tokens that write the members after the first one, and the end of the
object. -/
def membersSpelling : List (StringText × Node) → List Token
  | [] => [.closeObject]
  | (key, node) :: members => .comma :: .string key :: .colon
      :: (spelling node ++ membersSpelling members)

end

mutual

/-- The tokens of a whole tree are complete. -/
theorem isComplete_of_mem_spelling : {node : Node} → node.IsWhole →
    ∀ token ∈ node.spelling, token.IsComplete
  | .word _ _, hwhole | .number _, hwhole | .string _, hwhole => by
    simp only [spelling, List.mem_singleton, forall_eq]
    exact hwhole
  | .list [] _, _ | .object [] _, _ => by simp [spelling, Token.IsComplete]
  | .list (element :: elements) _, hwhole => by
    obtain ⟨⟨helement, helements⟩, -⟩ := hwhole
    simp only [spelling, List.forall_mem_cons, List.forall_mem_append]
    exact ⟨trivial, isComplete_of_mem_spelling helement,
      isComplete_of_mem_elementsSpelling helements⟩
  | .object ((key, node) :: members) _, hwhole => by
    obtain ⟨⟨⟨hkey, hnode⟩, hmembers⟩, -⟩ := hwhole
    simp only [spelling, List.forall_mem_cons, List.forall_mem_append]
    exact ⟨trivial, hkey, trivial, isComplete_of_mem_spelling hnode,
      isComplete_of_mem_membersSpelling hmembers⟩

/-- The tokens of whole elements are complete. -/
theorem isComplete_of_mem_elementsSpelling :
    {elements : List Node} → AllWhole elements →
      ∀ token ∈ elementsSpelling elements, token.IsComplete
  | [], _ => by simp [elementsSpelling, Token.IsComplete]
  | element :: elements, hwhole => by
    simp only [elementsSpelling, List.forall_mem_cons, List.forall_mem_append]
    exact ⟨trivial, isComplete_of_mem_spelling hwhole.1,
      isComplete_of_mem_elementsSpelling hwhole.2⟩

/-- The tokens of whole members are complete. -/
theorem isComplete_of_mem_membersSpelling :
    {members : List (StringText × Node)} → MembersWhole members →
      ∀ token ∈ membersSpelling members, token.IsComplete
  | [], _ => by simp [membersSpelling, Token.IsComplete]
  | (key, node) :: members, hwhole => by
    simp only [membersSpelling, List.forall_mem_cons, List.forall_mem_append]
    exact ⟨trivial, hwhole.1.1, trivial, isComplete_of_mem_spelling hwhole.1.2,
      isComplete_of_mem_membersSpelling hwhole.2⟩

end

/-- A whole tree begins with a token that closes nothing. -/
theorem exists_cons_of_isWhole {node : Node} (hwhole : node.IsWhole) :
    ∃ first rest, node.spelling = first :: rest ∧ first ≠ .closeList := by
  cases node with
  | missing | stray => cases hwhole
  | word | number | string => exact ⟨_, _, rfl, by simp⟩
  | list elements => cases elements <;> exact ⟨_, _, rfl, by simp⟩
  | object members =>
    obtain _ | ⟨⟨key, node⟩, members⟩ := members <;> exact ⟨_, _, rfl, by simp⟩

/-! ## The machine on the tokens of a tree -/

/-- Where an element is expected, any token but the closing bracket begins
one. -/
theorem step_element_of_ne {token : Token} (hne : token ≠ .closeList)
    (around : List Frame) (held : List Node) (afterComma : Bool) :
    step (.element around held afterComma) token
      = begin (.list held :: around) token := by
  cases token <;> cases afterComma <;> first | rfl | exact absurd rfl hne

/-- Where an element is due, the machine takes a whole tree as it does where a
value is due. -/
theorem foldl_element {node : Node} (hwhole : node.IsWhole)
    (around : List Frame) (held : List Node) (afterComma : Bool) :
    node.spelling.foldl step (.element around held afterComma)
      = node.spelling.foldl step (.value (.list held :: around)) := by
  obtain ⟨first, rest, hspelling, hne⟩ := exists_cons_of_isWhole hwhole
  rw [hspelling, List.foldl_cons, List.foldl_cons, step_element_of_ne hne]
  rfl

mutual

/-- **The machine builds a whole tree from its tokens.** -/
theorem foldl_spelling :
    {node : Node} → node.IsWhole →
      ∀ around, node.spelling.foldl step (.value around) = attach node around
  | .word _ _, _, _ | .number _, _, _ | .string _, _, _ => rfl
  | .list [] _, hwhole, around | .object [] _, hwhole, around => by
    obtain ⟨-, rfl⟩ := hwhole
    rfl
  | .list (element :: elements) _, hwhole, around => by
    obtain ⟨⟨helement, helements⟩, rfl⟩ := hwhole
    rw [spelling, List.foldl_cons, List.foldl_append]
    change (elementsSpelling elements).foldl step
      (element.spelling.foldl step (.element around [] false)) = _
    rw [foldl_element helement, foldl_spelling helement]
    exact foldl_elementsSpelling helements around [element]
  | .object ((key, node) :: members) _, hwhole, around => by
    obtain ⟨⟨⟨-, hnode⟩, hmembers⟩, rfl⟩ := hwhole
    rw [spelling, List.foldl_cons, List.foldl_cons, List.foldl_cons,
      List.foldl_append]
    change (membersSpelling members).foldl step
      (node.spelling.foldl step (.value (.object [] key :: around))) = _
    rw [foldl_spelling hnode]
    exact foldl_membersSpelling hmembers around [(key, node)]

/-- Behind an element, the tokens of more elements are gathered up to the closed
list. -/
theorem foldl_elementsSpelling :
    {elements : List Node} → AllWhole elements → ∀ around held,
      (elementsSpelling elements).foldl step (.afterElement around held)
        = attach (.list (held.reverse ++ elements) .closed) around
  | [], _, around, held => by
    rw [List.append_nil]
    rfl
  | element :: elements, hwhole, around, held => by
    rw [elementsSpelling, List.foldl_cons, List.foldl_append]
    change (elementsSpelling elements).foldl step
      (element.spelling.foldl step (.element around held true)) = _
    rw [foldl_element hwhole.1, foldl_spelling hwhole.1]
    change (elementsSpelling elements).foldl step
      (.afterElement around (element :: held)) = _
    rw [foldl_elementsSpelling hwhole.2, List.reverse_cons, List.append_assoc,
      List.singleton_append]

/-- Behind a member, the tokens of more members are gathered up to the closed
object. -/
theorem foldl_membersSpelling :
    {members : List (StringText × Node)} → MembersWhole members → ∀ around held,
      (membersSpelling members).foldl step (.afterMember around held)
        = attach (.object (held.reverse ++ members) .closed) around
  | [], _, around, held => by
    rw [List.append_nil]
    rfl
  | (key, node) :: members, hwhole, around, held => by
    rw [membersSpelling, List.foldl_cons, List.foldl_cons, List.foldl_cons,
      List.foldl_append]
    change (membersSpelling members).foldl step
      (node.spelling.foldl step (.value (.object held key :: around))) = _
    rw [foldl_spelling hwhole.1.2]
    change (membersSpelling members).foldl step
      (.afterMember around ((key, node) :: held)) = _
    rw [foldl_membersSpelling hwhole.2, List.reverse_cons, List.append_assoc,
      List.singleton_append]

end

/-- Behind a finished tree all tokens are ignored. -/
theorem foldl_finished (root : Node) (tokens : List Token) :
    tokens.foldl step (.finished root) = .finished root := by
  induction tokens with
  | nil => rfl
  | cons token tokens ih => exact ih

/-- What comes after the tokens of a whole tree is not looked at. -/
theorem ofTokens_spelling_append {node : Node} (hwhole : node.IsWhole)
    (more : List Token) :
    ofTokens (node.spelling ++ more) = node := by
  rw [ofTokens, List.foldl_append, foldl_spelling hwhole, attach,
    foldl_finished, ofState]

/-! ## Faults stay -/

/-- Whether a list or object that waits for a value has a fault in what it
holds. -/
def Frame.IsBroken : Frame → Prop
  | .list held => ∃ node ∈ held, node.IsBroken
  | .object held k => (∃ member ∈ held, member.1.ending ≠ .closed
      ∨ member.2.IsBroken) ∨ k.ending ≠ .closed

/-- Whether a state has a fault in something that it holds. -/
def State.IsBroken : State → Prop
  | .value around => ∃ frame ∈ around, frame.IsBroken
  | .element around held _ | .afterElement around held =>
    (∃ frame ∈ around, frame.IsBroken) ∨ ∃ node ∈ held, node.IsBroken
  | .key around held _ | .afterMember around held =>
    (∃ frame ∈ around, frame.IsBroken)
      ∨ ∃ member ∈ held, member.1.ending ≠ .closed ∨ member.2.IsBroken
  | .colon around held k =>
    (∃ frame ∈ around, frame.IsBroken)
      ∨ (∃ member ∈ held, member.1.ending ≠ .closed ∨ member.2.IsBroken)
        ∨ k.ending ≠ .closed
  | .finished root => root.IsBroken

/-- A list that holds a fault is broken, wherever it stops. -/
theorem isBroken_listOf {held : List Node} {stop : ListStop}
    (hbroken : ∃ node ∈ held, node.IsBroken) :
    (listOf held stop).IsBroken := by
  obtain ⟨node, hmem, hnode⟩ := hbroken
  exact .element (List.mem_reverse.2 hmem) hnode

/-- An object that holds a fault is broken, wherever it stops. -/
theorem isBroken_objectOf {held : List (StringText × Node)} {stop : ObjectStop}
    (hbroken : ∃ member ∈ held, member.1.ending ≠ .closed ∨ member.2.IsBroken) :
    (objectOf held stop).IsBroken := by
  obtain ⟨⟨key, node⟩, hmem, hkey | hnode⟩ := hbroken
  · exact .key (List.mem_reverse.2 hmem) hkey
  · exact .member (List.mem_reverse.2 hmem) hnode

/-- Closing what is around a broken tree leaves the fault in. -/
theorem isBroken_enclose {node : Node} {around : List Frame}
    (hbroken : node.IsBroken ∨ ∃ frame ∈ around, frame.IsBroken) :
    (enclose node around).IsBroken := by
  induction around generalizing node with
  | nil =>
    rcases hbroken with hnode | ⟨frame, hmem, -⟩
    · exact hnode
    · exact absurd hmem List.not_mem_nil
  | cons frame around ih =>
    rw [List.exists_mem_cons_iff] at hbroken
    cases frame with
    | list held =>
      refine ih ?_
      rcases hbroken with hnode | ⟨held, hmem, hheld⟩ | haround
      · exact .inl (.element (List.mem_reverse.2 List.mem_cons_self) hnode)
      · exact .inl
          (.element (List.mem_reverse.2 (List.mem_cons_of_mem _ hmem)) hheld)
      · exact .inr haround
    | object held key =>
      refine ih ?_
      rcases hbroken with hnode | (hheld | hkey) | haround
      · exact .inl (.member (List.mem_reverse.2 List.mem_cons_self) hnode)
      · obtain ⟨member, hmem, hmember⟩ := hheld
        exact .inl
          (isBroken_objectOf ⟨member, List.mem_cons_of_mem _ hmem, hmember⟩)
      · exact .inl (.key (List.mem_reverse.2 List.mem_cons_self) hkey)
      · exact .inr haround

/-- A list that the machine halts in is a fault. -/
theorem isBroken_halted_list {held : List Node} {stop : ListStop}
    {around : List Frame}
    (hstop : stop ≠ .closed ∧ stop ≠ .inside := by simp) :
    (enclose (listOf held stop) around).IsBroken :=
  isBroken_enclose (.inl (.listStop hstop.1 hstop.2))

/-- An object that the machine halts in is a fault. -/
theorem isBroken_halted_object {held : List (StringText × Node)}
    {stop : ObjectStop} {around : List Frame}
    (hstop : stop ≠ .closed ∧ stop ≠ .inside := by simp) :
    (enclose (objectOf held stop) around).IsBroken :=
  isBroken_enclose (.inl (.objectStop hstop.1 hstop.2))

/-- Attaching a tree keeps what is broken. -/
theorem isBroken_attach {node : Node} {around : List Frame}
    (hbroken : node.IsBroken ∨ ∃ frame ∈ around, frame.IsBroken) :
    (attach node around).IsBroken := by
  cases around with
  | nil =>
    rcases hbroken with hnode | ⟨frame, hmem, -⟩
    · exact hnode
    · exact absurd hmem List.not_mem_nil
  | cons frame around =>
    rw [List.exists_mem_cons_iff] at hbroken
    cases frame with
    | list held =>
      rcases hbroken with hnode | ⟨node, hmem, hheld⟩ | haround
      · exact .inr ⟨node, List.mem_cons_self, hnode⟩
      · exact .inr ⟨node, List.mem_cons_of_mem _ hmem, hheld⟩
      · exact .inl haround
    | object held key =>
      rcases hbroken with hnode | (⟨member, hmem, hmember⟩ | hkey) | haround
      · exact .inr ⟨(key, node), List.mem_cons_self, .inr hnode⟩
      · exact .inr ⟨member, List.mem_cons_of_mem _ hmem, hmember⟩
      · exact .inr ⟨(key, node), List.mem_cons_self, .inl hkey⟩
      · exact .inl haround

/-- Beginning a value keeps what is broken. -/
theorem isBroken_begin {around : List Frame}
    (hbroken : ∃ frame ∈ around, frame.IsBroken) (token : Token) :
    (begin around token).IsBroken := by
  cases token with
  | openList | openObject => exact .inl hbroken
  | _ => exact isBroken_attach (.inr hbroken)

/-- **A fault stays in the state** whatever token comes next. -/
theorem State.IsBroken.step {state : State} (hbroken : state.IsBroken)
    (token : Token) :
    (Node.step state token).IsBroken := by
  cases state with
  | value around => exact isBroken_begin hbroken token
  | element around held afterComma =>
    by_cases hclose : token = .closeList
    · subst hclose
      have hlist : ∀ stop, (listOf held stop).IsBroken
          ∨ ∃ frame ∈ around, frame.IsBroken :=
        fun stop => hbroken.symm.imp_left isBroken_listOf
      cases afterComma with
      | true => exact isBroken_enclose (hlist _)
      | false => exact isBroken_attach (hlist _)
    · rw [step_element_of_ne hclose]
      refine isBroken_begin ?_ token
      rw [List.exists_mem_cons_iff]
      exact hbroken.symm
  | afterElement around held =>
    have hlist : ∀ stop, (listOf held stop).IsBroken
        ∨ ∃ frame ∈ around, frame.IsBroken :=
      fun stop => hbroken.symm.imp_left isBroken_listOf
    cases token with
    | comma => exact hbroken
    | closeList => exact isBroken_attach (hlist _)
    | _ => exact isBroken_enclose (hlist _)
  | key around held afterComma =>
    have hobject : ∀ stop, (objectOf held stop).IsBroken
        ∨ ∃ frame ∈ around, frame.IsBroken :=
      fun stop => hbroken.symm.imp_left isBroken_objectOf
    cases token with
    | string => exact hbroken.imp_right .inl
    | closeObject =>
      cases afterComma with
      | true => exact isBroken_enclose (hobject _)
      | false => exact isBroken_attach (hobject _)
    | _ => cases afterComma <;> exact isBroken_enclose (hobject _)
  | colon around held key =>
    cases token with
    | colon =>
      exact (List.exists_mem_cons_iff _ _ _).2 hbroken.symm
    | _ => exact isBroken_halted_object
  | afterMember around held =>
    have hobject : ∀ stop, (objectOf held stop).IsBroken
        ∨ ∃ frame ∈ around, frame.IsBroken :=
      fun stop => hbroken.symm.imp_left isBroken_objectOf
    cases token with
    | comma => exact hbroken
    | closeObject => exact isBroken_attach (hobject _)
    | _ => exact isBroken_enclose (hobject _)
  | finished root => exact hbroken

/-- A fault stays whatever tokens follow. -/
theorem State.IsBroken.foldl_step {state : State} (hbroken : state.IsBroken)
    (tokens : List Token) :
    (tokens.foldl Node.step state).IsBroken := by
  induction tokens generalizing state with
  | nil => exact hbroken
  | cons token tokens ih => exact ih (hbroken.step token)

/-- At the end of the text, a tree that is not finished is broken. -/
theorem isBroken_ofState {state : State}
    (hunfinished : ∀ root, state ≠ .finished root) :
    (ofState state).IsBroken := by
  cases state with
  | value => exact isBroken_enclose (.inl .missing)
  | element around held afterComma =>
    cases afterComma <;> exact isBroken_halted_list
  | afterElement => exact isBroken_halted_list
  | key around held afterComma =>
    cases afterComma <;> exact isBroken_halted_object
  | colon | afterMember => exact isBroken_halted_object
  | finished root => exact absurd rfl (hunfinished root)

/-- The tree of a broken state is broken. -/
theorem State.IsBroken.ofState {state : State} (hbroken : state.IsBroken) :
    (Node.ofState state).IsBroken := by
  cases state with
  | finished => exact hbroken
  | _ => exact isBroken_ofState (by simp)

/-! ## What led to a state without faults -/

/-- The tokens of elements that are each followed by a comma, the last element
first. -/
def heldElements : List Node → List Token
  | [] => []
  | node :: held => heldElements held ++ (node.spelling ++ [.comma])

/-- The tokens of members that are each followed by a comma, the last member
first. -/
def heldMembers : List (StringText × Node) → List Token
  | [] => []
  | (key, node) :: held =>
    heldMembers held ++ (.string key :: .colon :: (node.spelling ++ [.comma]))

/-- The tokens of lists and objects that wait for a value, innermost first. -/
def aroundSpelling : List Frame → List Token
  | [] => []
  | .list held :: around =>
    aroundSpelling around ++ (.openList :: heldElements held)
  | .object held key :: around => aroundSpelling around
      ++ (.openObject :: (heldMembers held ++ [.string key, .colon]))

/-- Whether a list or object that waits for a value holds nothing but whole
values and closed keys. -/
def Frame.IsWhole : Frame → Prop
  | .list held => AllWhole held
  | .object held key => MembersWhole held ∧ key.ending = .closed

/-- The tokens that lead to a state without any fault. -/
inductive State.After : State → List Token → Prop
  | value {around : List Frame} (haround : ∀ frame ∈ around, frame.IsWhole) :
      After (.value around) (aroundSpelling around)
  | firstElement {around : List Frame}
      (haround : ∀ frame ∈ around, frame.IsWhole) :
      After (.element around [] false) (aroundSpelling around ++ [.openList])
  | nextElement {around : List Frame} {held : List Node}
      (haround : ∀ frame ∈ around, frame.IsWhole) (hheld : AllWhole held) :
      After (.element around held true)
        (aroundSpelling around ++ (.openList :: heldElements held))
  | afterElement {around : List Frame} {held : List Node} {node : Node}
      (haround : ∀ frame ∈ around, frame.IsWhole)
      (hheld : AllWhole (node :: held)) :
      After (.afterElement around (node :: held))
        (aroundSpelling around
          ++ (.openList :: (heldElements held ++ node.spelling)))
  | firstKey {around : List Frame} (haround : ∀ frame ∈ around, frame.IsWhole) :
      After (.key around [] false) (aroundSpelling around ++ [.openObject])
  | nextKey {around : List Frame} {held : List (StringText × Node)}
      (haround : ∀ frame ∈ around, frame.IsWhole) (hheld : MembersWhole held) :
      After (.key around held true)
        (aroundSpelling around ++ (.openObject :: heldMembers held))
  | colon {around : List Frame} {held : List (StringText × Node)}
      {key : StringText} (haround : ∀ frame ∈ around, frame.IsWhole)
      (hheld : MembersWhole held) (hkey : key.ending = .closed) :
      After (.colon around held key) (aroundSpelling around
        ++ (.openObject :: (heldMembers held ++ [.string key])))
  | afterMember {around : List Frame} {held : List (StringText × Node)}
      {key : StringText} {node : Node}
      (haround : ∀ frame ∈ around, frame.IsWhole)
      (hheld : MembersWhole ((key, node) :: held)) :
      After (.afterMember around ((key, node) :: held))
        (aroundSpelling around
          ++ (.openObject
            :: (heldMembers held ++ (.string key :: .colon :: node.spelling))))
  | finished {root : Node} (hroot : root.IsWhole) :
      After (.finished root) root.spelling

/-- A list is written with what it holds in front, one more element and then the
others. -/
theorem spelling_list (held : List Node) (node : Node) (elements : List Node)
    (stop : ListStop) :
    (Node.list (held.reverse ++ node :: elements) stop).spelling
      = .openList :: (heldElements held
        ++ (node.spelling ++ elementsSpelling elements)) := by
  induction held generalizing node elements with
  | nil => rfl
  | cons last held ih =>
    rw [List.reverse_cons, List.append_assoc, List.singleton_append, ih]
    simp [heldElements, elementsSpelling]

/-- An object is written with what it holds in front, one more member and then
the others. -/
theorem spelling_object (held : List (StringText × Node))
    (key : StringText) (node : Node) (members : List (StringText × Node))
    (stop : ObjectStop) :
    (Node.object (held.reverse ++ (key, node) :: members) stop).spelling
      = .openObject
        :: (heldMembers held
          ++ (.string key :: .colon
            :: (node.spelling ++ membersSpelling members))) := by
  induction held generalizing key node members with
  | nil => rfl
  | cons last held ih =>
    obtain ⟨lastKey, lastNode⟩ := last
    rw [List.reverse_cons, List.append_assoc, List.singleton_append, ih]
    simp [heldMembers, membersSpelling]

/-- A whole tree is attached behind the tokens that led to it. -/
theorem after_attach {node : Node} {around : List Frame} (hnode : node.IsWhole)
    (haround : ∀ frame ∈ around, frame.IsWhole) :
    (attach node around).After (aroundSpelling around ++ node.spelling) := by
  cases around with
  | nil => exact .finished hnode
  | cons frame around =>
    obtain ⟨hframe, houter⟩ := List.forall_mem_cons.1 haround
    cases frame with
    | list held =>
      have hafter := State.After.afterElement houter
        (show AllWhole (node :: held) from ⟨hnode, hframe⟩)
      simpa [aroundSpelling, attach] using hafter
    | object held key =>
      have hafter := State.After.afterMember houter
        (show MembersWhole ((key, node) :: held) from
          ⟨⟨hframe.2, hnode⟩, hframe.1⟩)
      simpa [aroundSpelling, attach] using hafter

/-- A leaf is attached whole or is a fault. -/
theorem after_attach_or_isBroken {node : Node} {around : List Frame}
    (haround : ∀ frame ∈ around, frame.IsWhole)
    (hnode : node.IsWhole ∨ node.IsBroken) :
    (attach node around).After (aroundSpelling around ++ node.spelling)
      ∨ (attach node around).IsBroken :=
  hnode.imp (fun hwhole => after_attach hwhole haround) fun hbroken =>
    isBroken_attach (.inl hbroken)

/-- A token that begins a value is taken, or it is the fault. -/
theorem after_begin {around : List Frame}
    (haround : ∀ frame ∈ around, frame.IsWhole) (token : Token) :
    (begin around token).After (aroundSpelling around ++ [token])
      ∨ (begin around token).IsBroken := by
  cases token with
  | openList => exact .inl (.firstElement haround)
  | openObject => exact .inl (.firstKey haround)
  | word word ending =>
    exact after_attach_or_isBroken haround (or_iff_not_imp_left.2 .word)
  | number number =>
    exact after_attach_or_isBroken haround (or_iff_not_imp_left.2 .number)
  | string string =>
    exact after_attach_or_isBroken haround (or_iff_not_imp_left.2 .string)
  | _ => exact .inr (isBroken_attach (.inl .stray))

/-- The tokens behind which a state stands may be written in another way. -/
theorem State.After.congr {state : State} {seen seen' : List Token}
    (hafter : state.After seen) (hseen : seen = seen') :
    state.After seen' :=
  hseen ▸ hafter

/-- **What one token does to a state without faults**: it is the next of the
tokens that lead to the new state, or there is a fault now. -/
theorem State.After.step {state : State} {seen : List Token}
    (hafter : state.After seen) (token : Token) :
    (Node.step state token).After (seen ++ [token])
      ∨ (Node.step state token).IsBroken
      ∨ ∃ root, state = .finished root := by
  cases hafter with
  | value haround => exact (after_begin haround token).imp_right Or.inl
  | @firstElement around haround =>
    by_cases hclose : token = .closeList
    · subst hclose
      have hattach := after_attach
        (show (Node.list [] .closed).IsWhole from ⟨trivial, rfl⟩) haround
      exact .inl (hattach.congr (by simp [spelling]))
    · rw [step_element_of_ne hclose]
      have hbegin :=
        after_begin (List.forall_mem_cons.2 ⟨show (Frame.list []).IsWhole from
          trivial, haround⟩) token
      exact hbegin.imp (fun hnext => hnext.congr rfl) Or.inl
  | @nextElement around held haround hheld =>
    by_cases hclose : token = .closeList
    · subst hclose
      exact .inr (.inl isBroken_halted_list)
    · rw [step_element_of_ne hclose]
      have hbegin :=
        after_begin (List.forall_mem_cons.2 ⟨show (Frame.list held).IsWhole from
          hheld, haround⟩) token
      exact hbegin.imp_right Or.inl
  | @afterElement around held node haround hheld =>
    cases token with
    | comma =>
      have hnext := State.After.nextElement haround hheld
      exact .inl (hnext.congr (by simp [heldElements]))
    | closeList =>
      have hwhole : (listOf (node :: held) .closed).IsWhole :=
        ⟨allWhole_iff.2 fun other hmem =>
          allWhole_iff.1 hheld other (List.mem_reverse.1 hmem), rfl⟩
      have hattach := after_attach hwhole haround
      exact .inl
        (hattach.congr (by
          rw [listOf, List.reverse_cons, spelling_list]
          simp [elementsSpelling]))
    | _ => exact .inr (.inl isBroken_halted_list)
  | @firstKey around haround =>
    cases token with
    | string key =>
      by_cases hkey : key.ending = .closed
      · have hcolon :=
          State.After.colon haround (show MembersWhole [] from trivial) hkey
        exact .inl (hcolon.congr (by simp [heldMembers]))
      · exact .inr (.inl (.inr (.inr hkey)))
    | closeObject =>
      have hattach := after_attach
        (show (Node.object [] .closed).IsWhole from ⟨trivial, rfl⟩) haround
      exact .inl (hattach.congr (by simp [spelling]))
    | _ => exact .inr (.inl isBroken_halted_object)
  | @nextKey around held haround hheld =>
    cases token with
    | string key =>
      by_cases hkey : key.ending = .closed
      · have hcolon := State.After.colon haround hheld hkey
        exact .inl (hcolon.congr (by simp))
      · exact .inr (.inl (.inr (.inr hkey)))
    | _ => exact .inr (.inl isBroken_halted_object)
  | @colon around held key haround hheld hkey =>
    cases token with
    | colon =>
      have hvalue := State.After.value
        (List.forall_mem_cons.2 ⟨show (Frame.object held key).IsWhole from
          ⟨hheld, hkey⟩, haround⟩)
      exact .inl (hvalue.congr (by simp [aroundSpelling]))
    | _ => exact .inr (.inl isBroken_halted_object)
  | @afterMember around held key node haround hheld =>
    cases token with
    | comma =>
      have hnext := State.After.nextKey haround hheld
      exact .inl (hnext.congr (by simp [heldMembers]))
    | closeObject =>
      have hwhole : (objectOf ((key, node) :: held) .closed).IsWhole :=
        ⟨membersWhole_iff.2 fun other hmem =>
          membersWhole_iff.1 hheld other (List.mem_reverse.1 hmem), rfl⟩
      have hattach := after_attach hwhole haround
      exact .inl
        (hattach.congr (by
          rw [objectOf, List.reverse_cons, spelling_object]
          simp [membersSpelling]))
    | _ => exact .inr (.inl isBroken_halted_object)
  | finished => exact .inr (.inr ⟨_, rfl⟩)

/-- Tokens are taken up to some place, or they bring in a fault. -/
theorem State.After.foldl_step {state : State} {seen : List Token}
    (hafter : state.After seen) (tokens : List Token) :
    (tokens.foldl Node.step state).IsBroken
      ∨ ∃ taken more, tokens = taken ++ more
        ∧ (tokens.foldl Node.step state).After (seen ++ taken) := by
  induction tokens generalizing state seen with
  | nil => exact .inr ⟨[], [], rfl, hafter.congr (List.append_nil seen).symm⟩
  | cons token tokens ih =>
    rcases hafter.step token with hstep | hbroken | ⟨root, rfl⟩
    · rcases ih hstep with hbroken | ⟨taken, more, rfl, hlast⟩
      · exact .inl hbroken
      · exact .inr ⟨token :: taken, more, rfl,
          hlast.congr (List.append_assoc seen [token] taken)⟩
    · exact .inl (hbroken.foldl_step tokens)
    · refine .inr ⟨[], token :: tokens, rfl, ?_⟩
      rw [foldl_finished, List.append_nil]
      exact hafter

/-- **What the machine builds is broken, or it was spelled by the first
tokens.** -/
theorem isBroken_or_spelling (tokens : List Token) :
    (ofTokens tokens).IsBroken
      ∨ (ofTokens tokens).IsWhole
        ∧ ∃ more, tokens = (ofTokens tokens).spelling ++ more := by
  have hstart : (State.value []).After [] :=
    .value fun _ hmem => absurd hmem List.not_mem_nil
  rcases hstart.foldl_step tokens with hbroken | ⟨taken, more, htokens, hafter⟩
  · exact .inl hbroken.ofState
  · rw [List.nil_append] at hafter
    by_cases hfinished : ∃ root, tokens.foldl Node.step (.value [])
      = .finished root
    · obtain ⟨root, hroot⟩ := hfinished
      have htree : ofTokens tokens = root := by
        rw [ofTokens, hroot, Node.ofState]
      rw [hroot] at hafter
      rw [htree]
      cases hafter with
      | finished hwhole => exact .inr ⟨hwhole, more, htokens⟩
    · exact .inl (isBroken_ofState fun root heq => hfinished ⟨root, heq⟩)

/-! ## Documents -/

/-- Whether a text is a document that writes a tree: the tree's tokens, with
white space between them and around. -/
def WrittenAs (node : Node) (text : List UInt8) : Prop :=
  node.IsWhole ∧ Spelled node.spelling text

/-- Whether a text that comes after a tree cannot go on with it: only a number
could go on. -/
def EndsBefore : Node → List UInt8 → Prop
  | .number n, rest => n.EndsBefore rest
  | _, _ => True

/-- A list ends with its closing bracket. -/
theorem getLast?_elementsSpelling (elements : List Node) :
    (elementsSpelling elements).getLast? = some .closeList := by
  induction elements with
  | nil => rfl
  | cons element elements ih => simp [elementsSpelling, List.getLast?_cons, ih]

/-- An object ends with its closing brace. -/
theorem getLast?_membersSpelling (members : List (StringText × Node)) :
    (membersSpelling members).getLast? = some .closeObject := by
  induction members with
  | nil => rfl
  | cons member members ih => simp [membersSpelling, List.getLast?_cons, ih]

/-- What does not continue a tree does not continue its last token. -/
theorem endsBefore_of_mem_getLast?_spelling {node : Node} {rest : List UInt8}
    (hends : node.EndsBefore rest) :
    ∀ token ∈ node.spelling.getLast?, token.EndsBefore rest := by
  cases node with
  | list elements =>
    cases elements with
    | nil => simp [spelling, Token.EndsBefore]
    | cons =>
      simp [spelling, List.getLast?_cons, getLast?_elementsSpelling,
        Token.EndsBefore]
  | object members =>
    cases members with
    | nil => simp [spelling, Token.EndsBefore]
    | cons =>
      simp [spelling, List.getLast?_cons, getLast?_membersSpelling,
        Token.EndsBefore]
  | number n =>
    simp only [spelling, List.getLast?_singleton,
      Option.mem_some_iff, forall_eq']
    exact hends
  | _ => simp [spelling, Token.EndsBefore]

/-- **The machine builds the tree that a document writes**, whatever comes after
the document that cannot go on with it. -/
theorem WrittenAs.ofBytes_append {node : Node} {document rest : List UInt8}
    (hwritten : node.WrittenAs document) (hends : node.EndsBefore rest) :
    ofBytes (document ++ rest) = node := by
  rw [ofBytes,
    hwritten.2.tokens_append (endsBefore_of_mem_getLast?_spelling hends),
    ofTokens_spelling_append hwritten.1]

/-- A document that writes a tree is read as the tree. -/
theorem WrittenAs.ofBytes_eq {node : Node} {text : List UInt8}
    (hwritten : node.WrittenAs text) :
    ofBytes text = node := by
  have hends : node.EndsBefore [] := by
    cases node with
    | number n => exact Token.endsBefore_nil (.number n)
    | _ => trivial
  rw [← hwritten.ofBytes_append hends, List.append_nil]

/-- **A text whose tree is not broken begins with a document that writes this
tree.** -/
theorem exists_writtenAs {text : List UInt8}
    (hunbroken : ¬(ofBytes text).IsBroken) :
    ∃ document rest, text = document ++ rest
      ∧ (ofBytes text).WrittenAs document := by
  obtain ⟨hwhole, more, htokens⟩ :=
    (isBroken_or_spelling (tokens text)).resolve_left hunbroken
  obtain ⟨document, rest, htext, hspelled, -⟩ :=
    exists_spelled_of_tokens htokens (isComplete_of_mem_spelling hwhole)
  exact ⟨document, rest, htext, hwhole, hspelled⟩

end Node

end KotlinBuilders.Json
