import KotlinBuilders.Proofs.ListingFields
import KotlinBuilders.Proofs.Pieces
import Mathlib.Logic.Relation

/-!
# What a listing is read by

Of the entries of a listing three lists are used: the names of the values, the
indices of the component functions and the arguments of the constructors, each
in its own order (`ListingContent`).  They fit together or they do not
(`ListingContent.Fits`), and if they do, they say what the members are.  How the
three are mixed, and what stands between them that belongs to none, is not
looked at.

A listing with a balanced body is a list of entries between brackets
(`exists_isListingText_iff`), so its entries can be moved, added and taken away
as texts.  The content stays the same exactly when no class of entries is
reordered on the way (`eqvGen_remixed_iff`).

The main statement is `parseListing_by_content`.
-/

namespace KotlinBuilders

open Text (IsPiece)

/-- The arguments of a listing's constructors. -/
def listedConstructors (entries : List ListingEntry) :
    List (List (List Char)) :=
  entries.filterMap ListingEntry.constructor?

/-- What a listing is read by. -/
structure ListingContent where
  values : List (List Char)
  indices : List Nat
  constructors : List (List (List Char))
  deriving DecidableEq, Repr

namespace ListingContent

/-- The content of a listing with the given entries. -/
def ofEntries (entries : List ListingEntry) : ListingContent :=
  ⟨listedValues entries, listedIndices entries, listedConstructors entries⟩

/-- A constructor takes as many arguments as there are values, and there are as
many component functions, each of which points to one of the values, counted
from one. -/
structure Fits (content : ListingContent) : Prop where
  exists_constructor : ∃ types ∈ content.constructors, types.length
    = content.values.length
  length_indices : content.indices.length = content.values.length
  indices_le : ∀ index ∈ content.indices, 1 ≤ index
    ∧ index ≤ content.values.length

/-- The arguments of the first constructor that takes as many as there are
values. -/
def IsFirstConstructor (content : ListingContent)
    (types : List (List Char)) : Prop :=
  types.length = content.values.length
    ∧ ∃ earlier later, content.constructors = earlier ++ types :: later
      ∧ ∀ other ∈ earlier, other.length ≠ content.values.length

/-- A slot's member has the name of the value that its component function points
to and the type that the constructor takes there. -/
def BacksSlot (content : ListingContent) (types : List (List Char)) (slot : Nat)
    (member : Member) : Prop :=
  ∃ place, content.indices[slot]? = some (place + 1)
    ∧ content.values[place]? = some member.name.toList
    ∧ types[slot]? = some member.type.toList

/-- The members that the content says, if it fits together. -/
def members? (content : ListingContent) : Option (List Member) :=
  match content.constructors.find? fun types => types.length
      == content.values.length with
  | some types =>
    if content.indices.length = content.values.length
      then slotMembers? content.values content.indices types else none
  | none => none

end ListingContent

section Slots

variable {values : List (List Char)}

/-- An index has a member behind it when it counts one of the values from
one. -/
theorem isSome_backingMember?_iff {index : Nat} :
    (backingMember? values index).isSome ↔
      1 ≤ index ∧ index ≤ values.length := by
  cases index with
  | zero => simp [backingMember?]
  | succ place =>
    simp only [backingMember?, isSome_getElem?]
    omega

/-- The slots have members if each component function points to a value. -/
theorem isSome_slotMembers?_iff {indices : List Nat} {types : List (List Char)}
    (hlength : indices.length = types.length) :
    (slotMembers? values indices types).isSome ↔ ∀ index ∈ indices, 1 ≤ index
      ∧ index ≤ values.length := by
  induction indices generalizing types with
  | nil => simp [slotMembers?]
  | cons index indices ih =>
    cases types with
    | nil => cases hlength
    | cons type types =>
      rw [List.forall_mem_cons, ← isSome_backingMember?_iff,
        ← ih (Nat.succ.inj hlength), slotMembers?]
      cases backingMember? values index <;>
        cases slotMembers? values indices types <;> simp [bind, pure]

/-- The member behind an index is the value it counts. -/
theorem getElem?_backingMember? {index : Nat} {name : List Char}
    (hname : backingMember? values index = some name) :
    ∃ place, index = place + 1 ∧ values[place]? = some name := by
  cases index with
  | zero => cases hname
  | succ place => exact ⟨place, rfl, hname⟩

end Slots

/-- The first list of a given length. -/
theorem find?_length_eq_some_iff {α : Type} {lists : List (List α)}
    {list : List α} {count : Nat} :
    lists.find? (fun list => list.length == count) = some list ↔
      list.length = count ∧ ∃ earlier later, lists = earlier ++ list :: later
        ∧ ∀ other ∈ earlier, other.length ≠ count := by
  simp [List.find?_eq_some_iff_append]

namespace ListingContent

variable {content : ListingContent} {members : List Member}

/-- **When a listing has members.** -/
theorem isSome_members?_iff : content.members?.isSome ↔ content.Fits := by
  rw [members?]
  constructor
  · intro hsome
    split at hsome
    · next types hfound =>
      obtain ⟨hlength, -⟩ := find?_length_eq_some_iff.1 hfound
      split at hsome
      · next hindices =>
        rw [isSome_slotMembers?_iff (hindices.trans hlength.symm)] at hsome
        exact ⟨⟨types, List.mem_of_find?_eq_some hfound, hlength⟩,
          hindices, hsome⟩
      · cases hsome
    · cases hsome
  · rintro ⟨⟨types, htypes, hlength⟩, hindices, hle⟩
    split
    · next chosen hfound =>
      obtain ⟨hchosen, -⟩ := find?_length_eq_some_iff.1 hfound
      rw [if_pos hindices,
        isSome_slotMembers?_iff (hindices.trans hchosen.symm)]
      exact hle
    · next hnone =>
        exact absurd (beq_iff_eq.2 hlength)
          (List.find?_eq_none.1 hnone types htypes)

/-- **Which members a listing has.** -/
theorem exists_isFirstConstructor (hmembers : content.members? = some members) :
    members.length = content.values.length
      ∧ ∃ types, content.IsFirstConstructor types
        ∧ ∀ slot member, members[slot]? = some member →
          content.BacksSlot types slot member := by
  rw [members?] at hmembers
  split at hmembers
  · next types hfound =>
    have hfirst := find?_length_eq_some_iff.1 hfound
    split at hmembers
    · next hindices =>
      obtain ⟨hnames, htypes⟩ :=
        slotMembers?_eq_some (hindices.trans hfirst.1.symm) hmembers
      have hlength := congrArg List.length htypes
      rw [List.length_map, hfirst.1] at hlength
      refine ⟨hlength, types, hfirst, fun slot member hmember => ?_⟩
      have hname := congrArg (·[slot]?) hnames
      have htype := congrArg (·[slot]?) htypes
      simp only [List.getElem?_map, hmember, Option.map_some] at hname htype
      obtain ⟨index, hindex, hbacking⟩ := Option.map_eq_some_iff.1 hname.symm
      obtain ⟨place, rfl, hvalue⟩ := getElem?_backingMember? hbacking
      exact ⟨place, hindex, hvalue, htype.symm⟩
    · cases hmembers
  · cases hmembers

end ListingContent

/-- The entries are looked at through their content alone. -/
theorem reconcile?_eq (entries : List ListingEntry) :
    reconcile? entries = (ListingContent.ofEntries entries).members? :=
  rfl

/-- The content of a listing. -/
def listedContent (declaration listing : String) : ListingContent :=
  .ofEntries (listedEntries declaration listing)

/-- A listing with something between its brackets is read by its content. -/
theorem parseListing_eq {declaration listing : String}
    (hbody : (listingBody? listing.toList).isSome) :
    parseListing declaration listing
      = (listedContent declaration listing).members? := by
  obtain ⟨body, hbody⟩ := Option.isSome_iff_exists.1 hbody
  simp only [parseListing, listedContent, listedEntries, hbody, reconcile?_eq]

/-- A listing that is parsed has a body. -/
theorem isSome_listingBody?_of_parseListing {declaration listing : String}
    {members : List Member}
    (hmembers : parseListing declaration listing = some members) :
    (listingBody? listing.toList).isSome := by
  unfold parseListing at hmembers
  split at hmembers
  · next hbody => rw [hbody, Option.isSome_some]
  · cases hmembers

/-! ## Mixing the entries -/

/-- Whether two entries belong to one class, so that their order matters. -/
def ListingEntry.sameClass : ListingEntry → ListingEntry → Bool
  | .value _, .value _ | .constructor _, .constructor _
      | .component _, .component _ => true
  | _, _ => false

/-- One change to the entries of a listing: two neighbours that are not of one
class change places, or an entry of no class comes in. -/
inductive Remixed : List ListingEntry → List ListingEntry → Prop
  | swap (front back : List ListingEntry) {first second : ListingEntry}
      (hclass : first.sameClass second = false) :
      Remixed (front ++ first :: second :: back)
        (front ++ second :: first :: back)
  | insert (front back : List ListingEntry) :
      Remixed (front ++ back) (front ++ .other :: back)

section Mixing

open Relation (EqvGen)

variable {entries others : List ListingEntry}

/-- An entry in front does not hinder a change behind it. -/
theorem Remixed.cons (entry : ListingEntry) (hstep : Remixed entries others) :
    Remixed (entry :: entries) (entry :: others) := by
  cases hstep with
  | swap front back hclass => exact .swap (entry :: front) back hclass
  | insert front back => exact .insert (entry :: front) back

/-- An entry in front does not hinder several changes behind it. -/
theorem eqvGen_remixed_cons (entry : ListingEntry)
    (hsteps : EqvGen Remixed entries others) :
    EqvGen Remixed (entry :: entries) (entry :: others) := by
  induction hsteps with
  | rel _ _ hstep => exact .rel _ _ (hstep.cons entry)
  | refl _ => exact .refl _
  | symm _ _ _ ih => exact .symm _ _ ih
  | trans _ _ _ _ _ ihfirst ihsecond => exact .trans _ _ _ ihfirst ihsecond

/-- An entry can be moved behind those of other classes. -/
theorem eqvGen_remixed_move {entry : ListingEntry} {passed : List ListingEntry}
    (hpassed : ∀ next ∈ passed, entry.sameClass next = false)
    (back : List ListingEntry) :
    EqvGen Remixed (entry :: (passed ++ back)) (passed ++ entry :: back) := by
  induction passed with
  | nil => exact .refl _
  | cons next passed ih =>
    obtain ⟨hnext, hpassed⟩ := List.forall_mem_cons.1 hpassed
    have hswap : EqvGen Remixed (entry :: next :: (passed ++ back))
        (next :: entry :: (passed ++ back)) :=
      .rel _ _ (.swap [] (passed ++ back) hnext)
    exact .trans _ _ _ hswap (eqvGen_remixed_cons next (ih hpassed))

/-- The entries of a content, sorted by class. -/
def ListingContent.sortedEntries (content : ListingContent) :
    List ListingEntry :=
  content.values.map .value
    ++ (content.indices.map .component ++ content.constructors.map .constructor)

/-- **Any entries can be sorted by class.** -/
theorem eqvGen_remixed_sorted (entries : List ListingEntry) :
    EqvGen Remixed entries
      (ListingContent.ofEntries entries).sortedEntries := by
  induction entries with
  | nil => exact .refl _
  | cons entry entries ih =>
    -- A value stays in front, a component function passes the values, and a
    -- constructor the component functions too.
    have hrest := eqvGen_remixed_cons entry ih
    cases entry with
    | value name => exact hrest
    | component index =>
      refine .trans _ _ _ hrest (eqvGen_remixed_move ?_ _)
      exact List.forall_mem_map.2 fun _ _ => rfl
    | constructor types =>
      have hpassed : ∀ next ∈ (listedValues entries).map ListingEntry.value
          ++ (listedIndices entries).map ListingEntry.component,
          (ListingEntry.constructor types).sameClass next = false := by
        rw [List.forall_mem_append, List.forall_mem_map, List.forall_mem_map]
        exact ⟨fun _ _ => rfl, fun _ _ => rfl⟩
      have hmove := eqvGen_remixed_move hpassed
        ((listedConstructors entries).map ListingEntry.constructor)
      rw [List.append_assoc, List.append_assoc] at hmove
      exact .trans _ _ _ hrest hmove
    | other =>
      have hdropped : EqvGen Remixed (.other :: entries) entries :=
        .symm _ _ (.rel _ _ (.insert [] entries))
      exact .trans _ _ _ hdropped ih

/-- A change leaves the content as it is. -/
theorem Remixed.ofEntries_eq (hstep : Remixed entries others) :
    ListingContent.ofEntries entries = ListingContent.ofEntries others := by
  simp only [ListingContent.ofEntries, listedValues, listedIndices,
    listedConstructors]
  cases hstep with
  | @swap front back first second hclass =>
    simp only [List.filterMap_append]
    cases first <;> cases second <;> first | rfl | cases hclass
  | insert front back =>
    simp only [List.filterMap_append]
    rfl

/-- **Mixing keeps the content, and nothing but mixing does.** -/
theorem eqvGen_remixed_iff :
    EqvGen Remixed entries others ↔
      ListingContent.ofEntries entries = ListingContent.ofEntries others := by
  constructor
  · intro hsteps
    induction hsteps with
    | rel _ _ hstep => exact hstep.ofEntries_eq
    | refl _ => rfl
    | symm _ _ _ ih => exact ih.symm
    | trans _ _ _ _ _ ihfirst ihsecond => exact ihfirst.trans ihsecond
  · intro hcontent
    have hothers := eqvGen_remixed_sorted others
    rw [← hcontent] at hothers
    exact .trans _ _ _ (eqvGen_remixed_sorted entries) (.symm _ _ hothers)

end Mixing

/-! ## The text of a listing -/

/-- The text of a listing with the given entries: they stand between brackets
with commas between them, and around the brackets there is any text in which the
brackets can be told apart from it.  An entry is balanced, and each comma in it
stands inside brackets. -/
structure IsListingText (entries : List (List Char))
    (listing : List Char) : Prop where
  isPiece : ∀ entry ∈ entries, IsPiece ',' entry
  nonblank : Text.trim ([','].intercalate entries) ≠ []
  bracketed : ∃ front back, '[' ∉ front ∧ ']' ∉ back
    ∧ listing = front ++ '[' :: ([','].intercalate entries ++ ']' :: back)

/-- The entries of a declaration's listing, each read without the blanks around
it. -/
def readEntries (declaration : String) (entries : List (List Char)) :
    List ListingEntry :=
  entries.map fun entry => .ofText declaration.toList (Text.trim entry)

section Texts

variable {listing body : List Char} {entries : List (List Char)}

/-- The body of a listing is what stands between the first opening bracket and
the last closing one, trimmed, unless nothing is left. -/
theorem listingBody?_eq_some_iff :
    listingBody? listing = some body ↔
      ∃ front raw back, '[' ∉ front ∧ ']' ∉ back
        ∧ listing = front ++ '[' :: (raw ++ ']' :: back)
        ∧ Text.trim raw = body ∧ body ≠ [] := by
  constructor
  · intro hbody
    unfold listingBody? at hbody
    split at hbody
    · next front rest hfirst =>
      split at hbody
      · next raw back hlast =>
        split at hbody
        · cases hbody
        · next hnonempty =>
          obtain rfl := Option.some.inj hbody
          refine ⟨front, raw, back, Text.not_mem_of_cutAtFirst hfirst,
            Text.not_mem_of_cutAtLast hlast, ?_, rfl, by simpa using hnonempty⟩
          rw [Text.eq_of_cutAtFirst hfirst, Text.eq_of_cutAtLast hlast]
      · cases hbody
    · cases hbody
  · rintro ⟨front, raw, back, hfront, hback, rfl, rfl, hnonempty⟩
    simp only [listingBody?, Text.cutAtFirst_append hfront,
      Text.cutAtLast_append hback]
    rw [if_neg (by simpa using hnonempty)]

/-- The body of a written listing is its entries with commas between them. -/
theorem IsListingText.listingBody?_eq
    (hlisting : IsListingText entries listing) :
    listingBody? listing = some (Text.trim ([','].intercalate entries)) := by
  obtain ⟨front, back, hfront, hback, hwhole⟩ := hlisting.bracketed
  exact listingBody?_eq_some_iff.2 ⟨front, _, back, hfront, hback, hwhole, rfl,
    hlisting.nonblank⟩

/-- **Every listing with a balanced body is the text of its entries.** -/
theorem exists_isListingText_iff :
    (∃ entries, IsListingText entries listing) ↔
      ∃ body, listingBody? listing = some body ∧ Text.isBalanced body := by
  constructor
  · rintro ⟨entries, hlisting⟩
    refine ⟨_, hlisting.listingBody?_eq, ?_⟩
    rw [Text.isBalanced_trim]
    refine Text.isBalanced_intercalate Text.isSeparator_comma
      fun entry hentry => ?_
    exact (hlisting.isPiece entry hentry).balanced
  · rintro ⟨body, hbody, hbalanced⟩
    obtain ⟨front, raw, back, hfront, hback, hwhole, rfl, hnonempty⟩ :=
      listingBody?_eq_some_iff.1 hbody
    rw [Text.isBalanced_trim] at hbalanced
    have hraw : [','].intercalate (Text.cutOutside ',' 0 none raw) = raw :=
      Text.intercalate_cutOutside 0 none raw
    refine ⟨Text.cutOutside ',' 0 none raw, Text.isPiece_of_mem_cutOutside
      Text.isSeparator_comma hbalanced, ?_, front, back, hfront, hback, ?_⟩
    · rwa [hraw]
    · rwa [hraw]

/-- A listing is read entry by entry. -/
theorem IsListingText.listedEntries_eq {declaration listing : String}
    (hlisting : IsListingText entries listing.toList) :
    listedEntries declaration listing = readEntries declaration entries := by
  have hsplit := Text.splitTopLevel_intercalate Text.isSeparator_comma
    hlisting.isPiece hlisting.nonblank
  simp only [listedEntries, hlisting.listingBody?_eq, listingEntries,
    Text.splitTopLevel_trim, hsplit, List.map_map]
  rfl

end Texts

/-- **A listing is read by its content.**  It has members exactly when there is
something between its brackets and its content fits together; and then there are
as many as values, and each has the name of the value that its component
function points to and the type of the first constructor of that many arguments.
Two listings of one content have the same members; hence the text of a listing
can be changed, entry by entry, as long as no class is reordered. -/
theorem parseListing_by_content (declaration listing : String) :
    let content := listedContent declaration listing
    ((parseListing declaration listing).isSome ↔
        (listingBody? listing.toList).isSome ∧ content.Fits)
      ∧ (∀ members, parseListing declaration listing = some members →
          members.length = content.values.length
            ∧ ∃ types, content.IsFirstConstructor types
              ∧ ∀ slot member, members[slot]? = some member →
                content.BacksSlot types slot member)
      ∧ (∀ other, (listingBody? listing.toList).isSome →
          (listingBody? other.toList).isSome →
          listedContent declaration other = content →
            parseListing declaration other = parseListing declaration listing)
      ∧ ∀ entries otherEntries other, IsListingText entries listing.toList →
          IsListingText otherEntries other.toList →
          Relation.EqvGen Remixed (readEntries declaration entries)
            (readEntries declaration otherEntries) →
            parseListing declaration other
              = parseListing declaration listing := by
  intro content
  have hsame : ∀ other, (listingBody? listing.toList).isSome →
      (listingBody? other.toList).isSome →
      listedContent declaration other = content →
        parseListing declaration other = parseListing declaration listing := by
    intro other hbody hother hcontent
    rw [parseListing_eq hother, hcontent, parseListing_eq hbody]
  refine ⟨⟨fun hsome => ?_, fun ⟨hbody, hfits⟩ => ?_⟩, fun members hmembers =>
    ?_, hsame, ?_⟩
  · obtain ⟨members, hmembers⟩ := Option.isSome_iff_exists.1 hsome
    have hbody := isSome_listingBody?_of_parseListing hmembers
    rw [parseListing_eq hbody] at hsome
    exact ⟨hbody, ListingContent.isSome_members?_iff.1 hsome⟩
  · rw [parseListing_eq hbody]
    exact ListingContent.isSome_members?_iff.2 hfits
  · have hbody := isSome_listingBody?_of_parseListing hmembers
    exact ListingContent.exists_isFirstConstructor
      (parseListing_eq hbody ▸ hmembers)
  · intro entries otherEntries other hlisting hother hmixed
    refine hsame other ?_ ?_ ?_
    · rw [hlisting.listingBody?_eq, Option.isSome_some]
    · rw [hother.listingBody?_eq, Option.isSome_some]
    · show ListingContent.ofEntries _ = ListingContent.ofEntries _
      rw [hother.listedEntries_eq, hlisting.listedEntries_eq,
        eqvGen_remixed_iff.1 hmixed]

example :
    parseListing "Pair"
      "[component2(), a, <init>(), Pair(int,long[]), getA(), b, Companion, component1()]"
        = parseListing "Pair"
          "[a,b,<init>(),Pair(int,long[]),component2(),component1()]" := by
  decide +kernel

end KotlinBuilders
