import KotlinBuilders.Proofs.ListingContent
import KotlinBuilders.Proofs.PrintedListing

/-!
# Damaged listings

A listing whose body has unbalanced brackets is not cut into entries; the body
stays whole and is one entry (`listedEntries_of_unbalanced`).  A single entry
agrees with itself on one thing only: a constructor without arguments fits a
declaration without values (`reconcile?_singleton`).  So all that could be read
from a damaged listing is that there are no members, and only from a body that
is the name of the declaration with an empty pair of brackets behind it
(`exists_callText_of_unbalanced`).

Such a body is balanced if the name is, which leaves nothing to read.  This is
`parseListing_of_unbalanced`.
-/

namespace KotlinBuilders

open Text (AllBlank)

section Calls

variable {name arguments : List Char}

/-- A text that is taken for a function is its name and its arguments. -/
theorem eq_callText_of_functionCall? {entry : List Char}
    (hcall : functionCall? entry = some (name, arguments)) :
    entry = callText name arguments := by
  unfold functionCall? at hcall
  split at hcall
  · next front rest hcut =>
    split at hcall
    · next hshape =>
      obtain ⟨rfl, rfl⟩ := Prod.mk.inj (Option.some.inj hcall)
      have hclosed : rest.dropLast ++ [')'] = rest :=
        List.dropLast_append_getLast? ')' hshape.2.2.1
      rw [Text.eq_of_cutAtFirst hcut, callText, List.cons_append, hclosed]
    · cases hcall
  · cases hcall

/-- A function is balanced if its name and its arguments are. -/
theorem isBalanced_callText (hname : Text.isBalanced name)
    (harguments : Text.isBalanced arguments) :
    Text.isBalanced (callText name arguments) := by
  have hopening : Text.Mark.ofChar? '(' = some (.opening .round) := rfl
  have hclosing : Text.Mark.ofChar? ')' = some (.closing .round) := rfl
  have hbracketed : Text.IsPiece ',' ('(' :: arguments ++ [')']) :=
    Text.isPiece_bracketed hopening hclosing rfl harguments
      (Text.noArrow_of_head? (by simp))
  exact Text.isBalanced_append hname hbracketed.balanced

/-- A call of a balanced name with blanks for arguments is balanced. -/
theorem isBalanced_callText_blanks (hname : Text.isBalanced name)
    (hblanks : AllBlank arguments) :
    Text.isBalanced (callText name arguments) := by
  have hplain : ∀ c ∈ arguments, Text.Mark.ofChar? c = none :=
    fun c hc => Text.ofChar?_of_isBlank (hblanks c hc)
  exact isBalanced_callText hname (Text.isBalanced_of_unmarked hplain)

end Calls

section Entries

variable {declaration entry : List Char}

/-- Only a blank text has no parts. -/
theorem allBlank_of_splitTopLevel_eq_nil {separator : Char} {text : List Char}
    (hsplit : Text.splitTopLevel separator text = []) : AllBlank text := by
  refine Text.allBlank_of_trim_eq_nil ?_
  unfold Text.splitTopLevel at hsplit
  split at hsplit
  · next htrim => exact htrim
  · next c rest htrim =>
    split at hsplit
    · exact absurd (List.map_eq_nil_iff.1 hsplit)
        (Text.cutOutside_ne_nil 0 none (c :: rest))
    · cases hsplit

/-- A constructor without arguments is written with nothing but blanks between
its brackets. -/
theorem exists_callText_of_constructor_nil
    (hentry : ListingEntry.ofText declaration entry = .constructor []) :
    ∃ name blanks, (name = declaration ∨ name = constructorName)
      ∧ AllBlank blanks ∧ entry = callText name blanks := by
  unfold ListingEntry.ofText at hentry
  split at hentry
  · next name arguments hcall =>
    have hshape := eq_callText_of_functionCall? hcall
    unfold ListingEntry.ofFunction at hentry
    split at hentry
    · next hname =>
      have hsplit := ListingEntry.constructor.inj hentry
      exact ⟨name, arguments, hname,
        allBlank_of_splitTopLevel_eq_nil hsplit, hshape⟩
    · split at hentry
      · split at hentry <;> cases hentry
      · cases hentry
  · split at hentry <;> cases hentry

/-- A single entry says at most that there are no members. -/
theorem reconcile?_singleton {entry : ListingEntry} {members : List Member}
    (hmembers : reconcile? [entry] = some members) : entry = .constructor []
    ∧ members = [] := by
  cases entry with
  | constructor arguments =>
    cases arguments with
    | nil =>
      obtain rfl := Option.some.inj hmembers
      exact ⟨rfl, rfl⟩
    | cons first others => cases hmembers
  | _ => cases hmembers

end Entries

section Damaged

variable {declaration listing : String} {body : List Char}

/-- A damaged body is not cut. -/
theorem listedEntries_of_unbalanced
    (hbody : listingBody? listing.toList = some body)
    (hunbalanced : Text.isBalanced body = false) :
    listedEntries declaration listing = [.ofText declaration.toList body] := by
  have htrimmed : Text.trim body = body := by
    obtain ⟨_, raw, _, _, _, _, rfl, _⟩ := listingBody?_eq_some_iff.1 hbody
    exact Text.trim_trim raw
  simp only [listedEntries, hbody, listingEntries,
    Text.splitTopLevel_of_unbalanced hunbalanced, htrimmed,
    List.map_cons, List.map_nil]

/-- **What could be read from a damaged listing**: no members, from a body that
is the declaration's name with an empty pair of brackets behind it. -/
theorem exists_callText_of_unbalanced {members : List Member}
    (hbody : listingBody? listing.toList = some body)
    (hunbalanced : Text.isBalanced body = false)
    (hmembers : parseListing declaration listing = some members) :
    members = [] ∧ ∃ blanks, AllBlank blanks
      ∧ body = callText declaration.toList blanks := by
  have hreconciled := parseListing_eq_some hmembers
  rw [listedEntries_of_unbalanced hbody hunbalanced] at hreconciled
  obtain ⟨hentry, hnone⟩ := reconcile?_singleton hreconciled
  obtain ⟨name, blanks, hname, hblanks, hshape⟩ :=
    exists_callText_of_constructor_nil hentry
  refine ⟨hnone, blanks, hblanks, ?_⟩
  rcases hname with rfl | rfl
  · exact hshape
  · -- The other name of a constructor keeps its brackets in order, so the body
    -- would be balanced.
    rw [hshape, isBalanced_callText_blanks isCallHead_constructorName.balanced
      hblanks] at hunbalanced
    cases hunbalanced

end Damaged

/-- **A damaged listing says nothing.**  If the text between the first opening
and the last closing square bracket has unbalanced brackets, the listing has no
reading at all, for any declaration whose name is free of brackets. -/
theorem parseListing_of_unbalanced {declaration listing : String}
    {front raw back : List Char}
    (hname : ∀ c ∈ declaration.toList, Text.Mark.ofChar? c = none)
    (hfront : '[' ∉ front) (hback : ']' ∉ back)
    (hlisting : listing.toList = front ++ '[' :: (raw ++ ']' :: back))
    (hunbalanced : Text.isBalanced (Text.trim raw) = false) :
    parseListing declaration listing = none := by
  have hnonempty : Text.trim raw ≠ [] := by
    intro hempty
    rw [hempty] at hunbalanced
    cases hunbalanced
  have hbody : listingBody? listing.toList = some (Text.trim raw) :=
    listingBody?_eq_some_iff.2 ⟨front, raw, back, hfront, hback, hlisting,
      rfl, hnonempty⟩
  by_contra hread
  obtain ⟨members, hmembers⟩ := Option.ne_none_iff_exists'.1 hread
  obtain ⟨-, blanks, hblanks, hshape⟩ :=
    exists_callText_of_unbalanced hbody hunbalanced hmembers
  rw [hshape, isBalanced_callText_blanks (Text.isBalanced_of_unmarked hname)
    hblanks] at hunbalanced
  cases hunbalanced

/-- A body that looks like a constructor, one of whose brackets is lost. -/
def crateListing : String := "Crate: [ Crate(java.util.List<java.lang.String) ]"

/-- The body is taken for a constructor of one argument, which no value stands
for. -/
theorem parseListing_of_unbalanced_crate :
    listingEntries "Crate".toList
      "Crate(java.util.List<java.lang.String)".toList
        = [.constructor ["java.util.List<java.lang.String".toList]]
      ∧ parseListing "Crate" crateListing = none := by
  have hlisting : crateListing.toList =
      "Crate: ".toList ++ '['
      :: (" Crate(java.util.List<java.lang.String) ".toList ++ ']' :: []) := by
    decide +kernel
  refine ⟨by decide +kernel, parseListing_of_unbalanced ?_ ?_ ?_ hlisting ?_⟩
  · simp [Text.Mark.ofChar?]
  · simp
  · exact List.not_mem_nil
  · decide +kernel

end KotlinBuilders
