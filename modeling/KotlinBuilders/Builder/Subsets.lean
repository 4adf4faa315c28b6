/-!
# Subsets in order

`combinations n items` lists the sublists of `items` of length `n`; those with
the first item come first.  `descendingSubsets` lists the nonempty sublists, the
longest ones first.
-/

namespace KotlinBuilders

variable {α : Type}

/-- The sublists of a given length, those with the first item first. -/
def combinations : Nat → List α → List (List α)
  | 0, _ => [[]]
  | _ + 1, [] => []
  | size + 1, first :: rest =>
    (combinations size rest).map (first :: ·) ++ combinations (size + 1) rest

/-- The nonempty sublists of at most a given length, longer ones first. -/
def subsetsUpTo (items : List α) : Nat → List (List α)
  | 0 => []
  | size + 1 => combinations (size + 1) items ++ subsetsUpTo items size

/-- The nonempty sublists, longer ones first. -/
def descendingSubsets (items : List α) : List (List α) :=
  subsetsUpTo items items.length

end KotlinBuilders
