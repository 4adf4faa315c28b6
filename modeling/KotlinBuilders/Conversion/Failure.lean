import KotlinBuilders.Kind.Classification

/-!
# Why a declaration gets no builder

Each failure names its declaration and aborts that declaration alone.
-/

namespace KotlinBuilders

/-- Why a declaration gets no builder. -/
inductive ConversionFailure where
  | listingMismatch (declaration : String)
  | noParameters (declaration : String)
  | duplicateField (declaration field : String)
  | unclassified (declaration field : String) (cause : ArityMismatch)
  deriving DecidableEq, Repr

namespace ConversionFailure

/-- The declaration that failed. -/
def declaration : ConversionFailure → String
  | listingMismatch declaration => declaration
  | noParameters declaration => declaration
  | duplicateField declaration _ => declaration
  | unclassified declaration _ _ => declaration

/-- The wording of the failure. -/
def message : ConversionFailure → String
  | listingMismatch declaration =>
    "member listing of '" ++ declaration ++ "' does not match its constructor"
  | noParameters declaration =>
    "'" ++ declaration
      ++ "' exposes neither constructor parameters nor a member listing"
  | duplicateField declaration field =>
    "field '" ++ field ++ "' is declared more than once in '"
      ++ declaration ++ "'"
  | unclassified declaration field cause =>
    "cannot classify field '" ++ field ++ "' of '" ++ declaration ++ "': "
      ++ cause.message

end ConversionFailure

end KotlinBuilders
