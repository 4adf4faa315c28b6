/-!
# Warnings

What a run notes without stopping: a declaration that was skipped, an alias that
leads nowhere, a marker on no field, and a type whose brackets do not balance.
-/

namespace KotlinBuilders

/-- What a run notes without stopping. -/
inductive Warning where
  | declarationSkipped (declaration reason : String)
  | unresolvedAlias (declaration field target : String)
  | unknownMarkerField (declaration field : String)
  | malformedGenerics (declaration field type : String)
  deriving DecidableEq, Repr

namespace Warning

/-- The wording of the warning. -/
def message : Warning → String
  | declarationSkipped declaration reason =>
    "Skipped '" ++ declaration ++ "': " ++ reason
  | unresolvedAlias declaration field target =>
    "'" ++ declaration ++ "." ++ field ++ "': alias target '" ++ target
      ++ "' is unknown, using the declared type"
  | unknownMarkerField declaration field =>
    "'" ++ declaration ++ "': markers reference unknown field '" ++ field ++ "'"
  | malformedGenerics declaration field type =>
    "'" ++ declaration ++ "." ++ field ++ "': unbalanced generic brackets in '"
      ++ type ++ "'"

/-- Whether the warning stands for a declaration without a builder. -/
def isSkip : Warning → Bool
  | declarationSkipped .. => true
  | _ => false

end Warning

end KotlinBuilders
