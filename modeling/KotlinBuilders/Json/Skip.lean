import KotlinBuilders.Json.Node

/-!
# Values that nobody wants

The value of an unknown key is skipped.  It has to be well formed, but its
strings are not decoded and the size of its numbers does not matter.
-/

namespace KotlinBuilders.Json

/-- The fault of a word that is skipped or wanted, if it has one. -/
def Ending.wordFault? : Ending → Option Fault
  | .complete => none
  | .cut => some .valueCut
  | .broken => some .noWord

/-- The fault of a skipped list that stopped in a given way, if that is one. -/
def ListStop.faultSkipped? : ListStop → Option Fault
  | .closed | .inside => none
  | .cut => some .listCut
  | .cutAfterComma => some .valueCut
  | .trailingComma => some .noValue
  | .noSeparator => some .noCommaOrBracket

/-- The fault of a skipped object that stopped in a given way, if that is
one. -/
def ObjectStop.faultSkipped? : ObjectStop → Option Fault
  | .closed | .inside => none
  | .cut | .cutAfterComma => some .objectCut
  | .trailingComma | .noKey => some .keyNotString
  | .noSeparator => some .noCommaOrBrace
  | .noColon key atEnd =>
    key.faultSkipped?.or (some (if atEnd then .objectCut else .noColon))

namespace Node

mutual

/-- The first fault of a value that is skipped, if it has one. -/
def faultSkipped? : Node → Option Fault
  | .missing => some .valueCut
  | .stray => some .noValue
  | .word _ ending => ending.wordFault?
  | .number n => n.faultSkipped?
  | .string s => s.faultSkipped?
  | .list elements stop => (elementsFault? elements).or stop.faultSkipped?
  | .object members stop => (membersFault? members).or stop.faultSkipped?

/-- The first fault of several values that are skipped, if one has any. -/
def elementsFault? : List Node → Option Fault
  | [] => none
  | node :: nodes => (faultSkipped? node).or (elementsFault? nodes)

/-- The first fault of several members that are skipped, if one has any. -/
def membersFault? : List (StringText × Node) → Option Fault
  | [] => none
  | (key, node) :: members =>
    (key.faultSkipped?.or (faultSkipped? node)).or (membersFault? members)

end

/-- The fault of a value where something else is wanted. -/
def faultWhere (wanted : String) : Node → Fault
  | .missing => .valueCut
  | .stray => .noValue
  | .word w ending => ending.wordFault?.getD (.invalidType w.found wanted)
  | .number n => n.faultWhere wanted
  | .string s =>
    match s.decode with
    | .ok text => .invalidType (.string text) wanted
    | .error fault => fault
  | .list .. => .invalidType .list wanted
  | .object .. => .invalidType .object wanted

end Node

end KotlinBuilders.Json
