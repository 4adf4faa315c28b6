import KotlinBuilders.Json.Token
import Mathlib.Tactic.IntervalCases
import Mathlib.Tactic.SplitIfs

/-!
# The texts of tokens

Each complete token has texts that write it: a bracket, a separator or a word
has one, while a number may spell its exponent in several ways and a string may
escape any character.  `Token.SpelledBy` says which text writes which token, and
`Spelled` puts tokens one after the other with white space between them.

The main statements are `Spelled.tokens_append`, that a text which spells tokens
is cut into them, and `exists_spelled_of_tokens`, that a text which is cut into
complete tokens spells them.  A number goes on as long as it can, so what comes
after it must not be able to continue it (`NumberText.EndsBefore`); every other
token says itself where it ends.
-/

namespace KotlinBuilders.Json

/-! ## Digits -/

/-- The byte of a decimal digit. -/
def digitByte (digit : Nat) : UInt8 := UInt8.ofNat (48 + digit)

/-- One or more values of decimal digits. -/
def AreDigits (digits : List Nat) : Prop :=
  digits ≠ [] ∧ ∀ digit ∈ digits, digit < 10

/-- Whether no digit begins a text. -/
def NoDigit (rest : List UInt8) : Prop := ∀ b ∈ rest.head?, isDigit b = false

/-- The byte of a digit is a digit. -/
theorem isDigit_digitByte {digit : Nat} (hdigit : digit < 10) :
    isDigit (digitByte digit) = true := by
  interval_cases digit <;> rfl

/-- The byte of a digit has the value of the digit. -/
theorem toNat_digitByte {digit : Nat} (hdigit : digit < 10) :
    (digitByte digit).toNat - 48 = digit := by
  interval_cases digit <;> rfl

/-- The digits are the bytes from 48 to 57. -/
theorem isDigit_iff {b : UInt8} : isDigit b = true ↔
    48 ≤ b.toNat ∧ b.toNat ≤ 57 := by
  simp [isDigit, UInt8.le_iff_toNat_le]

/-- A digit is the byte of its value. -/
theorem digitByte_toNat {b : UInt8} (hdigit : isDigit b = true) :
    digitByte (b.toNat - 48) = b := by
  have hbounds := isDigit_iff.1 hdigit
  rw [digitByte, Nat.add_sub_cancel' hbounds.1, UInt8.ofNat_toNat]

/-- Digits are cut off as they stand. -/
theorem scanDigits_append {digits : List Nat}
    (hdigits : ∀ digit ∈ digits, digit < 10) {rest : List UInt8}
    (hrest : NoDigit rest) :
    scanDigits (digits.map digitByte ++ rest) = (digits, rest) := by
  induction digits with
  | nil =>
    cases rest with
    | nil => rfl
    | cons b rest => simp [scanDigits, hrest b rfl]
  | cons digit digits ih =>
    obtain ⟨hdigit, hdigits⟩ := List.forall_mem_cons.1 hdigits
    rw [List.map_cons, List.cons_append, scanDigits,
      if_pos (isDigit_digitByte hdigit), ih hdigits, toNat_digitByte hdigit]

/-- What is cut off as digits are digits, and none follows them. -/
theorem eq_of_scanDigits {text rest : List UInt8} {digits : List Nat}
    (hscan : scanDigits text = (digits, rest)) :
    text = digits.map digitByte ++ rest ∧ (∀ digit ∈ digits, digit < 10)
      ∧ NoDigit rest := by
  induction text generalizing digits with
  | nil =>
    obtain ⟨rfl, rfl⟩ := Prod.mk.inj hscan
    simp [NoDigit]
  | cons b text ih =>
    rw [scanDigits] at hscan
    split_ifs at hscan with hdigit
    · obtain ⟨rfl, rfl⟩ := Prod.mk.inj hscan
      obtain ⟨htext, hdigits, hrest⟩ := ih rfl
      have hbounds := isDigit_iff.1 hdigit
      refine ⟨?_, List.forall_mem_cons.2 ⟨by omega, hdigits⟩, hrest⟩
      rw [List.map_cons, List.cons_append, digitByte_toNat hdigit, ← htext]
    · obtain ⟨rfl, rfl⟩ := Prod.mk.inj hscan
      refine ⟨rfl, fun _ hnone => absurd hnone List.not_mem_nil, fun c hc => ?_⟩
      obtain rfl := Option.some.inj hc
      simpa using hdigit

/-! ## Numbers -/

/-- The texts of a fraction. -/
inductive FractionText : Option (List Nat) → List UInt8 → Prop
  | none : FractionText none []
  | some {digits : List Nat} (hdigits : AreDigits digits) :
      FractionText (some digits) (46 :: digits.map digitByte)

/-- The texts of the sign of an exponent. -/
inductive SignText : Bool → List UInt8 → Prop
  | none : SignText false []
  | plus : SignText false [43]
  | minus : SignText true [45]

/-- The texts of an exponent. -/
inductive ExponentText : Option (Bool × List Nat) → List UInt8 → Prop
  | none : ExponentText none []
  | some {mark : UInt8} {isNegative : Bool} {sign : List UInt8}
      {digits : List Nat} (hmark : mark = 101 ∨ mark = 69)
      (hsign : SignText isNegative sign) (hdigits : AreDigits digits) :
      ExponentText (some (isNegative, digits))
        (mark :: (sign ++ digits.map digitByte))

/-- The texts of a number after its sign.  A zero in front stands alone. -/
inductive MagnitudeText : NumberText → List UInt8 → Prop
  | mk {isNegative : Bool} {whole : List Nat} {fraction : Option (List Nat)}
      {exponent : Option (Bool × List Nat)} {point power : List UInt8}
      (hwhole : AreDigits whole) (hzero : whole.head? = some 0 → whole = [0])
      (hfraction : FractionText fraction point)
      (hexponent : ExponentText exponent power) :
      MagnitudeText ⟨isNegative, whole, fraction, exponent, .complete⟩
        (whole.map digitByte ++ (point ++ power))

/-- The texts of a number. -/
def NumberText.SpelledBy (number : NumberText) (text : List UInt8) : Prop :=
  ∃ magnitude, MagnitudeText number magnitude ∧ text = if number.isNegative
    then 45 :: magnitude else magnitude

/-- Whether no exponent begins a text. -/
def NoExponent (rest : List UInt8) : Prop :=
  ∀ b ∈ rest.head?, ¬(b = 101 ∨ b = 69)

/-- Whether no point begins a text. -/
def NoPoint (rest : List UInt8) : Prop := ∀ b ∈ rest.head?, b ≠ 46

/-- Whether a number cannot go on with the text that comes after it. -/
structure NumberText.EndsBefore (number : NumberText)
    (rest : List UInt8) : Prop where
  digit : NoDigit rest
  exponent : number.exponent = none → NoExponent rest
  point : number.exponent = none → number.fraction = none → NoPoint rest

/-- Text that lacks a digit is not complete. -/
theorem ending_missingDigit (rest : List UInt8) :
    missingDigit rest ≠ .complete := by
  unfold missingDigit
  split <;> simp

/-- A sign in front of digits is scanned as what it says. -/
theorem scanSign_append {isNegative : Bool} {sign : List UInt8}
    (hsign : SignText isNegative sign) {digits : List Nat}
    (hdigits : AreDigits digits) (rest : List UInt8) :
    scanSign (sign ++ (digits.map digitByte ++ rest))
      = (isNegative, digits.map digitByte ++ rest) := by
  cases hsign with
  | none =>
    obtain ⟨hne, hall⟩ := hdigits
    obtain ⟨digit, digits, rfl⟩ := List.exists_cons_of_ne_nil hne
    have hdigit := isDigit_digitByte (hall digit List.mem_cons_self)
    have hminus : digitByte digit ≠ 45 :=
      fun heq => absurd (heq ▸ hdigit) (by decide)
    have hplus : digitByte digit ≠ 43 :=
      fun heq => absurd (heq ▸ hdigit) (by decide)
    rw [List.nil_append, List.map_cons, List.cons_append, scanSign,
      if_neg hminus, if_neg hplus]
  | plus => rfl
  | minus => rfl

/-- What is scanned as a sign is one, or nothing. -/
theorem eq_of_scanSign {text rest : List UInt8} {isNegative : Bool}
    (hscan : scanSign text = (isNegative, rest)) :
    ∃ sign, SignText isNegative sign ∧ text = sign ++ rest := by
  cases text with
  | nil =>
    obtain ⟨rfl, rfl⟩ := Prod.mk.inj hscan
    exact ⟨[], .none, rfl⟩
  | cons b text =>
    rw [scanSign] at hscan
    split_ifs at hscan with hminus hplus
    · obtain ⟨rfl, rfl⟩ := Prod.mk.inj hscan
      exact ⟨[45], .minus, by rw [hminus]; rfl⟩
    · obtain ⟨rfl, rfl⟩ := Prod.mk.inj hscan
      exact ⟨[43], .plus, by rw [hplus]; rfl⟩
    · obtain ⟨rfl, rfl⟩ := Prod.mk.inj hscan
      exact ⟨[], .none, rfl⟩

/-- An exponent is read where one stands, and none where none begins. -/
theorem scanExponent_append (number : NumberText)
    {exponent : Option (Bool × List Nat)} {power rest : List UInt8}
    (hexponent : ExponentText exponent power) (hdigit : NoDigit rest)
    (hmark : exponent = none → NoExponent rest) :
    scanExponent { number with exponent := none } (power ++ rest)
      = ({ number with exponent }, rest) := by
  cases hexponent with
  | none =>
    cases rest with
    | nil => rfl
    | cons b rest =>
      rw [List.nil_append, scanExponent, if_neg (hmark rfl b rfl)]
  | some hletter hsign hdigits =>
    rw [List.cons_append, List.append_assoc, scanExponent, if_pos hletter]
    simp only [scanSign_append hsign hdigits,
      scanDigits_append hdigits.2 hdigit]
    rw [if_neg (by simpa using hdigits.1)]

/-- A number that is complete after its exponent was looked for has the exponent
that stands there, if any does. -/
theorem eq_of_scanExponent {number scanned : NumberText}
    {text rest : List UInt8} (hnumber : number.exponent = none)
    (hscan : scanExponent number text = (scanned, rest))
    (hcomplete : scanned.ending = .complete) (hdigit : NoDigit text) :
    ∃ exponent power, ExponentText exponent power ∧ text = power ++ rest
      ∧ scanned = { number with exponent }
      ∧ NoDigit rest ∧ (exponent = none → NoExponent rest ∧ text = rest) := by
  have hsame : number = { number with exponent := none } := by rw [← hnumber]
  cases text with
  | nil =>
    obtain ⟨rfl, rfl⟩ := Prod.mk.inj hscan
    exact ⟨none, [], .none, rfl, hsame, hdigit, fun _ =>
      ⟨by simp [NoExponent], rfl⟩⟩
  | cons mark text =>
    obtain ⟨isNegative, unsigned, hsign⟩ :
        ∃ isNegative unsigned, scanSign text = (isNegative, unsigned) :=
      ⟨_, _, rfl⟩
    obtain ⟨digits, after, hdigits⟩ :
        ∃ digits after, scanDigits unsigned = (digits, after) := ⟨_, _, rfl⟩
    simp only [scanExponent, hsign, hdigits] at hscan
    split_ifs at hscan with hmark hempty
    · obtain ⟨rfl, -⟩ := Prod.mk.inj hscan
      exact absurd hcomplete (ending_missingDigit unsigned)
    · obtain ⟨rfl, rfl⟩ := Prod.mk.inj hscan
      obtain ⟨sign, hsignText, rfl⟩ := eq_of_scanSign hsign
      obtain ⟨rfl, hall, hend⟩ := eq_of_scanDigits hdigits
      refine ⟨_, _, .some hmark hsignText ⟨by simpa using hempty, hall⟩, ?_,
        rfl, hend, fun hnone => by cases hnone⟩
      rw [List.cons_append, List.append_assoc]
    · obtain ⟨rfl, rfl⟩ := Prod.mk.inj hscan
      refine ⟨none, [], .none, rfl, hsame, hdigit, fun _ =>
        ⟨fun b hb => ?_, rfl⟩⟩
      obtain rfl := Option.some.inj hb
      exact hmark

/-- No digit begins an exponent, nor what follows where there is none. -/
theorem noDigit_of_exponentText {exponent : Option (Bool × List Nat)}
    {power rest : List UInt8} (hexponent : ExponentText exponent power)
    (hrest : NoDigit rest) : NoDigit (power ++ rest) := by
  cases hexponent with
  | none => exact hrest
  | some hmark =>
    intro b hb
    obtain rfl := Option.some.inj hb
    rcases hmark with rfl | rfl <;> rfl

/-- No digit begins a fraction, nor what follows where there is none. -/
theorem noDigit_of_fractionText {fraction : Option (List Nat)}
    {point rest : List UInt8} (hfraction : FractionText fraction point)
    (hrest : NoDigit rest) : NoDigit (point ++ rest) := by
  cases hfraction with
  | none => exact hrest
  | some =>
    intro b hb
    obtain rfl := Option.some.inj hb
    rfl

/-- No point begins an exponent, nor what follows where there is none. -/
theorem noPoint_of_exponentText {exponent : Option (Bool × List Nat)}
    {power rest : List UInt8} (hexponent : ExponentText exponent power)
    (hrest : exponent = none → NoPoint rest) : NoPoint (power ++ rest) := by
  cases hexponent with
  | none => exact hrest rfl
  | some hmark =>
    intro b hb
    obtain rfl := Option.some.inj hb
    rcases hmark with rfl | rfl <;> decide

/-- A fraction and an exponent are read where they stand. -/
theorem scanFraction_append (number : NumberText) {fraction : Option (List Nat)}
    {exponent : Option (Bool × List Nat)} {point power rest : List UInt8}
    (hfraction : FractionText fraction point)
    (hexponent : ExponentText exponent power)
    (hrest : NumberText.EndsBefore { number with fraction, exponent } rest) :
    scanFraction { number with fraction := none, exponent := none }
      (point ++ (power ++ rest))
        = ({ number with fraction, exponent }, rest) := by
  have hpower := scanExponent_append
    { number with fraction } hexponent hrest.digit hrest.exponent
  cases hfraction with
  | none =>
    have hpoint : NoPoint (power ++ rest) :=
      noPoint_of_exponentText hexponent fun hnone => hrest.point hnone rfl
    rw [List.nil_append]
    cases htext : power ++ rest with
    | nil =>
      rw [htext] at hpower
      exact hpower
    | cons b text =>
      rw [htext] at hpower hpoint
      rw [scanFraction, if_neg (hpoint b rfl)]
      exact hpower
  | some hdigits =>
    rw [List.cons_append, scanFraction, if_pos rfl]
    simp only [scanDigits_append hdigits.2
      (noDigit_of_exponentText hexponent hrest.digit)]
    rw [if_neg (by simpa using hdigits.1)]
    exact hpower

/-- A number that is complete after its fraction was looked for has what stands
there. -/
theorem eq_of_scanFraction {number scanned : NumberText}
    {text rest : List UInt8} (hfraction : number.fraction = none)
    (hexponent : number.exponent = none)
    (hscan : scanFraction number text = (scanned, rest))
    (hcomplete : scanned.ending = .complete) (hdigit : NoDigit text) :
    ∃ fraction exponent point power, FractionText fraction point
      ∧ ExponentText exponent power
      ∧ text = point ++ (power ++ rest) ∧ scanned
        = { number with fraction, exponent } ∧ scanned.EndsBefore rest := by
  have hsame : number = { number with fraction := none } := by rw [← hfraction]
  cases text with
  | nil =>
    obtain ⟨rfl, rfl⟩ := Prod.mk.inj hscan
    refine ⟨none, none, [], [], .none, .none, rfl,
      by rw [← hfraction, ← hexponent], ?_⟩
    exact ⟨hdigit, fun _ => by simp [NoExponent], fun _ _ => by simp [NoPoint]⟩
  | cons mark text =>
    obtain ⟨digits, after, hdigits⟩ :
        ∃ digits after, scanDigits text = (digits, after) := ⟨_, _, rfl⟩
    simp only [scanFraction, hdigits] at hscan
    split_ifs at hscan with hmark hempty
    · obtain ⟨rfl, -⟩ := Prod.mk.inj hscan
      exact absurd hcomplete (ending_missingDigit text)
    · obtain ⟨rfl, hall, hafter⟩ := eq_of_scanDigits hdigits
      obtain ⟨exponent, power, hpower, rfl, rfl, hend, hnone⟩ :=
        eq_of_scanExponent (by exact hexponent) hscan hcomplete hafter
      refine ⟨some digits, exponent, _, power,
        .some ⟨by simpa using hempty, hall⟩, hpower, ?_, rfl, ?_⟩
      · rw [hmark, List.cons_append]
      · exact ⟨hend, fun hmissing => (hnone hmissing).1, fun _ hmissing =>
          by cases hmissing⟩
    · obtain ⟨exponent, power, hpower, htext, rfl, hend, hnone⟩ :=
        eq_of_scanExponent hexponent hscan hcomplete hdigit
      refine ⟨none, exponent, [], power, .none, hpower, htext,
        by rw [← hfraction], ?_⟩
      refine ⟨hend, fun hmissing => (hnone hmissing).1,
        fun hmissing _ b hb => ?_⟩
      rw [← (hnone hmissing).2] at hb
      obtain rfl := Option.some.inj hb
      exact hmark

/-- **A number is read as it is spelled**, if what comes after it cannot
continue it. -/
theorem scanMagnitude_append {number : NumberText} {magnitude rest : List UInt8}
    (hmagnitude : MagnitudeText number magnitude)
    (hrest : number.EndsBefore rest) :
    scanMagnitude { isNegative := number.isNegative } (magnitude ++ rest)
      = (number, rest) := by
  obtain ⟨hwhole, hzero, hfraction, hexponent⟩ := hmagnitude
  rename_i isNegative whole fraction exponent point power
  have hdigits : scanDigits (whole.map digitByte ++ (point ++ (power ++ rest)))
      = (whole, point ++ (power ++ rest)) :=
    scanDigits_append hwhole.2
      (noDigit_of_fractionText hfraction
        (noDigit_of_exponentText hexponent hrest.digit))
  have hscan :=
    scanFraction_append { isNegative, whole } hfraction hexponent hrest
  rw [List.append_assoc, List.append_assoc, scanMagnitude, hdigits]
  dsimp only
  split
  · next hnil => exact absurd rfl hwhole.1
  · next digit digits => cases hzero rfl
  · exact hscan

/-- A complete number was spelled by what was read, and what comes after it
cannot continue it. -/
theorem eq_of_scanMagnitude {isNegative : Bool} {number : NumberText}
    {text rest : List UInt8}
    (hscan : scanMagnitude { isNegative } text = (number, rest))
    (hcomplete : number.ending = .complete) :
    ∃ magnitude, MagnitudeText number magnitude ∧ text = magnitude ++ rest
      ∧ number.isNegative = isNegative
      ∧ number.EndsBefore rest := by
  obtain ⟨whole, after, hdigits⟩ :
      ∃ whole after, scanDigits text = (whole, after) := ⟨_, _, rfl⟩
  obtain ⟨htext, hall, hafter⟩ := eq_of_scanDigits hdigits
  simp only [scanMagnitude, hdigits] at hscan
  split at hscan
  · obtain ⟨rfl, -⟩ := Prod.mk.inj hscan
    exact absurd hcomplete (ending_missingDigit text)
  · obtain ⟨rfl, -⟩ := Prod.mk.inj hscan
    cases hcomplete
  · next hnonempty hleading =>
    obtain ⟨fraction, exponent, point, power, hfraction, hexponent,
        rfl, rfl, hend⟩ :=
      eq_of_scanFraction rfl rfl hscan hcomplete hafter
    refine ⟨_, .mk ⟨hnonempty, hall⟩ ?_ hfraction hexponent, ?_, rfl, hend⟩
    · intro hzero
      match whole, hzero, hleading with
      | [0], _, _ => rfl
      | 0 :: second :: others, _, hleading =>
        exact absurd rfl (hleading second others)
    · rw [htext, List.append_assoc, List.append_assoc]

/-! ## Strings -/

/-- The texts of a piece of a string. -/
inductive PieceText : Piece → List UInt8 → Prop
  | byte {b : UInt8} (hcontrol : 32 ≤ b) (hmark : b ≠ 34) (hescape : b ≠ 92) :
      PieceText (.byte b) [b]
  | escaped {letter b : UInt8} (hletter : escapedByte? letter = some b) :
      PieceText (.escaped b) [92, letter]
  | unit {a b c d : UInt8} {n : Nat} (hunit : unitValue? a b c d = some n) :
      PieceText (.unit n) [92, 117, a, b, c, d]

/-- The texts of the pieces of a string. -/
inductive PiecesText : List Piece → List UInt8 → Prop
  | nil : PiecesText [] []
  | cons {piece : Piece} {pieces : List Piece} {text more : List UInt8}
      (hpiece : PieceText piece text) (hpieces : PiecesText pieces more) :
      PiecesText (piece :: pieces) (text ++ more)

/-- The texts of a string, between its marks. -/
inductive StringText.SpelledBy : StringText → List UInt8 → Prop
  | mk {pieces : List Piece} {inside : List UInt8}
      (hpieces : PiecesText pieces inside) :
      SpelledBy ⟨pieces, .closed⟩ (34 :: (inside ++ [34]))

/-- One piece is read as it is spelled. -/
theorem scanString_piece {piece : Piece} {text : List UInt8}
    (hpiece : PieceText piece text) (rest : List UInt8) :
    scanString (text ++ rest)
      = ((scanString rest).1.prepend piece, (scanString rest).2) := by
  cases hpiece with
  | byte hcontrol hmark hescape =>
    rw [List.singleton_append, scanString.eq_def]
    simp only [hmark, UInt8.not_lt.2 hcontrol, hescape, reduceIte]
  | @escaped letter b hletter =>
    have hplain : letter ≠ 117 :=
      fun heq => by rw [heq] at hletter; cases hletter
    rw [List.cons_append, List.singleton_append, scanString.eq_def]
    simp [hplain, hletter]
  | unit hunit =>
    simp only [List.cons_append, List.nil_append]
    rw [scanString.eq_def]
    simp [hunit]

/-- **A string is read as it is spelled.** -/
theorem scanString_append {pieces : List Piece} {inside : List UInt8}
    (hpieces : PiecesText pieces inside) (rest : List UInt8) :
    scanString (inside ++ 34 :: rest) = (⟨pieces, .closed⟩, rest) := by
  induction hpieces with
  | nil => rw [List.nil_append, scanString.eq_def]; rfl
  | cons hpiece _ ih => rw [List.append_assoc, scanString_piece hpiece, ih]; rfl

/-- A string that is closed was spelled by what was read, up to its closing
mark. -/
theorem eq_of_scanString {text rest : List UInt8} {string : StringText}
    (hscan : scanString text = (string, rest))
    (hclosed : string.ending = .closed) :
    ∃ inside, PiecesText string.pieces inside
      ∧ text = inside ++ 34 :: rest := by
  fun_induction scanString text generalizing string rest with
  | case1 => obtain ⟨rfl, -⟩ := Prod.mk.inj hscan; cases hclosed
  | case2 text =>
    obtain ⟨rfl, rfl⟩ := Prod.mk.inj hscan
    exact ⟨[], .nil, rfl⟩
  | case3 => obtain ⟨rfl, -⟩ := Prod.mk.inj hscan; cases hclosed
  | case4 => obtain ⟨rfl, -⟩ := Prod.mk.inj hscan; cases hclosed
  | case5 a b c d text n hunit _ _ ih =>
    obtain ⟨rfl, rfl⟩ := Prod.mk.inj hscan
    obtain ⟨inside, hinside, htext⟩ := ih rfl hclosed
    exact ⟨_, .cons (.unit hunit) hinside,
      congrArg (fun more => 92 :: 117 :: a :: b :: c :: d :: more) htext⟩
  | case6 => obtain ⟨rfl, -⟩ := Prod.mk.inj hscan; cases hclosed
  | case7 => obtain ⟨rfl, -⟩ := Prod.mk.inj hscan; cases hclosed
  | case8 letter text hplain b hletter _ _ ih =>
    obtain ⟨rfl, rfl⟩ := Prod.mk.inj hscan
    obtain ⟨inside, hinside, htext⟩ := ih rfl hclosed
    exact ⟨_, .cons (.escaped hletter) hinside,
      congrArg (fun more => 92 :: letter :: more) htext⟩
  | case9 => obtain ⟨rfl, -⟩ := Prod.mk.inj hscan; cases hclosed
  | case10 b text hmark hcontrol hescape ih =>
    obtain ⟨rfl, rfl⟩ := Prod.mk.inj hscan
    obtain ⟨inside, hinside, htext⟩ := ih rfl hclosed
    exact ⟨_, .cons (.byte (UInt8.not_lt.1 hcontrol) hmark hescape) hinside,
      congrArg (b :: ·) htext⟩

/-! ## Words -/

/-- The bytes of a word. -/
def Word.bytes : Word → List UInt8
  | .null => [110, 117, 108, 108]
  | .bool true => [116, 114, 117, 101]
  | .bool false => [102, 97, 108, 115, 101]

/-- A word that is scanned to its end is what was missing of it. -/
theorem eq_of_scanWord {missing text rest : List UInt8}
    (hscan : scanWord missing text = (.complete, rest)) :
    text = missing ++ rest := by
  fun_induction scanWord missing text with
  | case1 text => exact (Prod.mk.inj hscan).2
  | case2 => cases hscan
  | case3 b missing text ih => rw [ih hscan, List.cons_append]
  | case4 => cases hscan

/-- The letter that begins a word and what is missing make up the word. -/
theorem bytes_of_wordFrom? {b : UInt8} {word : Word} {missing : List UInt8}
    (hword : wordFrom? b = some (word, missing)) :
    word.bytes = b :: missing := by
  unfold wordFrom? at hword
  split_ifs at hword with hnull htrue hfalse
  · obtain ⟨rfl, rfl⟩ := Prod.mk.inj (Option.some.inj hword)
    rw [hnull, Word.bytes]
  · obtain ⟨rfl, rfl⟩ := Prod.mk.inj (Option.some.inj hword)
    rw [htrue, Word.bytes]
  · obtain ⟨rfl, rfl⟩ := Prod.mk.inj (Option.some.inj hword)
    rw [hfalse, Word.bytes]

/-! ## Tokens -/

/-- The texts of a token. -/
inductive Token.SpelledBy : Token → List UInt8 → Prop
  | openList : SpelledBy .openList [91]
  | closeList : SpelledBy .closeList [93]
  | openObject : SpelledBy .openObject [123]
  | closeObject : SpelledBy .closeObject [125]
  | comma : SpelledBy .comma [44]
  | colon : SpelledBy .colon [58]
  | word (word : Word) : SpelledBy (.word word .complete) word.bytes
  | number {number : NumberText} {text : List UInt8}
      (hnumber : number.SpelledBy text) :
      SpelledBy (.number number) text
  | string {string : StringText} {text : List UInt8}
      (hstring : string.SpelledBy text) :
      SpelledBy (.string string) text

/-- Whether a token cannot go on with the text that comes after it. -/
def Token.EndsBefore : Token → List UInt8 → Prop
  | .number n, rest => n.EndsBefore rest
  | _, _ => True

/-- Whether a token is well formed. -/
def Token.IsComplete : Token → Prop
  | .word _ ending => ending = .complete
  | .number n => n.ending = .complete
  | .string s => s.ending = .closed
  | .stray => False
  | _ => True

/-- Whether a text is white space. -/
def AllSpace (text : List UInt8) : Prop := ∀ b ∈ text, isSpace b = true

/-- Nothing is white space. -/
theorem allSpace_nil : AllSpace [] :=
  fun _ hnone => absurd hnone List.not_mem_nil

/-- The texts of a list of tokens, one after the other with white space around
them. -/
inductive Spelled : List Token → List UInt8 → Prop
  | nil {blanks : List UInt8} (hblanks : AllSpace blanks) : Spelled [] blanks
  | cons {token : Token} {tokens : List Token} {blanks lexeme rest : List UInt8}
      (hblanks : AllSpace blanks) (hlexeme : token.SpelledBy lexeme)
      (hends : token.EndsBefore rest) (hrest : Spelled tokens rest) :
      Spelled (token :: tokens) (blanks ++ (lexeme ++ rest))

/-- A token that a digit begins is a number. -/
theorem scanToken_of_isDigit {b : UInt8} (hdigit : isDigit b = true)
    (rest : List UInt8) :
    scanToken b rest = (.number (scanMagnitude {} (b :: rest)).1,
      (scanMagnitude {} (b :: rest)).2) := by
  have hsingle : single? b = none := by
    unfold single?
    split_ifs with h₁ h₂ h₃ h₄ h₅ h₆ <;> first | rfl | (subst b; cases hdigit)
  have hword : wordFrom? b = none := by
    unfold wordFrom?
    split_ifs with h₁ h₂ h₃ <;> first | rfl | (subst b; cases hdigit)
  have hmark : b ≠ 34 := by rintro rfl; cases hdigit
  have hminus : b ≠ 45 := by rintro rfl; cases hdigit
  simp [scanToken, hsingle, hword, hmark, hminus, hdigit]

/-- A magnitude begins with a digit. -/
theorem exists_isDigit_of_magnitudeText {number : NumberText}
    {magnitude : List UInt8} (hmagnitude : MagnitudeText number magnitude) :
    ∃ b rest, magnitude = b :: rest ∧ isDigit b = true := by
  obtain ⟨⟨hne, hall⟩, -, -, -⟩ := hmagnitude
  rename_i whole _ _ _ _
  obtain ⟨digit, digits, rfl⟩ := List.exists_cons_of_ne_nil hne
  exact ⟨_, _, rfl, isDigit_digitByte (hall digit List.mem_cons_self)⟩

/-- **A token is read as it is spelled**, and no spelling begins with white
space. -/
theorem scanToken_append {token : Token} {lexeme rest : List UInt8}
    (hlexeme : token.SpelledBy lexeme) (hends : token.EndsBefore rest) :
    ∃ b text, lexeme = b :: text ∧ isSpace b = false
      ∧ scanToken b (text ++ rest) = (token, rest) := by
  cases hlexeme with
  | word word =>
    obtain _ | (_ | _) := word
    all_goals exact ⟨_, _, rfl, rfl,
      by simp [scanToken, single?, wordFrom?, scanWord]⟩
  | @number number _ hnumber =>
    obtain ⟨magnitude, hmagnitude, rfl⟩ := hnumber
    have hscan := scanMagnitude_append hmagnitude hends
    obtain ⟨b, text, rfl, hdigit⟩ := exists_isDigit_of_magnitudeText hmagnitude
    cases hsign : number.isNegative with
    | true =>
      rw [hsign, List.cons_append] at hscan
      refine ⟨45, b :: text, rfl, rfl, ?_⟩
      simp [scanToken, single?, wordFrom?, hscan]
    | false =>
      rw [hsign] at hscan
      refine ⟨b, text, rfl, ?_, ?_⟩
      · by_contra hspace
        simp only [isSpace, Bool.or_eq_true, beq_iff_eq,
          Bool.not_eq_false] at hspace
        rcases hspace with ((rfl | rfl) | rfl) | rfl <;> cases hdigit
      · rw [scanToken_of_isDigit hdigit, ← List.cons_append, hscan]
  | string hstring =>
    obtain ⟨hpieces⟩ := hstring
    refine ⟨34, _, rfl, rfl, ?_⟩
    rw [List.append_assoc, List.singleton_append]
    simp [scanToken, single?, wordFrom?, scanString_append hpieces]
  | _ => exact ⟨_, [], rfl, rfl, rfl⟩

/-- A complete token was spelled by what was read, and what comes after it
cannot continue it. -/
theorem eq_of_scanToken {b : UInt8} {text rest : List UInt8} {token : Token}
    (hscan : scanToken b text = (token, rest)) (hcomplete : token.IsComplete) :
    ∃ lexeme, token.SpelledBy lexeme ∧ b :: text = lexeme ++ rest
      ∧ token.EndsBefore rest := by
  unfold scanToken at hscan
  split at hscan
  · next single hsingle =>
    obtain ⟨rfl, rfl⟩ := Prod.mk.inj hscan
    refine ⟨[b], ?_, rfl, ?_⟩
    all_goals
      unfold single? at hsingle
      split_ifs at hsingle with h₁ h₂ h₃ h₄ h₅ h₆
      all_goals
        obtain rfl := Option.some.inj hsingle
        subst b
        first | trivial | constructor
  · next word missing hnone hword =>
    obtain ⟨rfl, rfl⟩ := Prod.mk.inj hscan
    have htext := eq_of_scanWord (Prod.ext (by exact hcomplete) rfl)
    refine ⟨word.bytes, ?_, ?_, trivial⟩
    · rw [show (scanWord missing text).1 = .complete from hcomplete]
      exact .word word
    · rw [bytes_of_wordFrom? hword, List.cons_append, ← htext]
  · dsimp only at hscan
    split_ifs at hscan with hmark hminus hdigit
    · obtain ⟨rfl, rfl⟩ := Prod.mk.inj hscan
      obtain ⟨inside, hinside, htext⟩ := eq_of_scanString rfl hcomplete
      refine ⟨34 :: (inside ++ [34]), .string ?_, ?_, trivial⟩
      · rw [show (scanString text).1
          = ⟨(scanString text).1.pieces, .closed⟩ from by rw [← hcomplete]]
        exact .mk hinside
      · rw [hmark, List.cons_append, List.append_assoc,
          List.singleton_append, ← htext]
    · obtain ⟨number, after, hnumber⟩ : ∃ number after,
          scanMagnitude { isNegative := true } text = (number, after) :=
        ⟨_, _, rfl⟩
      rw [hnumber] at hscan
      obtain ⟨rfl, rfl⟩ := Prod.mk.inj hscan
      obtain ⟨magnitude, hmagnitude, htext, hsign, hend⟩ :=
        eq_of_scanMagnitude hnumber hcomplete
      refine ⟨45 :: magnitude,
        .number ⟨magnitude, hmagnitude, by rw [hsign]; rfl⟩, ?_, hend⟩
      rw [hminus, List.cons_append, ← htext]
    · obtain ⟨number, after, hnumber⟩ :
          ∃ number after, scanMagnitude {} (b :: text) = (number, after) :=
        ⟨_, _, rfl⟩
      rw [hnumber] at hscan
      obtain ⟨rfl, rfl⟩ := Prod.mk.inj hscan
      obtain ⟨magnitude, hmagnitude, htext, hsign, hend⟩ :=
        eq_of_scanMagnitude hnumber hcomplete
      exact ⟨magnitude,
        .number ⟨magnitude, hmagnitude, by rw [hsign]; rfl⟩, htext, hend⟩
    · obtain ⟨rfl, -⟩ := Prod.mk.inj hscan
      exact hcomplete.elim

/-- There are no tokens in nothing. -/
@[simp] theorem tokens_nil : tokens [] = [] := by rw [tokens]

/-- White space in front of a text adds no token. -/
theorem tokens_space_cons {b : UInt8} (hspace : isSpace b = true)
    (rest : List UInt8) :
    tokens (b :: rest) = tokens rest := by
  rw [tokens, if_pos hspace]

/-- Any other byte begins a token, behind which the next ones are scanned. -/
theorem tokens_cons {b : UInt8} (hspace : isSpace b = false)
    (rest : List UInt8) :
    tokens (b :: rest)
      = (scanToken b rest).1 :: tokens (scanToken b rest).2 := by
  rw [tokens, if_neg (by simp [hspace])]

/-- White space of any length in front of a text adds no token. -/
theorem tokens_spaces_append {blanks : List UInt8} (hblanks : AllSpace blanks)
    (rest : List UInt8) :
    tokens (blanks ++ rest) = tokens rest := by
  induction blanks with
  | nil => rfl
  | cons b blanks ih =>
    obtain ⟨hspace, hblanks⟩ := List.forall_mem_cons.1 hblanks
    rw [List.cons_append, tokens_space_cons hspace, ih hblanks]

/-- A lexeme in front of a text that cannot continue it is scanned as its
token. -/
theorem tokens_lexeme_append {token : Token} {lexeme rest : List UInt8}
    (hlexeme : token.SpelledBy lexeme) (hends : token.EndsBefore rest) :
    tokens (lexeme ++ rest) = token :: tokens rest := by
  obtain ⟨b, text, rfl, hspace, hscan⟩ := scanToken_append hlexeme hends
  rw [List.cons_append, tokens_cons hspace, hscan]

/-- A spelling may be preceded by more white space. -/
theorem Spelled.space_cons {written : List Token} {b : UInt8}
    {text : List UInt8} (hspace : isSpace b = true)
    (hspelled : Spelled written text) : Spelled written (b :: text) := by
  cases hspelled with
  | nil hblanks => exact .nil (List.forall_mem_cons.2 ⟨hspace, hblanks⟩)
  | cons hblanks hlexeme hends hrest =>
    have hblanks : AllSpace (b :: _) := List.forall_mem_cons.2 ⟨hspace, hblanks⟩
    exact .cons hblanks hlexeme hends hrest

/-- The head of a list stays when the list is continued. -/
theorem head?_of_head?_append {α : Type} {front back : List α} {a : α}
    (hhead : a ∈ front.head?) :
    a ∈ (front ++ back).head? := by
  cases front with
  | nil => cases hhead
  | cons => exact hhead

/-- At the end of a text nothing continues a token. -/
theorem Token.endsBefore_nil (token : Token) : token.EndsBefore [] := by
  cases token with
  | number => exact ⟨nofun, fun _ => nofun, fun _ _ => nofun⟩
  | _ => trivial

/-- A token ends before a joined text if it ends before the first part, or
before the second where the first is empty. -/
theorem Token.EndsBefore.append {token : Token} {front back : List UInt8}
    (hfront : token.EndsBefore front)
    (hback : front = [] → token.EndsBefore back) :
    token.EndsBefore (front ++ back) := by
  cases front with
  | nil => exact hback rfl
  | cons b front =>
    cases token with
    | number => exact ⟨hfront.digit, hfront.exponent, hfront.point⟩
    | _ => trivial

/-- A token that ends before a text ends before the front of it. -/
theorem Token.EndsBefore.of_append {token : Token} {front back : List UInt8}
    (hends : token.EndsBefore (front ++ back)) : token.EndsBefore front := by
  cases token with
  | number number =>
    exact ⟨fun b hb => hends.digit b (head?_of_head?_append hb),
      fun hnone b hb => hends.exponent hnone b (head?_of_head?_append hb),
      fun hnone hnone' b hb =>
        hends.point hnone hnone' b (head?_of_head?_append hb)⟩
  | _ => trivial

/-- **A text that spells tokens is cut into them**, whatever comes after it that
the last of them cannot go on with. -/
theorem Spelled.tokens_append {written : List Token} {text rest : List UInt8}
    (hspelled : Spelled written text)
    (hlast : ∀ token ∈ written.getLast?, token.EndsBefore rest) :
    tokens (text ++ rest) = written ++ tokens rest := by
  induction hspelled with
  | nil hblanks => exact tokens_spaces_append hblanks rest
  | @cons token written blanks lexeme after hblanks hlexeme hends hafter ih =>
    have hends : token.EndsBefore (after ++ rest) := by
      refine hends.append fun hnil => ?_
      cases hafter with
      | nil => exact hlast token rfl
      | cons _ hlexeme =>
        obtain ⟨b, text, rfl, -, -⟩ :=
          scanToken_append hlexeme (Token.endsBefore_nil _)
        simp at hnil
    rw [List.append_assoc, List.append_assoc, tokens_spaces_append hblanks,
      tokens_lexeme_append hlexeme hends, ih fun other hother => hlast other ?_,
      List.cons_append]
    cases written with
    | nil => cases hother
    | cons => exact hother

/-- Where the first tokens of a text are complete, the text begins with a
spelling of them. -/
theorem exists_spelled_of_tokens {text : List UInt8} {written more : List Token}
    (htokens : tokens text = written ++ more)
    (hcomplete : ∀ token ∈ written, token.IsComplete) :
    ∃ front rest, text = front ++ rest ∧ Spelled written front
      ∧ tokens rest = more := by
  fun_induction tokens text generalizing written with
  | case1 =>
    obtain ⟨rfl, rfl⟩ := List.nil_eq_append_iff.1 htokens
    exact ⟨[], [], rfl, .nil allSpace_nil, tokens_nil⟩
  | case2 b rest hspace ih =>
    obtain ⟨front, rest, rfl, hspelled, hrest⟩ := ih htokens hcomplete
    exact ⟨b :: front, rest, rfl, hspelled.space_cons hspace, hrest⟩
  | case3 b rest hspace ih =>
    cases written with
    | nil =>
      refine ⟨[], b :: rest, rfl, .nil allSpace_nil, ?_⟩
      rw [tokens_cons (by simpa using hspace), htokens, List.nil_append]
    | cons token written =>
      obtain ⟨hfirst, hothers⟩ := List.cons_eq_cons.1 htokens
      obtain ⟨htoken, hcomplete⟩ := List.forall_mem_cons.1 hcomplete
      have hscan : scanToken b rest = (token, (scanToken b rest).2) :=
        Prod.ext hfirst rfl
      obtain ⟨lexeme, hlexeme, htext, hends⟩ := eq_of_scanToken hscan htoken
      obtain ⟨front, after, hafter, hspelled, hmore⟩ := ih hothers hcomplete
      rw [hafter] at hends htext
      refine ⟨lexeme ++ front, after, ?_, ?_, hmore⟩
      · rw [htext, List.append_assoc]
      · exact Spelled.cons allSpace_nil hlexeme hends.of_append hspelled

end KotlinBuilders.Json
