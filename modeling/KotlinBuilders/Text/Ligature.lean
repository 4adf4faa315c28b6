import KotlinBuilders.Text.Columns

/-!
# Letters that melt together

In some scripts two letters are shown as one.  A ligature is known by its last
letter: `Ending` says which letter that is, and `Ending.join?` what a character
before it makes of the ligature.  Some letters melt together only where a joiner
stands between them.
-/

namespace KotlinBuilders.Text

/-- The code points of the joining group `Lam`. -/
def lamRanges : Ranges :=
  [(0x644, 0x644), (0x6b5, 0x6b8), (0x76a, 0x76a), (0x8a6, 0x8a6),
    (0x8c7, 0x8c7)]

/-- The code points of the joining group `Alef`. -/
def alefRanges : Ranges :=
  [(0x622, 0x623), (0x625, 0x625), (0x627, 0x627), (0x671, 0x673),
    (0x675, 0x675),
   (0x773, 0x774), (0x870, 0x882)]

/-- The weightless code points that part the letters around them, so that these
do not join. -/
def parterRanges : Ranges :=
  [(0x605, 0x605), (0x890, 0x891), (0x8e2, 0x8e2), (0x9be, 0x9be),
    (0x9d7, 0x9d7),
   (0xb3e, 0xb3e), (0xb57, 0xb57), (0xbbe, 0xbbe), (0xbd7, 0xbd7),
   (0xcc0, 0xcc0), (0xcc2, 0xcc2), (0xcc7, 0xcc8), (0xcca, 0xccb),
   (0xcd5, 0xcd6), (0xd3e, 0xd3e), (0xd4e, 0xd4e), (0xd57, 0xd57),
   (0xdcf, 0xdcf), (0xddf, 0xddf), (0x1160, 0x11ff), (0x1715, 0x1715),
   (0x1734, 0x1734), (0x180e, 0x180e), (0x1b35, 0x1b35), (0x1b3b, 0x1b3b),
   (0x1b3d, 0x1b3d), (0x1b43, 0x1b44), (0x1baa, 0x1baa), (0x1bf2, 0x1bf3),
   (0x200c, 0x200d), (0x2065, 0x2069), (0x302e, 0x302f), (0x3164, 0x3164),
   (0xa8fa, 0xa8fa), (0xa953, 0xa953), (0xa9c0, 0xa9c0), (0xd7b0, 0xd7c6),
   (0xd7cb, 0xd7fb), (0xff9e, 0xffa0), (0xfff0, 0xfff8), (0x111c0, 0x111c0),
   (0x111c2, 0x111c3), (0x11235, 0x11235), (0x1133e, 0x1133e),
   (0x1134d, 0x1134d), (0x11357, 0x11357), (0x113b8, 0x113b8),
   (0x113c2, 0x113c2), (0x113c5, 0x113c5), (0x113c7, 0x113c9),
   (0x113cf, 0x113cf), (0x113d1, 0x113d1), (0x114b0, 0x114b0),
   (0x114bd, 0x114bd), (0x115af, 0x115af), (0x116b6, 0x116b6),
   (0x11930, 0x11930), (0x1193d, 0x1193d), (0x1193f, 0x1193f),
   (0x11941, 0x11941), (0x11a84, 0x11a89), (0x11d46, 0x11d46),
   (0x11f02, 0x11f02), (0x11f41, 0x11f41), (0x16ff0, 0x16ff1),
   (0x1d165, 0x1d166), (0x1d16d, 0x1d172), (0xe0000, 0xe0000),
   (0xe0002, 0xe001f), (0xe0080, 0xe00ff), (0xe01f0, 0xe0fff)]

/-- The Khmer letters that can be written below another one. -/
def subjoinedRanges : Ranges :=
  [(0x1780, 0x1782), (0x1784, 0x1787), (0x1789, 0x178c), (0x178e, 0x1793),
    (0x1795, 0x1798),
   (0x179b, 0x179d), (0x17a0, 0x17a0), (0x17a2, 0x17a2), (0x17a7, 0x17a7),
   (0x17ab, 0x17ac), (0x17af, 0x17af)]

/-- The zero-width joiner. -/
def joiner : Char := '\u200d'

/-- The mark that joins two Tifinagh consonants. -/
def consonantJoiner : Char := '\u2d7f'

/-- Whether the character is a Tifinagh consonant. -/
def isTifinaghConsonant (c : Char) : Bool :=
  (0x2d31 ≤ c.toNat && c.toNat ≤ 0x2d65) || c == '\u2d6f'

/-- Whether the character is a Lisu tone letter that can begin a pair. -/
def isFirstTone (c : Char) : Bool := 0xa4f8 ≤ c.toNat && c.toNat ≤ 0xa4fb

/-- Whether the character is a Lisu tone letter that can end a pair. -/
def isSecondTone (c : Char) : Bool := 0xa4fc ≤ c.toNat && c.toNat ≤ 0xa4fd

/-- Whether letters join across the character. -/
def isTransparent (c : Char) : Bool := isWeightless c && !parterRanges.holds c

/-- The end of a ligature, from its last letter on: the Arabic alef after a lam,
the Hebrew lamed after an alef, the Buginese ya after a vowel, a Tifinagh
consonant after another, a Lisu tone letter after another, the Old Turkic orkhon
i after an ec, and a Khmer letter that is written below another. -/
inductive Ending where
  | alef
  | lamed (isJoined : Bool)
  | ya (isJoined : Bool)
  | vowelAndYa
  | consonant (isJoined : Bool)
  | joinerAndConsonant
  | tone
  | orkhonI (isJoined : Bool)
  | subjoined
  deriving DecidableEq, Repr

namespace Ending

/-- The ligature that a character can end. -/
def ofChar? (c : Char) : Option Ending :=
  if alefRanges.holds c then some .alef
  else if subjoinedRanges.holds c then some .subjoined
  else if isTifinaghConsonant c then some (.consonant false)
  else if isSecondTone c then some .tone
  else if c == '\u05dc' then some (.lamed false)
  else if c == '\u1a10' then some (.ya false)
  else if c.toNat == 0x10c03 then some (.orkhonI false)
  else none

/-- The end of a ligature behind a joiner. -/
def afterJoiner : Ending → Ending
  | lamed _ => lamed true
  | ya _ => ya true
  | consonant _ => consonant true
  | orkhonI _ => orkhonI true
  | ending => ending

/-- What a letter before the end of a ligature adds to its columns, and the end
with this letter.  The columns of a letter that is written below another were
counted already. -/
def joinLetter? (ending : Ending) (c : Char) : Option (Int × Option Ending) :=
  match ending with
  | alef => if lamRanges.holds c then some (0, none) else none
  | lamed true => if c == '\u05d0' then some (0, none) else none
  | ya true => if c == '\u1a17' then some (0, some vowelAndYa) else none
  | vowelAndYa => if c == '\u1a15' then some (0, none) else none
  | consonant isJoined =>
    if c == consonantJoiner then some (1, some joinerAndConsonant)
    else if isJoined && isTifinaghConsonant c then some (0, none)
    else none
  | joinerAndConsonant =>
    if isTifinaghConsonant c then some (-1, none) else none
  | tone => if isFirstTone c then some (0, none) else none
  | orkhonI true => if c.toNat == 0x10c32 then some (0, none) else none
  | subjoined => if c == '\u17d2' then some (-1, none) else none
  | _ => none

/-- What a character before the end of a ligature adds to its columns, and the
end with this character.  Marks without a trace of their own stay between the
letters, in Arabic all marks. -/
def join? (ending : Ending) (c : Char) : Option (Int × Option Ending) :=
  match ending with
  | alef => if isTransparent c then some (0, some alef) else joinLetter? alef c
  | _ =>
    if c == joiner then some (0, some ending.afterJoiner)
    else if isIgnorableMark c then some (0, some ending)
    else ending.joinLetter? c

end Ending

end KotlinBuilders.Text
