import TreeBridge.Text.Emoji
import TreeBridge.Text.Width
/-!
# The width of lines

Some sequences of characters are drawn as one: a letter joined with the
next one, a picture put together from several, a character before a
selector of its style. A line is therefore measured from its end, and
every character is measured knowing what stands after it.
-/

namespace TreeBridge

namespace Text

/-! ## What stands after a character -/

/-- The start of a sequence that the character before it may continue.
The letters of some scripts tell apart whether a joiner stands before
them. -/
inductive Link
  | plain
  /-- An Arabic alef, perhaps after marks. -/
  | alef
  /-- A Hebrew lamed. -/
  | lamed (isJoined : Bool)
  /-- A Buginese ya. -/
  | ya (isJoined : Bool)
  /-- A Buginese ya after the vowel of iya. -/
  | vowelYa
  /-- A Tifinagh consonant. -/
  | tifinagh (isJoined : Bool)
  /-- A Tifinagh consonant after the joiner of consonants. -/
  | consonantJoiner
  /-- A second tone letter of Lisu. -/
  | toneLetter
  /-- An Old Turkic i. -/
  | turkicI (isJoined : Bool)
  /-- A Khmer letter that can stand below another. -/
  | subscript
  /-- A Kirat Rai vowel sign that another one completes. -/
  | vowelE
  /-- Two Kirat Rai vowel signs that a third one completes. -/
  | vowelAi
  /-- A selector of a wide quotation mark. -/
  | wideQuote
  /-- A letter of a flag. -/
  | flagLetter
  /-- Several letters of flags. -/
  | flagLetters
  /-- A skin tone. -/
  | skinTone
  /-- A picture. -/
  | picture
  /-- A picture after a joiner. -/
  | joinedPicture
  /-- A key cap joined with a picture. -/
  | joinedKey
  /-- A letter of a flag joined with a picture. -/
  | joinedFlagLetter
  /-- An even number of letters of flags joined with a picture. -/
  | evenFlagLetters
  /-- An odd number of letters of flags joined with a picture. -/
  | oddFlagLetters
  /-- The end of a tag joined with a picture. -/
  | tagEnd
  /-- The last letters of a tag. -/
  | tagLetters (count : Nat)
  /-- Digits before the last letters of a tag. -/
  | tagDigits (count : Nat)
  deriving DecidableEq, Repr

/-- What stands after a character: the start of a sequence, and whether
a selector asks the character itself for a style. -/
structure Ahead where
  link : Link
  asPicture : Bool
  asText : Bool
  deriving DecidableEq, Repr

/-- What a character adds to the width of a line, and what it leaves to
the character before it. -/
structure Extent where
  width : Int
  ahead : Ahead
  deriving DecidableEq, Repr

namespace Link

/-- Whether the sequence is one of letters. -/
def isOfLetters : Link → Bool
  | alef | lamed _ | ya _ | vowelYa | tifinagh _ | consonantJoiner | toneLetter | turkicI _
  | subscript => true
  | _ => false

/-- Whether the sequence is a picture that a joiner lets continue. -/
def isJoinedPicture : Link → Bool
  | joinedPicture | joinedKey => true
  | _ => false

/-- The sequence after a joiner. -/
def join : Link → Link
  | lamed _ => lamed true
  | ya _ => ya true
  | tifinagh _ => tifinagh true
  | turkicI _ => turkicI true
  | link => link

/-- The sequence alone, without a selector. -/
def ahead (link : Link) : Ahead :=
  ⟨link, false, false⟩

end Link

namespace Ahead

/-- Nothing that a character before could continue. -/
def plain : Ahead :=
  Link.plain.ahead

/-- A selector of pictures before the rest. -/
def selectPicture (a : Ahead) : Ahead :=
  if a.link.isOfLetters then { a with asPicture := true }
  else if a.link.isJoinedPicture then ⟨a.link, true, false⟩
  else ⟨.plain, true, false⟩

/-- A selector of text before the rest. -/
def selectText (a : Ahead) : Ahead :=
  if a.link.isOfLetters then { a with asText := true } else ⟨.plain, false, true⟩

/-- The rest without a selector of pictures that does not apply. -/
def dropPicture (a : Ahead) : Ahead :=
  if !a.asPicture then a
  else if a.link.isOfLetters then { a with asPicture := false }
  else plain

/-- The rest without a selector of text that does not apply. -/
def dropText (a : Ahead) : Ahead :=
  if !a.asText then a
  else if a.link.isOfLetters then { a with asText := false }
  else plain

end Ahead

/-! ## Classes of characters -/

/-- The runs of weightless characters that end a sequence of joined Arabic
letters. -/
def endingRuns : List (Nat × Nat) :=
  [(0x605, 0x605), (0x890, 0x891), (0x8e2, 0x8e2), (0x9be, 0x9be), (0x9d7, 0x9d7), (0xb3e, 0xb3e),
    (0xb57, 0xb57), (0xbbe, 0xbbe), (0xbd7, 0xbd7), (0xcc0, 0xcc0), (0xcc2, 0xcc2), (0xcc7, 0xcc8),
    (0xcca, 0xccb), (0xcd5, 0xcd6), (0xd3e, 0xd3e), (0xd4e, 0xd4e), (0xd57, 0xd57), (0xdcf, 0xdcf),
    (0xddf, 0xddf), (0x1160, 0x11ff), (0x1715, 0x1715), (0x1734, 0x1734), (0x180e, 0x180e),
    (0x1b35, 0x1b35), (0x1b3b, 0x1b3b), (0x1b3d, 0x1b3d), (0x1b43, 0x1b44), (0x1baa, 0x1baa),
    (0x1bf2, 0x1bf3), (0x200c, 0x200d), (0x2065, 0x2069), (0x302e, 0x302f), (0x3164, 0x3164),
    (0xa8fa, 0xa8fa), (0xa953, 0xa953), (0xa9c0, 0xa9c0), (0xd7b0, 0xd7c6), (0xd7cb, 0xd7fb),
    (0xffa0, 0xffa0), (0xfff0, 0xfff8), (0x111c0, 0x111c0), (0x111c2, 0x111c3), (0x11235, 0x11235),
    (0x1133e, 0x1133e), (0x1134d, 0x1134d), (0x11357, 0x11357), (0x113b8, 0x113b8),
    (0x113c2, 0x113c2), (0x113c5, 0x113c5), (0x113c7, 0x113c9), (0x113cf, 0x113cf),
    (0x114b0, 0x114b0), (0x114bd, 0x114bd), (0x115af, 0x115af), (0x116b6, 0x116b6),
    (0x11930, 0x11930), (0x1193d, 0x1193d), (0x1193f, 0x1193f), (0x11941, 0x11941),
    (0x11a84, 0x11a89), (0x11d46, 0x11d46), (0x11f02, 0x11f02), (0x11f41, 0x11f41),
    (0x16ff0, 0x16ff1), (0x1d165, 0x1d166), (0x1d16d, 0x1d172), (0xe0000, 0xe0000),
    (0xe0002, 0xe001f), (0xe0080, 0xe00ff), (0xe01f0, 0xe0fff)]

/-- Whether a weightless character may stand between joined Arabic
letters. -/
def isTransparent (c : Char) : Bool :=
  isWeightless c && !isInRuns endingRuns c.toNat

/-- Whether a character leaves a sequence of letters as it is. -/
def isIgnorable (c : Char) : Bool :=
  isInRuns [(0x34f, 0x34f), (0x17b4, 0x17b5), (0x180b, 0x180d), (0x180f, 0x180f),
    (0xfe00, 0xfe0f), (0xe0100, 0xe01ef)] c.toNat

/-- Whether an Arabic letter is an alef by its shape. -/
def isAlef (c : Char) : Bool :=
  isInRuns [(0x622, 0x623), (0x625, 0x625), (0x627, 0x627), (0x671, 0x673), (0x675, 0x675),
    (0x773, 0x774), (0x870, 0x882)] c.toNat

/-- Whether an Arabic letter is a lam by its shape. -/
def isLam (c : Char) : Bool :=
  isInRuns [(0x644, 0x644), (0x6b5, 0x6b8), (0x76a, 0x76a), (0x8a6, 0x8a6), (0x8c7, 0x8c7)]
    c.toNat

/-- Whether a Khmer letter can stand below another. -/
def isSubscript (c : Char) : Bool :=
  isInRuns [(0x1780, 0x1782), (0x1784, 0x1787), (0x1789, 0x178c), (0x178e, 0x1793),
    (0x1795, 0x1798), (0x179b, 0x179d), (0x17a0, 0x17a0), (0x17a2, 0x17a2), (0x17a7, 0x17a7),
    (0x17ab, 0x17ac), (0x17af, 0x17af)] c.toNat

/-- Whether a character is a Tifinagh consonant. -/
def isTifinagh (c : Char) : Bool :=
  isInRuns [(0x2d31, 0x2d65), (0x2d6f, 0x2d6f)] c.toNat

/-- Whether a character is a quotation mark with a wide form. -/
def isQuote (c : Char) : Bool :=
  isInRuns [(0x2018, 0x2019), (0x201c, 0x201d)] c.toNat

/-! ## Measuring -/

/-- A way for a character to stand before a sequence: whether it applies,
what the character adds to the width, and the sequence it leaves. -/
structure Rule where
  applies : Bool
  width : Int
  link : Link

/-- What the first rule that applies says. -/
def firstRule? (rules : List Rule) : Option Extent :=
  (rules.find? (·.applies)).map (fun r => ⟨r.width, r.link.ahead⟩)

/-- The ways to continue a sequence with a character. -/
def Link.rules (c : Char) : Link → List Rule
  | alef => [⟨isLam c, 0, plain⟩, ⟨isTransparent c, 0, alef⟩]
  | lamed isJoined => [⟨isJoined && c.toNat == 0x5d0, 0, plain⟩]
  | ya isJoined => [⟨isJoined && c.toNat == 0x1a17, 0, vowelYa⟩]
  | vowelYa => [⟨c.toNat == 0x1a15, 0, plain⟩]
  | tifinagh isJoined =>
    [⟨c.toNat == 0x2d7f, 1, consonantJoiner⟩, ⟨isJoined && isTifinagh c, 0, plain⟩]
  | consonantJoiner => [⟨isTifinagh c, -1, plain⟩]
  | toneLetter => [⟨isInRuns [(0xa4f8, 0xa4fb)] c.toNat, 0, plain⟩]
  | turkicI isJoined => [⟨isJoined && c.toNat == 0x10c32, 0, plain⟩]
  | subscript => [⟨c.toNat == 0x17d2, -1, plain⟩]
  | vowelE =>
    [⟨c.toNat == 0x16d63, 0, plain⟩, ⟨c.toNat == 0x16d67, 0, vowelAi⟩,
      ⟨c.toNat == 0x16d68, 1, vowelE⟩, ⟨c.toNat == 0x16d69, 0, plain⟩]
  | vowelAi => [⟨c.toNat == 0x16d63, 0, plain⟩]
  | wideQuote => [⟨isQuote c, 2, plain⟩]
  | flagLetter => [⟨isFlagLetter c, 1, flagLetters⟩]
  | flagLetters => [⟨isFlagLetter c, 1, flagLetters⟩, ⟨c.toNat == 0x200d, 0, joinedPicture⟩]
  | skinTone => [⟨isBody c, 0, picture⟩, ⟨c.toNat == 0x200d, 0, joinedPicture⟩]
  | picture => [⟨c.toNat == 0x200d, 0, joinedPicture⟩]
  | joinedPicture =>
    [⟨c.toNat == 0x20e3, 0, joinedKey⟩, ⟨isFlagLetter c, 1, joinedFlagLetter⟩,
      ⟨isSkinTone c, 0, skinTone⟩, ⟨c.toNat == 0xe007f, 0, tagEnd⟩, ⟨isPicture c, 0, picture⟩]
  | joinedFlagLetter => [⟨isFlagLetter c, -1, evenFlagLetters⟩]
  | evenFlagLetters =>
    [⟨isFlagLetter c, 3, oddFlagLetters⟩, ⟨c.toNat == 0x200d, 0, joinedPicture⟩]
  | oddFlagLetters =>
    [⟨isFlagLetter c, -1, evenFlagLetters⟩, ⟨c.toNat == 0x200d, 0, joinedPicture⟩]
  | tagEnd => [⟨isTagLetter c, 0, tagLetters 1⟩, ⟨isTagDigit c, 0, tagDigits 1⟩]
  | tagLetters count =>
    [⟨decide (count < 6) && isTagLetter c, 0, tagLetters (count + 1)⟩,
      ⟨decide (count < 5) && isTagDigit c, 0, tagDigits 1⟩,
      ⟨decide (3 ≤ count) && c.toNat == 0x1f3f4, 0, picture⟩]
  | tagDigits count =>
    [⟨decide (count < 3) && isTagDigit c, 0, tagDigits (count + 1)⟩,
      ⟨count == 3 && c.toNat == 0x1f3f4, 0, picture⟩]
  | plain | joinedKey => []

/-- The sequences that a character can start from their end. -/
def startRules (c : Char) : List Rule :=
  [⟨c.toNat == 0x5dc, 1, .lamed false⟩, ⟨isAlef c, 1, .alef⟩, ⟨isSubscript c, 1, .subscript⟩,
    ⟨c.toNat == 0x1a10, 1, .ya false⟩, ⟨isTifinagh c, 1, .tifinagh false⟩,
    ⟨isInRuns [(0xa4fc, 0xa4fd)] c.toNat, 1, .toneLetter⟩, ⟨c.toNat == 0xfe01, 0, .wideQuote⟩,
    ⟨c.toNat == 0x10c03, 1, .turkicI false⟩, ⟨c.toNat == 0x16d67, 1, .vowelE⟩,
    ⟨c.toNat == 0x16d68, 1, .vowelAi⟩, ⟨isFlagLetter c, 1, .flagLetter⟩,
    ⟨isSkinTone c, 2, .skinTone⟩, ⟨isPicture c, 2, .picture⟩]

/-- The extent of a character that does not continue a sequence. -/
def extentAlone (c : Char) : Extent :=
  (firstRule? (startRules c)).getD ⟨charWidth c, .plain⟩

/-- The extent of a character in a sequence of letters that it leaves as
it is. -/
def extentIgnored? (c : Char) (link : Link) : Option Extent :=
  if !link.isOfLetters || link == .alef then none
  else if c.toNat = 0x200d then some ⟨0, link.join.ahead⟩
  else if isIgnorable c then some ⟨0, link.ahead⟩
  else none

/-- The extent of a character before a sequence. -/
def extentBefore (c : Char) (link : Link) : Extent :=
  (extentIgnored? c link).getD ((firstRule? (link.rules c)).getD (extentAlone c))

/-- The extent of a character that no selector of pictures applies to. -/
def extentUnselected (c : Char) (a : Ahead) : Extent :=
  if c.toNat ≤ 0xa0 then ⟨1, .plain⟩
  else if c.toNat = 0xfe0f then ⟨0, a.selectPicture⟩
  else if c.toNat = 0xfe0e then ⟨0, a.selectText⟩
  else if a.asText && isTextual c then ⟨1, .plain⟩
  else extentBefore c a.dropText.link

/-- **The extent of a character** before what stands after it. -/
def extent (c : Char) (a : Ahead) : Extent :=
  if a.asPicture && isSelectable c then
    ⟨if a.link.isJoinedPicture then 0 else 2, Link.picture.ahead⟩
  else extentUnselected c a.dropPicture

/-- The extent of the characters of a line. -/
def extentOfLine (line : List Char) : Extent :=
  line.foldr (fun c rest =>
    let m := extent c rest.ahead
    ⟨rest.width + m.width, m.ahead⟩) ⟨0, .plain⟩

/-- **The width of a line.** -/
def lineWidth (line : String) : Nat :=
  (extentOfLine line.toList).width.toNat

end Text

end TreeBridge
