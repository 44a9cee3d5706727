import TreeBridge.Text.Source
/-!
# Whole words

`findWord` looks for an identifier in a window of a source: an occurrence
counts when no identifier byte stands next to it and no excluded stretch
overlaps it.
-/

namespace TreeBridge

namespace Byte

/-- The ASCII letters. -/
def isLetter (b : UInt8) : Bool :=
  (0x41 ≤ b && b ≤ 0x5a) || (0x61 ≤ b && b ≤ 0x7a)

/-- The ASCII digits. -/
def isDigit (b : UInt8) : Bool :=
  0x30 ≤ b && b ≤ 0x39

/-- The bytes of identifiers: ASCII letters and digits, the underscore,
the dollar sign and every byte of a character outside ASCII. -/
def isIdentifier (b : UInt8) : Bool :=
  isLetter b || isDigit b || b == 0x5f || b == 0x24 || 0x80 ≤ b

end Byte

/-- A stretch of source between two offsets. -/
structure Stretch where
  start : Int
  stop : Int
  deriving DecidableEq, Repr

/-- The stretch of a span. -/
def Stretch.ofSpan (s : Span) : Stretch :=
  ⟨s.start, s.stop⟩

/-- Two stretches meet when each starts before the other stops. -/
def Stretch.meets (s t : Stretch) : Bool :=
  decide (s.start < t.stop) && decide (t.start < s.stop)

namespace Word

/-- A word with a byte that is neither an identifier byte nor a hyphen
may stand next to identifier bytes; a word with a hyphen may not. -/
def isPunctuated (word : List UInt8) : Bool :=
  !word.all Byte.isIdentifier && !word.contains 0x2d

/-- Whether the occurrence of `word` at `hit` is a whole word outside the
excluded stretches. -/
def accepts (s : Source) (word : List UInt8) (excluded : List Stretch) (hit : Nat) : Bool :=
  let stop := hit + word.length
  let before := hit == 0 || !((s.bytes[hit - 1]?).any Byte.isIdentifier) || isPunctuated word
  let after := !((s.bytes[stop]?).any Byte.isIdentifier) || isPunctuated word
  before && after && !excluded.any (fun e => e.meets ⟨hit, stop⟩)

/-- The first accepted occurrence of `word` at or after `start` that ends
by `stop`. The search resumes one byte after each occurrence that is
turned down, and it gives up where it would resume inside a character. -/
def searchFrom (s : Source) (word : List UInt8) (excluded : List Stretch)
    (stop start : Nat) : Option Nat :=
  if _h : start < stop then
    if s.isBoundary start && s.isBoundary stop then
      match firstOccurrence? word (s.bytesBetween start stop) with
      | none => none
      | some skip =>
        if accepts s word excluded (start + skip) then some (start + skip)
        else searchFrom s word excluded stop (start + skip + 1)
    else none
  else none
termination_by stop - start

end Word

/-- The offset of `word` as a whole word in the window from `start` up to
`stop`, clear of the excluded stretches. -/
def findWord (s : Source) (word : String) (start stop : Int) (excluded : List Stretch) :
    Option Int :=
  if word.isEmpty ∨ start < 0 then none
  else
    (Word.searchFrom s (utf8 word.toList) excluded (min stop.toNat s.size) start.toNat).map
      (fun hit => (hit : Int))

end TreeBridge
