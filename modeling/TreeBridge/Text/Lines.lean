import TreeBridge.Text.Span
/-!
# Lines and columns

Two tables turn an offset into a line and a column. A unit keeps the
offsets at which its lines *end*, where LF, CR and CRLF each end a line;
the table closes with the last offset of the text. A front end stamps its
diagnostics from the offsets at which lines *start*, where only LF ends a
line. Lines and columns count from one, columns in bytes.
-/

namespace TreeBridge

namespace Byte

/-- The byte of a line feed. -/
def lineFeed : UInt8 := 10

/-- The byte of a carriage return. -/
def carriageReturn : UInt8 := 13

/-- A line feed or a carriage return. -/
def isLineBreak (b : UInt8) : Bool :=
  b == lineFeed || b == carriageReturn

end Byte

/-! ## The table of line ends -/

/-- The offsets of the last byte of every line of a text. -/
abbrev LineEnds := List Int

namespace LineEnds

/-- The offsets of the line terminators of `bytes`, the first byte being
at offset `start`. A carriage return before a line feed is the first half
of one terminator, whose offset is that of the line feed. -/
def terminators (start : Int) : List UInt8 → List Int
  | [] => []
  | b :: rest =>
    if b == Byte.lineFeed || b == Byte.carriageReturn && rest.head? != some Byte.lineFeed then
      start :: terminators (start + 1) rest
    else
      terminators (start + 1) rest

/-- The table of a text: its terminators, then the offset of its last
byte. -/
def ofBytes (bytes : List UInt8) : LineEnds :=
  terminators 0 bytes ++ [(bytes.length : Int) - 1]

/-- The start of the line with the given index, counted from zero. -/
def lineStart (ends : LineEnds) : Nat → Int
  | 0 => 0
  | line + 1 => ends.getD line 0 + 1

/-- The line that holds an offset; the offset just past the text still
has one. -/
def lineNumber? (ends : LineEnds) (offset : Int) : Option Nat :=
  match ends.getLast? with
  | none => none
  | some last =>
    if offset < 0 ∨ last + 1 < offset then none
    else some ((ends.takeWhile (fun e => decide (e < offset))).length + 1)

/-- The column of an offset within its line. -/
def columnNumber? (ends : LineEnds) (offset : Int) : Option Nat :=
  match lineNumber? ends offset with
  | none => none
  | some line => some ((offset - lineStart ends (line - 1)).toNat + 1)

/-- The offset of a line and a column. The column keeps its low 32 bits
before it is added to the start of the line, and the sum keeps its own. -/
def offsetOf? (ends : LineEnds) (line column : Nat) : Option Int :=
  if line = 0 ∨ column = 0 ∨ ends.length < line then none
  else
    let offset := wrap32 (lineStart ends (line - 1) + wrap32 column - 1)
    if ends.getD (line - 1) 0 + 1 < offset then none else some offset

end LineEnds

/-! ## The table of line starts -/

/-- The offsets of the first byte of every line of a text, where only a
line feed ends a line. -/
abbrev LineStarts := List Int

namespace LineStarts

/-- The offsets just past each line feed of `bytes`, the first byte being
at offset `start`. -/
def pastLineFeeds (start : Int) : List UInt8 → List Int
  | [] => []
  | b :: rest =>
    if b == Byte.lineFeed then (start + 1) :: pastLineFeeds (start + 1) rest
    else pastLineFeeds (start + 1) rest

/-- The table of a text, whose first line starts at zero. -/
def ofBytes (bytes : List UInt8) : LineStarts :=
  0 :: pastLineFeeds 0 bytes

/-- The line and the column of an offset: the last line that starts at or
before it. -/
def lineAndColumn (starts : LineStarts) (offset : Int) : Int × Int :=
  let line := (starts.takeWhile (fun s => decide (s ≤ offset))).length - 1
  ((line : Int) + 1, offset - starts.getD line 0 + 1)

end LineStarts

end TreeBridge
