import TreeBridge.Text.Blank
import TreeBridge.Text.Lines
/-!
# Source texts

A source keeps its text and the UTF-8 bytes of it; every offset counts
bytes. A slice of a source is a text again only between two character
boundaries.
-/

namespace TreeBridge

/-- The UTF-8 bytes of a list of characters. -/
def utf8 (cs : List Char) : List UInt8 :=
  cs.flatMap String.utf8EncodeChar

/-- A byte that continues a character and starts none. -/
def Byte.isContinuation (b : UInt8) : Bool :=
  b &&& 0xc0 == 0x80

/-- A source text with its bytes. -/
structure Source where
  text : String
  bytes : List UInt8
  bytes_eq : bytes = utf8 text.toList

namespace Source

/-- The source of a text. -/
def ofString (text : String) : Source :=
  ⟨text, utf8 text.toList, rfl⟩

instance : Inhabited Source := ⟨ofString ""⟩

/-- The length of a source in bytes. -/
def size (s : Source) : Nat :=
  s.bytes.length

/-- An offset is a character boundary when it is the end of the text or
the first byte of a character. -/
def isBoundary (s : Source) (offset : Nat) : Bool :=
  match s.bytes[offset]? with
  | some b => !Byte.isContinuation b
  | none => offset == s.size

/-- The bytes from one offset up to another. -/
def bytesBetween (s : Source) (start stop : Nat) : List UInt8 :=
  (s.bytes.drop start).take (stop - start)

/-- The text spelled by bytes, when they are UTF-8. -/
def decode? (bytes : List UInt8) : Option String :=
  String.fromUTF8? bytes.toByteArray

/-- The text from one offset up to another, when both are character
boundaries of the source in this order. -/
def slice? (s : Source) (start stop : Int) : Option String :=
  if start < 0 ∨ stop < start then none
  else if s.isBoundary start.toNat && s.isBoundary stop.toNat then
    decode? (s.bytesBetween start.toNat stop.toNat)
  else none

/-- The text of a span, when it is set and lies on character
boundaries. -/
def textOf? (s : Source) (span : Span) : Option String :=
  if span.isSet then s.slice? span.start span.stop else none

/-- The offset of the last byte that is not trailing white space, plus
one. -/
def contentEnd (s : Source) : Nat :=
  (utf8 (Text.trimEnd s.text.toList)).length

end Source

/-- How far into `bytes` the first occurrence of `word` starts. -/
def firstOccurrence? (word : List UInt8) : List UInt8 → Option Nat
  | [] => if word.isEmpty then some 0 else none
  | b :: rest =>
    if word.isPrefixOf (b :: rest) then some 0
    else (firstOccurrence? word rest).map (· + 1)

/-- The offset of the first occurrence of `word` at or after a character
boundary `start`. -/
def Source.find? (s : Source) (word : List UInt8) (start : Int) : Option Int :=
  if start < 0 then none
  else if s.isBoundary start.toNat then
    (firstOccurrence? word (s.bytes.drop start.toNat)).map (fun n => start + (n : Int))
  else none

end TreeBridge
