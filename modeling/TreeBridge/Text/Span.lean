/-!
# Source spans

A span is a start offset and a length, both counted in UTF-8 bytes. A
negative start marks a span that was never assigned. Offsets are
integers; the one sum a span computes, its end, keeps the low 32 bits
(`wrap32`), so a span whose end leaves the 32-bit range has a wrapped
end and not a larger one.
-/

namespace TreeBridge

/-- The low 32 bits of an integer, read as a signed number. -/
def wrap32 (n : Int) : Int :=
  n.bmod 4294967296

/-- A half-open stretch of source text, `start` up to `start + length`. -/
structure Span where
  start : Int
  length : Int
  deriving DecidableEq, Repr

namespace Span

/-- The span of a node that has no position. -/
def unset : Span := ⟨-1, 0⟩

instance : Inhabited Span := ⟨unset⟩

/-- The span between two offsets; an unknown start or a reversed pair
gives the unset span. -/
def ofBounds (start stop : Int) : Span :=
  if start < 0 ∨ stop < start then unset else ⟨start, wrap32 (stop - start)⟩

/-- A span is set when its start is an offset. -/
def isSet (s : Span) : Bool :=
  decide (0 ≤ s.start)

/-- The offset just past the span. -/
def stop (s : Span) : Int :=
  wrap32 (s.start + s.length)

/-- Containment, between set spans only. -/
def contains (s t : Span) : Bool :=
  s.isSet && t.isSet && decide (s.start ≤ t.start) && decide (t.stop ≤ s.stop)

/-- Whether a set span holds the byte at an offset. -/
def containsOffset (s : Span) (offset : Int) : Bool :=
  s.isSet && decide (s.start ≤ offset) && decide (offset < s.stop)

/-- Two set spans of positive length overlap when they share a byte. -/
def overlaps (s t : Span) : Bool :=
  s.isSet && t.isSet && decide (0 < s.length) && decide (0 < t.length) &&
    decide (s.start < t.stop) && decide (t.start < s.stop)

/-- The smallest span over both; an unset operand is ignored. -/
def cover (s t : Span) : Span :=
  if !s.isSet then t
  else if !t.isSet then s
  else ofBounds (min s.start t.start) (max s.stop t.stop)

end Span

end TreeBridge
