import TreeBridge.Concrete.Kind
import TreeBridge.Text.Source
/-!
# Concrete syntax trees

A concrete syntax tree has a node for every token and every construct of
a source text, errors included. A node is named when it is more than a
token of punctuation; it is missing when the parser made it up, and an
error when the parser could not place its text.

The children of a node are reached through `parts`, which come with the
evidence that they stand below it; a selection of parts is a list of
parts.
-/

namespace TreeBridge

namespace Concrete

/-- A node with the nodes below it. -/
inductive Node where
  | mk (kind : Kind) (field : Option Field) (isNamed isMissing isError : Bool)
      (start stop : Nat) (children : List Node)

instance : Inhabited Node := ⟨.mk (.token "") none false false false 0 0 []⟩

namespace Node

/-- The kind of a node. -/
def kind : Node → Kind
  | mk kind .. => kind

/-- The field that a node fills in its parent. -/
def field : Node → Option Field
  | mk _ field .. => field

/-- Whether a node is more than punctuation. -/
def isNamed : Node → Bool
  | mk _ _ isNamed .. => isNamed

/-- Whether the parser made a node up. -/
def isMissing : Node → Bool
  | mk _ _ _ isMissing .. => isMissing

/-- Whether a node holds text that the parser could not place. -/
def isError : Node → Bool
  | mk _ _ _ _ isError .. => isError

/-- The offset of the first byte of a node. -/
def start : Node → Nat
  | mk _ _ _ _ _ start _ _ => start

/-- The offset past the last byte of a node. -/
def stop : Node → Nat
  | mk _ _ _ _ _ _ stop _ => stop

/-- The nodes right below a node. -/
def children : Node → List Node
  | mk _ _ _ _ _ _ _ children => children

/-- A child is smaller than its parent. -/
theorem sizeOf_lt_of_mem {n c : Node} (h : c ∈ n.children) : sizeOf c < sizeOf n := by
  obtain ⟨kind, field, isNamed, isMissing, isError, start, stop, children⟩ := n
  have := List.sizeOf_lt_of_mem (show c ∈ children from h)
  simp only [mk.sizeOf_spec]
  omega

/-- The source text of a node, empty when its bounds are no character
boundaries. -/
def text (s : Source) (n : Node) : String :=
  (s.slice? n.start n.stop).getD ""

/-- Whether a node or one below it is an error or missing. -/
def hasError (n : Node) : Bool :=
  n.isError || n.isMissing || n.children.attach.any (fun c => hasError c.1)
termination_by sizeOf n
decreasing_by exact sizeOf_lt_of_mem c.2

/-- A node somewhere below another. -/
inductive Inside (k : Node) : Node → Prop where
  | child {n : Node} (h : k ∈ n.children) : Inside k n
  | deeper {c n : Node} (h : Inside k c) (hc : c ∈ n.children) : Inside k n

namespace Inside

variable {k c n : Node}

theorem trans (h : Inside k c) (h' : Inside c n) : Inside k n := by
  induction h' with
  | child hc => exact deeper h hc
  | deeper _ hc ih => exact deeper ih hc

/-- A node below another is smaller. -/
theorem sizeOf_lt (h : Inside k n) : sizeOf k < sizeOf n := by
  induction h with
  | child h => exact sizeOf_lt_of_mem h
  | deeper _ hc ih => exact Nat.lt_trans ih (sizeOf_lt_of_mem hc)

end Inside

/-- A node below a given one. -/
abbrev Part (n : Node) : Type :=
  { c : Node // Inside c n }

/-- A selection of parts. -/
abbrev Parts (n : Node) : Type :=
  List (Part n)

/-- The children of a node as parts of it. -/
def parts (n : Node) : Parts n :=
  n.children.attachWith (fun c => Inside c n) (fun _ h => .child h)

theorem map_val_parts (n : Node) : n.parts.map Subtype.val = n.children :=
  List.attachWith_map_subtype_val _

namespace Part

variable {n : Node}

/-- The kind of a part. -/
def kind (p : Part n) : Kind :=
  p.1.kind

/-- The offset of the first byte of a part. -/
def start (p : Part n) : Nat :=
  p.1.start

/-- The offset past the last byte of a part. -/
def stop (p : Part n) : Nat :=
  p.1.stop

/-- The source text of a part. -/
def text (s : Source) (p : Part n) : String :=
  p.1.text s

/-- The children of a part are parts. -/
def parts (p : Part n) : Parts n :=
  p.1.children.attachWith (fun c => Inside c n) (fun _ h => Inside.trans (.child h) p.2)

theorem map_val_parts (p : Part n) : p.parts.map Subtype.val = p.1.children :=
  List.attachWith_map_subtype_val _

/-- A part that is named and no comment. -/
def isCode (p : Part n) : Bool :=
  p.1.isNamed && !p.kind.isComment

end Part

namespace Parts

variable {n : Node}

/-- The named parts without the comments. -/
def named (ps : Parts n) : Parts n :=
  ps.filter Part.isCode

/-- The parts in a field. -/
def inField (ps : Parts n) (f : Field) : Parts n :=
  ps.filter (fun p => p.1.field == some f)

/-- The first part in a field. -/
def field? (ps : Parts n) (f : Field) : Option (Part n) :=
  ps.find? (fun p => p.1.field == some f)

/-- The first part of a kind. -/
def ofKind? (ps : Parts n) (k : Kind) : Option (Part n) :=
  ps.find? (fun p => p.kind == k)

/-- Whether there is a token, named nodes aside. -/
def hasToken (ps : Parts n) (text : String) : Bool :=
  ps.any (fun p => !p.1.isNamed && p.kind == .token text)

/-- The start of the first token with a text. -/
def tokenStart? (ps : Parts n) (text : String) : Option Nat :=
  (ps.ofKind? (.token text)).map Part.start

/-- The start of the last token with a text that ends by an offset. -/
def tokenBefore? (ps : Parts n) (text : String) (before : Nat) : Option Nat :=
  (ps.filter (fun p => p.kind == .token text && decide (p.stop ≤ before))).getLast?.map
    Part.start

/-- The number of opening brackets. -/
def dimensions (ps : Parts n) : Nat :=
  (ps.filter (fun p => p.kind == .token "[")).length

end Parts

end Node

end Concrete

end TreeBridge
