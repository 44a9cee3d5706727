import TreeBridge.Foreign.Shape
/-!
# Foreign trees

A foreign tree is a shape whose parts are foreign trees, with an id and
three offsets: the start of its source text, the position that a
diagnostic about it points at, and the end. An end of `-1` says that
nobody recorded one. Recursion over a foreign tree goes through `parts`,
the shape whose parts carry the evidence that they are smaller.
-/

namespace TreeBridge

namespace Foreign

/-- A tree of the foreign front end. -/
inductive Tree where
  | node (id : Nat) (start position stop : Int) (shape : Shape Tree)

instance : Inhabited Tree := ⟨.node 0 (-1) (-1) (-1) .skip⟩

namespace Tree

/-- The id of a tree. -/
def id : Tree → Nat
  | node id _ _ _ _ => id

/-- The offset of the first byte of a tree. -/
def start : Tree → Int
  | node _ start _ _ _ => start

/-- The offset that a diagnostic about a tree points at. -/
def position : Tree → Int
  | node _ _ position _ _ => position

/-- The recorded end of a tree, `-1` when there is none. -/
def stop : Tree → Int
  | node _ _ _ stop _ => stop

/-- The shape of a tree. -/
def shape : Tree → Shape Tree
  | node _ _ _ _ shape => shape

/-- The tag of a tree. -/
def tag (t : Tree) : Tag :=
  t.shape.tag

/-- Whether a tree is an expression. -/
def isExpression (t : Tree) : Bool :=
  t.shape.isExpression

/-- The direct subtrees of a tree, in the order of the source text. -/
def children (t : Tree) : List Tree :=
  t.shape.children

/-- The name of an identifier. -/
def identName? (t : Tree) : Option String :=
  match t.shape with
  | .ident name => some name
  | _ => none

/-- A variable with further flags; any other tree is left alone. -/
def withVariableFlags (flags : UInt64) : Tree → Tree
  | node id start position stop (.varDef mods name type dims value) =>
    node id start position stop (.varDef (mods.withFlags flags) name type dims value)
  | t => t

end Tree

/-! ## Subtrees are smaller -/

theorem sizeOf_lt_of_mem_toList {α : Type} [SizeOf α] {o : Option α} {a : α}
    (h : a ∈ o.toList) : sizeOf a < sizeOf o := by
  cases o <;> simp_all

theorem sizeOf_lt_of_mem_getD {α : Type} [SizeOf α] {o : Option (List α)} {a : α}
    (h : a ∈ o.getD []) : sizeOf a < sizeOf o := by
  cases o with
  | none => simp at h
  | some l => have := List.sizeOf_lt_of_mem (show a ∈ l from h); simp; omega

theorem Modifiers.sizeOf_lt_of_mem {α : Type} [SizeOf α] {m : Modifiers α} {a : α}
    (h : a ∈ m.annotations) : sizeOf a < sizeOf m := by
  cases m; have := List.sizeOf_lt_of_mem h; simp at this ⊢; omega

/-- A part is smaller than its shape. -/
theorem Shape.sizeOf_lt_of_mem {α : Type} [SizeOf α] {s : Shape α} {a : α}
    (h : a ∈ s.children) : sizeOf a < sizeOf s := by
  cases s <;> simp only [Shape.children, List.mem_append, List.mem_cons, List.not_mem_nil,
      or_false, or_assoc] at h <;> simp <;>
    grind [→ List.sizeOf_lt_of_mem, → sizeOf_lt_of_mem_toList, → sizeOf_lt_of_mem_getD,
      → Modifiers.sizeOf_lt_of_mem]

namespace Tree

/-- A direct subtree is smaller than the tree. -/
theorem sizeOf_lt_of_mem {t c : Tree} (h : c ∈ t.children) : sizeOf c < sizeOf t := by
  obtain ⟨id, start, position, stop, shape⟩ := t
  have := Shape.sizeOf_lt_of_mem (show c ∈ shape.children from h)
  simp only [node.sizeOf_spec]
  omega

/-- A smaller tree than a given one. -/
abbrev Part (t : Tree) : Type :=
  { c : Tree // sizeOf c < sizeOf t }

/-- A list of parts. -/
abbrev Parts (t : Tree) : Type :=
  List (Part t)

/-- The shape of a tree, its parts known to be smaller. -/
def parts (t : Tree) : Shape (Part t) :=
  t.shape.attachWith (fun c => sizeOf c < sizeOf t) (fun _ h => sizeOf_lt_of_mem h)

namespace Part

variable {t : Tree}

/-- A part of a part is a part. -/
def within (p : Part t) (c : Part p.1) : Part t :=
  ⟨c.1, Nat.lt_trans c.2 p.2⟩

/-- The shape of a part. -/
def parts (p : Part t) : Shape (Part t) :=
  p.1.parts.map p.within

/-- The tag of a part. -/
def tag (p : Part t) : Tag :=
  p.1.tag

end Part

/-- The subtrees of a tree, the tree first and the last child before the
others. -/
def lastFirst (t : Tree) : List Tree :=
  t :: t.children.reverse.attach.flatMap (fun c => lastFirst c.1)
termination_by sizeOf t
decreasing_by exact sizeOf_lt_of_mem (List.mem_reverse.1 c.2)

/-- The subtrees of a tree, each before the subtrees below it. -/
def preorder (t : Tree) : List Tree :=
  t :: t.children.attach.flatMap (fun c => preorder c.1)
termination_by sizeOf t
decreasing_by exact sizeOf_lt_of_mem c.2

end Tree

end Foreign

end TreeBridge
