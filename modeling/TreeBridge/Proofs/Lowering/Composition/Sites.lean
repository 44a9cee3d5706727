import TreeBridge.Lowering.Declaration
import TreeBridge.Proofs.Lowering.Composition.Steps
import TreeBridge.Proofs.Text.WholeWord
/-!
# The concrete nodes that lowered trees name

A lowered tree with a name takes it from a node of the concrete tree. A
variable, a method and an identifier point at the node that spells the
name. A selection of a member points at the dot in front of the node of
the member, and the declaration of a type points at its keyword, so there
the node of the name has to be told by the concrete tree. A report is on
the text of a node as well (`Reported`).
-/

namespace TreeBridge

namespace Concrete

namespace Node

/-- A node or one below it. -/
def Within (k n : Node) : Prop :=
  k = n ∨ Inside k n

theorem Within.refl (n : Node) : Within n n :=
  .inl rfl

theorem Within.inside {k c n : Node} (h : Within k c) (hc : Inside c n) : Within k n := by
  rcases h with rfl | h
  · exact .inr hc
  · exact .inr (h.trans hc)

/-- The start of the last dot right below a node that ends by an offset. -/
def dotBefore? (k : Node) (offset : Nat) : Option Nat :=
  ((k.children.filter fun c =>
    c.kind == .token "." && decide (c.stop ≤ offset)).getLast?).map start

/-- The offset of the dot in front of a node below another; without a dot,
the offset right before the node. -/
def dotOffset (k m : Node) : Int :=
  match k.dotBefore? m.start with
  | some dot => dot
  | none => (m.start : Int) - 1

/-- The node of the name among those right below a node. -/
def nameChild? (k : Node) : Option Node :=
  k.children.find? (fun c => c.field == some .name)

/-- The start of a token right below a node, or that of the node if there
is none. -/
def tokenOffset (k : Node) (text : String) : Int :=
  match k.children.find? (fun c => c.kind == .token text) with
  | some token => token.start
  | none => k.start

/-- A node with a text lies between boundaries and spells it. -/
theorem slice?_of_text {s : Source} {m : Node} {name : String} (h : m.text s = name)
    (hne : name ≠ "") : s.slice? m.start m.stop = some name := by
  unfold text at h
  cases hslice : s.slice? m.start m.stop with
  | none =>
    rw [hslice] at h
    exact absurd h.symm hne
  | some word =>
    rw [hslice] at h
    exact congrArg some h

/-- A node with a text is as long as the text. -/
theorem bounds_of_text {s : Source} {m : Node} {name : String} (h : m.text s = name)
    (hne : name ≠ "") : m.stop = m.start + name.utf8ByteSize ∧ m.stop ≤ s.size :=
  Word.bounds_of_slice? (slice?_of_text h hne)

/-- A text stands where its node starts. -/
theorem slice?_start_of_text {s : Source} {m : Node} {name : String} (h : m.text s = name)
    (hne : name ≠ "") : s.slice? m.start (m.start + name.utf8ByteSize) = some name := by
  have hslice := slice?_of_text h hne
  rwa [(bounds_of_text h hne).1, Int.natCast_add] at hslice

variable {n : Node}

namespace Parts

variable {ps : Parts n} {k : Node}

/-- A search among parts is one among the nodes. -/
theorem find?_val {q : Node → Bool} (hps : ps.map Subtype.val = k.children) :
    (ps.find? fun p => q p.1).map Subtype.val = k.children.find? q := by
  rw [← hps, List.find?_map]
  rfl

theorem ofKind?_val (hps : ps.map Subtype.val = k.children) (kind : Kind) :
    (ps.ofKind? kind).map Subtype.val = k.children.find? (fun c => c.kind == kind) :=
  find?_val (q := fun c => c.kind == kind) hps

theorem field?_val (hps : ps.map Subtype.val = k.children) (f : Field) :
    (ps.field? f).map Subtype.val = k.children.find? (fun c => c.field == some f) :=
  find?_val (q := fun c => c.field == some f) hps

theorem tokenBefore?_dot (hps : ps.map Subtype.val = k.children) (offset : Nat) :
    ps.tokenBefore? "." offset = k.dotBefore? offset := by
  unfold tokenBefore? dotBefore?
  rw [← hps, List.filter_map, List.getLast?_map, Option.map_map]
  rfl

theorem mem_children (hps : ps.map Subtype.val = k.children) {p : Part n} (hp : p ∈ ps) :
    p.1 ∈ k.children :=
  hps ▸ List.mem_map_of_mem hp

end Parts

end Node

end Concrete

namespace Lowering

open Concrete (Node Kind)
open Concrete.Node (Part Parts)
open Foreign (Diagnostic)

variable {s : Source} {k m n : Node} {t : Foreign.Tree} {name : String}

/-- A node is read as a name: by its text, or as one of the two words that
have a kind of their own. -/
def ReadsAs (s : Source) (m : Node) (name : String) : Prop :=
  m.text s = name ∨ m.kind = .superKeyword ∧ name = "super" ∨ m.kind = .asterisk ∧ name = "*"

/-- A tree selects a member that a node below another names: it points at
the dot in front of the member. -/
structure Selects (s : Source) (k m : Node) (name : String) (t : Foreign.Tree) : Prop where
  mem : m ∈ k.children
  name : ReadsAs s m name
  position : t.position = k.dotOffset m

/-- A tree selects the class of a type: it points at the last dot of its
node. -/
structure SelectsClass (k : Node) (name : String) (t : Foreign.Tree) : Prop where
  kind : k.kind = .classLiteral
  name : name = "class"
  position : t.position = (k.dotBefore? k.stop).getD k.start

/-- A tree declares the type of a node and has the name that a node right
below spells. -/
structure DeclaresType (s : Source) (k m : Node) (name : String) (t : Foreign.Tree) : Prop where
  node : k.nameChild? = some m
  name : m.text s = name
  start : t.start = k.start
  position : t.position = k.tokenOffset (typeForm k.kind).keyword
  stop : t.stop = k.stop

/-- A tree points at the node that spells its name, if it has a name. -/
def Named (s : Source) (n : Node) (name : String) (t : Foreign.Tree) : Prop :=
  name = "" ∨ ∃ m : Node, m.Within n ∧ m.text s = name ∧ t.position = m.start

/-- If a called tree is a selection, it selects the method that a node
names, and it ends where that node does. -/
def Called (s : Source) (n : Node) (t : Foreign.Tree) : Prop :=
  ∀ selected name, t.shape = .select selected name →
    ∃ k m : Node, k.Within n ∧ Selects s k m name t ∧ t.stop = m.stop

/-- **Where the name of a tree comes from**: a tree made by reading a node
takes its name from that node or from one below it. A constructor and the
mentions of an enum in its constants have a name that nobody spells. -/
def Sited (s : Source) (n : Node) (t : Foreign.Tree) : Prop :=
  match t.shape with
  | .classDef _ name .. => name = "" ∨ ∃ k m : Node, k.Within n ∧ DeclaresType s k m name t
  | .methodDef _ name .. => name = "<init>" ∨ Named s n name t
  | .varDef _ name .. => Named s n name t
  | .ident name => t.position = -1 ∨ Named s n name t
  | .select _ name =>
    ∃ k : Node, k.Within n ∧ ((∃ m, Selects s k m name t) ∨ SelectsClass k name t)
  | .call _ method _ => Called s n method
  | _ => True

theorem Named.inside (h : Named s k name t) (hk : k.Inside n) : Named s n name t :=
  h.imp_right fun ⟨m, hm, hname⟩ => ⟨m, hm.inside hk, hname⟩

/-- What is read from a node below is read from the node. -/
theorem Sited.inside (h : Sited s k t) (hk : k.Inside n) : Sited s n t := by
  unfold Sited at h ⊢
  split at h
  · exact h.imp_right fun ⟨c, m, hc, hdeclares⟩ => ⟨c, m, hc.inside hk, hdeclares⟩
  · exact h.imp_right (·.inside hk)
  · exact h.inside hk
  · exact h.imp_right (·.inside hk)
  · obtain ⟨c, hc, hselects⟩ := h
    exact ⟨c, hc.inside hk, hselects⟩
  · intro selected name hshape
    obtain ⟨c, m, hc, hselects⟩ := h selected name hshape
    exact ⟨c, m, hc.inside hk, hselects⟩
  · trivial

theorem flagless_sited (s : Source) (n : Node) : Flagless (Sited s n) := by
  rintro ⟨id, start, position, stop, shape⟩ flags h
  cases shape <;> exact h

/-! ## Where a report is -/

/-- A report of the parser on the text of a node, or on the empty place
where a node is missing. -/
structure Reported (n : Node) (d : Diagnostic) : Prop where
  error : ParserError d
  place : ∃ m : Node, m.Within n ∧ d.position = m.start ∧ d.start = m.start ∧
    (d.stop = m.stop ∨ d.stop = m.start)

namespace Reported

variable {d : Diagnostic}

theorem errorAt {code : String} (hm : m.Within n) (h : code ∈ parserCodes) (message : String) :
    Reported n (.errorAt code message m.start m.stop) :=
  ⟨.errorAt h _ _ _, m, hm, rfl, rfl, .inl rfl⟩

theorem aboutTree (h : Reported n d) (tree : Nat) : Reported n (d.aboutTree tree) :=
  ⟨h.error.aboutTree tree, h.place⟩

theorem inside (h : Reported k d) (hk : k.Inside n) : Reported n d :=
  have ⟨m, hm, hplace⟩ := h.place
  ⟨h.error, m, hm.inside hk, hplace⟩

end Reported

/-- What holds of the trees that are made and the reports that are raised
by reading a node. -/
def siting (s : Source) (n : Node) : Guarantee :=
  ⟨Sited s n, Reported n⟩

/-! ## Names and positions among parts -/

variable {ps : Parts n}

theorem dotBefore_eq (hps : ps.map Subtype.val = k.children) (last : Part n) :
    dotBefore ps last = k.dotOffset last.1 := by
  unfold dotBefore Node.dotOffset
  rw [Parts.tokenBefore?_dot hps]
  rfl

theorem tokenOr_eq (hps : ps.map Subtype.val = k.children) (text : String) :
    tokenOr ps text k.start = k.tokenOffset text := by
  unfold tokenOr Node.tokenOffset Parts.tokenStart?
  rw [← Parts.ofKind?_val hps]
  cases ps.ofKind? (.token text) <;> rfl

/-- A tree that takes its name and its position from a part points at the
part. -/
theorem named_textOf {p : Option (Part n)} {offset : Int} (ht : t.position = startOr p offset) :
    Named s n (textOf s p) t := by
  cases p with
  | none => exact .inl rfl
  | some p => exact .inr ⟨p.1, .inr p.2, rfl, ht⟩

/-- A tree that points at the dot before a part selects it. -/
theorem selects_of_mem (hps : ps.map Subtype.val = k.children) {last : Part n} (hlast : last ∈ ps)
    (hname : ReadsAs s last.1 name) (ht : t.position = dotBefore ps last) :
    Selects s k last.1 name t :=
  ⟨Parts.mem_children hps hlast, hname, ht.trans (dotBefore_eq hps last)⟩

theorem sited_select (hps : ps.map Subtype.val = k.children) (hk : k.Within n) {last : Part n}
    (hlast : last ∈ ps) (hname : ReadsAs s last.1 name) {id : Nat} {start stop : Int}
    {selected : Foreign.Tree} :
    Sited s n (.node id start (dotBefore ps last) stop (.select selected name)) :=
  ⟨k, hk, .inl ⟨last.1, selects_of_mem hps hlast hname rfl⟩⟩

/-- The end of a node is recorded. -/
theorem recorded_stop (offset : Nat) :
    (if 0 ≤ (offset : Int) then (offset : Int) else -1) = offset :=
  if_pos (Int.natCast_nonneg offset)

/-- A selection that is made to end where the part it names does may be
called. -/
theorem called_select {last : Part n} (hlast : last ∈ n.parts) {id : Nat} {start : Int}
    {selected : Foreign.Tree} :
    Called s n (.node id start (dotBefore n.parts last)
      (if 0 ≤ (last.stop : Int) then last.stop else -1) (.select selected (last.text s))) := by
  rintro _ _ ⟨⟩
  exact ⟨n, last.1, .refl n, selects_of_mem n.map_val_parts hlast (.inl rfl) rfl,
    recorded_stop last.stop⟩

/-- A tree that is made of the whole of a node and points at its keyword
declares its type. -/
theorem declaresType_of_field? {p : Part n} (hp : n.parts.field? .name = some p)
    (hstart : t.start = n.start)
    (ht : t.position = tokenOr n.parts (typeForm n.kind).keyword n.start)
    (hstop : t.stop = n.stop) : DeclaresType s n p.1 (p.text s) t where
  node := by
    rw [Node.nameChild?, ← Parts.field?_val n.map_val_parts, hp, Option.map_some]
  name := rfl
  start := hstart
  position := ht.trans (tokenOr_eq n.map_val_parts _)
  stop := hstop

end Lowering

end TreeBridge
