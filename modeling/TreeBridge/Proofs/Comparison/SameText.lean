import TreeBridge.Proofs.Comparison.LockStep
import TreeBridge.Proofs.Unified.Rendering
/-!
# Matching trees have one text

Where two trees match without folding, each pair of nodes that the walk
meets has one kind and children with pairwise equal texts, or is a
tolerated shape, which is tolerated for its text. Two kinds of nodes are
apart from that: a string literal stands for a sum with another text, and
an array creation has no text for a type that is no array type.
-/

namespace TreeBridge

namespace Comparison

open Unified

/-- A node with a text of its own: no string literal, and no creation of an
array of a type that is no array type. -/
structure PlainText (t : Tree) : Prop where
  noString : isStringLiteral t = false
  arrayType : t.kind = .arrayCreation → ∀ u, t.child? .type = some u → u.kind = .arrayType

/-! ## Tolerated shapes -/

/-- A shape that is tolerated for another has its text, string literals
aside. -/
theorem render_eq_of_toleratedOneWay {a b : Tree} (hstring : isStringLiteral a = false)
    (h : toleratedOneWay a b = true) : a.render = b.render := by
  unfold toleratedOneWay at h
  split at h
  next ha hb =>
    split at h
    · next receiver field qualifier name hreceiver hfield hqualifier hname =>
      rw [Bool.and_eq_true, beq_iff_eq, beq_iff_eq] at h
      rw [Tree.render_fieldAccess ha hreceiver hfield, h.1, h.2,
        Tree.render_qualifiedName hb hqualifier hname]
    · cases h
  next => rw [Bool.and_eq_true, beq_iff_eq] at h; exact h.2
  next => exact eq_of_beq h
  next => exact eq_of_beq h
  next ha _ => simp [isStringLiteral, ha] at hstring
  next => cases h

theorem render_eq_of_tolerated {l r : Tree} (hl : isStringLiteral l = false)
    (hr : isStringLiteral r = false) (h : tolerated l r = true) : l.render = r.render := by
  rw [tolerated, Bool.or_eq_true] at h
  rcases h with h | h
  · exact render_eq_of_toleratedOneWay hl h
  · exact (render_eq_of_toleratedOneWay hr h).symm

/-! ## Nodes of one kind -/

/-- What matching says of two trees: they have one text, and if they have
one kind, their children have. -/
theorem render_eq_and_map_render_eq (l : Tree) : ∀ r : Tree, Throughout PlainText l →
    Throughout PlainText r → matchTrees false l r = true → l.render = r.render ∧
      (l.kind = r.kind → ∀ slot, (l.list slot).map Tree.render = (r.list slot).map Tree.render) := by
  induction l using slotInduction with
  | h l ih =>
    intro r hl hr hmatch
    rw [matchTrees_iff] at hmatch
    by_cases hkind : l.kind = r.kind
    · rw [if_pos hkind] at hmatch
      have htexts (slot : Slot) : (l.list slot).map Tree.render = (r.list slot).map Tree.render := by
        refine Paired.map_eq ⟨(hmatch slot).1, fun i x y hx hy => ?_⟩
        have hxmem := List.mem_of_getElem? hx
        exact (ih slot x hxmem y (hl.of_mem hxmem) (hr.of_mem (List.mem_of_getElem? hy))
          ((hmatch slot).2 i x y hx hy)).1
      refine ⟨?_, fun _ => htexts⟩
      rw [l.render_eq, r.render_eq, hkind]
      refine NodeKind.render_congr _ (fun slot => ?_) fun hcreation slot => ?_
      · rw [Tree.texts_parts, Tree.texts_parts, htexts]
      -- both types are array types, so their children have equal texts as well
      · rw [Tree.belowType_parts, Tree.belowType_parts]
        rcases (hmatch .type).child? with ⟨hx, hy⟩ | ⟨x, y, hx, hy, hxy⟩
        · rw [hx, hy]
        · have hxkind := hl.here.arrayType (hkind.trans hcreation) x hx
          have hykind := hr.here.arrayType hcreation y hy
          have hxmem := mem_list_of_child? hx
          have hbelow := (ih .type x hxmem y (hl.of_mem hxmem)
            (hr.of_mem (mem_list_of_child? hy)) hxy).2 (hxkind.trans hykind.symm)
          rw [hx, hy, Option.map_some, Option.map_some, hbelow]
    · rw [if_neg hkind] at hmatch
      refine ⟨?_, fun h => absurd h hkind⟩
      rcases hmatch with htolerated | ⟨hfalse, -⟩
      · exact render_eq_of_tolerated hl.here.noString hr.here.noString htolerated
      · exact absurd hfalse Bool.false_ne_true

/-- **Trees that match without folding have one text**, if they hold no
string literal and create arrays of array types only. -/
theorem render_eq_of_matchTrees {l r : Tree} (hl : Throughout PlainText l)
    (hr : Throughout PlainText r) (h : matchTrees false l r = true) : l.render = r.render :=
  (render_eq_and_map_render_eq l r hl hr h).1

/-- A node without children. -/
def leaf (kind : NodeKind) : Tree :=
  .node 0 kind .unset 0 []

/-- The creation of an array of integers with one dimension. -/
def sizedBy (size : Tree) : Tree :=
  .node 0 .arrayCreation .unset 0
    [(.type, .node 0 .arrayType .unset 0
      [(.elementType, leaf (.primitiveType .int)), (.dimensions, leaf .dimension)]),
    (.dimensions, size)]

/-- The field `b` of `a`, and `a.b` as one name. -/
def fieldSize : Tree :=
  .node 0 .fieldAccess .unset 0
    [(.expression, leaf (.simpleName "a")), (.name, leaf (.simpleName "b"))]

def nameSize : Tree :=
  .node 0 .qualifiedName .unset 0
    [(.qualifier, leaf (.simpleName "a")), (.name, leaf (.simpleName "b"))]

theorem plainText_of_ne {t : Tree} (hstring : isStringLiteral t = false)
    (hkind : t.kind ≠ .arrayCreation) : PlainText t :=
  ⟨hstring, fun h => absurd h hkind⟩

theorem throughout_leaf {kind : NodeKind} (hstring : isStringLiteral (leaf kind) = false)
    (hkind : kind ≠ .arrayCreation) : Throughout PlainText (leaf kind) :=
  .of_children (plainText_of_ne hstring hkind) fun _ hc => nomatch hc

theorem throughout_sizedBy {size : Tree} (h : Throughout PlainText size) :
    Throughout PlainText (sizedBy size) := by
  have htype : ∀ u, (sizedBy size).child? .type = some u → u.kind = .arrayType := by
    rintro u ⟨⟩
    rfl
  refine .of_children ⟨rfl, fun _ => htype⟩ (List.forall_mem_cons.2 ⟨?_, ?_⟩)
  · refine .of_children (plainText_of_ne rfl (by decide)) (List.forall_mem_cons.2 ⟨?_, ?_⟩)
    · exact throughout_leaf rfl (by decide)
    · exact List.forall_mem_singleton.2 (throughout_leaf rfl (by decide))
  · exact List.forall_mem_singleton.2 h

theorem throughout_fieldSize : Throughout PlainText fieldSize :=
  .of_children (plainText_of_ne rfl (by decide)) (List.forall_mem_cons.2
    ⟨throughout_leaf rfl (by decide), List.forall_mem_singleton.2 (throughout_leaf rfl (by decide))⟩)

theorem throughout_nameSize : Throughout PlainText nameSize :=
  .of_children (plainText_of_ne rfl (by decide)) (List.forall_mem_cons.2
    ⟨throughout_leaf rfl (by decide), List.forall_mem_singleton.2 (throughout_leaf rfl (by decide))⟩)

theorem render_eq_sizedBy :
    Throughout PlainText (sizedBy fieldSize) ∧ Throughout PlainText (sizedBy nameSize) ∧
      matchTrees false (sizedBy fieldSize) (sizedBy nameSize) = true ∧
      (sizedBy fieldSize).render = (sizedBy nameSize).render := by
  have hfield := throughout_sizedBy throughout_fieldSize
  have hname := throughout_sizedBy throughout_nameSize
  have hmatch : matchTrees false (sizedBy fieldSize) (sizedBy nameSize) = true := by
    decide +kernel
  exact ⟨hfield, hname, hmatch, render_eq_of_matchTrees hfield hname hmatch⟩

end Comparison

end TreeBridge
