import TreeBridge.Proofs.Conversion.Cases
/-!
# Chains of one operator

A tree of a binary operator that leans to the left is a chain: it starts
with a tree that is no tree of the operator, and every link puts one more
operand to the right. The conversion makes one node of a whole chain,
with one child for each operand and in order. What stands to the right of
an operator is one operand, whatever tree it is, so the chain is read back
from the operands.
-/

namespace TreeBridge

namespace Conversion

open Foreign (Tree Tag)
open Foreign.Tree (Part Parts Subtree)
open Unified (NodeId Child Arena Hangs)

/-- The operand that a link puts to the right of a chain, and what else is
recorded of the tree that it makes. -/
structure Link where
  id : ℕ
  start : Int
  position : Int
  stop : Int
  operand : Tree

/-- The tree of an operator that a link makes of the chain so far. -/
def Link.join (operator : Tag) (left : Tree) (link : Link) : Tree :=
  .node link.id link.start link.position link.stop (.binary operator left link.operand)

/-- The tree that links make of a first operand, from the left. -/
def chain (operator : Tag) (first : Tree) (links : List Link) : Tree :=
  links.foldl (Link.join operator) first

theorem chain_append (operator : Tag) (first : Tree) (links : List Link) (link : Link) :
    chain operator first (links ++ [link]) = Link.join operator (chain operator first links) link :=
  List.foldl_append

/-- A tree of an operator is the link of its right operand to its left
one. -/
theorem eq_join_of_parts {t : Tree} {operator : Tag} {left right : Part t}
    (h : t.parts = .binary operator left right) :
    t = Link.join operator left.1 ⟨t.id, t.start, t.position, t.stop, right.1⟩ := by
  have hshape : t.shape = .binary operator left.1 right.1 := by
    rw [← Foreign.Tree.map_val_parts, h]
    rfl
  obtain ⟨id, start, position, stop, shape⟩ := t
  exact congrArg (Foreign.Tree.node id start position stop) hshape

/-- **The left operands are those of a chain** that does not start with a
tree of the operator. -/
theorem exists_chain_of_leftOperands {t : Tree} (operator : Tag) (p : Part t) :
    ∃ first links, p.1 = chain operator first links ∧
      (∀ left right, first.shape ≠ .binary operator left right) ∧
      (leftOperands operator p).map (·.1) = first :: links.map (·.operand) := by
  induction p using leftOperands.induct operator with
  | case1 p left right h ih =>
    obtain ⟨first, links, hleft, hfirst, hoperands⟩ := ih
    refine ⟨first, links ++ [⟨p.1.id, p.1.start, p.1.position, p.1.stop, right.1⟩], ?_, hfirst, ?_⟩
    · rw [chain_append, ← hleft]
      exact eq_join_of_parts h
    · rw [leftOperands, h]
      simp only [if_true, List.map_append, hoperands]
      rfl
  | case2 p o left right h ho =>
    refine ⟨p.1, [], rfl, fun l r hshape => ?_, ?_⟩
    · rw [← Foreign.Tree.map_val_parts, h] at hshape
      cases hshape
      exact ho rfl
    · rw [leftOperands, h]
      simp only [ho, if_false]
      rfl
  | case3 p h =>
    refine ⟨p.1, [], rfl, fun l r hshape => ?_, ?_⟩
    · obtain ⟨⟨id, start, position, stop, shape⟩, hp⟩ := p
      obtain rfl : shape = .binary operator l r := hshape
      exact h _ _ _ rfl
    · unfold leftOperands
      split
      · next o left right hs => exact absurd hs (h o left right)
      · rfl

variable {owner : NodeId} {ctx : Context} {σ σ' : State} {u : Unit}

theorem zipWith_zipIdx {α β δ : Type} (f : ℕ → β → δ) {xs : List α} {ys : List β}
    (h : xs.length = ys.length) (n : ℕ) :
    List.zipWith (fun x y => f x.2 y) (xs.zipIdx n) ys = (ys.zipIdx n).map fun y => f y.2 y.1 := by
  induction xs generalizing ys n with
  | nil =>
    obtain rfl := List.length_eq_zero_iff.1 h.symm
    rfl
  | cons x xs ih =>
    cases ys with
    | nil => cases h
    | cons y ys =>
      rw [List.zipIdx_cons, List.zipWith_cons_cons, ih (Nat.succ.inj h), List.zipIdx_cons,
        List.map_cons]

/-- **The operands of a chain hang in order**, in the slots for the first,
the second and the further ones. -/
theorem remains_addOperands {t : Tree} {operands : Parts t} (howner : owner < σ.arena.size)
    (hrun : addOperands (fun p => actions p.1) owner operands ctx σ = .ok (u, σ')) :
    ∃ ids : List NodeId,
      Hangs owner (ids.zipIdx.map fun i => ⟨operandSlot i.2, i.1⟩) σ.arena σ'.arena ∧
      List.Forall₂ (fun e i => Remains ctx (actions e).expression σ.arena.size σ'.arena i)
        (operands.map (·.1)) ids := by
  obtain ⟨ids, hhangs, hremains⟩ := remains_addParts (K := fun _ => True)
    (fun p _ => (sound_actions p.1.1 fun _ _ => trivial).expression) howner hrun
  have hlength : operands.length = ids.length := by
    rw [← hremains.length_eq, List.length_zipIdx]
  have hfst : operands.map (·.1) = operands.zipIdx.map fun p => p.1.1 := by
    conv_lhs => rw [← List.zipIdx_map_fst 0 operands, List.map_map]
    rfl
  refine ⟨ids, ?_, ?_⟩
  · rw [← zipWith_zipIdx (fun n i => (⟨operandSlot n, i⟩ : Child)) hlength 0]
    exact hhangs
  · rw [hfst, List.forall₂_map_left_iff]
    exact hremains

/-- **A chain of one operator becomes one node.** Its operands are those of
the chain, each converted as a whole and all of them in order. -/
theorem infix_flattens {t : Tree} {operator : Tag} {left right : Tree} {id : NodeId}
    (ht : t.shape = .binary operator left right)
    (hrun : (actions t).expression ctx σ = .ok (id, σ')) :
    ∃ first links, links ≠ [] ∧ t = chain operator first links ∧
      (∀ left right, first.shape ≠ .binary operator left right) ∧
      σ'.arena.kind id = .infixExpression (infixOperator? operator) ∧
      ∃ ids : List NodeId,
        σ'.arena.entries id = ids.zipIdx.map (fun i => ⟨operandSlot i.2, i.1⟩) ∧
        List.Forall₂ (fun e i => Remains ctx (actions e).expression σ.arena.size σ'.arena i)
          (first :: links.map (·.operand)) ids := by
  obtain ⟨n, start, position, stop, shape⟩ := t
  obtain rfl : shape = .binary operator left right := ht
  rw [actions] at hrun
  obtain ⟨id, σ₁, hid, hrun⟩ := bind_eq_ok.1 hrun
  obtain ⟨_, σ₂, hoperands, hrun⟩ := bind_eq_ok.1 hrun
  obtain ⟨rfl, rfl⟩ := pure_eq_ok.1 hrun
  obtain ⟨rfl, hnew, hnode⟩ := allocAt_eq_ok hid
  obtain ⟨ids, hhangs, hremains⟩ := remains_addOperands hnew hoperands
  obtain ⟨first, links, hleft, hfirst, hchain⟩ := exists_chain_of_leftOperands operator
    (⟨left, by simp; omega⟩ : Part (.node n start position stop (.binary operator left right)))
  refine ⟨first, links ++ [⟨n, start, position, stop, right⟩], by simp, ?_, hfirst, ?_, ids, ?_, ?_⟩
  · rw [chain_append, ← hleft]
    rfl
  · rw [hhangs.touches.kind _ hnew, Arena.kind, hnode]
  · rw [hhangs.entries, Arena.entries, hnode, List.nil_append]
  · rw [List.map_append] at hremains
    rw [List.map_append, ← List.cons_append, ← hchain]
    refine hremains.imp fun e i h => ?_
    exact h.weaken (Nat.le_of_lt hnew)

/-- The foreign tree of an operator between two trees. -/
def operation (operator : Tag) (left right : Tree) : Tree :=
  .node 0 0 0 0 (.binary operator left right)

/-- The foreign tree of an identifier. -/
def identifier (name : String) : Tree :=
  .node 0 0 0 0 (.ident name)

/-- The foreign tree of `a + (b + c) + d * e + f`, the brackets for the shape
of the tree only. -/
def mixedSum : Tree :=
  operation .add (operation .add (operation .add (identifier "a")
    (operation .add (identifier "b") (identifier "c")))
    (operation .multiply (identifier "d") (identifier "e"))) (identifier "f")

theorem infix_flattens_mixedSum :
    ∃ id σ', (actions mixedSum).expression ⟨.ofString "", .latest, ""⟩ State.initial =
        .ok (id, σ') ∧
      (σ'.arena.entries id).map (fun c => (c.slot, σ'.arena.kind c.node)) =
        [(.leftOperand, .simpleName "a"), (.rightOperand, .infixExpression (some .plus)),
          (.extendedOperands, .infixExpression (some .times)),
          (.extendedOperands, .simpleName "f")] ∧
      ∃ first links, links ≠ [] ∧ mixedSum = chain .add first links ∧
        (∀ left right, first.shape ≠ .binary .add left right) ∧
        σ'.arena.kind id = .infixExpression (infixOperator? .add) ∧
        ∃ ids : List NodeId,
          σ'.arena.entries id = ids.zipIdx.map (fun i => ⟨operandSlot i.2, i.1⟩) ∧
          List.Forall₂ (fun e i => Remains ⟨.ofString "", .latest, ""⟩ (actions e).expression
            State.initial.arena.size σ'.arena i) (first :: links.map (·.operand)) ids := by
  have hmade : ((actions mixedSum).expression ⟨.ofString "", .latest, ""⟩
      State.initial).toOption.map (fun r =>
        (r.2.arena.entries r.1).map fun c => (c.slot, r.2.arena.kind c.node)) =
      some [(.leftOperand, .simpleName "a"), (.rightOperand, .infixExpression (some .plus)),
        (.extendedOperands, .infixExpression (some .times)),
        (.extendedOperands, .simpleName "f")] := by
    decide +kernel
  cases hrun : (actions mixedSum).expression ⟨.ofString "", .latest, ""⟩ State.initial with
  | error e =>
    rw [hrun] at hmade
    cases hmade
  | ok r =>
    obtain ⟨id, σ'⟩ := r
    rw [hrun] at hmade
    exact ⟨id, σ', rfl, Option.some.inj hmade, infix_flattens rfl hrun⟩

end Conversion

end TreeBridge
