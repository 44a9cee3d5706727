import TreeBridge.Proofs.Comparison.LockStep
/-!
# Matching constant strings

Two constant strings of one value match at once where their kinds differ.
Where both are sums, or both stand in parentheses, the walk goes on to
their operands and the value of the whole is not looked at again: the two
match exactly if the walk meets no two nodes that are split differently.
-/

namespace TreeBridge

namespace Comparison

open Unified

variable {t l r : Tree}

/-! ## The value of a constant string -/

theorem allSome?_eq_some_iff {α : Type} {xs : List (Option α)} {ys : List α} :
    allSome? xs = some ys ↔ xs = ys.map some := by
  induction xs generalizing ys with
  | nil => cases ys <;> simp [allSome?]
  | cons x xs ih =>
    cases x with
    | none => cases ys <;> simp [allSome?]
    | some x =>
      cases ys with
      | nil => simp [allSome?]
      | cons y ys =>
        rw [allSome?, Option.map_eq_some_iff, List.map_cons]
        constructor
        · rintro ⟨zs, hzs, heq⟩
          obtain ⟨rfl, rfl⟩ := List.cons.inj heq
          rw [ih.1 hzs]
        · intro heq
          obtain ⟨hx, hxs⟩ := List.cons.inj heq
          obtain rfl := Option.some.inj hx
          exact ⟨ys, ih.2 hxs, rfl⟩

theorem foldedString?_of_literal {escaped : String} (hkind : t.kind = .stringLiteral escaped) :
    foldedString? t = unquoted? escaped := by
  rw [foldedString?, hkind]

theorem foldedString?_of_parenthesized (hkind : t.kind = .parenthesizedExpression) :
    foldedString? t = (t.child? .expression).bind foldedString? := by
  rw [foldedString?, hkind]
  dsimp only
  split <;> next hinner => rw [hinner]; rfl

/-- The value of a sum is the values of its operands, one behind the
other. -/
theorem foldedString?_of_sum (hkind : t.kind = .infixExpression (some .plus))
    (hl : t.child? .leftOperand = some l) (hr : t.child? .rightOperand = some r) :
    foldedString? t =
      match foldedString? l, foldedString? r,
          allSome? ((t.list .extendedOperands).map foldedString?) with
      | some left, some right, some more => some (left ++ right ++ String.join more)
      | _, _, _ => none := by
  rw [foldedString?, hkind]
  dsimp only
  rw [List.attach_map_val]
  split
  next hl' hr' =>
    cases hl.symm.trans hl'
    cases hr.symm.trans hr'
    rfl
  next hnone => exact absurd hr (hnone l r hl)

theorem sameFoldedString_iff :
    sameFoldedString l r = true ↔ ∃ value, foldedString? l = some value ∧
      foldedString? r = some value := by
  unfold sameFoldedString
  cases foldedString? l with
  | none => simp
  | some a =>
    cases foldedString? r with
    | none => simp
    | some b => simp only [beq_iff_eq, Option.some.injEq, exists_eq_left']; exact eq_comm

/-! ## Where two strings are cut -/

/-- **Two nodes that are cut alike**: they have as many children in each
slot, and where two children at one place are of different kinds, these are
constant strings of one value or a tolerated shape. -/
structure CutAlike (p q : Tree) : Prop where
  sizes : ∀ slot, (p.list slot).length = (q.list slot).length
  values : ∀ (slot : Slot) (i : Nat) (x y : Tree), (p.list slot)[i]? = some x →
    (q.list slot)[i]? = some y → x.kind ≠ y.kind →
      sameFoldedString x y = true ∨ tolerated x y = true

/-- Matching goes down to every pair that the walk meets. -/
theorem matchTrees_of_reached {folding : Bool} {l r p q : Tree} (h : Reached l r p q) :
    matchTrees folding l r = true → matchTrees folding p q = true := by
  induction l using slotInduction generalizing r with
  | h l ih =>
    intro hmatch
    rcases reached_iff.1 h with ⟨rfl, rfl⟩ | ⟨hkind, slot, i, x, y, hx, hy, hbelow⟩
    · exact hmatch
    · rw [matchTrees_iff, if_pos hkind] at hmatch
      exact ih slot x (List.mem_of_getElem? hx) hbelow ((hmatch slot).2 i x y hx hy)

theorem cutAlike_of_matchTrees {p q : Tree} (hkind : p.kind = q.kind)
    (h : matchTrees true p q = true) : CutAlike p q := by
  rw [matchTrees_iff, if_pos hkind] at h
  refine ⟨fun slot => (h slot).1, fun slot i x y hx hy hdiffer => ?_⟩
  have hbelow : matchTrees true x y = true := (h slot).2 i x y hx hy
  rw [matchTrees_iff, if_neg hdiffer] at hbelow
  exact hbelow.symm.imp_left And.right

/-- Two trees match if their roots are of one kind, or of one value, or
tolerated, and wherever the walk meets two nodes of one kind, these are cut
alike. -/
theorem matchTrees_of_cutAlike (l : Tree) : ∀ r : Tree,
    (l.kind ≠ r.kind → sameFoldedString l r = true ∨ tolerated l r = true) →
    (∀ p q, Reached l r p q → p.kind = q.kind → CutAlike p q) → matchTrees true l r = true := by
  induction l using slotInduction with
  | h l ih =>
    intro r hroot hcut
    rw [matchTrees_iff]
    by_cases hkind : l.kind = r.kind
    · rw [if_pos hkind]
      obtain ⟨hsizes, hvalues⟩ := hcut l r (reached_self l r) hkind
      refine fun slot => ⟨hsizes slot, fun i x y hx hy => ?_⟩
      refine ih slot x (List.mem_of_getElem? hx) y (hvalues slot i x y hx hy) fun p q hpq => ?_
      exact hcut p q (reached_iff.2 (.inr ⟨hkind, slot, i, x, y, hx, hy, hpq⟩))
    · rw [if_neg hkind]
      exact (hroot hkind).symm.imp_right fun hvalue => ⟨rfl, hvalue⟩

/-- **When constant strings of one value match.** They do exactly if all
pairs of one kind that the walk meets are cut alike. So two of different
kinds match in any case, for the walk does not go below them, and two sums
that are split at different places do not. -/
theorem matchTrees_iff_cutAlike {a b : Tree} {value : String}
    (ha : foldedString? a = some value) (hb : foldedString? b = some value) :
    matchTrees true a b = true ↔ ∀ p q, Reached a b p q → p.kind = q.kind → CutAlike p q := by
  refine ⟨fun hmatch p q hpq hkind => ?_, matchTrees_of_cutAlike a b fun _ => ?_⟩
  · exact cutAlike_of_matchTrees hkind (matchTrees_of_reached hpq hmatch)
  · exact .inl (sameFoldedString_iff.2 ⟨value, ha, hb⟩)

/-- A literal with this text. -/
def literal (escaped : String) : Tree :=
  .node 0 (.stringLiteral escaped) .unset 0 []

/-- The sum of two trees. -/
def sum (left right : Tree) : Tree :=
  .node 0 (.infixExpression (some .plus)) .unset 0 [(.leftOperand, left), (.rightOperand, right)]

/-- A sum of sums against a sum of literals: the walk stops where `"a" + "b"`
stands against `"ab"`. -/
theorem cutAlike_of_reached_nestedSum :
    foldedString? (sum (sum (literal "\"a\"") (literal "\"b\"")) (literal "\"c\"")) = some "abc" ∧
      foldedString? (sum (literal "\"ab\"") (literal "\"c\"")) = some "abc" ∧
      ∀ p q, Reached (sum (sum (literal "\"a\"") (literal "\"b\"")) (literal "\"c\""))
        (sum (literal "\"ab\"") (literal "\"c\"")) p q → p.kind = q.kind → CutAlike p q := by
  have hnested : foldedString? (sum (sum (literal "\"a\"") (literal "\"b\"")) (literal "\"c\"")) =
      some "abc" := by decide +kernel
  have hflat : foldedString? (sum (literal "\"ab\"") (literal "\"c\"")) = some "abc" := by
    decide +kernel
  exact ⟨hnested, hflat, (matchTrees_iff_cutAlike hnested hflat).1 (by decide +kernel)⟩

/-- Two sums of one value whose operands meet at different places. -/
theorem matchTrees_splitApart :
    foldedString? (sum (literal "\"a\"") (literal "\"bc\"")) = some "abc" ∧
      foldedString? (sum (literal "\"ab\"") (literal "\"c\"")) = some "abc" ∧
      matchTrees true (sum (literal "\"a\"") (literal "\"bc\""))
        (sum (literal "\"ab\"") (literal "\"c\"")) = false := by
  decide +kernel

end Comparison

end TreeBridge
