import TreeBridge.Comparison.Divergence
/-!
# Structural matching

`matchTrees` answers whether two trees agree in kinds, attributes and
children, whatever their positions and flags. Where kinds differ a
tolerated shape matches, and so may two constant strings of one value,
however they are split.
-/

namespace TreeBridge

namespace Comparison

open Unified

/-- The values of a list of which none is missing. -/
def allSome? {α : Type} : List (Option α) → Option (List α)
  | [] => some []
  | none :: _ => none
  | some a :: rest => (allSome? rest).map (a :: ·)

/-- The content of a literal between its two quotes. -/
def unquoted? (escaped : String) : Option String :=
  match escaped.toList with
  | '"' :: rest =>
    if rest.getLast? = some '"' then some (String.ofList rest.dropLast) else none
  | _ => none

/-- The escaped content of a constant string: of a literal, of a
parenthesized constant string, or of a sum of constant strings. -/
def foldedString? (t : Tree) : Option String :=
  match t.kind with
  | .stringLiteral escaped => unquoted? escaped
  | .parenthesizedExpression =>
    match _he : t.child? .expression with
    | some inner => foldedString? inner
    | none => none
  | .infixExpression (some .plus) =>
    match _hl : t.child? .leftOperand, _hr : t.child? .rightOperand with
    | some left, some right =>
      match foldedString? left, foldedString? right,
          allSome? ((t.list .extendedOperands).attach.map (fun o => foldedString? o.1)) with
      | some l, some r, some more => some (l ++ r ++ String.join more)
      | _, _, _ => none
    | _, _ => none
  | _ => none
termination_by sizeOf t
decreasing_by
  · exact Tree.sizeOf_lt_of_child? _he
  · exact Tree.sizeOf_lt_of_child? _hl
  · exact Tree.sizeOf_lt_of_child? _hr
  · exact Tree.sizeOf_lt_of_mem_list o.2

/-- Whether two trees are constant strings of one value. -/
def sameFoldedString (l r : Tree) : Bool :=
  match foldedString? l, foldedString? r with
  | some a, some b => a == b
  | _, _ => false

/-- **Whether two trees match.** `folding` lets constant strings match by
value. -/
def matchTrees (folding : Bool) (l r : Tree) : Bool :=
  if l.kind = r.kind then
    (sharedSlots l r).all (fun slot =>
      let ls := l.list slot
      let rs := r.list slot
      ls.length == rs.length &&
        (ls.attach.zip rs).all (fun p => matchTrees folding p.1.1 p.2))
  else tolerated l r || (folding && sameFoldedString l r)
termination_by sizeOf l
decreasing_by exact Tree.sizeOf_lt_of_mem_list p.1.2

end Comparison

end TreeBridge
