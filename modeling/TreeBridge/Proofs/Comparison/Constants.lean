import TreeBridge.Proofs.Comparison.Joints
/-!
# Matching tells constant strings apart

Constant strings of one value need not match, but those that match have one
value: folding compares values, the tolerance compares texts without their
joints, and where both sides are cut alike so are the values of the
operands.
-/

namespace TreeBridge

namespace Comparison

open Unified

/-- **A constant string**: a literal, a constant string in parentheses, or a
sum of constant strings. -/
inductive IsConstant : Tree → Prop
  | literal {t : Tree} {content : List Char} (h : IsLiteral t content) : IsConstant t
  | parenthesized {t inner : Tree} (hkind : t.kind = .parenthesizedExpression)
      (hinner : t.child? .expression = some inner) (h : IsConstant inner) : IsConstant t
  | sum {t l r : Tree} (hkind : t.kind = .infixExpression (some .plus))
      (hl : t.child? .leftOperand = some l) (hr : t.child? .rightOperand = some r)
      (hleft : IsConstant l) (hright : IsConstant r)
      (hmore : ∀ o ∈ t.list .extendedOperands, IsConstant o) : IsConstant t

variable {a b t l r : Tree}

namespace IsConstant

/-- A constant string that is a literal is one with a content. -/
theorem isLiteral (h : IsConstant t) (hstring : isStringLiteral t = true) :
    ∃ content, IsLiteral t content := by
  cases h with
  | literal h => exact ⟨_, h⟩
  | parenthesized hkind => rw [isStringLiteral, hkind] at hstring; cases hstring
  | sum hkind => rw [isStringLiteral, hkind] at hstring; cases hstring

theorem inner (h : IsConstant t) (hkind : t.kind = .parenthesizedExpression) :
    ∃ inner, t.child? .expression = some inner ∧ IsConstant inner := by
  cases h with
  | literal h => cases h.kind.symm.trans hkind
  | parenthesized _ hinner h => exact ⟨_, hinner, h⟩
  | sum hkind' => cases hkind'.symm.trans hkind

theorem operands (h : IsConstant t) (hkind : t.kind = .infixExpression (some .plus)) :
    ∃ l r, t.child? .leftOperand = some l ∧ t.child? .rightOperand = some r ∧ IsConstant l ∧
      IsConstant r ∧ ∀ o ∈ t.list .extendedOperands, IsConstant o := by
  cases h with
  | literal h => cases h.kind.symm.trans hkind
  | parenthesized hkind' => cases hkind'.symm.trans hkind
  | sum _ hl hr hleft hright hmore => exact ⟨_, _, hl, hr, hleft, hright, hmore⟩

end IsConstant

/-- Constant strings that are literals have contents. -/
theorem exists_contents {ts : List Tree} (h : ∀ t ∈ ts, IsConstant t)
    (hstrings : ts.all isStringLiteral = true) :
    ∃ contents, List.Forall₂ IsLiteral ts contents := by
  induction ts with
  | nil => exact ⟨[], .nil⟩
  | cons t ts ih =>
    obtain ⟨ht, hts⟩ := List.forall_mem_cons.1 h
    rw [List.all_cons, Bool.and_eq_true] at hstrings
    obtain ⟨content, hcontent⟩ := ht.isLiteral hstrings.1
    obtain ⟨contents, hcontents⟩ := ih hts hstrings.2
    exact ⟨content :: contents, .cons hcontent hcontents⟩

/-- A constant string that is a concatenation of literals is a flat sum. -/
theorem IsConstant.isSum (h : IsConstant t) (hflat : isLiteralConcatenation t = true) :
    ∃ first second more, IsSum t first second more := by
  rw [isLiteralConcatenation, Bool.and_eq_true, Bool.and_eq_true, beq_iff_eq] at hflat
  obtain ⟨⟨hkind, -⟩, hall⟩ := hflat
  obtain ⟨l, r, hl, hr, hleft, hright, hmore⟩ := h.operands hkind
  rw [Comparison.operands, hl, hr, List.all_append, List.all_append, Bool.and_eq_true,
    Bool.and_eq_true] at hall
  obtain ⟨⟨hlstring, hrstring⟩, hstrings⟩ := hall
  obtain ⟨first, hfirst⟩ := hleft.isLiteral (by simpa using hlstring)
  obtain ⟨second, hsecond⟩ := hright.isLiteral (by simpa using hrstring)
  obtain ⟨more, hcontents⟩ := exists_contents hmore hstrings
  exact ⟨first, second, more, hkind, ⟨l, hl, hfirst⟩, ⟨r, hr, hsecond⟩, hcontents⟩

/-- A tolerated shape of two constant strings is a literal and a sum of one
value. -/
theorem foldedString?_eq_of_toleratedOneWay (ha : IsConstant a) (hb : IsConstant b)
    (h : toleratedOneWay a b = true) : foldedString? a = foldedString? b := by
  cases ha with
  | literal ha =>
    cases hb with
    | literal hb => rw [toleratedOneWay, ha.kind, hb.kind] at h; cases h
    | parenthesized hkind => rw [toleratedOneWay, ha.kind, hkind] at h; cases h
    | sum hkind hl hr hleft hright hmore =>
      have hflat : isLiteralConcatenation b = true := by
        rw [toleratedOneWay, ha.kind, hkind] at h
        exact (Bool.and_eq_true_iff.1 h).1
      obtain ⟨first, second, more, hsum⟩ :=
        (IsConstant.sum hkind hl hr hleft hright hmore).isSum hflat
      exact (foldedString?_eq_iff ha hsum).2 ((toleratedOneWay_iff ha hsum).1 h).1
  | parenthesized hkind => rw [toleratedOneWay, hkind] at h; cases h
  | sum hkind => rw [toleratedOneWay, hkind] at h; cases h

theorem foldedString?_eq_of_tolerated (ha : IsConstant a) (hb : IsConstant b)
    (h : tolerated a b = true) : foldedString? a = foldedString? b := by
  rw [tolerated, Bool.or_eq_true] at h
  rcases h with h | h
  · exact foldedString?_eq_of_toleratedOneWay ha hb h
  · exact (foldedString?_eq_of_toleratedOneWay hb ha h).symm

theorem foldedString?_eq_of_kind_ne (ha : IsConstant a) (hb : IsConstant b)
    (hkind : a.kind ≠ b.kind) (h : matchTrees true a b = true) :
    foldedString? a = foldedString? b := by
  rw [matchTrees_iff, if_neg hkind] at h
  rcases h with htolerated | ⟨-, hsame⟩
  · exact foldedString?_eq_of_tolerated ha hb htolerated
  · obtain ⟨value, hvalue, hvalue'⟩ := sameFoldedString_iff.1 hsame
    rw [hvalue, hvalue']

/-- **Constant strings that match have one value**, by induction on how the
first is built. Where the kinds agree, the second is built in the same way
and the operands match. -/
theorem foldedString?_eq_of_matchTrees (ha : IsConstant a) (hb : IsConstant b)
    (h : matchTrees true a b = true) : foldedString? a = foldedString? b := by
  induction ha generalizing b with
  | @literal t _ hliteral =>
    by_cases hkind : t.kind = b.kind
    · rw [foldedString?_of_literal hliteral.kind,
        foldedString?_of_literal (hkind.symm.trans hliteral.kind)]
    · exact foldedString?_eq_of_kind_ne (.literal hliteral) hb hkind h
  | @parenthesized t inner hparenthesized hinner hconstant ih =>
    by_cases hkind : t.kind = b.kind
    · rw [matchTrees_iff, if_pos hkind] at h
      obtain ⟨inner', hinner', hconstant'⟩ := hb.inner (hkind.symm.trans hparenthesized)
      have hvalues : foldedString? inner = foldedString? inner' :=
        ih hconstant' ((h .expression).of_child? hinner hinner')
      rw [foldedString?_of_parenthesized hparenthesized, hinner,
        foldedString?_of_parenthesized (hkind.symm.trans hparenthesized), hinner']
      exact hvalues
    · exact foldedString?_eq_of_kind_ne (.parenthesized hparenthesized hinner hconstant) hb hkind h
  | @sum t l r hsum hl hr hleft hright hmore ihl ihr ihmore =>
    by_cases hkind : t.kind = b.kind
    · rw [matchTrees_iff, if_pos hkind] at h
      obtain ⟨l', r', hl', hr', hleft', hright', hmore'⟩ := hb.operands (hkind.symm.trans hsum)
      have hvalueLeft : foldedString? l = foldedString? l' :=
        ihl hleft' ((h .leftOperand).of_child? hl hl')
      have hvalueRight : foldedString? r = foldedString? r' :=
        ihr hright' ((h .rightOperand).of_child? hr hr')
      have hvaluesMore : (t.list .extendedOperands).map foldedString? =
          (b.list .extendedOperands).map foldedString? := by
        refine Paired.map_eq ⟨(h .extendedOperands).1, fun i x y hx hy => ?_⟩
        exact ihmore x (List.mem_of_getElem? hx) (hmore' y (List.mem_of_getElem? hy))
          ((h .extendedOperands).2 i x y hx hy)
      rw [foldedString?_of_sum hsum hl hr, foldedString?_of_sum (hkind.symm.trans hsum) hl' hr',
        hvalueLeft, hvalueRight, hvaluesMore]
    · exact foldedString?_eq_of_kind_ne (.sum hsum hl hr hleft hright hmore) hb hkind h

theorem exists_allSome? {ts : List Tree} (h : ∀ t ∈ ts, ∃ value, foldedString? t = some value) :
    ∃ values, allSome? (ts.map foldedString?) = some values := by
  induction ts with
  | nil => exact ⟨[], rfl⟩
  | cons t ts ih =>
    obtain ⟨⟨value, hvalue⟩, hts⟩ := List.forall_mem_cons.1 h
    obtain ⟨values, hvalues⟩ := ih hts
    exact ⟨value :: values, by rw [List.map_cons, hvalue, allSome?, hvalues]; rfl⟩

/-- Every constant string has a value. -/
theorem IsConstant.exists_foldedString? (h : IsConstant t) :
    ∃ value, foldedString? t = some value := by
  induction h with
  | literal h => exact ⟨_, h.foldedString?⟩
  | parenthesized hkind hinner _ ih =>
    obtain ⟨value, hvalue⟩ := ih
    exact ⟨value, by rw [foldedString?_of_parenthesized hkind, hinner]; exact hvalue⟩
  | sum hkind hl hr _ _ _ ihl ihr ihmore =>
    obtain ⟨left, hleft⟩ := ihl
    obtain ⟨right, hright⟩ := ihr
    obtain ⟨more, hmore⟩ := exists_allSome? ihmore
    exact ⟨_, by rw [foldedString?_of_sum hkind hl hr, hleft, hright, hmore]⟩

/-- **When constant strings match.** They do exactly if they have one value
and all pairs of one kind that the walk meets are cut alike. -/
theorem matchTrees_iff_of_isConstant (ha : IsConstant a) (hb : IsConstant b) :
    matchTrees true a b = true ↔ foldedString? a = foldedString? b ∧
      ∀ p q, Reached a b p q → p.kind = q.kind → CutAlike p q := by
  constructor
  · intro h
    exact ⟨foldedString?_eq_of_matchTrees ha hb h,
      fun p q hpq hkind => cutAlike_of_matchTrees hkind (matchTrees_of_reached hpq h)⟩
  · rintro ⟨hvalue, hcut⟩
    obtain ⟨value, ha⟩ := ha.exists_foldedString?
    refine matchTrees_of_cutAlike a b (fun _ => .inl ?_) hcut
    exact sameFoldedString_iff.2 ⟨value, ha, hvalue ▸ ha⟩

end Comparison

end TreeBridge
