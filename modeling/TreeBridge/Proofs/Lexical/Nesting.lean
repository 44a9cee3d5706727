import TreeBridge.Proofs.Lexical.Tiling
/-!
# Nested brackets

Tokens are properly nested when every parenthesis, square bracket and brace
that opens is closed by one of its own form, with properly nested tokens in
between. Such tokens are other tokens and outermost pairs, one behind the
other; what stands inside a pair does not show in the list of the pairs.
-/

namespace TreeBridge

namespace Lexical

/-- The kind of the token that closes what a token of a kind opens. -/
def TokenKind.closing? : TokenKind → Option TokenKind
  | leftParen => some rightParen
  | leftBrace => some rightBrace
  | leftBracket => some rightBracket
  | _ => none

theorem TokenKind.closing?_eq_some_iff {opening closing : TokenKind} :
    opening.closing? = some closing ↔
      opening = leftParen ∧ closing = rightParen ∨ opening = leftBrace ∧ closing = rightBrace ∨
        opening = leftBracket ∧ closing = rightBracket := by
  cases opening <;> simp [closing?, eq_comm]

/-- A pair of brackets of one form. -/
structure Enclosure where
  opening : Token
  closing : Token
  closes : opening.kind.closing? = some closing.kind

/-- **Properly nested tokens**, with their outermost pairs in order. -/
inductive Nested : List Token → List Enclosure → Prop
  | nil : Nested [] []
  | plain {t : Token} {ts : List Token} {pairs : List Enclosure}
      (hplain : t.kind.isBracket = false) (hrest : Nested ts pairs) : Nested (t :: ts) pairs
  | pair {e : Enclosure} {inside ts : List Token} {within pairs : List Enclosure}
      (hinside : Nested inside within) (hrest : Nested ts pairs) :
      Nested (e.opening :: (inside ++ e.closing :: ts)) (e :: pairs)

variable {s : Source} {start stop : Int} {ts : List Token} {pairs : List Enclosure}
  {e : Enclosure}

namespace Nested

/-- The ends of an outermost pair stand in the tokens, one behind the
other. -/
theorem sublist (h : Nested ts pairs) (he : e ∈ pairs) : [e.opening, e.closing].Sublist ts := by
  induction h with
  | nil => cases he
  | plain _ _ ih => exact (ih he).cons _
  | @pair f inside ts within pairs _ _ _ ih =>
    rcases List.mem_cons.1 he with rfl | he
    · refine List.Sublist.cons_cons _ (List.singleton_sublist.2 ?_)
      exact List.mem_append_right _ List.mem_cons_self
    · have hskip : ts.Sublist (f.opening :: (inside ++ f.closing :: ts)) :=
        ((List.sublist_cons_self _ ts).trans (List.sublist_append_right inside _)).cons _
      exact (ih he).trans hskip

/-- A pair between two offsets opens in between, and closes behind where it
opens. -/
theorem bounds (h : Nested (codeTokensBetween s start stop) pairs) (he : e ∈ pairs) :
    (e.opening.start : Int) < stop ∧ e.opening.start < e.closing.stop := by
  have hsub := h.sublist he
  have hopening : e.opening ∈ codeTokensBetween s start stop := hsub.subset (by simp)
  have hclosing : e.closing ∈ codeTokensBetween s start stop := hsub.subset (by simp)
  obtain ⟨hwithin, hordered⟩ := (@scans_codeTokens s start).ordered
  have hpair := (hordered.sublist (List.takeWhile_sublist _)).sublist hsub
  have hbehind : e.opening.stop ≤ e.closing.start := List.rel_of_pairwise_cons hpair (by simp)
  have hopens := (hwithin _ ((List.takeWhile_sublist _).subset hopening)).2.1
  have hcloses := (hwithin _ ((List.takeWhile_sublist _).subset hclosing)).2.1
  have hlimit := List.all_eq_true.1 List.all_takeWhile _ hopening
  exact ⟨of_decide_eq_true hlimit, by omega⟩

end Nested

end Lexical

end TreeBridge
