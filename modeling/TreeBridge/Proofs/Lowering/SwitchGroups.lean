import Mathlib.Algebra.GroupWithZero.Nat
import TreeBridge.Proofs.Lowering.Layout
/-!
# Statements of a switch group

A group of labels lowers to one case per label, of which the last has the
statements. They are lowered as the statements of a block are, except for
the empty statement that is a bare semicolon: a block has a tree for it
and a group has none. So the group has the trees of the block exactly if
there is no bare semicolon in it.
-/

namespace TreeBridge

namespace Lowering

open Concrete (Node Kind)
open Concrete.Node (Part Parts)

/-! ## What a part has no trees for -/

section

variable {α : Type} {f g : α → Build (List Foreign.Tree)}

theorem gather_cons (f : α → Build (List Foreign.Tree)) (x : α) (xs : List α) :
    gather f (x :: xs) = f x >>= fun ts => gather f xs >>= fun us => pure (ts ++ us) := by
  simp [gather, List.mapM_cons]

/-- Elements that nothing is made for can be left out. -/
theorem gather_filter (keep : α → Bool) : ∀ {xs : List α},
    (∀ x ∈ xs, keep x = false → f x = pure []) → (∀ x ∈ xs, keep x = true → f x = g x) →
      gather f xs = gather g (xs.filter keep)
  | [], _, _ => rfl
  | x :: xs, hdropped, hkept => by
    have ih : gather f xs = gather g (xs.filter keep) :=
      gather_filter keep (fun y hy => hdropped y (List.mem_cons_of_mem x hy))
        (fun y hy => hkept y (List.mem_cons_of_mem x hy))
    cases hx : keep x with
    | false =>
      rw [List.filter_cons_of_neg (by simp [hx]), gather_cons, ih,
        hdropped x List.mem_cons_self hx]
      simp
    | true =>
      rw [List.filter_cons_of_pos hx, gather_cons, gather_cons, ih,
        hkept x List.mem_cons_self hx]

/-- The trees made for a list number as many as those made for its
elements. -/
theorem length_gather {width : α → Nat} {xs : List α}
    (h : ∀ x ∈ xs, Gives (fun ts => ts.length = width x) (f x)) :
    Gives (fun ts => ts.length = (xs.map width).sum) (gather f xs) := by
  induction xs with
  | nil => exact fun _ => rfl
  | cons x xs ih =>
    obtain ⟨hx, hxs⟩ := List.forall_mem_cons.1 h
    rw [gather_cons]
    refine hx.bind fun ts hts => (ih hxs).bind fun us hus => Gives.pure ?_
    rw [List.length_append, hts, hus, List.map_cons, List.sum_cons]

end

variable (s : Source) {n : Node}

/-- The number of trees that a node lowers to as statements: one for each
declarator of a declaration of variables. -/
def width (c : Node) : Nat :=
  if c.kind = .localVariableDeclaration then max 1 (c.parts.inField .declarator).length else 1

theorem length_statements (below : Below n) :
    Gives (fun ts => ts.length = width n) (statements s below) := by
  by_cases hlocal : n.kind = .localVariableDeclaration
  · rw [width, if_pos hlocal, statements, hlocal]
    show Gives _ (declaredVariables s below)
    unfold declaredVariables
    split
    · next hnone =>
      rw [hnone]
      exact fun _ => rfl
    · next hsome =>
      intro σ
      have hlength :=
        (spells_declarators s below (n.parts.inField .declarator) true σ).length_eq
      have hpos := List.length_pos_of_ne_nil hsome
      rw [List.length_map] at hlength
      exact hlength.trans (Nat.max_eq_right hpos).symm
  · rw [width, if_neg hlocal]
    unfold statements
    split
    · next h => exact absurd h hlocal
    · exact fun _ => rfl

/-- The number of trees that a node lowers to in a block. -/
def blockWidth (p : Part n) : Nat :=
  if p.kind.isComment || p.1.isMissing then 0
  else if p.kind = .token "\x7b" ∨ p.kind = .token "\x7d" then 0
  else if p.kind = .token ";" then 1
  else if p.1.isNamed then width p.1
  else 0

theorem length_blockStatement (p : Part n) :
    Gives (fun ts => ts.length = blockWidth p) (blockStatement (fun p => actions s p.1) p) := by
  have hstatements := length_statements s (fun q : Part p.1 => actions s q.1)
  rw [← statements_actions] at hstatements
  unfold blockStatement blockWidth
  split
  · exact Gives.pure rfl
  · split
    · exact Gives.pure rfl
    · split
      · exact fun _ => rfl
      · split
        · exact hstatements
        · exact Gives.pure rfl

/-! ## Groups -/

/-- Whether a part is an empty statement that is a bare semicolon. -/
def isBare (p : Part n) : Bool :=
  p.kind == .token ";" && !p.1.isNamed

/-- The parts of a group that are no labels. -/
def unlabelled (group : Part n) : Parts n :=
  group.parts.filter (fun p => p.kind != .switchLabel)

/-- A group as a parser makes it that made up no node: it has a label, and
the braces around it are no parts of it. -/
structure IsGroup (group : Part n) : Prop where
  kind : group.kind = .switchBlockStatementGroup
  labelled : ∃ p ∈ group.parts.named, p.kind = .switchLabel
  present : ∀ p ∈ group.parts, p.1.isMissing = false
  braceless : ∀ p ∈ group.parts, p.kind ≠ .token "\x7b" ∧ p.kind ≠ .token "\x7d"

theorem blockWidth_of_isBare {p : Part n} (hbare : isBare p = true)
    (hpresent : p.1.isMissing = false) : blockWidth p = 1 := by
  obtain ⟨hkind, -⟩ := Bool.and_eq_true_iff.1 hbare
  simp [blockWidth, eq_of_beq hkind, hpresent, Kind.isComment]

/-- Every bare semicolon is one tree of a block. -/
theorem sum_blockWidth {ps : Parts n} (hpresent : ∀ p ∈ ps, p.1.isMissing = false) :
    (ps.map blockWidth).sum =
      ((ps.filter (fun p => !isBare p)).map blockWidth).sum + ps.countP isBare := by
  induction ps with
  | nil => rfl
  | cons p ps ih =>
    obtain ⟨hp, hps⟩ := List.forall_mem_cons.1 hpresent
    rw [List.map_cons, List.sum_cons, ih hps, List.countP_cons, List.filter_cons]
    cases hbare : isBare p with
    | false => simp [Nat.add_assoc]
    | true =>
      rw [blockWidth_of_isBare hbare hp]
      simp only [Bool.not_true, Bool.false_eq_true, if_false, if_true]
      omega

/-- A group reads its statements as a block reads them without the bare
semicolons. -/
theorem gather_groupStatement (below : Below n) {group : Part n} (h : IsGroup group) :
    gather (groupStatement below)
        (group.parts.named.filter (fun c => c.kind != .switchLabel)) =
      blockStatements below ((unlabelled group).filter (fun p => !isBare p)) := by
  have hparts : group.parts.named.filter (fun c => c.kind != .switchLabel) =
      ((unlabelled group).filter (fun p => !isBare p)).filter Part.isCode := by
    rw [unlabelled, Parts.named, List.filter_filter, List.filter_filter, List.filter_filter]
    refine List.filter_congr fun p _ => ?_
    cases hnamed : p.1.isNamed <;> simp [Part.isCode, isBare, hnamed, Bool.and_comm]
  rw [hparts, blockStatements]
  symm
  have hmem : ∀ {p}, p ∈ (unlabelled group).filter (fun p => !isBare p) →
      p ∈ group.parts ∧ isBare p = false := by
    intro p hp
    obtain ⟨hp, hbare⟩ := List.mem_filter.1 hp
    exact ⟨List.mem_of_mem_filter hp, by simpa using hbare⟩
  refine gather_filter Part.isCode (fun p hp hcode => ?_) fun p hp hcode => ?_
  · obtain ⟨-, hbare⟩ := hmem hp
    -- a comment, or a token that is no semicolon
    unfold blockStatement
    split
    · rfl
    · split
      · rfl
      · split
        · next hsemicolon => simp_all [isBare, Part.isCode]
        · split
          · simp_all [Part.isCode]
          · rfl
  · obtain ⟨hp, -⟩ := hmem hp
    obtain ⟨hopen, hclose⟩ := h.braceless p hp
    obtain ⟨hnamed, hcomment⟩ := Bool.and_eq_true_iff.1 hcode
    simp only [blockStatement, groupStatement, h.present p hp, hnamed, hopen, hclose]
    simp_all

/-- A tree is the case of a label without statements. -/
def IsBareCase (t : Foreign.Tree) : Prop :=
  ∃ labels isDefault, t.shape = .switchCase labels isDefault false []

/-- Only the last of the cases of a group has statements. -/
theorem groupCases_spec (below : Below n) (group : Part n) (statements : Parts n) :
    ∀ {labels : Parts n}, labels ≠ [] → ∀ σ, ∃ init last read isDefault τ,
      (groupCases below group statements labels σ).1 = init ++ [last] ∧
      (∀ t ∈ init, IsBareCase t) ∧
      last.shape = .switchCase read isDefault false
        (gather (groupStatement below) statements τ).1
  | [], h, _ => absurd rfl h
  | [label], _, σ =>
    ⟨[], _, _, _, _, rfl, fun _ h => absurd h List.not_mem_nil, rfl⟩
  | label :: next :: rest, _, σ => by
    obtain ⟨init, last, read, isDefault, τ, hcases, hinit, hlast⟩ :=
      groupCases_spec below group statements (List.cons_ne_nil next rest)
        (groupCase below label (colonStop group label) [] σ).2
    refine ⟨_ :: init, last, read, isDefault, τ, congrArg (_ :: ·) hcases, ?_, hlast⟩
    exact List.forall_mem_cons.2 ⟨⟨_, _, rfl⟩, hinit⟩

/-- **Statements of a group and of a block.** The last case of a group has
the trees that a block has for the same parts without the bare semicolons.
A block has one more for each of these, so it is the same trees exactly if
there is none. -/
theorem switchMember_statements {group : Part n} (h : IsGroup group) (inExpression : Bool)
    (σ : State) : ∃ init last read isDefault stats τ,
      (switchMember (fun p => actions s p.1) inExpression group σ).1 = init ++ [last] ∧
      (∀ t ∈ init, IsBareCase t) ∧
      last.shape = .switchCase read isDefault false stats ∧
      stats = (blockStatements (fun p => actions s p.1)
        ((unlabelled group).filter (fun p => !isBare p)) τ).1 ∧
      (∀ υ, (blockStatements (fun p => actions s p.1) (unlabelled group) υ).1.length =
        stats.length + (unlabelled group).countP isBare) ∧
      (stats = (blockStatements (fun p => actions s p.1) (unlabelled group) τ).1 ↔
        ∀ p ∈ unlabelled group, isBare p = false) := by
  have hlabels : group.parts.named.filter (fun c => c.kind == .switchLabel) ≠ [] := by
    obtain ⟨label, hlabel, hkind⟩ := h.labelled
    exact List.ne_nil_of_mem (List.mem_filter.2 ⟨hlabel, beq_iff_eq.2 hkind⟩)
  have hmember : switchMember (fun p => actions s p.1) inExpression group =
      groupCases (fun p => actions s p.1) group
        (group.parts.named.filter (fun c => c.kind != .switchLabel))
        (group.parts.named.filter (fun c => c.kind == .switchLabel)) := by
    rw [switchMember, h.kind]
  obtain ⟨init, last, read, isDefault, τ, hcases, hinit, hlast⟩ :=
    groupCases_spec (fun p => actions s p.1) group _ hlabels σ
  rw [gather_groupStatement _ h] at hlast
  have hpresent : ∀ p ∈ unlabelled group, p.1.isMissing = false :=
    fun p hp => h.present p (List.mem_of_mem_filter hp)
  have hlength : ∀ υ, (blockStatements (fun p => actions s p.1) (unlabelled group) υ).1.length =
      (blockStatements (fun p => actions s p.1)
        ((unlabelled group).filter (fun p => !isBare p)) τ).1.length +
          (unlabelled group).countP isBare := by
    intro υ
    rw [blockStatements, blockStatements, length_gather (fun p _ => length_blockStatement s p) υ,
      length_gather (fun p _ => length_blockStatement s p) τ, sum_blockWidth hpresent]
  refine ⟨init, last, read, isDefault, _, τ, hmember ▸ hcases, hinit, hlast, rfl, hlength, ?_⟩
  constructor
  · intro heq
    have hcount := hlength τ
    rw [← heq] at hcount
    simpa [List.countP_eq_zero] using hcount
  · intro hnone
    rw [List.filter_eq_self.2 fun p hp => by rw [hnone p hp]; rfl]

/-- A group of one label and one bare semicolon. -/
def bareGroup : Node :=
  .mk .switchBlockStatementGroup none true false false 32 41 [
    .mk .switchLabel none true false false 32 38 [
      .mk (.token "case") none false false false 32 36 [],
      .mk .decimalIntegerLiteral none true false false 37 38 []],
    .mk (.token ":") none false false false 38 39 [],
    .mk (.token ";") none false false false 40 41 []]

/-- The block of a switch around the group. -/
def bareBlock : Node :=
  .mk (.token "switch_block") (some .body) true false false 30 43 [
    .mk (.token "\x7b") none false false false 30 31 [],
    bareGroup,
    .mk (.token "\x7d") none false false false 42 43 []]

/-- The group as a part of the block. -/
def barePart : Part bareBlock :=
  ⟨bareGroup, .child (List.mem_cons_of_mem _ List.mem_cons_self)⟩

/-- The source of the group. -/
def bareSource : Source :=
  .ofString "class A \x7b static \x7b switch (x) \x7b case 1: ; \x7d \x7d \x7d"

/-- The group has one case without statements, and a block with the same
parts has an empty statement. -/
theorem switchMember_bare :
    (switchMember (fun p => actions bareSource p.1) false barePart .initial).1.map
        (fun t => (t.tag, t.children.map Foreign.Tree.tag)) = [(.switchCase, [.literal])] ∧
      ∀ σ, (blockStatements (fun p => actions bareSource p.1) (unlabelled barePart) σ).1.map
        Foreign.Tree.tag = [.skip] :=
  ⟨by decide +kernel, fun _ => rfl⟩

theorem switchMember_statements_bare : IsGroup barePart ∧
    ∃ init last read isDefault stats τ,
      (switchMember (fun p => actions bareSource p.1) false barePart .initial).1 =
        init ++ [last] ∧
      last.shape = .switchCase read isDefault false stats ∧
      stats ≠ (blockStatements (fun p => actions bareSource p.1) (unlabelled barePart) τ).1 := by
  have hgroup : IsGroup barePart :=
    ⟨rfl, ⟨_, List.mem_cons_self, rfl⟩, by decide +kernel, by decide +kernel⟩
  obtain ⟨init, last, read, isDefault, stats, τ, hcases, -, hlast, -, -, hiff⟩ :=
    switchMember_statements bareSource hgroup false .initial
  have hbare : ¬ ∀ p ∈ unlabelled barePart, isBare p = false := by decide +kernel
  exact ⟨hgroup, init, last, read, isDefault, stats, τ, hcases, hlast, fun h => hbare (hiff.1 h)⟩

end Lowering

end TreeBridge
