import Mathlib.Data.List.Forall2
import TreeBridge.Lowering.Malformed
/-!
# Reports of the outermost errors

A node of a concrete tree is told by the path that leads to it, the
indices of the children that are taken on the way; in the order of the
paths a node comes before what is below it and after what is to its left.
The reports of malformed source are one for each path to a malformed node
with none above it, in this order (`malformedReports_outermost`). The same
reports come out of a loop over a stack of nodes, and what it skips, the
nodes without any error, holds none.
-/

namespace TreeBridge

namespace Concrete

namespace Node

/-! ## Paths -/

/-- The node at the end of a path of child indices. -/
def at? : Node → List ℕ → Option Node
  | n, [] => some n
  | n, i :: path => n.children[i]?.bind fun c => c.at? path

/-- A node that the parser made up or could not place. -/
def isMalformed (n : Node) : Bool :=
  n.isMissing || n.isError

/-- A path leads to a malformed node, and there is none above it. -/
structure Outermost (n : Node) (path : List ℕ) : Prop where
  malformed : ∃ m, n.at? path = some m ∧ m.isMalformed = true
  none_above : ∀ above, above <+: path → above ≠ path → ∀ k, n.at? above = some k →
    k.isMalformed = false

variable {n m : Node} {i : ℕ} {path : List ℕ}

theorem at?_cons_eq_some_iff :
    n.at? (i :: path) = some m ↔ ∃ c, n.children[i]? = some c ∧ c.at? path = some m :=
  Option.bind_eq_some_iff

theorem outermost_nil_iff : n.Outermost [] ↔ n.isMalformed = true := by
  constructor
  · rintro ⟨⟨m, hm, hmalformed⟩, -⟩
    obtain rfl := Option.some.inj hm
    exact hmalformed
  · intro hmalformed
    refine ⟨⟨n, rfl, hmalformed⟩, fun above habove hne => ?_⟩
    exact absurd (List.prefix_nil.1 habove) hne

/-- Below a node a path is outermost if the node is not malformed and the
path is outermost from the child that it takes first. -/
theorem outermost_cons_iff :
    n.Outermost (i :: path) ↔
      n.isMalformed = false ∧ ∃ c, n.children[i]? = some c ∧ c.Outermost path := by
  constructor
  · rintro ⟨⟨m, hm, hmalformed⟩, habove⟩
    obtain ⟨c, hc, hpath⟩ := at?_cons_eq_some_iff.1 hm
    refine ⟨habove [] List.nil_prefix (by simp) n rfl, c, hc, ⟨m, hpath, hmalformed⟩, ?_⟩
    intro above hpre hne k hk
    refine habove (i :: above) (List.cons_prefix_cons.2 ⟨rfl, hpre⟩) (by simpa using hne) k ?_
    exact at?_cons_eq_some_iff.2 ⟨c, hc, hk⟩
  · rintro ⟨hn, c, hc, ⟨m, hpath, hmalformed⟩, habove⟩
    refine ⟨⟨m, at?_cons_eq_some_iff.2 ⟨c, hc, hpath⟩, hmalformed⟩, ?_⟩
    intro above hpre hne k hk
    cases above with
    | nil =>
      obtain rfl := Option.some.inj hk
      exact hn
    | cons j above =>
      obtain ⟨rfl, hrest⟩ := List.cons_prefix_cons.1 hpre
      obtain ⟨d, hd, hk'⟩ := at?_cons_eq_some_iff.1 hk
      obtain rfl := Option.some.inj (hc.symm.trans hd)
      exact habove above hrest (by simpa using hne) k hk'

/-! ## The plain traversal -/

/-- The paths to the outermost malformed nodes, found by going through all
other nodes. -/
def outermost (n : Node) : List (List ℕ) :=
  if n.isMalformed then [[]]
  else n.children.attach.zipIdx.flatMap fun c => (outermost c.1.1).map (c.2 :: ·)
termination_by sizeOf n
decreasing_by exact sizeOf_lt_of_mem c.1.2

theorem outermost_of_malformed (h : n.isMalformed = true) : n.outermost = [[]] := by
  rw [outermost, if_pos h]

theorem outermost_of_not_malformed (h : n.isMalformed = false) :
    n.outermost = n.children.zipIdx.flatMap fun c => c.1.outermost.map (c.2 :: ·) := by
  rw [outermost, if_neg (by simp [h])]
  conv_rhs => rw [← List.attach_map_subtype_val n.children, List.zipIdx_map, List.flatMap_map]
  rfl

theorem mem_outermost_iff : path ∈ n.outermost ↔ n.Outermost path := by
  induction path generalizing n with
  | nil =>
    rw [outermost_nil_iff]
    cases hn : n.isMalformed with
    | true => simp [outermost_of_malformed hn]
    | false => simp [outermost_of_not_malformed hn]
  | cons i path ih =>
    rw [outermost_cons_iff]
    cases hn : n.isMalformed with
    | true => simp [outermost_of_malformed hn]
    | false =>
      rw [outermost_of_not_malformed hn, List.mem_flatMap]
      constructor
      · rintro ⟨⟨c, j⟩, hc, hpath⟩
        obtain ⟨path', hpath', heq⟩ := List.mem_map.1 hpath
        obtain ⟨rfl, rfl⟩ := List.cons.inj heq
        exact ⟨rfl, c, List.mem_zipIdx_iff_getElem?.1 hc, ih.1 hpath'⟩
      · rintro ⟨-, c, hc, hpath⟩
        exact ⟨(c, i), List.mem_zipIdx_iff_getElem?.2 hc,
          List.mem_map.2 ⟨path, ih.2 hpath, rfl⟩⟩

/-- The children are numbered from left to right. -/
theorem pairwise_numbered (n : Node) :
    n.children.zipIdx.Pairwise fun c d => c.2 < d.2 := by
  have hnumbers : (n.children.zipIdx.map Prod.snd).Pairwise (· < ·) := by
    rw [List.zipIdx_map_snd]
    exact List.pairwise_lt_range'
  exact List.pairwise_map.1 hnumbers

/-- The paths come in the order of the nodes. -/
theorem pairwise_outermost (n : Node) : n.outermost.Pairwise (· < ·) := by
  induction n using outermost.induct with
  | case1 n hn =>
    rw [outermost_of_malformed hn]
    exact List.pairwise_singleton _ _
  | case2 n hn ih =>
    rw [outermost_of_not_malformed (by simpa using hn), List.pairwise_flatMap]
    constructor
    · rintro ⟨c, i⟩ hc
      have hmem : c ∈ n.children := List.mem_of_getElem? (List.mem_zipIdx_iff_getElem?.1 hc)
      refine List.pairwise_map.2 ((ih ⟨⟨c, hmem⟩, i⟩).imp fun hlt => ?_)
      exact List.cons_lt_cons_self.2 hlt
    · refine n.pairwise_numbered.imp fun {c d} hlt p hp q hq => ?_
      obtain ⟨path, -, rfl⟩ := List.mem_map.1 hp
      obtain ⟨path', -, rfl⟩ := List.mem_map.1 hq
      exact List.Lex.rel hlt

/-! ## What the flag of a node says -/

theorem hasError_eq_false_iff :
    n.hasError = false ↔ n.isMalformed = false ∧ ∀ c ∈ n.children, c.hasError = false := by
  rw [hasError, Bool.or_eq_false_iff, Bool.or_comm, ← isMalformed, List.any_eq_false]
  refine and_congr_right fun _ => ⟨fun h c hc => ?_, fun h c _ => ?_⟩
  · simpa using h ⟨c, hc⟩ (List.mem_attach _ _)
  · simpa using h c.1 c.2

/-- A node without error has no malformed node below it, at any depth. -/
theorem isMalformed_of_at? (h : n.hasError = false) (hm : n.at? path = some m) :
    m.isMalformed = false := by
  obtain ⟨hn, hchildren⟩ := hasError_eq_false_iff.1 h
  induction path generalizing n with
  | nil =>
    obtain rfl := Option.some.inj hm
    exact hn
  | cons i path ih =>
    obtain ⟨c, hc, hpath⟩ := at?_cons_eq_some_iff.1 hm
    have hchild := hchildren c (List.mem_of_getElem? hc)
    obtain ⟨hc', hbelow⟩ := hasError_eq_false_iff.1 hchild
    exact ih hchild hpath hc' hbelow

/-- Where the flag is not set the plain traversal finds nothing, and only
there. -/
theorem outermost_eq_nil_iff_hasError : n.outermost = [] ↔ n.hasError = false := by
  induction n using outermost.induct with
  | case1 n hn =>
    rw [outermost_of_malformed hn, hasError_eq_false_iff, hn]
    simp
  | case2 n hn ih =>
    have hn' : n.isMalformed = false := by simpa using hn
    rw [outermost_of_not_malformed hn', hasError_eq_false_iff, List.flatMap_eq_nil_iff]
    constructor
    · intro hnone
      refine ⟨hn', fun c hc => ?_⟩
      obtain ⟨i, hi⟩ := List.mem_iff_getElem?.1 hc
      have hempty := hnone (c, i) (List.mem_zipIdx_iff_getElem?.2 hi)
      exact (ih ⟨⟨c, hc⟩, i⟩).1 (List.map_eq_nil_iff.1 hempty)
    · rintro ⟨-, hchildren⟩ ⟨c, i⟩ hc
      have hmem : c ∈ n.children := List.mem_of_getElem? (List.mem_zipIdx_iff_getElem?.1 hc)
      rw [(ih ⟨⟨c, hmem⟩, i⟩).2 (hchildren c hmem)]
      rfl

theorem outermost_eq_nil_iff :
    n.outermost = [] ↔ ∀ path m, n.at? path = some m → m.isMalformed = false := by
  constructor
  · intro h path m hm
    exact isMalformed_of_at? (outermost_eq_nil_iff_hasError.1 h) hm
  · intro h
    refine List.eq_nil_iff_forall_not_mem.2 fun path hpath => ?_
    obtain ⟨⟨m, hm, hmalformed⟩, -⟩ := mem_outermost_iff.1 hpath
    rw [h path m hm] at hmalformed
    cases hmalformed

end Node

end Concrete

namespace Lowering

open Foreign (Diagnostic)
open Concrete (Node)

variable {contentEnd : ℕ}

/-! ## Reports -/

/-- The report of a malformed node. -/
def malformedReport (contentEnd : ℕ) (n : Node) : Diagnostic :=
  if n.isMissing then expected n else misplaced contentEnd n

/-- A diagnostic is the report of the node at the end of a path. -/
def Reports (contentEnd : ℕ) (n : Node) (path : List ℕ) (d : Diagnostic) : Prop :=
  ∃ m, n.at? path = some m ∧ d = malformedReport contentEnd m

theorem malformedReports_of_malformed {n : Node} (h : n.isMalformed = true) :
    malformedReports contentEnd n = [malformedReport contentEnd n] := by
  rw [malformedReports, malformedReport]
  by_cases hmissing : n.isMissing = true
  · rw [if_pos hmissing, if_pos hmissing]
  · have herror : n.isError = true := by simpa [Node.isMalformed, hmissing] using h
    rw [if_neg hmissing, if_pos herror, if_neg hmissing]

theorem malformedReports_of_hasError_eq_false {n : Node} (h : n.hasError = false) :
    malformedReports contentEnd n = [] := by
  obtain ⟨hn, -⟩ := Node.hasError_eq_false_iff.1 h
  obtain ⟨hmissing, herror⟩ := Bool.or_eq_false_iff.1 hn
  rw [malformedReports, if_neg (by simp [hmissing]), if_neg (by simp [herror]),
    if_neg (by simp [h])]

/-- The reports of a node that is not malformed are those of its children,
also where the flag is not set and nothing is looked at. -/
theorem malformedReports_of_not_malformed {n : Node} (h : n.isMalformed = false) :
    malformedReports contentEnd n = n.children.flatMap (malformedReports contentEnd) := by
  obtain ⟨hmissing, herror⟩ := Bool.or_eq_false_iff.1 h
  rw [malformedReports, if_neg (by simp [hmissing]), if_neg (by simp [herror])]
  split
  · conv_rhs => rw [← List.attach_map_subtype_val n.children, List.flatMap_map]
  · next hhas =>
    -- what is skipped would have given no report anyway
    obtain ⟨-, hchildren⟩ := Node.hasError_eq_false_iff.1 (Bool.not_eq_true _ ▸ hhas)
    refine (List.flatMap_eq_nil_iff.2 fun c hc => ?_).symm
    exact malformedReports_of_hasError_eq_false (hchildren c hc)

/-- The reports of a node are those of the nodes that the plain traversal
finds. -/
theorem forall₂_reports (contentEnd : ℕ) (n : Node) :
    List.Forall₂ (Reports contentEnd n) n.outermost (malformedReports contentEnd n) := by
  induction n using TreeBridge.Concrete.Node.outermost.induct with
  | case1 n hn =>
    rw [Node.outermost_of_malformed hn, malformedReports_of_malformed hn]
    exact .cons ⟨n, rfl, rfl⟩ .nil
  | case2 n hn ih =>
    have hn' : n.isMalformed = false := by simpa using hn
    have hnumbered : n.children.flatMap (malformedReports contentEnd) =
        n.children.zipIdx.flatMap fun c => malformedReports contentEnd c.1 := by
      conv_lhs => rw [← List.zipIdx_map_fst 0 n.children, List.flatMap_map]
    rw [Node.outermost_of_not_malformed hn', malformedReports_of_not_malformed hn', hnumbered]
    -- child by child, a path of the child is one of the node behind its index
    refine List.rel_flatMap (R := fun c d => c = d ∧ c ∈ n.children.zipIdx)
      (List.forall₂_same.2 fun c hc => ⟨rfl, hc⟩) ?_
    rintro ⟨c, i⟩ _ ⟨rfl, hmem⟩
    have hc : n.children[i]? = some c := List.mem_zipIdx_iff_getElem?.1 hmem
    refine List.forall₂_map_left_iff.2 ((ih ⟨⟨c, List.mem_of_getElem? hc⟩, i⟩).imp ?_)
    rintro path d ⟨m, hm, rfl⟩
    exact ⟨m, Node.at?_cons_eq_some_iff.2 ⟨c, hc, hm⟩, rfl⟩

/-! ## The loop -/

theorem sizeOf_append_le (ns stack : List Node) :
    sizeOf (ns ++ stack) ≤ sizeOf ns + sizeOf stack := by
  induction ns with
  | nil => exact Nat.le_add_left _ _
  | cons n ns ih =>
    rw [List.cons_append, List.cons.sizeOf_spec, List.cons.sizeOf_spec]
    omega

theorem sizeOf_lt_sizeOf_cons (n : Node) (stack : List Node) :
    sizeOf stack < sizeOf (n :: stack) := by
  rw [List.cons.sizeOf_spec]
  omega

/-- A node has more to it than its children, so a stack gets smaller when
they take its place. -/
theorem sizeOf_children_append_lt (n : Node) (stack : List Node) :
    sizeOf (n.children ++ stack) < sizeOf (n :: stack) := by
  obtain ⟨kind, field, isNamed, isMissing, isError, start, stop, children⟩ := n
  have hle := sizeOf_append_le children stack
  rw [List.cons.sizeOf_spec, Node.mk.sizeOf_spec]
  change sizeOf (children ++ stack) < _
  omega

/-- The loop over the nodes still to come: it takes the first one off the
stack, and if that is not malformed but has an error somewhere, puts its
children in its place. -/
def malformedLoop (contentEnd : ℕ) : List Node → List Diagnostic
  | [] => []
  | n :: stack =>
    if n.isMissing then expected n :: malformedLoop contentEnd stack
    else if n.isError then misplaced contentEnd n :: malformedLoop contentEnd stack
    else if n.hasError then malformedLoop contentEnd (n.children ++ stack)
    else malformedLoop contentEnd stack
termination_by stack => stack
decreasing_by
  · exact sizeOf_lt_sizeOf_cons n stack
  · exact sizeOf_lt_sizeOf_cons n stack
  · exact sizeOf_children_append_lt n stack
  · exact sizeOf_lt_sizeOf_cons n stack

theorem malformedLoop_eq_flatMap (stack : List Node) :
    malformedLoop contentEnd stack = stack.flatMap (malformedReports contentEnd) := by
  fun_induction malformedLoop contentEnd stack with
  | case1 => rfl
  | case2 n stack hmissing ih =>
    rw [List.flatMap_cons, malformedReports, if_pos hmissing, ih]
    rfl
  | case3 n stack hmissing herror ih =>
    rw [List.flatMap_cons, malformedReports, if_neg hmissing, if_pos herror, ih]
    rfl
  | case4 n stack hmissing herror hhas ih =>
    have hn : n.isMalformed = false := by simp [Node.isMalformed, hmissing, herror]
    rw [ih, List.flatMap_append, List.flatMap_cons, malformedReports_of_not_malformed hn]
  | case5 n stack hmissing herror hhas ih =>
    rw [List.flatMap_cons, malformedReports, if_neg hmissing, if_neg herror, if_neg hhas, ih]
    rfl

/-- **Reports of malformed source are those of the outermost errors.** There
is one for every path to a malformed node with none above it, in the order
of the nodes, and no other. So there are none exactly if no node of the
tree is malformed, which is what the flag of the root says. The loop over a
stack gives the same reports in the same order. -/
theorem malformedReports_outermost (contentEnd : ℕ) (n : Node) :
    (n.outermost.Pairwise (· < ·) ∧ ∀ path, path ∈ n.outermost ↔ n.Outermost path) ∧
      List.Forall₂ (Reports contentEnd n) n.outermost (malformedReports contentEnd n) ∧
      (malformedReports contentEnd n = [] ↔
        ∀ path m, n.at? path = some m → m.isMalformed = false) ∧
      (n.hasError = true ↔ ∃ path m, n.at? path = some m ∧ m.isMalformed = true) ∧
      malformedLoop contentEnd [n] = malformedReports contentEnd n := by
  have hreports := forall₂_reports contentEnd n
  have hnone : malformedReports contentEnd n = [] ↔ n.outermost = [] := by
    rw [← List.length_eq_zero_iff, ← hreports.length_eq, List.length_eq_zero_iff]
  refine ⟨⟨n.pairwise_outermost, fun _ => Node.mem_outermost_iff⟩, hreports,
    hnone.trans Node.outermost_eq_nil_iff, ?_, ?_⟩
  · rw [← not_iff_not, Bool.not_eq_true, ← Node.outermost_eq_nil_iff_hasError,
      Node.outermost_eq_nil_iff]
    simp
  · rw [malformedLoop_eq_flatMap, List.flatMap_singleton]

end Lowering

end TreeBridge
