import TreeBridge.Completion.Documentation
import TreeBridge.Completion.Position
import TreeBridge.Proofs.Unified.Forest
/-!
# What doc comments leave alone

Attaching a doc comment gives a declaration a new first child and grows
the declaration, with the statement around it if it is local. Names and
modifiers keep their spans, and a node without a doc comment keeps its
children.
-/

namespace TreeBridge

namespace Completion

open Unified (NodeId NodeKind Slot Arena Forest)

/-- What attaching doc comments makes of an arena with a root: the nodes
there were keep their kinds and parents, names and modifiers their spans,
and nodes without a doc comment their children. New nodes are leaves. -/
structure Documented (root : NodeId) (a b : Arena) : Prop where
  size : a.size ≤ b.size
  forest : Forest b [root]
  kind : ∀ i < a.size, b.kind i = a.kind i
  parent : ∀ i < a.size, b.parent i = a.parent i
  span : ∀ i < a.size, (sought? (a.kind i)).isSome = true → b.span i = a.span i
  entries : ∀ i < a.size, b.entries i = a.entries i ∨
    (a.entries i).length < (b.entries i).length
  leaf : ∀ i, a.size ≤ i → b.children i = []

theorem Documented.refl {root : NodeId} {a : Arena} (h : Forest a [root]) :
    Documented root a a :=
  ⟨Nat.le_refl _, h, fun _ _ => rfl, fun _ _ => rfl, fun _ _ _ => rfl, fun _ _ => Or.inl rfl,
    fun _ hi => Arena.children_of_size_le hi⟩

/-- A node that a comment can document is no name and no modifier. -/
theorem sought?_of_isDocumentable {kind : NodeKind} (h : isDocumentable kind = true) :
    (sought? kind).isSome = false := by
  cases kind with
  | simpleName => cases h
  | modifier => cases h
  | _ => rfl

/-- A comment documents a candidate that starts at the first code token
behind it, that has no comment yet and that no earlier sibling reaches
past. -/
theorem documented?_eq_some {s : Source} {candidates : List NodeId} {a : Arena} {span : Span}
    {target : NodeId} (h : documented? s candidates a span = some target) :
    target ∈ candidates ∧
      (∃ next rest, Lexical.codeTokens s span.stop = next :: rest ∧
        (a.span target).start = next.start) ∧
      a.child? target .javadoc = none ∧ reachedByEarlierSibling a target span = false := by
  unfold documented? at h
  split at h
  · cases h
  next next rest hcode =>
    split at h
    · cases h
    · next found hfind =>
      split at h
      · cases h
      · next hfree =>
        cases h
        rw [Bool.or_eq_true, not_or, Option.isSome_iff_ne_none, not_not, Bool.not_eq_true] at hfree
        have hstart := List.find?_some hfind
        exact ⟨List.mem_of_find?_eq_some hfind, ⟨next, rest, hcode, eq_of_beq hstart⟩, hfree⟩

namespace Documented

variable {root : NodeId} {a b : Arena}

/-- A new span for a node that is no name and no modifier. -/
theorem setSpan (h : Documented root a b) {id : NodeId} (span : Span)
    (hsought : (sought? (b.kind id)).isSome = false) : Documented root a (b.setSpan id span) := by
  refine ⟨(Arena.size_setSpan _).symm ▸ h.size, ?_, ?_, ?_, ?_, ?_, ?_⟩
  · exact h.forest.congr (Arena.size_setSpan _) (Arena.parent_setSpan _)
      (Arena.children_setSpan _)
  · rw [Arena.kind_setSpan]
    exact h.kind
  · rw [Arena.parent_setSpan]
    exact h.parent
  · intro i hi hisought
    rw [Arena.span_setSpan_of_ne]
    · exact h.span i hi hisought
    · rintro rfl
      rw [h.kind i hi, hisought] at hsought
      cases hsought
  · rw [Arena.entries_setSpan]
    exact h.entries
  · rw [Arena.children_setSpan]
    exact h.leaf

theorem widenStatement (h : Documented root a b) (target : NodeId) (span : Span) :
    Documented root a (widenStatement b target span) := by
  unfold Completion.widenStatement
  split
  · split
    · next hkind => exact h.setSpan _ (by rw [hkind]; rfl)
    · exact h
  · exact h

/-- A new leaf as the first child of a declaration. -/
theorem addJavadoc (h : Documented root a b) {target : NodeId} (ht : target < a.size)
    (span : Span) :
    Documented root a ((b.alloc .javadoc span).2.addChildFirst target .javadoc b.size) := by
  have htarget : target < b.size := Nat.lt_of_lt_of_le ht h.size
  have hnode {i : NodeId} (hi : i < a.size) : (b.alloc .javadoc span).2.node i = b.node i :=
    Arena.node_alloc_of_lt _ _ (Nat.lt_of_lt_of_le hi h.size)
  refine ⟨?_, h.forest.allocFirst .javadoc htarget _ _, fun i hi => ?_, fun i hi => ?_,
    fun i hi hisought => ?_, fun i hi => ?_, fun i hi => ?_⟩
  · rw [Arena.size_addChildFirst, Arena.size_alloc]
    exact Nat.le_succ_of_le h.size
  · rw [Arena.kind_addChildFirst, Arena.kind, hnode hi]
    exact h.kind i hi
  · rw [Arena.parent_addChildFirst_of_ne (Nat.ne_of_lt (Nat.lt_of_lt_of_le hi h.size)),
      Arena.parent_alloc]
    exact h.parent i hi
  · rw [Arena.span_addChildFirst, Arena.span, hnode hi]
    exact h.span i hi hisought
  · have hsize : target < (b.alloc .javadoc span).2.size := by
      rw [Arena.size_alloc]
      exact Nat.lt_succ_of_lt htarget
    have hkept : (b.alloc .javadoc span).2.entries i = b.entries i := by
      rw [Arena.entries, hnode hi, Arena.entries]
    by_cases hit : i = target
    · subst hit
      -- the declaration has grown before, or it grows now
      have hle : (a.entries i).length ≤ (b.entries i).length := by
        rcases h.entries i hi with heq | hlt
        · exact Nat.le_of_eq (congrArg List.length heq.symm)
        · exact Nat.le_of_lt hlt
      rw [Arena.entries_addChildFirst_self hsize, hkept, List.length_cons]
      exact Or.inr (Nat.lt_succ_of_le hle)
    · rw [Arena.entries_addChildFirst_of_ne hit, hkept]
      exact h.entries i hi
  · have hit : i ≠ target := Nat.ne_of_gt (Nat.lt_of_lt_of_le ht hi)
    rw [Arena.children_addChildFirst_of_ne hit, Arena.children_alloc]
    exact h.leaf i hi

theorem document (h : Documented root a b) {target : NodeId} (ht : target < a.size)
    (hkind : isDocumentable (a.kind target) = true) (span : Span) :
    Documented root a (document b target span) := by
  have hadded := h.addJavadoc ht span
  have hsought : (sought? (((b.alloc .javadoc span).2.addChildFirst target .javadoc
      b.size).kind target)).isSome = false := by
    rw [hadded.kind target ht]
    exact sought?_of_isDocumentable hkind
  exact (hadded.setSpan _ hsought).widenStatement _ _

theorem attachDoc (h : Documented root a b) {s : Source} {candidates : List NodeId}
    (hcandidates : ∀ id ∈ candidates, id < a.size ∧ isDocumentable (a.kind id) = true)
    (count : Nat) (c : Comment) :
    Documented root a (attachDoc s candidates (b, count) c).1 := by
  unfold Completion.attachDoc
  split
  · next target htarget =>
    obtain ⟨hlt, hkind⟩ := hcandidates target (documented?_eq_some htarget).1
    exact h.document hlt hkind _
  · exact h

end Documented

theorem documented_foldl {root : NodeId} {a : Arena} {s : Source} {candidates : List NodeId}
    (hcandidates : ∀ id ∈ candidates, id < a.size ∧ isDocumentable (a.kind id) = true)
    (comments : List Comment) {b : Arena × Nat} (h : Documented root a b.1) :
    Documented root a (comments.foldl (attachDoc s candidates) b).1 := by
  induction comments generalizing b with
  | nil => exact h
  | cons c comments ih => exact ih (h.attachDoc hcandidates b.2 c)

end Completion

open Completion in
/-- **Attaching doc comments** to a tree keeps it a tree, and keeps what
is no declaration. -/
theorem documented_attachDocs {root : Unified.NodeId} {a : Unified.Arena}
    (h : Unified.Forest a [root]) (s : Source) (comments : List Comment) :
    Documented root a (attachDocs s comments root a).2 := by
  refine documented_foldl (fun id hid => ?_) _ (Documented.refl h)
  obtain ⟨hmem, hkind⟩ := List.mem_filter.1 hid
  rw [Bool.and_eq_true] at hkind
  exact ⟨h.isTree.mem_preorder_iff.1 hmem, hkind.1⟩

theorem attachDocs_of_no_doc {root : Unified.NodeId} {a : Unified.Arena} {s : Source}
    {comments : List Comment} (h : comments.filter Comment.isDoc = []) :
    (attachDocs s comments root a).2 = a := by
  unfold attachDocs
  rw [h]
  rfl

end TreeBridge
