import TreeBridge.Proofs.Completion.Growth
import TreeBridge.Proofs.Lexical.Tiling
/-!
# What a list of doc comments changes

`Attached` says what attaching a list of comments has done to a tree. It
keeps a record of the comments that were attached, each with the
declaration that it documents, in the order of the new nodes. One step
adds one comment to the record (`Joins`), and a run starts with an empty
one.
-/

namespace TreeBridge

namespace Completion

open Unified (NodeId NodeKind Slot Node Arena Forest)

variable {a b : Arena} {target i : NodeId}

/-! ## The record -/

/-- A comment and the declaration that it documents. -/
abbrev Attachment := Comment × NodeId

/-- Whether a node is the statement around a local type. -/
def Surrounds (a : Arena) (p target : NodeId) : Prop :=
  a.parent target = some p ∧ a.kind p = .typeDeclarationStatement

/-- Whether a node grows when a declaration does: it is the declaration or
the statement around it. -/
def GrowsWith (a : Arena) (i target : NodeId) : Prop :=
  i = target ∨ Surrounds a i target

/-- Whether a declaration starts at the first code token behind a
comment. -/
def Follows (s : Source) (a : Arena) (c : Comment) (target : NodeId) : Prop :=
  ∃ next rest, Lexical.codeTokens s c.span.stop = next :: rest ∧
    (a.span target).start = next.start

/-- **The record is right**: each attached comment is a new leaf, in the
order of the record, and the first child of a declaration that had no
comment, and no other comment has the same declaration. Only comments and
white space stand between the two. -/
structure Recorded (s : Source) (a b : Arena) (done : List Attachment) : Prop where
  size : b.size = a.size + done.length
  defaultFlags : b.defaultFlags = a.defaultFlags
  added : ∀ k d, done[k]? = some d →
    b.node (a.size + k) = ⟨.javadoc, d.1.span, a.defaultFlags, some d.2, []⟩
  first : ∀ k d, done[k]? = some d →
    b.entries d.2 = ⟨.javadoc, a.size + k⟩ :: a.entries d.2
  nodup : (done.map Prod.snd).Nodup
  bare : ∀ d ∈ done, a.child? d.2 .javadoc = none
  declaration : ∀ d ∈ done, d.2 < a.size ∧ isDocumentable (a.kind d.2) = true ∧
    (a.span d.2).isSet = true
  follows : ∀ d ∈ done, Follows s a d.1 d.2
  between : ∀ d ∈ done, d.1.span.InBounds s ∧ d.1.span.stop ≤ (a.span d.2).start ∧
    Lexical.OnlyComments s d.1.span.stop (a.span d.2).start

/-- **Nothing else changes**: every node keeps its kind, its flags and its
parent, a node without a comment its children, and a node that neither has
one nor is the statement around such a declaration its span. -/
structure Framed (a b : Arena) (done : List Attachment) : Prop where
  kind : ∀ i < a.size, b.kind i = a.kind i
  flags : ∀ i < a.size, b.flags i = a.flags i
  parent : ∀ i < a.size, b.parent i = a.parent i
  entries : ∀ i < a.size, i ∉ done.map Prod.snd → b.entries i = a.entries i
  span : ∀ i < a.size, i ∉ done.map Prod.snd → (∀ d ∈ done, ¬Surrounds a i d.2) →
    b.span i = a.span i

/-- **Spans only grow**: a declaration to its comment, the statement around
it with it, and neither further than that. Ends that fit still do. -/
structure Grown (a b : Arena) (done : List Attachment) : Prop where
  grows : ∀ i < a.size, (a.span i).isSet = true → (b.span i).contains (a.span i) = true
  grown : ∀ d ∈ done, b.span d.2 = d.1.span.cover (a.span d.2)
  around : ∀ d ∈ done, ∀ p, Surrounds a p d.2 → (b.span p).contains (b.span d.2) = true
  start : ∀ i < a.size, (b.span i).start = (a.span i).start ∨
    ∃ d ∈ done, GrowsWith a i d.2 ∧ (b.span i).start = d.1.span.start
  stop : ∀ i < a.size, (b.span i).stop = (a.span i).stop ∨
    ∃ d ∈ done, GrowsWith a i d.2 ∧ (b.span i).stop = (b.span d.2).stop
  endFits : ∀ i < a.size, ((a.span i).isSet = true → (a.span i).EndFits) →
    (b.span i).isSet = true → (b.span i).EndFits

/-- **What attaching comments has made** of the arena `a`, with a record of
the attached comments and of the declarations that they document. -/
structure Attached (s : Source) (a b : Arena) (done : List Attachment) : Prop
    extends Recorded s a b done, Framed a b done, Grown a b done

variable {s : Source} {done : List Attachment} {c : Comment} {candidates : List NodeId}

theorem Attached.refl : Attached s a a [] where
  size := rfl
  defaultFlags := rfl
  added _ _ h := nomatch h
  first _ _ h := nomatch h
  nodup := List.nodup_nil
  bare _ h := nomatch h
  declaration _ h := nomatch h
  follows _ h := nomatch h
  between _ h := nomatch h
  kind _ _ := rfl
  flags _ _ := rfl
  parent _ _ := rfl
  entries _ _ _ := rfl
  span _ _ _ _ := rfl
  grows _ _ h := Span.contains_self h
  grown _ h := nomatch h
  around _ h := nomatch h
  start _ _ := Or.inl rfl
  stop _ _ := Or.inl rfl
  endFits _ _ h hset := h hset

/-- No statement around a type is a declaration. -/
theorem ne_of_isDocumentable (h : isDocumentable (a.kind i) = true) :
    a.kind i ≠ .typeDeclarationStatement := by
  intro hkind
  rw [hkind] at h
  cases h

theorem getElem?_concat_eq_some {α : Type} {l : List α} {x y : α} {k : Nat}
    (h : (l ++ [x])[k]? = some y) : l[k]? = some y ∨ k = l.length ∧ y = x := by
  rw [List.getElem?_append] at h
  split at h
  · exact Or.inl h
  · next hge =>
    obtain ⟨hlt, hy⟩ := List.getElem?_eq_some_iff.1 h
    rw [List.length_singleton] at hlt
    refine Or.inr ⟨by omega, ?_⟩
    rw [← hy, List.getElem_singleton]

/-! ## One more comment -/

/-- One more comment for the record: the step from `b` to `b'` attaches it
to a declaration that is still as it was in `a`. -/
structure Joins (s : Source) (a b b' : Arena) (done : List Attachment) (c : Comment)
    (target : NodeId) : Prop where
  attached : Attached s a b done
  step : Documents b b' target c.span
  lt_size : target < a.size
  isDocumentable : isDocumentable (a.kind target) = true
  isSet : (a.span target).isSet = true
  fresh : target ∉ done.map Prod.snd
  bare : a.child? target .javadoc = none
  entries : b.entries target = a.entries target
  span : b.span target = a.span target
  follows : Follows s a c target
  inBounds : c.span.InBounds s

theorem Attached.size_le (h : Attached s a b done) : a.size ≤ b.size :=
  h.size ▸ Nat.le_add_right _ _

/-- A declaration without a comment is none of the record. -/
theorem Attached.not_mem_of_child? (h : Attached s a b done)
    (hfree : b.child? target .javadoc = none) : target ∉ done.map Prod.snd := by
  intro hmem
  obtain ⟨d, hd, rfl⟩ := List.mem_map.1 hmem
  obtain ⟨k, hk⟩ := List.getElem?_of_mem hd
  rw [Arena.child?, h.first k d hk, List.find?_cons_of_pos rfl] at hfree
  cases hfree

/-- **One step.** A comment that documents a declaration joins the
record. -/
theorem Attached.joins (h : Attached s a b done)
    (hcandidates : ∀ id ∈ candidates, id < a.size ∧
      Completion.isDocumentable (a.kind id) = true ∧ (a.span id).isSet = true)
    (hbounds : c.span.InBounds s) (htarget : documented? s candidates b c.span = some target) :
    Joins s a b (document b target c.span) done c target := by
  obtain ⟨hmem, ⟨next, rest, hcode, hstart⟩, hfree, -⟩ := documented?_eq_some htarget
  obtain ⟨hlt, hdocumentable, hset⟩ := hcandidates target hmem
  have hfresh := h.not_mem_of_child? hfree
  have hentries := h.entries target hlt hfresh
  have hspan : b.span target = a.span target :=
    h.span target hlt hfresh fun d _ hsurrounds =>
      ne_of_isDocumentable hdocumentable hsurrounds.2
  have hkind : b.kind target ≠ .typeDeclarationStatement := by
    rw [h.kind target hlt]
    exact ne_of_isDocumentable hdocumentable
  refine ⟨h, documents_document (Nat.lt_of_lt_of_le hlt h.size_le) hkind, hlt, hdocumentable, hset,
    hfresh, ?_, hentries, hspan, ⟨next, rest, hcode, hspan ▸ hstart⟩, hbounds⟩
  rwa [Arena.child?, ← hentries]

namespace Joins

variable {b' : Arena} (h : Joins s a b b' done c target)

include h

theorem lt_of_lt (hi : i < a.size) : i < b.size :=
  Nat.lt_of_lt_of_le hi h.attached.size_le

theorem ne_of_mem {d : Attachment} (hd : d ∈ done) : d.2 ≠ target := by
  rintro rfl
  exact h.fresh (List.mem_map_of_mem hd)

theorem surrounds_iff (hi : i < a.size) :
    (b.parent target = some i ∧ b.kind i = .typeDeclarationStatement) ↔ Surrounds a i target := by
  rw [Surrounds, h.attached.parent target h.lt_size, h.attached.kind i hi]

theorem isSet_target : (b.span target).isSet = true :=
  h.span ▸ h.isSet

theorem between : c.span.stop ≤ (a.span target).start ∧
    Lexical.OnlyComments s c.span.stop (a.span target).start := by
  obtain ⟨next, rest, hcode, hstart⟩ := h.follows
  have h0 : 0 ≤ c.span.stop := Int.le_trans h.inBounds.start_nonneg h.inBounds.start_le_stop
  rw [hstart]
  exact Lexical.onlyComments_of_codeTokens h0 h.inBounds.stop_le hcode

/-- Nodes outside the declaration and the statement around it keep their
spans. -/
theorem span_other (hi : i < a.size) (hne : i ≠ target) (hw : ¬Surrounds a i target) :
    b'.span i = b.span i :=
  h.step.span_other (h.lt_of_lt hi) hne (mt (h.surrounds_iff hi).1 hw)

/-- So do the declarations that are in the record already. -/
theorem span_of_mem {d : Attachment} (hd : d ∈ done) : b'.span d.2 = b.span d.2 := by
  obtain ⟨hlt, hdocumentable, -⟩ := h.attached.declaration d hd
  exact h.span_other hlt (h.ne_of_mem hd) fun hw => ne_of_isDocumentable hdocumentable hw.2

theorem grows (hi : i < a.size) (hset : (b.span i).isSet = true) :
    (b'.span i).contains (b.span i) = true :=
  h.step.grows h.inBounds.isSet h.inBounds.start_le_stop h.isSet_target (h.lt_of_lt hi) hset

theorem start_target : (b'.span target).start = c.span.start := by
  have hle := h.inBounds.start_le_stop
  have hbetween := h.between.1
  have hmin : min c.span.start (b.span target).start ≤ max c.span.stop (b.span target).stop := by
    omega
  rw [h.step.span_self, (Span.cover_of_isSet h.inBounds.isSet h.isSet_target hmin).1, h.span]
  omega

/-- The statement around the declaration starts and ends where it did or
where the declaration does now. -/
theorem bounds_wrapper (hw : Surrounds a i target) :
    ((b'.span i).start = (b.span i).start ∨ (b'.span i).start = (b'.span target).start) ∧
      ((b'.span i).stop = (b.span i).stop ∨ (b'.span i).stop = (b'.span target).stop) := by
  have hb := (h.surrounds_iff (lt_size_of_kind hw.2)).2 hw
  exact h.step.bounds_wrapper h.inBounds.isSet h.inBounds.start_le_stop h.isSet_target hb.1 hb.2

theorem recorded : Recorded s a b' (done ++ [(c, target)]) := by
  have hattached := h.attached
  constructor
  case size =>
    rw [h.step.size, hattached.size, List.length_append, List.length_singleton, Nat.add_assoc]
  case defaultFlags => rw [h.step.defaultFlags, hattached.defaultFlags]
  case added =>
    intro k d hk
    rcases getElem?_concat_eq_some hk with hk | ⟨rfl, rfl⟩
    · have hnode := hattached.added k d hk
      have hlength := (List.getElem?_eq_some_iff.1 hk).1
      have hnew : a.size + k ≠ b.size := by
        rw [hattached.size]
        omega
      have hold : a.size + k ≠ target :=
        Nat.ne_of_gt (Nat.lt_of_lt_of_le h.lt_size (Nat.le_add_right _ _))
      rw [h.step.other _ hnew hold, hnode]
      rw [Arena.kind, hnode]
      rintro ⟨-, hkind⟩
      cases hkind
    · rw [← hattached.size, h.step.added, hattached.defaultFlags]
  case first =>
    intro k d hk
    rcases getElem?_concat_eq_some hk with hk | ⟨rfl, rfl⟩
    · have hd := List.mem_of_getElem? hk
      have hlt := h.lt_of_lt (hattached.declaration d hd).1
      rw [h.step.entries hlt (h.ne_of_mem hd), hattached.first k d hk]
    · rw [h.step.entries_self, h.entries, hattached.size]
  case nodup =>
    rw [List.map_append, List.map_cons, List.map_nil]
    refine List.nodup_append.2 ⟨hattached.nodup, List.nodup_singleton _, fun i hi j hj hij => ?_⟩
    rw [hij, List.mem_singleton.1 hj] at hi
    exact h.fresh hi
  case bare =>
    rw [List.forall_mem_append, List.forall_mem_singleton]
    exact ⟨hattached.bare, h.bare⟩
  case declaration =>
    rw [List.forall_mem_append, List.forall_mem_singleton]
    exact ⟨hattached.declaration, h.lt_size, h.isDocumentable, h.isSet⟩
  case follows =>
    rw [List.forall_mem_append, List.forall_mem_singleton]
    exact ⟨hattached.follows, h.follows⟩
  case between =>
    rw [List.forall_mem_append, List.forall_mem_singleton]
    exact ⟨hattached.between, h.inBounds, h.between⟩

theorem framed : Framed a b' (done ++ [(c, target)]) := by
  have hattached := h.attached
  have hne {i : NodeId} (hi : i ∉ (done ++ [(c, target)]).map Prod.snd) :
      i ∉ done.map Prod.snd ∧ i ≠ target := by
    rw [List.map_append, List.mem_append, not_or] at hi
    exact ⟨hi.1, fun hit => hi.2 (by simp [hit])⟩
  constructor
  case kind => exact fun i hi => (h.step.kind (h.lt_of_lt hi)).trans (hattached.kind i hi)
  case flags => exact fun i hi => (h.step.flags (h.lt_of_lt hi)).trans (hattached.flags i hi)
  case parent => exact fun i hi => (h.step.parent (h.lt_of_lt hi)).trans (hattached.parent i hi)
  case entries =>
    intro i hi hmem
    have hentries := h.step.entries (h.lt_of_lt hi) (hne hmem).2
    exact hentries.trans (hattached.entries i hi (hne hmem).1)
  case span =>
    intro i hi hmem hfree
    rw [List.forall_mem_append, List.forall_mem_singleton] at hfree
    have hspan := h.span_other hi (hne hmem).2 hfree.2
    exact hspan.trans (hattached.span i hi (hne hmem).1 hfree.1)

/-- What starts at a comment of the record still does. -/
theorem start (hi : i < a.size) : (b'.span i).start = (a.span i).start ∨
    ∃ d ∈ done ++ [(c, target)], GrowsWith a i d.2 ∧ (b'.span i).start = d.1.span.start := by
  have hmem : (c, target) ∈ done ++ [(c, target)] :=
    List.mem_append_right _ (List.mem_singleton_self _)
  by_cases hit : i = target
  · subst hit
    exact Or.inr ⟨_, hmem, Or.inl rfl, h.start_target⟩
  have hbefore : (b.span i).start = (a.span i).start ∨ ∃ d ∈ done ++ [(c, target)],
      GrowsWith a i d.2 ∧ (b.span i).start = d.1.span.start :=
    (h.attached.start i hi).imp_right fun ⟨d, hd, hbound⟩ => ⟨d, List.mem_append_left _ hd, hbound⟩
  by_cases hw : Surrounds a i target
  · rcases (h.bounds_wrapper hw).1 with heq | heq
    · rwa [heq]
    · exact Or.inr ⟨_, hmem, Or.inr hw, heq.trans h.start_target⟩
  · rwa [h.span_other hi hit hw]

/-- What ends with a declaration of the record still does. -/
theorem stop (hi : i < a.size) : (b'.span i).stop = (a.span i).stop ∨
    ∃ d ∈ done ++ [(c, target)], GrowsWith a i d.2 ∧ (b'.span i).stop = (b'.span d.2).stop := by
  have hmem : (c, target) ∈ done ++ [(c, target)] :=
    List.mem_append_right _ (List.mem_singleton_self _)
  by_cases hit : i = target
  · subst hit
    exact Or.inr ⟨_, hmem, Or.inl rfl, rfl⟩
  have hbefore : (b.span i).stop = (a.span i).stop ∨ ∃ d ∈ done ++ [(c, target)],
      GrowsWith a i d.2 ∧ (b.span i).stop = (b'.span d.2).stop := by
    refine (h.attached.stop i hi).imp_right fun ⟨d, hd, howns, hbound⟩ => ?_
    exact ⟨d, List.mem_append_left _ hd, howns, by rw [hbound, h.span_of_mem hd]⟩
  by_cases hw : Surrounds a i target
  · rcases (h.bounds_wrapper hw).2 with heq | heq
    · rwa [heq]
    · exact Or.inr ⟨_, hmem, Or.inr hw, heq⟩
  · rwa [h.span_other hi hit hw]

theorem grown : Grown a b' (done ++ [(c, target)]) := by
  have hattached := h.attached
  constructor
  case grows =>
    intro i hi hset
    have hbefore := hattached.grows i hi hset
    exact Span.contains_trans (h.grows hi (Span.isSet_of_contains hbefore)) hbefore
  case grown =>
    rw [List.forall_mem_append, List.forall_mem_singleton]
    refine ⟨fun d hd => ?_, ?_⟩
    · rw [h.span_of_mem hd, hattached.grown d hd]
    · rw [h.step.span_self, h.span]
  case around =>
    rw [List.forall_mem_append, List.forall_mem_singleton]
    refine ⟨fun d hd p hp => ?_, fun p hp => ?_⟩
    · have hbefore := hattached.around d hd p hp
      have hgrows := h.grows (lt_size_of_kind hp.2) (Span.isSet_of_contains hbefore)
      rw [h.span_of_mem hd]
      exact Span.contains_trans hgrows hbefore
    · have hw := (h.surrounds_iff (lt_size_of_kind hp.2)).2 hp
      exact (h.step.covers_wrapper h.inBounds.isSet h.inBounds.start_le_stop h.isSet_target
        hw.1 hw.2).1
  case start => exact fun i hi => h.start hi
  case stop => exact fun i hi => h.stop hi
  case endFits =>
    exact fun i hi hfits hset => h.step.endFits h.inBounds.isSet h.inBounds.start_le_stop
      h.isSet_target (h.lt_of_lt hi) (hattached.endFits i hi hfits) hset

theorem next : Attached s a b' (done ++ [(c, target)]) :=
  ⟨h.recorded, h.framed, h.grown⟩

end Joins

/-! ## All comments -/

/-- **A whole run.** The comments that are recorded are some of those given,
in their order, and their number is added to the count. -/
theorem Attached.foldl (h : Attached s a b done)
    (hcandidates : ∀ id ∈ candidates, id < a.size ∧ isDocumentable (a.kind id) = true ∧
      (a.span id).isSet = true)
    (count : Nat) (comments : List Comment) (hbounds : ∀ c ∈ comments, c.span.InBounds s) :
    ∃ more, (more.map Prod.fst).Sublist comments ∧
      (comments.foldl (attachDoc s candidates) (b, count)).2 = count + more.length ∧
      Attached s a (comments.foldl (attachDoc s candidates) (b, count)).1 (done ++ more) := by
  induction comments generalizing b count done with
  | nil => exact ⟨[], List.Sublist.refl [], rfl, (List.append_nil done).symm ▸ h⟩
  | cons c comments ih =>
    obtain ⟨hc, hbounds⟩ := List.forall_mem_cons.1 hbounds
    rw [List.foldl_cons, attachDoc]
    cases htarget : documented? s candidates b c.span with
    | none =>
      obtain ⟨more, hsub, hcount, hmore⟩ := ih h count hbounds
      exact ⟨more, hsub.cons c, hcount, hmore⟩
    | some target =>
      have hstep := (h.joins hcandidates hc htarget).next
      obtain ⟨more, hsub, hcount, hmore⟩ := ih hstep (count + 1) hbounds
      refine ⟨(c, target) :: more, hsub.cons_cons c, ?_, ?_⟩
      · rw [hcount, List.length_cons]
        omega
      · rw [List.append_cons]
        exact hmore

/-- The candidates are the positioned declarations of the tree. -/
theorem of_mem_documentable {root id : NodeId} (h : Forest a [root])
    (hid : id ∈ documentable a root) : id < a.size ∧ isDocumentable (a.kind id) = true ∧
      (a.span id).isSet = true := by
  obtain ⟨hmem, hid⟩ := List.mem_filter.1 hid
  rw [Bool.and_eq_true] at hid
  exact ⟨h.isTree.mem_preorder_iff.1 hmem, hid⟩

/-- **Attaching doc comments changes only what it documents.** For any tree
and any comments inside the source, the new nodes are as many as are
counted, each for another doc comment of the list, and everything else is
as `Attached` says. -/
theorem attached_attachDocs {root : NodeId} {a : Arena} {s : Source} {comments : List Comment}
    (h : Forest a [root]) (hbounds : ∀ c ∈ comments, c.span.InBounds s) :
    ∃ done, (done.map Prod.fst).Sublist (comments.filter Comment.isDoc) ∧
      (attachDocs s comments root a).1 = done.length ∧
      Attached s a (attachDocs s comments root a).2 done := by
  obtain ⟨done, hsub, hcount, hattached⟩ := Attached.refl.foldl
    (fun id hid => of_mem_documentable h hid) 0 (comments.filter Comment.isDoc)
    fun c hc => hbounds c (List.mem_filter.1 hc).1
  rw [Nat.zero_add] at hcount
  exact ⟨done, hsub, hcount, hattached⟩

/-- A class behind a doc comment and a line comment. -/
def commentedClass : Arena :=
  let a := (Arena.empty.alloc .compilationUnit ⟨0, 26⟩).2
  (a.alloc (.typeDeclaration false) ⟨16, 10⟩).2.addChild 0 .types 1

/-- The source of that class. -/
def commentedSource : Source :=
  .ofString "/** d */ // one\nclass A \x7b\x7d"

theorem forest_commentedClass : Forest commentedClass [0] := by
  have hunit := Forest.empty.alloc .compilationUnit ⟨0, 26⟩
  have hclass := hunit.alloc (.typeDeclaration false) ⟨16, 10⟩
  exact (hclass.perm (List.Perm.swap _ _ _)).addChild .types

theorem comments_commentedSource :
    Lexical.comments commentedSource = [⟨.doc, ⟨0, 8⟩⟩, ⟨.line, ⟨9, 6⟩⟩] := by
  decide +kernel

theorem attached_commentedClass :
    Forest commentedClass [0] ∧
      (∀ c ∈ Lexical.comments commentedSource, c.span.InBounds commentedSource) ∧
      (attachDocs commentedSource (Lexical.comments commentedSource) 0 commentedClass).1 = 1 ∧
      ∃ done, (done.map Prod.fst).Sublist
          ((Lexical.comments commentedSource).filter Comment.isDoc) ∧
        (attachDocs commentedSource (Lexical.comments commentedSource) 0 commentedClass).1 =
          done.length ∧
        Attached commentedSource commentedClass
          (attachDocs commentedSource (Lexical.comments commentedSource) 0 commentedClass).2
          done := by
  have hbounds : ∀ c ∈ Lexical.comments commentedSource, c.span.InBounds commentedSource := by
    rw [comments_commentedSource, List.forall_mem_cons, List.forall_mem_singleton]
    exact ⟨⟨by decide, by decide, by decide +kernel⟩, ⟨by decide, by decide, by decide +kernel⟩⟩
  exact ⟨forest_commentedClass, hbounds, by decide +kernel,
    attached_attachDocs forest_commentedClass hbounds⟩

end Completion

end TreeBridge
