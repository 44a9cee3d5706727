import Mathlib.Data.List.Pairwise
import TreeBridge.Proofs.Completion.Room
/-!
# Which comment a declaration gets

Comments are attached from the front of the source, and a declaration that
has one starts there and no longer at its first token. So of several doc
comments before a declaration the first one wins that is not turned down,
and those between it and the declaration are left over. `Run` says of each
comment what it documents when its turn comes.
-/

namespace TreeBridge

namespace Completion

open Unified (NodeId NodeKind Arena Forest)

variable {s : Source} {a b m : Arena} {candidates : List NodeId} {c : Comment}
variable {cs ds : List Comment} {done more : List Attachment} {target i : NodeId}

/-! ## Runs -/

/-- **A run over doc comments**: from one tree to another, with a record of
what is attached. -/
inductive Run (s : Source) (candidates : List NodeId) :
    Arena → List Comment → Arena → List Attachment → Prop
  | nil {a : Arena} : Run s candidates a [] a []
  /-- A comment that documents a declaration is attached. -/
  | attach {a b : Arena} {c : Comment} {cs : List Comment} {target : NodeId}
      {done : List Attachment} (h : documented? s candidates a c.span = some target)
      (rest : Run s candidates (document a target c.span) cs b done) :
      Run s candidates a (c :: cs) b ((c, target) :: done)
  /-- Any other is passed over. -/
  | pass {a b : Arena} {c : Comment} {cs : List Comment} {done : List Attachment}
      (h : documented? s candidates a c.span = none) (rest : Run s candidates a cs b done) :
      Run s candidates a (c :: cs) b done

theorem exists_run (s : Source) (candidates : List NodeId) (cs : List Comment) (a : Arena) :
    ∃ b done, Run s candidates a cs b done := by
  induction cs generalizing a with
  | nil => exact ⟨a, [], .nil⟩
  | cons c cs ih =>
    cases h : documented? s candidates a c.span with
    | none =>
      obtain ⟨b, done, hrest⟩ := ih a
      exact ⟨b, done, .pass h hrest⟩
    | some target =>
      obtain ⟨b, done, hrest⟩ := ih (document a target c.span)
      exact ⟨b, (c, target) :: done, .attach h hrest⟩

namespace Run

/-- A run is what folding over the comments makes. -/
theorem foldl_eq (h : Run s candidates a cs b done) (count : Nat) :
    cs.foldl (attachDoc s candidates) (a, count) = (b, count + done.length) := by
  induction h generalizing count with
  | nil => rfl
  | attach h _ ih =>
    rw [List.foldl_cons, attachDoc, h]
    dsimp only
    rw [ih, List.length_cons, Nat.add_assoc, Nat.add_comm 1]
  | pass h _ ih =>
    rw [List.foldl_cons, attachDoc, h]
    exact ih count

theorem sublist (h : Run s candidates a cs b done) : (done.map Prod.fst).Sublist cs := by
  induction h with
  | nil => exact List.Sublist.refl []
  | @attach _ _ c _ _ _ _ _ ih => exact ih.cons_cons c
  | @pass _ _ c _ _ _ _ ih => exact ih.cons c

/-- A run over two lists stops between them. -/
theorem split (h : Run s candidates a (cs ++ ds) b done) :
    ∃ m before after, Run s candidates a cs m before ∧ Run s candidates m ds b after ∧
      done = before ++ after := by
  induction cs generalizing a done with
  | nil => exact ⟨a, [], done, .nil, h, rfl⟩
  | cons c cs ih =>
    cases h with
    | attach h rest =>
      obtain ⟨m, before, after, hbefore, hafter, rfl⟩ := ih rest
      exact ⟨m, _ :: before, after, .attach h hbefore, hafter, rfl⟩
    | pass h rest =>
      obtain ⟨m, before, after, hbefore, hafter, rfl⟩ := ih rest
      exact ⟨m, before, after, .pass h hbefore, hafter, rfl⟩

/-- What a run attaches documents its declaration when its turn comes. -/
theorem turn (h : Run s candidates a cs b done) {d : Attachment} (hd : d ∈ done) :
    ∃ before after m earlier, cs = before ++ d.1 :: after ∧ Run s candidates a before m earlier ∧
      documented? s candidates m d.1.span = some d.2 := by
  induction h with
  | nil => cases hd
  | @attach a _ c cs target _ h _ ih =>
    rcases List.mem_cons.1 hd with rfl | hd
    · exact ⟨[], cs, a, [], rfl, .nil, h⟩
    · obtain ⟨before, after, m, earlier, rfl, hrun, hdocumented⟩ := ih hd
      exact ⟨c :: before, after, m, _ :: earlier, rfl, .attach h hrun, hdocumented⟩
  | @pass a _ c cs _ h _ ih =>
    obtain ⟨before, after, m, earlier, rfl, hrun, hdocumented⟩ := ih hd
    exact ⟨c :: before, after, m, earlier, rfl, .pass h hrun, hdocumented⟩

end Run

/-- A comment that documents a declaration when its turn comes is in the
record. -/
theorem Run.mem_of_documented? (h : Run s candidates m (c :: ds) b done)
    (htarget : documented? s candidates m c.span = some i) : (c, i) ∈ done := by
  cases h with
  | attach h _ =>
    obtain rfl := Option.some.inj (h.symm.trans htarget)
    exact List.mem_cons_self
  | pass h _ => exact absurd (h.symm.trans htarget) (by simp)

/-- A run adds what it attaches to the record. -/
theorem Attached.run (h : Attached s a m done)
    (hcandidates : ∀ id ∈ candidates, id < a.size ∧ isDocumentable (a.kind id) = true ∧
      (a.span id).isSet = true)
    (hbounds : ∀ c ∈ cs, c.span.InBounds s) (hrun : Run s candidates m cs b more) :
    Attached s a b (done ++ more) := by
  induction hrun generalizing done with
  | nil => rwa [List.append_nil]
  | attach htarget _ ih =>
    obtain ⟨hc, hbounds⟩ := List.forall_mem_cons.1 hbounds
    rw [List.append_cons]
    exact ih (h.joins hcandidates hc htarget).next hbounds
  | pass _ _ ih => exact ih h (List.forall_mem_cons.1 hbounds).2

/-! ## The comments of a source -/

/-- A comment that is not empty and ends before another starts. -/
def Precedes (x y : Comment) : Prop :=
  x.span.start < x.span.stop ∧ x.span.stop ≤ y.span.start

theorem Precedes.ne {x y : Comment} (h : Precedes x y) : x ≠ y := by
  rintro rfl
  exact Int.not_le.2 h.1 h.2

/-- The comments of a source come one behind the other. -/
theorem ordered_comments (hsize : s.size < 2147483648) :
    (Lexical.comments s).Pairwise Precedes := by
  refine List.pairwise_filterMap.2 (Lexical.tiles_zero.ordered.imp_of_mem ?_)
  intro t u ht hu hle x hx y hy
  obtain ⟨_, -, rfl⟩ := Option.map_eq_some_iff.1 hx
  obtain ⟨_, -, rfl⟩ := Option.map_eq_some_iff.1 hy
  obtain ⟨hstart, hstop, -⟩ := bounds_of_mem_tokens hsize ht
  have hnext := (bounds_of_mem_tokens hsize hu).1
  have hlt := (Lexical.tiles_zero.within t ht).2.1
  rw [Precedes, hstart, hstop, hnext]
  exact ⟨Int.ofNat_lt.2 hlt, Int.ofNat_le.2 hle⟩

/-! ## One turn -/

/-- Two searches of a list that each accept what the other finds find the
same. -/
theorem eq_of_find? {α : Type} {p q : α → Bool} {l : List α} {x y : α}
    (hx : l.find? p = some x) (hy : l.find? q = some y) (hpy : p y = true) (hqx : q x = true) :
    x = y := by
  induction l with
  | nil => cases hx
  | cons z l ih =>
    rw [List.find?_cons] at hx hy
    cases hp : p z with
    | true =>
      obtain rfl : z = x := by simpa [hp] using hx
      simpa [hqx] using hy
    | false =>
      have hq : q z = false := by
        by_contra hq
        obtain rfl : z = y := by simpa [hq] using hy
        rw [hpy] at hp
        cases hp
      rw [hp] at hx
      rw [hq] at hy
      exact ih hx hy

/-- The first candidate that starts at an offset. -/
def firstAt (a : Arena) (candidates : List NodeId) (offset : Int) : Option NodeId :=
  candidates.find? fun id => (a.span id).start == offset

theorem firstAt_eq_some {offset : Int} (h : firstAt a candidates offset = some i) :
    i ∈ candidates ∧ (a.span i).start = offset := by
  refine ⟨List.mem_of_find?_eq_some h, ?_⟩
  have hstart := List.find?_some h
  exact eq_of_beq hstart

/-- What a comment documents is the first candidate at the first code token
behind it, if that has no comment and no earlier sibling reaches past the
comment. -/
theorem documented?_of_follows (h : Follows s a c target) :
    documented? s candidates m c.span =
      match firstAt m candidates (a.span target).start with
      | none => none
      | some e =>
        if (m.child? e .javadoc).isSome || reachedByEarlierSibling m e c.span then none
        else some e := by
  obtain ⟨next, rest, hcode, hstart⟩ := h
  rw [documented?, hcode, hstart]
  rfl

theorem firstAt_of_documented? (h : Follows s a c target)
    (htarget : documented? s candidates m c.span = some target) :
    firstAt m candidates (a.span target).start = some target := by
  rw [documented?_of_follows h] at htarget
  split at htarget
  · cases htarget
  next e he =>
    split at htarget
    · cases htarget
    · exact he.trans htarget

theorem Follows.stop_le (h : Follows s a c target) (hbounds : c.span.InBounds s) :
    c.span.stop ≤ (a.span target).start := by
  obtain ⟨next, rest, hcode, hstart⟩ := h
  have h0 : 0 ≤ c.span.stop := Int.le_trans hbounds.start_nonneg hbounds.start_le_stop
  rw [hstart]
  exact (Lexical.onlyComments_of_codeTokens h0 hbounds.stop_le hcode).1

namespace Attached

variable (h : Attached s a m done)

include h

/-- A declaration without a comment stands where it did. -/
theorem span_of_not_mem (hi : i < a.size) (hkind : Completion.isDocumentable (a.kind i) = true)
    (hfresh : i ∉ done.map Prod.snd) : m.span i = a.span i :=
  h.span i hi hfresh fun _ _ hsurrounds => ne_of_isDocumentable hkind hsurrounds.2

/-- A declaration with a comment starts at the latest where the comment
does. -/
theorem start_le_of_mem {d : Attachment} (hd : d ∈ done) :
    (m.span d.2).start ≤ d.1.span.start := by
  have hbounds := (h.between d hd).1
  have hle := hbounds.start_le_stop
  have hcover := Span.cover_of_isSet hbounds.isSet (h.declaration d hd).2.2 (by omega)
  rw [h.grown d hd, hcover.1]
  exact Int.min_le_left _ _

/-- A declaration has one comment. -/
theorem eq_of_snd_eq {d e : Attachment} (hd : d ∈ done) (he : e ∈ done) (hsame : d.2 = e.2) :
    d = e :=
  List.inj_on_of_nodup_map h.nodup hd he hsame

/-- **The turn of a comment** before a declaration without one. The first
candidate at that place has no comment yet either: one that had would start
at an earlier comment. -/
theorem exists_firstAt (hcandidates : ∀ id ∈ candidates, id < a.size ∧
      Completion.isDocumentable (a.kind id) = true ∧ (a.span id).isSet = true)
    (hbounds : c.span.InBounds s) (hbefore : ∀ d ∈ done, Precedes d.1 c)
    (hfollows : Follows s a c target) (htarget : target ∈ candidates)
    (hfresh : target ∉ done.map Prod.snd) :
    ∃ e ∈ candidates, firstAt m candidates (a.span target).start = some e ∧
      e ∉ done.map Prod.snd ∧ (a.span e).start = (a.span target).start := by
  have hstays {id : NodeId} (hid : id ∈ candidates) (hfresh : id ∉ done.map Prod.snd) :
      m.span id = a.span id :=
    h.span_of_not_mem (hcandidates id hid).1 (hcandidates id hid).2.1 hfresh
  have hsome : (firstAt m candidates (a.span target).start).isSome = true :=
    List.find?_isSome.2 ⟨target, htarget, by rw [hstays htarget hfresh]; exact beq_self_eq_true _⟩
  obtain ⟨e, he⟩ := Option.isSome_iff_exists.1 hsome
  obtain ⟨hmem, hstart⟩ := firstAt_eq_some he
  have hbare : e ∉ done.map Prod.snd := by
    intro hdone
    obtain ⟨d, hd, rfl⟩ := List.mem_map.1 hdone
    obtain ⟨hlt, hle⟩ := hbefore d hd
    have hstop := hfollows.stop_le hbounds
    have hgrown := h.start_le_of_mem hd
    have hlength := hbounds.start_le_stop
    omega
  exact ⟨e, hmem, he, hbare, by rw [← hstays hmem hbare, hstart]⟩

end Attached

/-! ## The first one wins -/

section

variable (hcandidates : ∀ id ∈ candidates, id < a.size ∧ isDocumentable (a.kind id) = true ∧
  (a.span id).isSet = true)

include hcandidates

/-- Where a run attaches a comment, the first candidate had none before the
run: else it would have kept that comment and its place. -/
theorem Run.child?_eq_none_of_firstAt {d : Attachment} {e : NodeId}
    (hrun : Run s candidates a cs b done) (hbounds : ∀ c ∈ cs, c.span.InBounds s) (hd : d ∈ done)
    (h : Attached s a m more) (hfresh : d.2 ∉ more.map Prod.snd)
    (he : firstAt m candidates (a.span d.2).start = some e) (hfirst : e ∉ more.map Prod.snd) :
    a.child? e .javadoc = none := by
  have hall : Attached s a b done := Attached.refl.run hcandidates hbounds hrun
  obtain ⟨before, after, m', earlier, rfl, hbefore, hdocumented⟩ := hrun.turn hd
  have hattached : Attached s a m' earlier :=
    Attached.refl.run hcandidates (List.forall_mem_append.1 hbounds).1 hbefore
  by_contra hcomment
  have hkept : e ∉ earlier.map Prod.snd := by
    intro hmem
    obtain ⟨k, hk, rfl⟩ := List.mem_map.1 hmem
    exact hcomment (hattached.bare k hk)
  have hfound := firstAt_of_documented? (hall.follows d hd) hdocumented
  obtain ⟨hmem, hstart⟩ := firstAt_eq_some he
  obtain ⟨hlt, hkind, -⟩ := hcandidates e hmem
  obtain ⟨hdlt, hdkind, -⟩ := hall.declaration d hd
  -- both searches are for one place, at which the two stand at either time
  have hsame : e = d.2 := by
    refine eq_of_find? he hfound (beq_iff_eq.2 ?_) (beq_iff_eq.2 ?_)
    · rw [h.span_of_not_mem hdlt hdkind hfresh]
    · rw [hattached.span_of_not_mem hlt hkind hkept, ← h.span_of_not_mem hlt hkind hfirst, hstart]
  rw [hsame] at hcomment
  exact hcomment (hall.bare d hd)

variable {d : Attachment} (hrun : Run s candidates a (cs ++ c :: ds) b done)
variable (hbounds : ∀ c' ∈ cs ++ c :: ds, c'.span.InBounds s)
variable (hordered : (cs ++ c :: ds).Pairwise Precedes)
variable (hd : d ∈ done) (hbehind : d.1 ∈ ds) (hfollows : Follows s a c d.2)

include hrun hbounds hordered hd hbehind hfollows

/-- **What a comment meets when its turn comes**, if a comment behind it is
attached to a declaration that it stands before as well: a declaration at
that place, which it documents or which an earlier sibling keeps from it. -/
theorem Run.meets : ∃ m earlier later, Run s candidates a cs m earlier ∧
    Run s candidates m (c :: ds) b later ∧ done = earlier ++ later ∧
      ∃ e ∈ candidates, Follows s a c e ∧
        (documented? s candidates m c.span = some e ∨
          reachedByEarlierSibling m e c.span = true) := by
  have hall : Attached s a b done := Attached.refl.run hcandidates hbounds hrun
  obtain ⟨m, earlier, later, hearlier, hlater, rfl⟩ := hrun.split
  refine ⟨m, earlier, later, hearlier, hlater, rfl, ?_⟩
  obtain ⟨hboundsBefore, hboundsAfter⟩ := List.forall_mem_append.1 hbounds
  have hattached : Attached s a m earlier := Attached.refl.run hcandidates hboundsBefore hearlier
  have hprecedes {k : Attachment} (hk : k ∈ earlier) {y : Comment} (hy : y ∈ c :: ds) :
      Precedes k.1 y :=
    (List.pairwise_append.1 hordered).2.2 _ (hearlier.sublist.subset (List.mem_map_of_mem hk)) y hy
  have hnotyet : d.2 ∉ earlier.map Prod.snd := by
    intro hdone
    obtain ⟨k, hk, hsame⟩ := List.mem_map.1 hdone
    refine (hprecedes hk (List.mem_cons_of_mem _ hbehind)).ne ?_
    rw [hall.eq_of_snd_eq (List.mem_append_left _ hk) hd hsame]
  obtain ⟨_, _, _, _, -, -, hdocumented⟩ := hrun.turn hd
  obtain ⟨e, hcandidate, he, hfirst, hstart⟩ := hattached.exists_firstAt hcandidates
    (List.forall_mem_cons.1 hboundsAfter).1 (fun k hk => hprecedes hk List.mem_cons_self) hfollows
    (documented?_eq_some hdocumented).1 hnotyet
  have hfree : m.child? e .javadoc = none := by
    rw [Arena.child?, hattached.entries e (hcandidates e hcandidate).1 hfirst]
    exact hrun.child?_eq_none_of_firstAt hcandidates hbounds hd hattached hnotyet he hfirst
  have hturn : documented? s candidates m c.span = some e ∨
      reachedByEarlierSibling m e c.span = true := by
    rw [documented?_of_follows hfollows, he]
    by_cases hreached : reachedByEarlierSibling m e c.span = true
    · exact .inr hreached
    · exact .inl (by simp [hfree, hreached])
  obtain ⟨next, rest, hcode, hnext⟩ := hfollows
  exact ⟨e, hcandidate, ⟨next, rest, hcode, hstart.trans hnext⟩, hturn⟩

/-- **The first one wins, in a run.** A comment that has its turn before
the comment of a declaration behind it documents another declaration there,
or is turned down because an earlier sibling reaches past it. -/
theorem Run.first : (∃ e, e ≠ d.2 ∧ (c, e) ∈ done) ∨
    ∃ m earlier, Run s candidates a cs m earlier ∧ ∃ e ∈ candidates, Follows s a c e ∧
      reachedByEarlierSibling m e c.span = true := by
  have hall : Attached s a b done := Attached.refl.run hcandidates hbounds hrun
  obtain ⟨m, earlier, later, hearlier, hlater, rfl, e, he, hafter, hdocuments | hreached⟩ :=
    hrun.meets hcandidates hbounds hordered hd hbehind hfollows
  · have hin := List.mem_append_right earlier (hlater.mem_of_documented? hdocuments)
    have hprecedes : Precedes c d.1 :=
      (List.pairwise_cons.1 (List.pairwise_append.1 hordered).2.1).1 d.1 hbehind
    exact .inl ⟨e, fun hsame => hprecedes.ne (congrArg Prod.fst (hall.eq_of_snd_eq hin hd hsame)),
      hin⟩
  · exact .inr ⟨m, earlier, hearlier, e, he, hafter, hreached⟩

end

/-- A type without a header behind two doc comments: it starts where its
method does. -/
def headless : Arena :=
  let a := (Arena.empty.alloc .compilationUnit ⟨0, 31⟩).2
  let a := (a.alloc (.typeDeclaration false) ⟨18, 13⟩).2
  let a := (a.alloc (.methodDeclaration false 0) ⟨18, 13⟩).2
  (a.addChild 1 .bodyDeclarations 2).addChild 0 .types 1

/-- The source of that type. -/
def headlessSource : Source :=
  .ofString "/** a */ /** b */ void f() \x7b   \x7d"

theorem forest_headless : Forest headless [0] := by
  have hunit := Forest.empty.alloc .compilationUnit ⟨0, 31⟩
  have htype := hunit.alloc (.typeDeclaration false) ⟨18, 13⟩
  have hmethod := htype.alloc (.methodDeclaration false 0) ⟨18, 13⟩
  have hbody := (hmethod.perm (List.Perm.swap _ _ _)).addChild .bodyDeclarations
  exact (hbody.perm (List.Perm.swap _ _ _)).addChild .types

/-- A class behind two doc comments. -/
def twiceCommented : Arena :=
  let a := (Arena.empty.alloc .compilationUnit ⟨0, 28⟩).2
  (a.alloc (.typeDeclaration false) ⟨18, 10⟩).2.addChild 0 .types 1

/-- The source of that class. -/
def twiceCommentedSource : Source :=
  .ofString "/** a */ /** b */ class A \x7b\x7d"

theorem forest_twiceCommented : Forest twiceCommented [0] := by
  have hunit := Forest.empty.alloc .compilationUnit ⟨0, 28⟩
  have hclass := hunit.alloc (.typeDeclaration false) ⟨18, 10⟩
  exact (hclass.perm (List.Perm.swap _ _ _)).addChild .types

end Completion

end TreeBridge
