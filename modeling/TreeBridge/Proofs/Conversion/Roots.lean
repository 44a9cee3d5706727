import TreeBridge.Conversion.Build
import TreeBridge.Proofs.Unified.Constructors
import TreeBridge.Proofs.Unified.Footprint
import TreeBridge.Proofs.Unified.Forest
/-!
# Loose roots

While a conversion runs, its arena is a forest: the finished subtrees
that still wait for their parent are the loose roots. `Steps` says what a
step does to them. It takes some roots and leaves others, whatever other
roots lie beside them, so steps compose and a step can be read alone. Of
the nodes that were there it touches those roots only. Most steps leave no
constructor behind that is not a member of its type yet (`Moves`): only
the conversion of a constructor itself and that of the members of a body
wait for what comes after them. A conversion of a tree leaves one new root
(`Yields`), and adding parts to a node leaves that node loose and nothing
else (`Keeps`).
-/

namespace TreeBridge

namespace Conversion

open Unified (NodeId NodeKind Slot Arena Forest Touches Enlarges Settles)

/-- A state whose arena is a forest with some roots, and whose nodes came
from trees with ids in `K`. -/
structure Loose (K : ℕ → Prop) (σ : State) (roots : List NodeId) : Prop where
  forest : Forest σ.arena roots
  origins : ∀ o ∈ σ.origins, o.1 < σ.arena.size ∧ K o.2

/-- Between two states nodes are made, and origins are noted of these
only. -/
structure Grows (σ σ' : State) : Prop where
  size_le : σ.arena.size ≤ σ'.arena.size
  origins : ∃ noted, σ'.origins = σ.origins ++ noted ∧
    ∀ o ∈ noted, σ.arena.size ≤ o.1 ∧ o.1 < σ'.arena.size

namespace Grows

variable {σ σ₁ σ' : State}

/-- No origin is noted. -/
theorem of_origins_eq (hsize : σ.arena.size ≤ σ'.arena.size) (h : σ'.origins = σ.origins) :
    Grows σ σ' :=
  ⟨hsize, [], by rw [h, List.append_nil], by simp⟩

theorem refl (σ : State) : Grows σ σ :=
  of_origins_eq (Nat.le_refl _) rfl

theorem trans (h : Grows σ σ₁) (h' : Grows σ₁ σ') : Grows σ σ' := by
  obtain ⟨hle, noted, heq, hnoted⟩ := h
  obtain ⟨hle', noted', heq', hnoted'⟩ := h'
  refine ⟨Nat.le_trans hle hle', noted ++ noted', by rw [heq', heq, List.append_assoc], ?_⟩
  refine List.forall_mem_append.2 ⟨fun o ho => ?_, fun o ho => ?_⟩
  · exact ⟨(hnoted o ho).1, Nat.lt_of_lt_of_le (hnoted o ho).2 hle'⟩
  · exact ⟨Nat.le_trans hle (hnoted' o ho).1, (hnoted' o ho).2⟩

end Grows

/-- A step that takes the roots `pre` and leaves the roots `post`, if it
does not stop. -/
structure Steps {α : Type} (K : ℕ → Prop) (pre : List NodeId) (m : Convert α)
    (post : α → List NodeId) : Prop where
  loose : ∀ ⦃ctx : Context⦄ ⦃σ σ' : State⦄ ⦃a : α⦄ (rest : List NodeId),
    Loose K σ (pre ++ rest) → m ctx σ = .ok (a, σ') → Loose K σ' (post a ++ rest)
  touches : ∀ ⦃ctx : Context⦄ ⦃σ σ' : State⦄ ⦃a : α⦄,
    m ctx σ = .ok (a, σ') → Touches pre (post a) σ.arena σ'.arena
  grows : ∀ ⦃ctx : Context⦄ ⦃σ σ' : State⦄ ⦃a : α⦄, m ctx σ = .ok (a, σ') → Grows σ σ'
  enlarges : ∀ ⦃ctx : Context⦄ ⦃σ σ' : State⦄ ⦃a : α⦄,
    m ctx σ = .ok (a, σ') → Enlarges σ.arena σ'.arena

/-- A step that takes the roots `pre` and leaves the roots `post`, and
settles every constructor that it makes. -/
structure Moves {α : Type} (K : ℕ → Prop) (pre : List NodeId) (m : Convert α)
    (post : α → List NodeId) : Prop extends Steps K pre m post where
  settles : ∀ ⦃ctx : Context⦄ ⦃σ σ' : State⦄ ⦃a : α⦄,
    m ctx σ = .ok (a, σ') → Settles σ.arena σ'.arena

/-- A step that makes a subtree and leaves its root loose. -/
abbrev Yields (K : ℕ → Prop) (m : Convert NodeId) : Prop :=
  Moves K [] m (fun id => [id])

/-- A step that leaves a loose node loose, and no other new root. -/
abbrev Keeps {α : Type} (K : ℕ → Prop) (owner : NodeId) (m : Convert α) : Prop :=
  Moves K [owner] m (fun _ => [owner])

variable {K : ℕ → Prop} {α β : Type}

/-! ## Running steps -/

/-- A sequence of two steps runs to the end when both do. -/
theorem bind_eq_ok {m : Convert α} {f : α → Convert β} {ctx : Context} {σ σ' : State} {b : β} :
    (m >>= f) ctx σ = .ok (b, σ') ↔
      ∃ a σ₁, m ctx σ = .ok (a, σ₁) ∧ f a ctx σ₁ = .ok (b, σ') := by
  have hrun : (m >>= f) ctx σ = Except.bind (m ctx σ) (fun r => f r.1 ctx r.2) := rfl
  rw [hrun]
  cases m ctx σ with
  | error e => simp [Except.bind]
  | ok r =>
    obtain ⟨a, σ₁⟩ := r
    simp [Except.bind]

theorem pure_eq_ok {a b : α} {ctx : Context} {σ σ' : State} :
    (pure a : Convert α) ctx σ = .ok (b, σ') ↔ a = b ∧ σ = σ' := by
  have hrun : (pure a : Convert α) ctx σ = .ok (a, σ) := rfl
  rw [hrun, Except.ok.injEq, Prod.mk.injEq]

variable {pre : List NodeId} {m : Convert α} {mid post : α → List NodeId}

namespace Steps

/-- What returns leaves the roots that are there. -/
theorem pure {a : α} (h : pre = post a) : Steps K pre (pure a) post where
  loose ctx σ σ' b rest hσ hrun := by
    obtain ⟨rfl, rfl⟩ := pure_eq_ok.1 hrun
    exact h ▸ hσ
  touches ctx σ σ' b hrun := by
    obtain ⟨rfl, rfl⟩ := pure_eq_ok.1 hrun
    exact h ▸ Touches.refl pre σ.arena
  grows ctx σ σ' b hrun := by
    obtain ⟨rfl, rfl⟩ := pure_eq_ok.1 hrun
    exact Grows.refl σ
  enlarges ctx σ σ' b hrun := by
    obtain ⟨rfl, rfl⟩ := pure_eq_ok.1 hrun
    exact Enlarges.refl σ.arena

/-- What stops leaves nothing to say. -/
theorem stop {e : Unsupported} : Steps K pre (throw e : Convert α) post where
  loose ctx σ σ' a rest _ hrun := by cases hrun
  touches ctx σ σ' a hrun := by cases hrun
  grows ctx σ σ' a hrun := by cases hrun
  enlarges ctx σ σ' a hrun := by cases hrun

theorem bind {f : α → Convert β} {post : β → List NodeId} (h : Steps K pre m mid)
    (hf : ∀ a, Steps K (mid a) (f a) post) : Steps K pre (m >>= f) post where
  loose ctx σ σ' b rest hσ hrun := by
    obtain ⟨a, σ₁, hm, hfa⟩ := bind_eq_ok.1 hrun
    exact (hf a).loose rest (h.loose rest hσ hm) hfa
  touches ctx σ σ' b hrun := by
    obtain ⟨a, σ₁, hm, hfa⟩ := bind_eq_ok.1 hrun
    exact (h.touches hm).trans ((hf a).touches hfa)
  grows ctx σ σ' b hrun := by
    obtain ⟨a, σ₁, hm, hfa⟩ := bind_eq_ok.1 hrun
    exact (h.grows hm).trans ((hf a).grows hfa)
  enlarges ctx σ σ' b hrun := by
    obtain ⟨a, σ₁, hm, hfa⟩ := bind_eq_ok.1 hrun
    exact (h.enlarges hm).trans ((hf a).enlarges hfa)

/-- Further roots lie beside a step untouched. -/
theorem frame (h : Steps K pre m post) (more : List NodeId) :
    Steps K (pre ++ more) m (fun a => post a ++ more) where
  loose ctx σ σ' a rest hσ hrun := by
    rw [List.append_assoc] at hσ ⊢
    exact h.loose (more ++ rest) hσ hrun
  touches ctx σ σ' a hrun := (h.touches hrun).frame more
  grows := h.grows
  enlarges := h.enlarges

/-- The roots are known in any order. -/
theorem permute {pre' : List NodeId} {post' : α → List NodeId} (h : Steps K pre m post)
    (hpre : pre'.Perm pre) (hpost : ∀ a, (post a).Perm (post' a)) : Steps K pre' m post' where
  loose ctx σ σ' a rest hσ hrun := by
    obtain ⟨hforest, horigins⟩ :=
      h.loose rest ⟨hσ.forest.perm (hpre.append_right rest), hσ.origins⟩ hrun
    exact ⟨hforest.perm ((hpost a).append_right rest), horigins⟩
  touches ctx σ σ' a hrun :=
    (h.touches hrun).mono hpre.symm.subset fun _ hi => Or.inl ((hpost a).symm.subset hi)
  grows := h.grows
  enlarges := h.enlarges

/-- A step that takes nothing puts what it makes before the roots that
are there. -/
theorem bindNew {f : α → Convert β} {post : β → List NodeId} (h : Steps K [] m mid)
    (hf : ∀ a, Steps K (mid a ++ pre) (f a) post) : Steps K pre (m >>= f) post :=
  (h.frame pre).bind hf

/-- A step for every element of a list, each of which leaves the roots
that are there. -/
theorem forM {γ : Type} {xs : List γ} {f : γ → Convert Unit}
    (h : ∀ x ∈ xs, Steps K pre (f x) (fun _ => pre)) : Steps K pre (xs.forM f) (fun _ => pre) := by
  induction xs with
  | nil => exact Steps.pure rfl
  | cons x xs ih =>
    exact (h x (by simp)).bind fun _ => ih (fun y hy => h y (by simp [hy]))

/-- Reading more context changes nothing about the roots. -/
theorem withReader {f : Context → Context} (h : Steps K pre m post) :
    Steps K pre (withReader f m) post where
  loose ctx σ σ' a rest hσ hrun := by
    have hinner : m (f ctx) σ = .ok (a, σ') := hrun
    exact h.loose rest hσ hinner
  touches ctx σ σ' a hrun := by
    have hinner : m (f ctx) σ = .ok (a, σ') := hrun
    exact h.touches hinner
  grows ctx σ σ' a hrun := by
    have hinner : m (f ctx) σ = .ok (a, σ') := hrun
    exact h.grows hinner
  enlarges ctx σ σ' a hrun := by
    have hinner : m (f ctx) σ = .ok (a, σ') := hrun
    exact h.enlarges hinner

end Steps

namespace Moves

theorem pure {a : α} (h : pre = post a) : Moves K pre (pure a) post where
  toSteps := Steps.pure h
  settles ctx σ σ' b hrun := by
    obtain ⟨rfl, rfl⟩ := pure_eq_ok.1 hrun
    exact Settles.refl σ.arena

theorem stop {e : Unsupported} : Moves K pre (throw e : Convert α) post where
  toSteps := Steps.stop
  settles ctx σ σ' a hrun := by cases hrun

theorem bind {f : α → Convert β} {post : β → List NodeId} (h : Moves K pre m mid)
    (hf : ∀ a, Moves K (mid a) (f a) post) : Moves K pre (m >>= f) post where
  toSteps := h.toSteps.bind fun a => (hf a).toSteps
  settles ctx σ σ' b hrun := by
    obtain ⟨a, σ₁, hm, hfa⟩ := bind_eq_ok.1 hrun
    exact (h.settles hm).trans ((hf a).settles hfa)

theorem frame (h : Moves K pre m post) (more : List NodeId) :
    Moves K (pre ++ more) m (fun a => post a ++ more) :=
  ⟨h.toSteps.frame more, h.settles⟩

theorem permute {pre' : List NodeId} {post' : α → List NodeId} (h : Moves K pre m post)
    (hpre : pre'.Perm pre) (hpost : ∀ a, (post a).Perm (post' a)) : Moves K pre' m post' :=
  ⟨h.toSteps.permute hpre hpost, h.settles⟩

theorem bindNew {f : α → Convert β} {post : β → List NodeId} (h : Moves K [] m mid)
    (hf : ∀ a, Moves K (mid a ++ pre) (f a) post) : Moves K pre (m >>= f) post :=
  (h.frame pre).bind hf

/-- A step that only reads moves nothing. -/
theorem ofRead (h : ∀ ctx σ a σ', m ctx σ = .ok (a, σ') → σ' = σ) :
    Moves K pre m (fun _ => pre) where
  loose ctx σ σ' a rest hσ hrun := by
    rw [h ctx σ a σ' hrun]
    exact hσ
  touches ctx σ σ' a hrun := by
    rw [h ctx σ a σ' hrun]
    exact Touches.refl pre σ.arena
  grows ctx σ σ' a hrun := by
    rw [h ctx σ a σ' hrun]
    exact Grows.refl σ
  enlarges ctx σ σ' a hrun := by
    rw [h ctx σ a σ' hrun]
    exact Enlarges.refl σ.arena
  settles ctx σ σ' a hrun := by
    rw [h ctx σ a σ' hrun]
    exact Settles.refl σ.arena

/-- A change of a loose node that leaves its kind and all links alone
moves nothing. -/
theorem ofModify {id : NodeId} (hid : id ∈ pre) {f : Unified.Node → Unified.Node}
    (hk : ∀ n, (f n).kind = n.kind) (hp : ∀ n, (f n).parent = n.parent)
    (hc : ∀ n, (f n).children = n.children) :
    Moves K pre (change (fun a => a.modify id f)) (fun _ => pre) where
  loose ctx σ σ' a rest hσ hrun := by
    cases hrun
    refine ⟨hσ.forest.congr (Arena.size_modify f) (Arena.parent_modify hp)
      (Arena.children_modify hc), fun o ho => ?_⟩
    rw [Arena.size_modify]
    exact hσ.origins o ho
  touches ctx σ σ' a hrun := by
    cases hrun
    exact Touches.modify hk hid
  grows ctx σ σ' a hrun := by
    cases hrun
    exact Grows.of_origins_eq (Nat.le_of_eq (Arena.size_modify f).symm) rfl
  enlarges ctx σ σ' a hrun := by
    cases hrun
    exact Enlarges.modify hk hc
  settles ctx σ σ' a hrun := by
    cases hrun
    exact Settles.of_enlarges (Enlarges.modify hk hc) (Arena.size_modify f)

end Moves

/-! ## Making nodes -/

/-! A conversion of a tree never makes a constructor. The constructors of a
body are made by `method` only, which takes `steps_allocAt`. -/

theorem yields_synthetic (kind : NodeKind) (span : Span)
    (hkind : kind.isConstructor = false) : Yields K (synthetic kind span) where
  loose ctx σ σ' id rest hσ hrun := by
    cases hrun
    refine ⟨hσ.forest.alloc kind span, fun o ho => ?_⟩
    obtain ⟨hlt, hk⟩ := hσ.origins o ho
    show o.1 < (σ.arena.alloc kind span).2.size ∧ K o.2
    rw [Arena.size_alloc]
    exact ⟨Nat.lt_succ_of_lt hlt, hk⟩
  touches ctx σ σ' id hrun := by
    cases hrun
    exact Touches.alloc kind span
  grows ctx σ σ' id hrun := by
    cases hrun
    exact Grows.of_origins_eq (Touches.alloc kind span).size_le rfl
  enlarges ctx σ σ' id hrun := by
    cases hrun
    exact Enlarges.alloc kind span
  settles ctx σ σ' id hrun := by
    cases hrun
    exact Settles.alloc span hkind

theorem steps_allocAt {t : Foreign.Tree} (ht : K t.id) (kind : NodeKind) (span : Span) :
    Steps K [] (allocAt t kind span) (fun id => [id]) where
  loose ctx σ σ' id rest hσ hrun := by
    cases hrun
    refine ⟨hσ.forest.alloc kind span, fun o ho => ?_⟩
    show o.1 < (σ.arena.alloc kind span).2.size ∧ K o.2
    rw [Arena.size_alloc]
    rcases List.mem_append.1 ho with ho | ho
    · obtain ⟨hlt, hk⟩ := hσ.origins o ho
      exact ⟨Nat.lt_succ_of_lt hlt, hk⟩
    · rw [List.mem_singleton.1 ho]
      exact ⟨Nat.lt_succ_self _, ht⟩
  touches ctx σ σ' id hrun := by
    cases hrun
    exact Touches.alloc kind span
  grows ctx σ σ' id hrun := by
    cases hrun
    refine ⟨(Touches.alloc kind span).size_le, _, rfl, fun o ho => ?_⟩
    rw [List.mem_singleton.1 ho]
    exact ⟨Nat.le_refl _, Nat.lt_of_lt_of_eq (Nat.lt_succ_self _) (Arena.size_alloc ..).symm⟩
  enlarges ctx σ σ' id hrun := by
    cases hrun
    exact Enlarges.alloc kind span

theorem yields_allocAt {t : Foreign.Tree} (ht : K t.id) (kind : NodeKind) (span : Span)
    (hkind : kind.isConstructor = false) : Yields K (allocAt t kind span) where
  toSteps := steps_allocAt ht kind span
  settles ctx σ σ' id hrun := by
    cases hrun
    exact Settles.alloc span hkind

theorem yields_alloc {t : Foreign.Tree} (ht : K t.id) (kind : NodeKind)
    (hkind : kind.isConstructor = false) : Yields K (alloc t kind) :=
  yields_allocAt ht kind _ hkind

theorem yields_simpleName (identifier : String) (span : Span) :
    Yields K (simpleName identifier span) :=
  yields_synthetic _ _ rfl

theorem yields_nameAt (identifier : String) (offset : Int) : Yields K (nameAt identifier offset) :=
  yields_synthetic _ _ rfl

theorem yields_nameEndingAt (identifier : String) (stop : Int) :
    Yields K (nameEndingAt identifier stop) :=
  yields_synthetic _ _ rfl

theorem keeps_addFlags {pre : List NodeId} {id : NodeId} (hid : id ∈ pre) (flags : UInt32) :
    Moves K pre (change (fun a => a.addFlags id flags)) (fun _ => pre) :=
  Moves.ofModify hid (fun _ => rfl) (fun _ => rfl) (fun _ => rfl)

theorem keeps_setSpan {pre : List NodeId} {id : NodeId} (hid : id ∈ pre) (span : Span) :
    Moves K pre (change (fun a => a.setSpan id span)) (fun _ => pre) :=
  Moves.ofModify hid (fun _ => rfl) (fun _ => rfl) (fun _ => rfl)

theorem keeps_markRecovered (id : NodeId) : Keeps K id (markRecovered id) :=
  keeps_addFlags (List.mem_singleton_self id) _

theorem yields_placeholder {t : Foreign.Tree} (ht : K t.id) (kind : NodeKind)
    (hkind : kind.isConstructor = false) : Yields K (placeholder t kind) := by
  unfold placeholder
  refine (yields_alloc ht kind hkind).bind fun id => ?_
  exact (keeps_addFlags (List.mem_singleton_self id) _).bind fun _ => Moves.pure rfl

theorem keeps_tokensBetween {pre : List NodeId} (start stop : Int) :
    Moves K pre (tokensBetween start stop) (fun _ => pre) :=
  Moves.ofRead fun _ _ _ _ hrun => by cases hrun; rfl

theorem keeps_findToken? {pre : List NodeId} (word : String) (start stop : Int) :
    Moves K pre (findToken? word start stop) (fun _ => pre) :=
  Moves.ofRead fun _ _ _ _ hrun => by cases hrun; rfl

theorem keeps_read {pre : List NodeId} : Moves K pre (read : Convert Context) (fun _ => pre) :=
  Moves.ofRead fun _ _ _ _ hrun => by cases hrun; rfl

/-! ## Attaching nodes -/

/-- A loose node attached to another is loose no more. -/
theorem moves_addChild (owner : NodeId) (slot : Slot) (child : NodeId) :
    Moves K [owner, child] (addChild owner slot child) (fun _ => [owner]) where
  loose ctx σ σ' u rest hσ hrun := by
    cases hrun
    refine ⟨hσ.forest.addChild slot, fun o ho => ?_⟩
    rw [Arena.size_addChild]
    exact hσ.origins o ho
  touches ctx σ σ' u hrun := by
    cases hrun
    exact Touches.addChild owner slot child
  grows ctx σ σ' u hrun := by
    cases hrun
    exact Grows.of_origins_eq (Touches.addChild owner slot child).size_le rfl
  enlarges ctx σ σ' u hrun := by
    cases hrun
    exact Enlarges.addChild owner slot child
  settles ctx σ σ' u hrun := by
    cases hrun
    exact Settles.of_enlarges (Enlarges.addChild owner slot child) Arena.size_addChild

/-- Only annotations are ever attached in front of what is there. -/
theorem moves_addChildFirst (owner child : NodeId) :
    Moves K [owner, child] (change (fun a => a.addChildFirst owner .annotations child))
      (fun _ => [owner]) where
  loose ctx σ σ' u rest hσ hrun := by
    cases hrun
    refine ⟨hσ.forest.addChildFirst .annotations, fun o ho => ?_⟩
    rw [Arena.size_addChildFirst]
    exact hσ.origins o ho
  touches ctx σ σ' u hrun := by
    cases hrun
    exact Touches.addChildFirst owner .annotations child
  grows ctx σ σ' u hrun := by
    cases hrun
    exact Grows.of_origins_eq (Touches.addChildFirst owner .annotations child).size_le rfl
  enlarges ctx σ σ' u hrun := by
    cases hrun
    exact Enlarges.addChildFirst owner child
  settles ctx σ σ' u hrun := by
    cases hrun
    exact Settles.of_enlarges (Enlarges.addChildFirst owner child) Arena.size_addChildFirst

/-- Attaching one of several loose nodes to the newest of them, before
anything else happens. -/
theorem Moves.attach {owner child : NodeId} {others others' : List NodeId} (slot : Slot)
    {next : Unit → Convert β} {post : β → List NodeId} (h : others.Perm (child :: others'))
    (hnext : Moves K (owner :: others') (next ()) post) :
    Moves K (owner :: others) (addChild owner slot child >>= next) post :=
  Moves.bind (((moves_addChild owner slot child).frame others').permute (h.cons owner)
    (fun _ => List.Perm.refl _)) fun _ => hnext

/-- Attaching the only other loose node to the newest one, which is the
result. -/
theorem Moves.attachLast {owner child : NodeId} (slot : Slot) :
    Moves K [owner, child] (addChild owner slot child >>= fun _ => Pure.pure owner)
      (fun id => [id]) :=
  (moves_addChild owner slot child).bind fun _ => Moves.pure rfl

theorem keeps_addPart {owner : NodeId} (slot : Slot) {convert : Convert NodeId}
    (h : Yields K convert) : Keeps K owner (addPart owner slot convert) := by
  unfold addPart
  refine h.bindNew fun child => ?_
  exact (moves_addChild owner slot child).permute (List.Perm.swap owner child [])
    (fun _ => List.Perm.refl _)

theorem keeps_addOptional {γ : Type} {owner : NodeId} (slot : Slot) {p : Option γ}
    {convert : γ → Convert NodeId} (h : ∀ x, p = some x → Yields K (convert x)) :
    Keeps K owner (addOptional owner slot p convert) := by
  cases p with
  | none => exact Moves.pure rfl
  | some x => exact keeps_addPart slot (h x rfl)

/-- A step for every element of a list keeps what each of them keeps. -/
theorem keeps_forM {γ : Type} {owner : NodeId} {xs : List γ} {f : γ → Convert Unit}
    (h : ∀ x ∈ xs, Keeps K owner (f x)) : Keeps K owner (xs.forM f) := by
  induction xs with
  | nil => exact Moves.pure rfl
  | cons x xs ih =>
    exact (h x (by simp)).bind fun _ => ih (fun y hy => h y (by simp [hy]))

theorem keeps_addEach {γ : Type} {owner : NodeId} (slot : Slot) {ps : List γ}
    {convert : γ → Convert NodeId} (h : ∀ x ∈ ps, Yields K (convert x)) :
    Keeps K owner (addEach owner slot ps convert) :=
  keeps_forM fun x hx => keeps_addPart slot (h x hx)

end Conversion

end TreeBridge
