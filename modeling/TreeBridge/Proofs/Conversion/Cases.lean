import TreeBridge.Proofs.Conversion.Regions
/-!
# The cases of a switch in one list

A switch owns the nodes of its cases and their statements in one list: for
every case its node, which has the labels below it, and then what becomes
of its statements, variables declared together as one. No statement
becomes the node of a case, so the list can be cut into the cases again.
-/

namespace TreeBridge

namespace Conversion

open Foreign (Tree Shape)
open Foreign.Tree (Part Parts Subtree)
open Unified (NodeId NodeKind Slot Child Arena Touches Alike LeavesOthers Hangs)

/-! ## Variables declared together -/

section

variable {t : Tree}

/-- A tree as grouping sees it: a variable or something else. -/
def asMember (p : Part t) : Declared t ⊕ Part t :=
  match declared? p with
  | some v => .inl v
  | none => .inr p

/-- The trees of a group. -/
def Group.members : Group t → List (Declared t ⊕ Part t)
  | .together first more => (first :: more).map .inl
  | .single p => [.inr p]

/-- Every variable of a group belongs to the declaration of the one before
it. -/
def Group.Joined : Group t → Prop
  | .together first more => (first :: more).IsChain (fun v w => joins v w = true)
  | .single _ => True

/-- The first variable of a group does not belong to the declaration of
the last of the group before. -/
def Group.Apart : Group t → Group t → Prop
  | .together first more, .together next _ => joins (more.getLastD first) next = false
  | _, _ => True

/-- Groups put together exactly the neighbours in a list that are
variables declared together, and keep the order. -/
structure Merges (ps : Parts t) (gs : List (Group t)) : Prop where
  members : gs.flatMap Group.members = ps.map asMember
  joined : ∀ g ∈ gs, g.Joined
  apart : gs.IsChain Group.Apart

theorem merges_consVariable {p : Part t} {v : Declared t} (hv : declared? p = some v)
    {ps : Parts t} {gs : List (Group t)} (h : Merges ps gs) :
    Merges (p :: ps) (consVariable v gs) := by
  obtain ⟨hmembers, hjoined, hapart⟩ := h
  have hp : asMember p = .inl v := by rw [asMember, hv]
  have halone : (Group.together v []).Joined := List.IsChain.singleton v
  unfold consVariable
  split
  · next first more rest =>
    obtain ⟨hfirst, hrest⟩ := List.forall_mem_cons.1 hjoined
    rw [List.flatMap_cons] at hmembers
    split
    · next hjoins =>
      refine ⟨?_, List.forall_mem_cons.2 ⟨hfirst.cons_cons hjoins, hrest⟩, ?_⟩
      · rw [List.map_cons, hp, ← hmembers]
        rfl
      · cases rest with
        | nil => exact List.IsChain.singleton _
        | cons g rest =>
          obtain ⟨hnext, htail⟩ := List.isChain_cons_cons.1 hapart
          refine List.isChain_cons_cons.2 ⟨?_, htail⟩
          cases g with
          | single q => trivial
          | together next others =>
            show joins ((first :: more).getLastD v) next = false
            rw [List.getLastD_cons]
            exact hnext
    · next hjoins =>
      refine ⟨?_, List.forall_mem_cons.2 ⟨halone, hjoined⟩, hapart.cons_cons ?_⟩
      · rw [List.flatMap_cons, List.flatMap_cons, List.map_cons, hp, ← hmembers]
        rfl
      · exact Bool.eq_false_iff.2 hjoins
  · next hother =>
    refine ⟨?_, List.forall_mem_cons.2 ⟨halone, hjoined⟩, ?_⟩
    · rw [List.flatMap_cons, List.map_cons, hp, ← hmembers]
      rfl
    · cases gs with
      | nil => exact List.IsChain.singleton _
      | cons g gs =>
        cases g with
        | together first more => exact absurd rfl (hother first more gs)
        | single q => exact hapart.cons_cons trivial

/-- **Grouping merges the variables declared together.** -/
theorem merges_groups : ∀ ps : Parts t, Merges ps (groups ps)
  | [] => ⟨rfl, by simp [groups], List.IsChain.nil⟩
  | p :: ps => by
    have ih := merges_groups ps
    unfold groups
    split
    · next v hv => exact merges_consVariable hv ih
    · next hnone =>
      obtain ⟨hmembers, hjoined, hapart⟩ := ih
      refine ⟨?_, List.forall_mem_cons.2 ⟨trivial, hjoined⟩, ?_⟩
      · rw [List.flatMap_cons, List.map_cons, ← hmembers, asMember, hnone]
        rfl
      · cases h : groups ps with
        | nil => exact List.IsChain.singleton _
        | cons g gs => exact (h ▸ hapart).cons_cons (by cases g <;> trivial)

end

/-! ## What a step made -/

/-- A step has made a node between two states, and in an arena each node of
its making is as it left it. -/
structure Made (ctx : Context) (m : Convert NodeId) (i : NodeId) (τ τ' : State) (a : Arena) :
    Prop where
  run : m ctx τ = .ok (i, τ')
  fresh : τ.arena.size ≤ i ∧ i < τ'.arena.size
  size_le : τ'.arena.size ≤ a.size
  alike : ∀ j, τ.arena.size ≤ j → j < τ'.arena.size → Alike j τ'.arena a

/-- A node of an arena, not among the first `k`, is what a step makes. -/
def Remains (ctx : Context) (m : Convert NodeId) (k : ℕ) (a : Arena) (i : NodeId) : Prop :=
  ∃ τ τ', k ≤ τ.arena.size ∧ Made ctx m i τ τ' a

namespace Remains

variable {ctx : Context} {m : Convert NodeId} {k : ℕ} {a b : Arena} {i : NodeId}

theorem spared (h : Remains ctx m k a i) {owner : NodeId} (ho : owner < k)
    (hs : LeavesOthers owner a b) : Remains ctx m k b i := by
  obtain ⟨τ, τ', hk, hrun, hfresh, hsize, halike⟩ := h
  refine ⟨τ, τ', hk, hrun, hfresh, Nat.le_trans hsize hs.size_le, fun j hj hj' => ?_⟩
  have hne : j ≠ owner := Nat.ne_of_gt (Nat.lt_of_lt_of_le ho (Nat.le_trans hk hj))
  exact (halike j hj hj').trans (hs.alike j (Nat.lt_of_lt_of_le hj' hsize) hne)

theorem weaken (h : Remains ctx m k a i) {j : ℕ} (hjk : j ≤ k) : Remains ctx m j a i := by
  obtain ⟨τ, τ', hk, hmade⟩ := h
  exact ⟨τ, τ', Nat.le_trans hjk hk, hmade⟩

theorem kind_ne (h : Remains ctx m k a i) {kind : NodeKind} (hm : Avoids kind m) :
    a.kind i ≠ kind := by
  obtain ⟨τ, τ', -, hrun, ⟨hle, hlt⟩, -, halike⟩ := h
  rw [(halike i hle hlt).kind]
  exact hm hrun

end Remains

/-- Between two states one origin of a node is noted, and no other. -/
def Noted (σ σ' : State) (i : NodeId) (tree : ℕ) : Prop :=
  ∃ noted, σ'.origins = σ.origins ++ noted ∧ ∀ n, (i, n) ∈ noted ↔ n = tree

namespace Noted

variable {σ σ₁ σ' : State} {i : NodeId} {tree : ℕ}

/-- What happens later notes no origin of a node that was there. -/
theorem andThen (h : Noted σ σ₁ i tree) (hi : i < σ₁.arena.size) (hg : Grows σ₁ σ') :
    Noted σ σ' i tree := by
  obtain ⟨noted, heq, hnoted⟩ := h
  obtain ⟨-, later, heq', hlater⟩ := hg
  refine ⟨noted ++ later, by rw [heq', heq, List.append_assoc], fun n => ?_⟩
  rw [List.mem_append, hnoted, or_iff_left]
  intro hmem
  exact absurd (hlater _ hmem).1 (Nat.not_le_of_lt hi)

/-- What happened before noted no origin of a node that is new. -/
theorem after (hg : Grows σ σ₁) (h : Noted σ₁ σ' i tree) (hi : σ₁.arena.size ≤ i) :
    Noted σ σ' i tree := by
  obtain ⟨-, earlier, heq, hearlier⟩ := hg
  obtain ⟨noted, heq', hnoted⟩ := h
  refine ⟨earlier ++ noted, by rw [heq', heq, List.append_assoc], fun n => ?_⟩
  rw [List.mem_append, hnoted, or_iff_right]
  intro hmem
  exact absurd (hearlier _ hmem).2 (Nat.not_lt_of_le hi)

end Noted

/-! ## One case -/

section

variable {K : ℕ → Prop} {t : Tree} {below : Below t} {owner : NodeId} {ctx : Context}
  {σ σ' : State} {u : Unit}

/-- Where the node of a case ends: with the arrow or colon that is found
after its labels. -/
def caseStop (s : Source) (p : Part t) (labels : Parts t) (rule : Bool) : Int :=
  match Lexical.findToken? s (if rule then "->" else ":") (labelsEnd p labels)
      (max p.1.stop (wrap32 (labelsEnd p labels + 1))) with
  | some token => token.stop
  | none => p.1.stop

/-- A node of an arena is that of a case, with its labels below it in
order. -/
structure CaseNode (below : Below t) (ctx : Context) (k : ℕ) (a : Arena) (p : Part t)
    (labels : Parts t) (isDefault rule : Bool) (i : NodeId) : Prop where
  fresh : k ≤ i ∧ i < a.size
  kind : a.kind i = .switchCase rule isDefault
  span : a.span i = .ofBounds p.1.start (caseStop ctx.source p labels rule)
  labels : ∃ ids : List NodeId, a.entries i = ids.map (⟨.expressions, ·⟩) ∧
    List.Forall₂ (fun q j => Remains ctx (caseLabel below q) k a j) labels ids

/-- The node of a case and nodes after it are what becomes of the case:
the node is the case's, and the others are what becomes of its statements,
those declared together as one, in order. -/
def Flattens (below : Below t) (ctx : Context) (k : ℕ) (a : Arena) (p : Part t)
    (b : NodeId × List NodeId) : Prop :=
  ∃ labels isDefault rule statements, p.parts = .switchCase labels isDefault rule statements ∧
    CaseNode below ctx k a p labels isDefault rule b.1 ∧
    Merges statements (groups statements) ∧
    List.Forall₂ (fun g j => Remains ctx (groupedStatement below g) k a j) (groups statements) b.2

theorem CaseNode.spared {k : ℕ} {a b : Arena} {p : Part t} {labels : Parts t}
    {isDefault rule : Bool} {i : NodeId} (h : CaseNode below ctx k a p labels isDefault rule i)
    (ho : owner < k) (hs : LeavesOthers owner a b) :
    CaseNode below ctx k b p labels isDefault rule i := by
  obtain ⟨⟨hki, hi⟩, hkind, hspan, ids, hentries, hids⟩ := h
  have halike : Alike i a b := hs.alike i hi (Nat.ne_of_gt (Nat.lt_of_lt_of_le ho hki))
  exact ⟨⟨hki, Nat.lt_of_lt_of_le hi hs.size_le⟩, halike.kind.trans hkind,
    halike.span.trans hspan, ids, halike.entries.trans hentries,
    hids.imp fun _ _ hq => hq.spared ho hs⟩

theorem CaseNode.weaken {j k : ℕ} {a : Arena} {p : Part t} {labels : Parts t}
    {isDefault rule : Bool} {i : NodeId} (h : CaseNode below ctx k a p labels isDefault rule i)
    (hjk : j ≤ k) : CaseNode below ctx j a p labels isDefault rule i := by
  obtain ⟨⟨hki, hi⟩, hkind, hspan, ids, hentries, hids⟩ := h
  exact ⟨⟨Nat.le_trans hjk hki, hi⟩, hkind, hspan, ids, hentries,
    hids.imp fun _ _ hq => hq.weaken hjk⟩

theorem Flattens.spared {k : ℕ} {a b : Arena} {p : Part t} {ids : NodeId × List NodeId}
    (h : Flattens below ctx k a p ids) (ho : owner < k) (hs : LeavesOthers owner a b) :
    Flattens below ctx k b p ids := by
  obtain ⟨labels, isDefault, rule, statements, hparts, hnode, hgs, hids⟩ := h
  exact ⟨labels, isDefault, rule, statements, hparts, hnode.spared ho hs, hgs,
    hids.imp fun _ _ hg => hg.spared ho hs⟩

theorem Flattens.weaken {j k : ℕ} {a : Arena} {p : Part t} {ids : NodeId × List NodeId}
    (h : Flattens below ctx k a p ids) (hjk : j ≤ k) : Flattens below ctx j a p ids := by
  obtain ⟨labels, isDefault, rule, statements, hparts, hnode, hgs, hids⟩ := h
  exact ⟨labels, isDefault, rule, statements, hparts, hnode.weaken hjk, hgs,
    hids.imp fun _ _ hg => hg.weaken hjk⟩

/-- Converted things hang below the owner, each in its slot, and stand there
as they were made. -/
theorem remains_addParts {γ : Type} {slot : γ → Slot} {convert : γ → Convert NodeId} {xs : List γ}
    (hyields : ∀ x ∈ xs, Yields K (convert x)) (howner : owner < σ.arena.size)
    (hrun : xs.forM (fun x => addPart owner (slot x) (convert x)) ctx σ = .ok (u, σ')) :
    ∃ ids : List NodeId,
      Hangs owner (List.zipWith (fun x i => ⟨slot x, i⟩) xs ids) σ.arena σ'.arena ∧
      List.Forall₂ (fun x i => Remains ctx (convert x) σ.arena.size σ'.arena i) xs ids := by
  induction xs generalizing σ with
  | nil =>
    obtain ⟨-, rfl⟩ := pure_eq_ok.1 hrun
    exact ⟨[], Hangs.nil owner σ.arena, List.Forall₂.nil⟩
  | cons x xs ih =>
    obtain ⟨hx, hxs⟩ := List.forall_mem_cons.1 hyields
    obtain ⟨v, σ₁, hfirst, hrest⟩ := bind_eq_ok.1 hrun
    obtain ⟨i, τ, hi, hhangs, hothers⟩ := hangs_addPart hx howner hfirst
    have hle : σ.arena.size ≤ σ₁.arena.size := hhangs.touches.size_le
    obtain ⟨ids, hrestHangs, hremains⟩ := ih hxs (Nat.lt_of_lt_of_le howner hle) hrest
    have hmade : Remains ctx (convert x) σ.arena.size σ₁.arena i := by
      have hnew : Remains ctx (convert x) σ.arena.size τ.arena i :=
        ⟨σ, τ, Nat.le_refl _, hi, fresh_of_yields hx hi, Nat.le_refl _, fun j _ _ =>
          Alike.refl j _⟩
      exact hnew.spared howner hothers
    exact ⟨i :: ids, hhangs.trans hrestHangs,
      .cons (hmade.spared howner hrestHangs.leavesOthers)
        (hremains.imp fun _ _ h => h.weaken hle)⟩

/-- Converted things hang below the owner in one slot. -/
theorem remains_addEach {γ : Type} {slot : Slot} {convert : γ → Convert NodeId} {xs : List γ}
    (hyields : ∀ x ∈ xs, Yields K (convert x)) (howner : owner < σ.arena.size)
    (hrun : addEach owner slot xs convert ctx σ = .ok (u, σ')) :
    ∃ ids : List NodeId, Hangs owner (ids.map (⟨slot, ·⟩)) σ.arena σ'.arena ∧
      List.Forall₂ (fun x j => Remains ctx (convert x) σ.arena.size σ'.arena j) xs ids := by
  obtain ⟨ids, hhangs, hremains⟩ := remains_addParts hyields howner hrun
  have hslots : List.zipWith (fun _ i => (⟨slot, i⟩ : Child)) xs ids = ids.map (⟨slot, ·⟩) := by
    clear hrun hyields hhangs
    induction hremains with
    | nil => rfl
    | cons _ _ ih => exact congrArg _ ih
  exact ⟨ids, hslots ▸ hhangs, hremains⟩

/-- **A case becomes a node of its own and what becomes of its
statements**, hung below the owner of the switch one after the other. -/
theorem addCase_eq_ok (hb : Grounded K below) {p : Part t} (hp : Subtree p.1 t)
    (howner : owner < σ.arena.size) (hrun : addCase below owner p ctx σ = .ok (u, σ')) :
    ∃ b : NodeId × List NodeId,
      Hangs owner ((b.1 :: b.2).map (⟨.statements, ·⟩)) σ.arena σ'.arena ∧
      Flattens below ctx σ.arena.size σ'.arena p b ∧ Noted σ σ' b.1 p.1.id := by
  have hshape : (∃ labels isDefault rule statements,
      p.parts = .switchCase labels isDefault rule statements) ∨
        addCase below owner p = unsupported p.1 := by
    unfold addCase
    split
    · next h => exact Or.inl ⟨_, _, _, _, h⟩
    · exact Or.inr rfl
  rcases hshape with ⟨labels, isDefault, rule, statements, h⟩ | hstop
  · have hsub (q : Part t) (hq : q ∈ (Shape.switchCase labels isDefault rule
        statements).children) : Subtree q.1 t := subtree_of_partsOf hp h hq
    unfold addCase at hrun
    rw [h] at hrun
    dsimp only at hrun
    obtain ⟨stop, σ₀, hstop, hrun⟩ := bind_eq_ok.1 hrun
    obtain ⟨id, σ₁, hid, hrun⟩ := bind_eq_ok.1 hrun
    obtain ⟨_, σ₂, hlabels, hrun⟩ := bind_eq_ok.1 hrun
    obtain ⟨_, σ₃, hadd, hstatements⟩ := bind_eq_ok.1 hrun
    cases hstop
    have hlabelYields : ∀ q ∈ labels, Yields K (caseLabel below q) := fun q hq =>
      yields_caseLabel hb (hsub q (by simp [Shape.children, hq]))
    have hgroupYields : ∀ g ∈ groups statements, Yields K (groupedStatement below g) := fun g hg =>
      yields_groupedStatement hb (inside_of_mem_groups
        (fun q hq => hsub q (by simp [Shape.children, hq])) g hg)
    have hmade : Touches [] [id] σ.arena σ₁.arena :=
      (yields_allocAt (hb.known _ hp) _ _ (by rfl)).touches hid
    have hgrows : Grows σ₁ σ' := ((keeps_addEach _ hlabelYields).grows hlabels).trans
      (((moves_addChild (K := K) _ _ _).grows hadd).trans
        ((keeps_addEach _ hgroupYields).grows hstatements))
    have hnoted : Noted σ σ₁ id p.1.id := by
      cases hid
      exact ⟨_, rfl, fun n => by simp⟩
    obtain ⟨hid₀, hid₁, hnode⟩ := allocAt_eq_ok hid
    obtain ⟨ids, h₁₂, hids⟩ := remains_addEach hlabelYields hid₁ hlabels
    have hcase : CaseNode below ctx σ.arena.size σ₂.arena p labels isDefault rule id := by
      refine ⟨⟨Nat.le_of_eq hid₀.symm, Nat.lt_of_lt_of_le hid₁ h₁₂.touches.size_le⟩, ?_, ?_, ids,
        ?_, hids.imp fun _ _ hq => hq.weaken hmade.size_le⟩
      · rw [h₁₂.touches.kind _ hid₁, Arena.kind, hnode]
      · rw [h₁₂.span, Arena.span, hnode]
        rfl
      · rw [h₁₂.entries, Arena.entries, hnode, List.nil_append]
    cases hadd
    have h₀₃ : Hangs owner [⟨.statements, id⟩] σ.arena (σ₂.arena.addChild owner .statements id) :=
      Hangs.attach (hmade.trans h₁₂.touches) howner .statements
    obtain ⟨gids, h₃, hgids⟩ := remains_addEach hgroupYields
      (Nat.lt_of_lt_of_le howner h₀₃.touches.size_le) hstatements
    refine ⟨⟨id, gids⟩, h₀₃.trans h₃, ?_, hnoted.andThen hid₁ hgrows⟩
    have hlater := hgids.imp fun _ _ hg => hg.weaken h₀₃.touches.size_le
    refine ⟨labels, isDefault, rule, statements, h, ?_, merges_groups statements, hlater⟩
    exact (hcase.spared howner (LeavesOthers.addChild owner .statements id)).spared howner
      h₃.leavesOthers
  · rw [hstop] at hrun
    cases hrun

/-- The nodes of blocks, each the node of a case and the nodes after it. -/
def nodesOf (blocks : List (NodeId × List NodeId)) : List NodeId :=
  blocks.flatMap fun b => b.1 :: b.2

/-- **Cases become blocks**, one for each and in order. -/
theorem addCases_eq_ok (hb : Grounded K below) {ps : Parts t} (hps : ∀ p ∈ ps, Subtree p.1 t)
    (howner : owner < σ.arena.size) (hrun : addCases below owner ps ctx σ = .ok (u, σ')) :
    ∃ blocks, Hangs owner ((nodesOf blocks).map (⟨.statements, ·⟩)) σ.arena σ'.arena ∧
      List.Forall₂ (fun p b => Flattens below ctx σ.arena.size σ'.arena p b ∧
        Noted σ σ' b.1 p.1.id) ps blocks := by
  induction ps generalizing σ with
  | nil =>
    obtain ⟨-, rfl⟩ := pure_eq_ok.1 hrun
    exact ⟨[], Hangs.nil owner σ.arena, List.Forall₂.nil⟩
  | cons p ps ih =>
    obtain ⟨hp, hps⟩ := List.forall_mem_cons.1 hps
    obtain ⟨v, σ₁, hfirst, hrest⟩ := bind_eq_ok.1 hrun
    obtain ⟨b, h₁, hflat, hnoted⟩ := addCase_eq_ok hb hp howner hfirst
    have hgrows₁ := (keeps_addCase hb owner hp).grows hfirst
    have hgrows := (keeps_addCases hb owner hps).grows hrest
    obtain ⟨blocks, h₂, hblocks⟩ := ih hps (Nat.lt_of_lt_of_le howner hgrows₁.size_le) hrest
    have hnew : b.1 < σ₁.arena.size := (h₁.fresh ⟨.statements, b.1⟩ (by simp)).2
    refine ⟨b :: blocks, ?_, List.Forall₂.cons
      ⟨hflat.spared howner h₂.leavesOthers, hnoted.andThen hnew hgrows⟩ ?_⟩
    · rw [nodesOf, List.flatMap_cons, List.map_append]
      exact h₁.trans h₂
    · refine hblocks.imp fun q c hc => ?_
      obtain ⟨_, _, _, _, -, hnode, -⟩ := hc.1
      exact ⟨hc.1.weaken hgrows₁.size_le, Noted.after hgrows₁ hc.2 hnode.fresh.1⟩

end

/-! ## Cutting the list -/

/-- Whether a node is that of a case. -/
def isCaseNode (a : Arena) (i : NodeId) : Bool :=
  match a.kind i with
  | .switchCase .. => true
  | _ => false

/-- Cuts a list before every node of a case: the nodes before the first
cut, and then the node of each case with the nodes up to the next. -/
def cutCases (a : Arena) : List NodeId → List NodeId × List (NodeId × List NodeId)
  | [] => ([], [])
  | i :: rest =>
    let (loose, blocks) := cutCases a rest
    if isCaseNode a i then ([], (i, loose) :: blocks) else (i :: loose, blocks)

theorem cutCases_append {a : Arena} {ids rest : List NodeId}
    (h : ∀ i ∈ ids, isCaseNode a i = false) :
    cutCases a (ids ++ rest) = (ids ++ (cutCases a rest).1, (cutCases a rest).2) := by
  induction ids with
  | nil => rfl
  | cons i ids ih =>
    obtain ⟨hi, hids⟩ := List.forall_mem_cons.1 h
    rw [List.cons_append, cutCases, ih hids, hi]
    rfl

/-- Blocks without further nodes of cases are found again. -/
theorem cutCases_nodesOf {a : Arena} {blocks : List (NodeId × List NodeId)}
    (h : ∀ b ∈ blocks, isCaseNode a b.1 = true ∧ ∀ i ∈ b.2, isCaseNode a i = false) :
    cutCases a (nodesOf blocks) = ([], blocks) := by
  induction blocks with
  | nil => rfl
  | cons b blocks ih =>
    obtain ⟨⟨hfirst, hrest⟩, hblocks⟩ := List.forall_mem_cons.1 h
    rw [nodesOf, List.flatMap_cons, ← nodesOf, List.cons_append, cutCases,
      cutCases_append hrest, ih hblocks, List.append_nil, hfirst]
    rfl

/-! ## The conversion -/

/-- No statement becomes the node of a case. -/
theorem avoids_statement_actions {rule isDefault : Bool} (t : Tree) :
    Avoids (.switchCase rule isDefault) (actions t).statement := by
  induction t using actions.induct with
  | case1 t ih =>
    rw [actions]
    exact avoids_statement (grounded_actions t) (by simp [plainStatements]) (by simp)
      fun p _ => ih p

theorem avoids_groupedStatement {t : Tree} {rule isDefault : Bool} {g : Group t} (hg : g.Inside) :
    Avoids (.switchCase rule isDefault)
      (groupedStatement (fun q : Part t => actions q.1) g) := by
  cases g with
  | together first more => exact avoids_declaration (grounded_actions t) (by simp) hg
  | single p => exact avoids_statement_actions p.1

/-- What holds of all that elements are related to. -/
theorem forall_mem_of_forall₂ {α β : Type} {R : α → β → Prop} {Q : β → Prop} {xs : List α}
    {ys : List β} (h : List.Forall₂ R xs ys) (hQ : ∀ x ∈ xs, ∀ y, R x y → Q y) :
    ∀ y ∈ ys, Q y := by
  induction h with
  | nil => simp
  | cons hxy _ ih =>
    obtain ⟨hx, hxs⟩ := List.forall_mem_cons.1 hQ
    exact List.forall_mem_cons.2 ⟨hx _ hxy, ih hxs⟩

theorem isCaseNode_of_flattens {t : Tree} {ctx : Context} {k : ℕ} {a : Arena} {p : Part t}
    {b : NodeId × List NodeId} (hp : Subtree p.1 t)
    (h : Flattens (fun q : Part t => actions q.1) ctx k a p b) :
    isCaseNode a b.1 = true ∧ ∀ i ∈ b.2, isCaseNode a i = false := by
  obtain ⟨labels, isDefault, rule, statements, hparts, hnode, -, hids⟩ := h
  have hinside : ∀ g ∈ groups statements, g.Inside := inside_of_mem_groups fun q hq =>
    subtree_of_partsOf hp hparts (by simp [Shape.children, hq])
  refine ⟨by rw [isCaseNode, hnode.kind], forall_mem_of_forall₂ hids fun g hg i hi => ?_⟩
  unfold isCaseNode
  split
  · next rule isDefault hkind =>
    exact absurd hkind (hi.kind_ne (avoids_groupedStatement (hinside g hg)))
  · rfl

/-- **A switch lists its cases one after the other.** The nodes that are
added to it are, case by case and in order, a node that comes from the
case, with its labels below it, and what becomes of its statements. The
list can be cut into the cases again. -/
theorem cutCases_addCases {t : Tree} {ps : Parts t} (hps : ∀ p ∈ ps, Subtree p.1 t)
    {owner : NodeId} {ctx : Context} {σ σ' : State} (howner : owner < σ.arena.size)
    (hrun : addCases (fun q : Part t => actions q.1) owner ps ctx σ = .ok ((), σ')) :
    ∃ blocks, σ'.arena.list owner .statements = σ.arena.list owner .statements ++ nodesOf blocks ∧
      List.Forall₂ (fun p b =>
        Flattens (fun q : Part t => actions q.1) ctx σ.arena.size σ'.arena p b ∧
          Noted σ σ' b.1 p.1.id) ps blocks ∧
      cutCases σ'.arena (nodesOf blocks) = ([], blocks) := by
  obtain ⟨blocks, hhangs, hblocks⟩ := addCases_eq_ok (grounded_actions t) hps howner hrun
  refine ⟨blocks, hhangs.list_of_slot, hblocks, cutCases_nodesOf ?_⟩
  exact forall_mem_of_forall₂ hblocks fun p hp b hb => isCaseNode_of_flattens (hps p hp) hb.1

/-- A switch whose first case declares two variables and whose second has
a switch in it. -/
def nestedSource : Source :=
  .ofString "switch (x) \x7b case 1: int i, j; case 2: switch (y) \x7b default: ; \x7d \x7d"

/-- A variable of type `int` that starts with its declaration. -/
def nestedVariable (id : ℕ) (name : String) (position stop : Int) : Tree :=
  .node id 21 position stop
    (.varDef .empty name (some (.node (id + 1) 21 21 24 (.typeIdent .int))) 0 none)

/-- The tree of the switch. -/
def nestedSwitch : Tree :=
  .node 15 0 0 66 (.switch (.node 1 7 7 10 (.parens (.node 0 8 8 9 (.ident "x")))) [
    .node 7 13 13 30 (.switchCase [.node 2 18 18 19 (.literal .int "1")] false false
      [nestedVariable 3 "i" 25 27, nestedVariable 5 "j" 28 30]),
    .node 14 31 31 64 (.switchCase [.node 8 36 36 37 (.literal .int "2")] false false [
      .node 13 39 39 64 (.switch (.node 10 46 46 49 (.parens (.node 9 47 47 48 (.ident "y")))) [
        .node 12 52 52 62 (.switchCase [] true false [.node 11 61 61 62 .skip])])])])

/-- Its cases as parts of it. -/
def nestedCases : Parts nestedSwitch :=
  match nestedSwitch.parts with
  | .switch _ cases => cases
  | _ => []

/-- A node to hang the cases below. -/
def nestedStart : State :=
  ⟨(Arena.empty.alloc .switchStatement .unset).2, []⟩

/-- The conversion of the cases. -/
def nestedRun : Except Unsupported (Unit × State) :=
  addCases (fun q : Part nestedSwitch => actions q.1) 0 nestedCases
    ⟨nestedSource, .latest, ""⟩ nestedStart

theorem cutCases_addCases_nested : ∃ σ', nestedRun = .ok ((), σ') ∧
    ∃ blocks, σ'.arena.list 0 .statements = nodesOf blocks ∧
      blocks.map (fun b => b.2.map σ'.arena.kind) =
        [[.variableDeclarationStatement], [.switchStatement]] ∧
      cutCases σ'.arena (nodesOf blocks) = ([], blocks) := by
  have hsub : ∀ p ∈ nestedCases, Subtree p.1 nestedSwitch := fun p hp =>
    subtree_of_parts (s := .switch _ nestedCases) rfl (by simp [Shape.children, hp])
  have hkinds : (nestedRun.toOption.map fun r =>
      (cutCases r.2.arena (r.2.arena.list 0 .statements)).2.map
        (fun b => b.2.map r.2.arena.kind)) =
      some [[.variableDeclarationStatement], [.switchStatement]] := by decide +kernel
  cases hrun : nestedRun with
  | error e => rw [hrun] at hkinds; cases hkinds
  | ok r =>
    obtain ⟨u, σ'⟩ := r
    obtain ⟨blocks, hlist, -, hcut⟩ := cutCases_addCases hsub (by decide) hrun
    have hnone : nestedStart.arena.list 0 .statements = [] := by decide +kernel
    rw [hnone, List.nil_append] at hlist
    rw [hrun] at hkinds
    refine ⟨σ', rfl, blocks, hlist, ?_, hcut⟩
    have hblocks : (cutCases σ'.arena (σ'.arena.list 0 .statements)).2.map
        (fun b => b.2.map σ'.arena.kind) = _ := Option.some.inj hkinds
    rw [hlist, hcut] at hblocks
    exact hblocks

end Conversion

end TreeBridge
