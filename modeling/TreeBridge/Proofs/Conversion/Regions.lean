import TreeBridge.Proofs.Conversion.Grouping
import TreeBridge.Proofs.Conversion.Results
import TreeBridge.Proofs.Conversion.WholeArena
/-!
# Declarations of variables in a region

A region is a body of members or a block of statements. Its declarations
of variables are the nodes of one kind in one slot. They are made for the
groups of variables, one for each and in order; other trees in a region
make other nodes, or nodes marked as salvaged. Once the node above them is
finished, no later step of the conversion changes them.
-/

namespace TreeBridge

namespace Conversion

open Foreign (Tree ClassKind)
open Foreign.Tree (Part Parts Subtree)
open Unified (NodeId NodeKind Slot Child Arena Forest Touches Alike LeavesOthers Hangs)

/-- Where declarations of variables stand together: a body of members or a
block of statements. -/
inductive Region
  | members
  | statements

namespace Region

/-- The slot of what stands in a region. -/
def slot : Region → Slot
  | members => .bodyDeclarations
  | statements => .statements

/-- The kind of a declaration of variables in a region. -/
def kind : Region → NodeKind
  | members => .fieldDeclaration
  | statements => .variableDeclarationStatement

/-- Whether a node is a declaration of variables. A statement that is
marked as salvaged does not count. -/
def isDeclaration (r : Region) (a : Arena) (i : NodeId) : Bool :=
  match r with
  | members => a.kind i == .fieldDeclaration
  | statements => a.kind i == .variableDeclarationStatement &&
      a.flags i &&& Unified.Flag.recovered == 0

/-- The declarations of variables below a node, in order. -/
def declarations (r : Region) (a : Arena) (d : NodeId) : List NodeId :=
  (a.list d r.slot).filter (r.isDeclaration a)

theorem isDeclaration_alike (r : Region) {a b : Arena} {i : NodeId} (h : Alike i a b) :
    r.isDeclaration b i = r.isDeclaration a i := by
  cases r with
  | members => rw [isDeclaration, h.kind, isDeclaration]
  | statements => rw [isDeclaration, h.kind, h.flags, isDeclaration]

/-- A declaration with the flags of a conversion counts. -/
theorem isDeclaration_of_declares (r : Region) {k : ℕ} {a : Arena} {names : List String}
    {d : NodeId} (hflags : a.defaultFlags = Unified.Flag.converted)
    (h : Declares k a r.kind names d) : r.isDeclaration a d = true := by
  cases r with
  | members => simp [isDeclaration, h.kind, kind]
  | statements =>
    have hflag : Unified.Flag.converted &&& Unified.Flag.recovered = 0 := by decide
    simp [isDeclaration, h.kind, h.flags, kind, hflags, hflag]

end Region

variable {t : Tree}

/-- What a group of a region becomes: variables one declaration of them,
any other tree no declaration. -/
def Becomes (r : Region) (k : ℕ) (a : Arena) : Group t → List NodeId → Prop
  | .together first more, ids => ∃ d, ids = [d] ∧
      Declares k a r.kind ((first :: more).map (fun v => v.parts.name)) d
  | .single _, ids => ∀ i ∈ ids, (k ≤ i ∧ i < a.size) ∧ r.isDeclaration a i = false

theorem Becomes.spared {r : Region} {k : ℕ} {g : Group t} {ids : List NodeId} {a b : Arena}
    {owner : NodeId} (ho : owner < k) (hs : LeavesOthers owner a b) (h : Becomes r k a g ids) :
    Becomes r k b g ids := by
  cases g with
  | together first more =>
    obtain ⟨d, hids, hd⟩ := h
    exact ⟨d, hids, hd.spared ho hs⟩
  | single p =>
    intro i hi
    obtain ⟨⟨hk, hlt⟩, hnot⟩ := h i hi
    have halike : Alike i a b := hs.alike i hlt (Nat.ne_of_gt (Nat.lt_of_lt_of_le ho hk))
    rw [r.isDeclaration_alike halike]
    exact ⟨⟨hk, Nat.lt_of_lt_of_le hlt hs.size_le⟩, hnot⟩

/-! ## Statements -/

/-- The actions on the parts of a tree make declarations of variables of
nothing else. -/
structure Discerning (below : Below t) : Prop where
  type : ∀ p : Part t, Avoids .fieldDeclaration (below p).typeDeclaration
  statement : ∀ p : Part t, asVariable? p.1.shape = none →
    ∀ ⦃ctx : Context⦄ ⦃σ σ' : State⦄ ⦃i : NodeId⦄, (below p).statement ctx σ = .ok (i, σ') →
      Region.statements.isDeclaration σ'.arena i = false

variable {K : ℕ → Prop} {below : Below t} {js : List Joint} {ctx : Context} {σ σ' : State}
  {owner : NodeId} {u : Unit}

theorem Grouped.not_variable {gs : List (Group t)} (h : Grouped js gs) {p : Part t}
    (hp : Group.single p ∈ gs) : asVariable? p.1.shape = none := by
  induction h with
  | nil => cases hp
  | single hq _ ih =>
    rcases List.mem_cons.1 hp with heq | hp
    · cases heq
      exact hq
    · exact ih hp
  | together _ _ _ ih =>
    rcases List.mem_cons.1 hp with heq | hp
    · cases heq
    · exact ih hp

theorem becomes_groupedStatement (hb : Grounded K below) (hd : Discerning below) {g : Group t}
    (hin : g.Inside) (hsingle : ∀ p, g = .single p → asVariable? p.1.shape = none) {k : ℕ}
    (hk : k ≤ σ.arena.size) {i : NodeId} (hrun : groupedStatement below g ctx σ = .ok (i, σ')) :
    Becomes .statements k σ'.arena g [i] := by
  cases g with
  | together first more => exact ⟨i, rfl, (declares_mergedDeclaration hb hin hrun).weaken hk⟩
  | single p =>
    intro j hj
    obtain rfl := List.mem_singleton.1 hj
    obtain ⟨hle, hlt⟩ := fresh_of_yields (hb.sound p hin).statement hrun
    exact ⟨⟨Nat.le_trans hk hle, hlt⟩, hd.statement p (hsingle p rfl) hrun⟩

/-- Statements hang below a node, and the groups of them become what they
should. -/
theorem hangs_addStatements (hb : Grounded K below) (hd : Discerning below) {ps : Parts t}
    (hps : ∀ p ∈ ps, Subtree p.1 t) (hg : Grouped js (groups ps))
    (howner : owner < σ.arena.size) (hrun : addStatements below owner ps ctx σ = .ok (u, σ')) :
    ∃ idss : List (List NodeId),
      Hangs owner (idss.flatten.map (⟨.statements, ·⟩)) σ.arena σ'.arena ∧
      List.Forall₂ (Becomes .statements σ.arena.size σ'.arena) (groups ps) idss := by
  refine hangs_forM (R := Becomes .statements σ.arena.size) (k := σ.arena.size)
    (fun g ids a b hs hbec => hbec.spared howner hs) (fun g hmem τ τ' v hk hstep => ?_)
    (Nat.le_refl _) hrun
  have hin : g.Inside := inside_of_mem_groups hps g hmem
  have hsingle (p : Part t) (hp : g = .single p) : asVariable? p.1.shape = none :=
    hg.not_variable (hp ▸ hmem)
  obtain ⟨i, τ₁, hi, hhangs, hothers⟩ :=
    hangs_addPart (yields_groupedStatement hb hin) (Nat.lt_of_lt_of_le howner hk) hstep
  exact ⟨[i], hhangs, (becomes_groupedStatement hb hd hin hsingle hk hi).spared howner hothers⟩

/-! ## Members -/

/-- What is no variable becomes no declaration of a field, or nothing. -/
theorem becomes_groupedMember? (hb : Grounded K below) (hd : Discerning below)
    {classKind : ClassKind} {g : Group t} (hin : g.Inside) {k : ℕ} (hk : k ≤ σ.arena.size)
    {i : Option NodeId}
    (hrun : groupedMember? below classKind g ctx σ = .ok (i, σ')) :
    Touches [] i.toList σ.arena σ'.arena ∧ Becomes .members k σ'.arena g i.toList := by
  cases g with
  | together first more =>
    obtain ⟨d, σ₁, hdecl, hpure⟩ := bind_eq_ok.1 hrun
    obtain ⟨rfl, rfl⟩ := pure_eq_ok.1 hpure
    exact ⟨(yields_declaration hb .fieldDeclaration rfl hin).touches hdecl, d, rfl,
      (declares_mergedDeclaration hb hin hdecl).weaken hk⟩
  | single p =>
    have htouches := (makesMember_member? hb classKind hin).touches hrun
    refine ⟨htouches, fun j hj => ?_⟩
    have hnew : σ.arena.size ≤ j ∧ j < σ'.arena.size := by
      rcases htouches.left j hj with hm | hnew
      · cases hm
      · exact hnew
    obtain rfl : i = some j := Option.mem_toList.1 hj
    have hkind : σ'.arena.kind j ≠ .fieldDeclaration := by
      have hrun : member? below classKind p ctx σ = .ok (some j, σ') := hrun
      rcases member?_cases hb classKind hin (hd.type p) with ⟨m, havoids, heq⟩ | heq | ⟨e, heq⟩ <;>
        rw [heq] at hrun
      · obtain ⟨j', σ₁, hj', hpure⟩ := bind_eq_ok.1 hrun
        obtain ⟨hjj, rfl⟩ := pure_eq_ok.1 hpure
        obtain rfl := Option.some.inj hjj
        exact havoids hj'
      · obtain ⟨hnone, -⟩ := pure_eq_ok.1 hrun
        cases hnone
      · cases hrun
    exact ⟨⟨Nat.le_trans hk hnew.1, hnew.2⟩, beq_eq_false_iff_ne.2 hkind⟩

/-- Members hang below a node, and the groups of them become what they
should. -/
theorem hangs_addMembers (hb : Grounded K below) (hd : Discerning below)
    {classKind : ClassKind} {ps : Parts t} (hps : ∀ p ∈ ps, Subtree p.1 t)
    (howner : owner < σ.arena.size)
    (hrun : addMembers below owner classKind ps ctx σ = .ok (u, σ')) :
    ∃ idss : List (List NodeId),
      Hangs owner (idss.flatten.map (⟨.bodyDeclarations, ·⟩)) σ.arena σ'.arena ∧
      List.Forall₂ (Becomes .members σ.arena.size σ'.arena) (groups ps) idss := by
  refine hangs_forM (R := Becomes .members σ.arena.size) (k := σ.arena.size)
    (fun g ids a b hs hbec => hbec.spared howner hs) (fun g hmem τ τ' v hk hstep => ?_)
    (Nat.le_refl _) hrun
  have hin : g.Inside := inside_of_mem_groups hps g hmem
  have howner' : owner < τ.arena.size := Nat.lt_of_lt_of_le howner hk
  obtain ⟨i, τ₁, hi, hadd⟩ := bind_eq_ok.1 hstep
  obtain ⟨htouches, hbecomes⟩ := becomes_groupedMember? hb hd hin hk hi
  refine ⟨i.toList, ?_, ?_⟩
  · cases i with
    | none =>
      obtain ⟨-, rfl⟩ := pure_eq_ok.1 hadd
      exact Hangs.of_touches htouches howner'
    | some i =>
      cases hadd
      exact Hangs.attach htouches howner' .bodyDeclarations
  · cases i with
    | none =>
      obtain ⟨-, rfl⟩ := pure_eq_ok.1 hadd
      exact hbecomes
    | some i =>
      cases hadd
      exact hbecomes.spared howner (LeavesOthers.addChild owner .bodyDeclarations i)

/-! ## What stands in a region -/

/-- What the groups of a region have become stands in the slot of it, in
order. -/
def Stands (r : Region) (k : ℕ) (gs : List (Group t)) (d : NodeId) (a : Arena) : Prop :=
  ∃ idss : List (List NodeId),
    a.list d r.slot = idss.flatten ∧ List.Forall₂ (Becomes r k a) gs idss

namespace Stands

variable {r : Region} {k : ℕ} {gs : List (Group t)} {d : NodeId} {a b : Arena}

/-- In a slot that was empty stands what was hung there. -/
theorem of_hangs {idss : List (List NodeId)} (hempty : a.list d r.slot = [])
    (h : Hangs d (idss.flatten.map (⟨r.slot, ·⟩)) a b)
    (hbecomes : List.Forall₂ (Becomes r k b) gs idss) : Stands r k gs d b :=
  ⟨idss, by rw [h.list_of_slot, hempty, List.nil_append], hbecomes⟩

theorem spared (h : Stands r k gs d a) (hs : LeavesOthers owner a b) (ho : owner < k)
    (hd : d < a.size) (hne : d ≠ owner) : Stands r k gs d b := by
  obtain ⟨idss, hlist, hbecomes⟩ := h
  refine ⟨idss, ?_, hbecomes.imp fun g ids hg => hg.spared ho hs⟩
  rw [(hs.alike d hd hne).list_eq, hlist]

/-- **Where groups are declarations one by one, so is what stands there**,
each with the names of its own. -/
theorem map_fragmentNames (h : Stands r k gs d a) (hg : Grouped js gs)
    (hf : a.defaultFlags = Unified.Flag.converted) :
    (r.declarations a d).map (fragmentNames a) = js.map (fun j => j.names.map some) := by
  obtain ⟨idss, hlist, hbecomes⟩ := h
  rw [Region.declarations, hlist]
  clear hlist
  -- the filter drops what single trees have become and keeps the declarations
  induction hg generalizing idss with
  | nil =>
    cases hbecomes
    rfl
  | single _ _ ih =>
    obtain ⟨ids, idss, hids, hrest, rfl⟩ := List.forall₂_cons_left_iff.1 hbecomes
    have hnone : ids.filter (r.isDeclaration a) = [] :=
      List.filter_eq_nil_iff.2 fun i hi => by simp [(hids i hi).2]
    rw [List.flatten_cons, List.filter_append, hnone, List.nil_append, ih idss hrest]
  | together _ hnames _ ih =>
    obtain ⟨ids, idss, ⟨i, rfl, hi⟩, hrest, rfl⟩ := List.forall₂_cons_left_iff.1 hbecomes
    rw [List.flatten_cons, List.singleton_append,
      List.filter_cons_of_pos (r.isDeclaration_of_declares hf hi), List.map_cons, List.map_cons,
      ih idss hrest, hi.fragmentNames_eq, hnames]

end Stands

/-- A node without members gets some. -/
theorem stands_addMembers (hb : Grounded K below) (hd : Discerning below)
    {classKind : ClassKind} {ps : Parts t} (hps : ∀ p ∈ ps, Subtree p.1 t)
    (howner : owner < σ.arena.size) (hempty : σ.arena.list owner .bodyDeclarations = [])
    (hrun : addMembers below owner classKind ps ctx σ = .ok (u, σ')) :
    Stands .members σ.arena.size (groups ps) owner σ'.arena := by
  obtain ⟨idss, hhangs, hbecomes⟩ := hangs_addMembers hb hd hps howner hrun
  exact Stands.of_hangs (r := .members) hempty hhangs hbecomes

/-- A node is made and gets statements. -/
theorem stands_addStatements (hb : Grounded K below) (hd : Discerning below) {ps : Parts t}
    (hps : ∀ p ∈ ps, Subtree p.1 t) (hg : Grouped js (groups ps)) {v : Tree} {kind : NodeKind}
    {span : Span} {σ₁ : State} (hmade : allocAt v kind span ctx σ = .ok (owner, σ₁))
    (hrun : addStatements below owner ps ctx σ₁ = .ok (u, σ')) :
    Stands .statements σ₁.arena.size (groups ps) owner σ'.arena := by
  obtain ⟨-, howner, -⟩ := allocAt_eq_ok hmade
  obtain ⟨idss, hhangs, hbecomes⟩ := hangs_addStatements hb hd hps hg howner hrun
  exact Stands.of_hangs (r := .statements) (list_of_allocAt hmade _) hhangs hbecomes

/-! ## Later steps

What a conversion does after a node is finished is done to nodes without
a parent. -/

/-- What is below any node says the same of itself in two arenas. -/
def AlikeBelow (a b : Arena) : Prop :=
  ∀ p < a.size, ∀ c ∈ a.children p, c < a.size ∧ Alike c a b

/-- A step of a forest that takes roots only leaves what is below. -/
theorem alikeBelow_of_touches {a b : Arena} {pre post rest : List NodeId}
    (hf : Forest a (pre ++ rest)) (h : Touches pre post a b) : AlikeBelow a b := by
  intro p hp c hc
  obtain ⟨hlt, -⟩ := hf.parent_of_mem_children hp hc
  have hpre : c ∉ pre := fun hmem =>
    hf.notMem_of_mem_children hp hc (List.mem_append_left rest hmem)
  exact ⟨hlt, Alike.of_node_eq (h.node c hlt hpre)⟩

namespace AlikeBelow

variable {a b : Arena} {d : NodeId}

theorem of_mem_list (h : AlikeBelow a b) (hd : d < a.size) {slot : Slot} {i : NodeId}
    (hi : i ∈ a.list d slot) : i < a.size ∧ Alike i a b := by
  obtain ⟨c, hc, rfl⟩ := List.mem_map.1 hi
  exact h d hd c.node (List.mem_map_of_mem (List.mem_of_mem_filter hc))

theorem of_child? (h : AlikeBelow a b) (hd : d < a.size) {slot : Slot} {i : NodeId}
    (hi : a.child? d slot = some i) : Alike i a b := by
  rw [Arena.child?_eq_head?] at hi
  exact (h.of_mem_list hd (List.mem_of_mem_head? hi)).2

theorem fragmentNames_eq (h : AlikeBelow a b) (hd : d < a.size) (halike : Alike d a b) :
    fragmentNames b d = fragmentNames a d := by
  rw [fragmentNames, fragmentNames, halike.list_eq]
  refine List.map_congr_left fun f hf => ?_
  obtain ⟨hlt, hfragment⟩ := h.of_mem_list hd hf
  rw [hfragment.child?_eq]
  cases hn : a.child? f .name with
  | none => rfl
  | some n => exact (h.of_child? hlt hn).identifier?_eq

theorem declarations_eq (h : AlikeBelow a b) (hd : d < a.size) (halike : Alike d a b)
    (r : Region) :
    (r.declarations b d).map (fragmentNames b) = (r.declarations a d).map (fragmentNames a) := by
  have hsame : r.declarations b d = r.declarations a d := by
    rw [Region.declarations, Region.declarations, halike.list_eq]
    exact List.filter_congr fun i hi => r.isDeclaration_alike (h.of_mem_list hd hi).2
  rw [hsame]
  refine List.map_congr_left fun i hi => ?_
  obtain ⟨hlt, hi'⟩ := h.of_mem_list hd (List.mem_of_mem_filter hi)
  exact h.fragmentNames_eq hlt hi'

end AlikeBelow

/-- **Hanging a node from its parent leaves its declarations.** -/
theorem map_fragmentNames_of_addChild {d : NodeId} {slot : Slot} {rest : List NodeId}
    (hσ : Loose K σ (owner :: d :: rest)) (hrun : addChild owner slot d ctx σ = .ok (u, σ'))
    (r : Region) : (r.declarations σ'.arena d).map (fragmentNames σ'.arena) =
      (r.declarations σ.arena d).map (fragmentNames σ.arena) := by
  have htouches := (moves_addChild (K := K) owner slot d).touches hrun
  have hforest : Forest σ.arena ([owner, d] ++ rest) := hσ.forest
  have hbelow := alikeBelow_of_touches hforest htouches
  have hd : d < σ.arena.size := hσ.forest.lt_size (by simp)
  have hne : d ≠ owner := fun h => (List.nodup_cons.1 hσ.forest.nodup).1 (by simp [h])
  cases hrun
  exact hbelow.declarations_eq hd (Alike.addChild hne) r

/-- **A later step leaves the declarations of a node** that does not wait
for its parent any more. -/
theorem map_fragmentNames_of_moves {α : Type} {m : Convert α} {pre rest : List NodeId}
    {post : α → List NodeId} {x : α} (hm : Moves K pre m post) (hσ : Loose K σ (pre ++ rest))
    {d : NodeId} (hd : d < σ.arena.size) (hnot : d ∉ pre) (hrun : m ctx σ = .ok (x, σ'))
    (r : Region) : (r.declarations σ'.arena d).map (fragmentNames σ'.arena) =
      (r.declarations σ.arena d).map (fragmentNames σ.arena) := by
  have htouches := hm.touches hrun
  exact (alikeBelow_of_touches hσ.forest htouches).declarations_eq hd
    (Alike.of_node_eq (htouches.node d hd hnot)) r

/-! ## The actions of a conversion -/

theorem discerning_actions (t : Tree) : Discerning (fun p : Part t => actions p.1) where
  type p := by
    rw [actions]
    exact avoids_typeDeclaration (grounded_actions p.1)
  statement p hp ctx σ σ' i hrun := by
    rw [actions] at hrun
    rcases statement_of_not_variable (grounded_actions p.1) (asVariable?_parts_eq_none hp) hrun
      with hkind | hflag
    · rw [Region.isDeclaration, beq_eq_false_iff_ne.2 hkind, Bool.false_and]
    · rw [Region.isDeclaration, beq_eq_false_iff_ne.2 hflag, Bool.and_false]

end Conversion

end TreeBridge
