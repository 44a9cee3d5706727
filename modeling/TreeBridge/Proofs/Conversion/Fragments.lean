import TreeBridge.Proofs.Conversion.Declarations
import TreeBridge.Proofs.Unified.Hanging
import Mathlib.Data.List.Forall2
/-!
# The fragments of a declaration

Variables declared together become one node with one fragment for each of
them, in order and under its name. What was made for a list of things is
found again at the end of the list: the nodes made on the way are only
hung below their owner, and no later step takes one of them.
-/

namespace TreeBridge

namespace Conversion

open Foreign (Tree)
open Foreign.Tree (Part Parts Subtree)
open Unified (NodeId NodeKind Slot Child Arena Touches Alike LeavesOthers Hangs HangsBeside)

/-- The names of the fragments of a declaration, in order. -/
def fragmentNames (a : Arena) (d : NodeId) : List (Option String) :=
  (a.list d .fragments).map (fun f => (a.child? f .name).bind a.identifier?)

/-- A node that is not among the first `k` has a name, which is not among
them either. -/
structure Named (k : ℕ) (a : Arena) (name : String) (f : NodeId) : Prop where
  fresh : k ≤ f ∧ f < a.size
  name : ∃ n, (k ≤ n ∧ n < a.size) ∧ a.child? f .name = some n ∧ a.identifier? n = some name

/-- A node that is not among the first `k` is a declaration of a kind with
one fragment for each of some names. -/
structure Declares (k : ℕ) (a : Arena) (kind : NodeKind) (names : List String) (d : NodeId) :
    Prop where
  fresh : k ≤ d ∧ d < a.size
  kind : a.kind d = kind
  flags : a.flags d = a.defaultFlags
  fragments : List.Forall₂ (Named k a) names (a.list d .fragments)

namespace Named

variable {k : ℕ} {a b : Arena} {name : String} {f : NodeId}

theorem spared (h : Named k a name f) {owner : NodeId} (ho : owner < k)
    (hs : LeavesOthers owner a b) : Named k b name f := by
  obtain ⟨⟨hkf, hf⟩, n, ⟨hkn, hn⟩, hchild, hident⟩ := h
  have halike : Alike f a b := hs.alike f hf (Nat.ne_of_gt (Nat.lt_of_lt_of_le ho hkf))
  have hname : Alike n a b := hs.alike n hn (Nat.ne_of_gt (Nat.lt_of_lt_of_le ho hkn))
  refine ⟨⟨hkf, Nat.lt_of_lt_of_le hf hs.size_le⟩, n, ⟨hkn, Nat.lt_of_lt_of_le hn hs.size_le⟩,
    ?_, ?_⟩
  · rw [halike.child?_eq, hchild]
  · rw [hname.identifier?_eq, hident]

theorem weaken {j : ℕ} (h : Named k a name f) (hjk : j ≤ k) : Named j a name f := by
  obtain ⟨⟨hkf, hf⟩, n, ⟨hkn, hn⟩, hname⟩ := h
  exact ⟨⟨Nat.le_trans hjk hkf, hf⟩, n, ⟨Nat.le_trans hjk hkn, hn⟩, hname⟩

end Named

namespace Declares

variable {k : ℕ} {a b : Arena} {kind : NodeKind} {names : List String} {d : NodeId}

theorem spared (h : Declares k a kind names d) {owner : NodeId} (ho : owner < k)
    (hs : LeavesOthers owner a b) : Declares k b kind names d := by
  obtain ⟨⟨hkd, hd⟩, hkind, hflags, hfragments⟩ := h
  have halike : Alike d a b := hs.alike d hd (Nat.ne_of_gt (Nat.lt_of_lt_of_le ho hkd))
  refine ⟨⟨hkd, Nat.lt_of_lt_of_le hd hs.size_le⟩, ?_, ?_, ?_⟩
  · rw [halike.kind, hkind]
  · rw [halike.flags, hflags, hs.defaultFlags]
  · rw [halike.list_eq]
    exact hfragments.imp fun _ _ hf => hf.spared ho hs

theorem weaken {j : ℕ} (h : Declares k a kind names d) (hjk : j ≤ k) :
    Declares j a kind names d where
  fresh := ⟨Nat.le_trans hjk h.fresh.1, h.fresh.2⟩
  kind := h.kind
  flags := h.flags
  fragments := h.fragments.imp fun _ _ hf => hf.weaken hjk

theorem fragmentNames_eq (h : Declares k a kind names d) :
    fragmentNames a d = names.map some := by
  have hfragments := h.fragments
  unfold fragmentNames
  clear h
  revert hfragments
  generalize a.list d .fragments = fs
  intro hfragments
  induction hfragments with
  | nil => rfl
  | cons hname _ ih =>
    obtain ⟨n, -, hchild, hident⟩ := hname.name
    rw [List.map_cons, List.map_cons, ih, hchild, Option.bind_some, hident]

end Declares

/-! ## Hanging what is made -/

variable {K : ℕ → Prop} {γ : Type} {owner : NodeId} {ctx : Context} {σ σ' : State} {u : Unit}

/-- What a conversion makes is new. -/
theorem fresh_of_yields {m : Convert NodeId} (h : Yields K m) {i : NodeId}
    (hrun : m ctx σ = .ok (i, σ')) : σ.arena.size ≤ i ∧ i < σ'.arena.size := by
  rcases (h.touches hrun).left i (List.mem_singleton_self i) with hm | hnew
  · cases hm
  · exact hnew

/-- A converted part hangs below the owner, and what was made for it stays
as it was made. -/
theorem hangs_addPart {slot : Slot} {convert : Convert NodeId} (h : Yields K convert)
    (howner : owner < σ.arena.size) (hrun : addPart owner slot convert ctx σ = .ok (u, σ')) :
    ∃ child σ₁, convert ctx σ = .ok (child, σ₁) ∧
      Hangs owner [⟨slot, child⟩] σ.arena σ'.arena ∧ LeavesOthers owner σ₁.arena σ'.arena := by
  obtain ⟨child, σ₁, hchild, hadd⟩ := bind_eq_ok.1 hrun
  cases hadd
  exact ⟨child, σ₁, hchild, Hangs.attach (h.touches hchild) howner slot,
    LeavesOthers.addChild owner slot child⟩

/-- Steps that each hang nodes below the owner in one slot hang all of
them, and what holds of them after their own step holds after all. -/
theorem hangs_forM {k : ℕ} {slot : Slot} {f : γ → Convert Unit}
    {R : Arena → γ → List NodeId → Prop}
    (hR : ∀ x ids a b, LeavesOthers owner a b → R a x ids → R b x ids) {xs : List γ}
    (hstep : ∀ x ∈ xs, ∀ σ σ' u, k ≤ σ.arena.size → f x ctx σ = .ok (u, σ') →
      ∃ ids : List NodeId, Hangs owner (ids.map (⟨slot, ·⟩)) σ.arena σ'.arena ∧ R σ'.arena x ids)
    (hk : k ≤ σ.arena.size) (hrun : xs.forM f ctx σ = .ok (u, σ')) :
    ∃ idss : List (List NodeId), Hangs owner (idss.flatten.map (⟨slot, ·⟩)) σ.arena σ'.arena ∧
      List.Forall₂ (R σ'.arena) xs idss := by
  induction xs generalizing σ with
  | nil =>
    obtain ⟨-, rfl⟩ := pure_eq_ok.1 hrun
    exact ⟨[], Hangs.nil owner σ.arena, List.Forall₂.nil⟩
  | cons x xs ih =>
    obtain ⟨v, σ₁, hx, hxs⟩ := bind_eq_ok.1 hrun
    obtain ⟨ids, hids, hRx⟩ := hstep x List.mem_cons_self σ σ₁ v hk hx
    have hk₁ : k ≤ σ₁.arena.size := Nat.le_trans hk hids.touches.size_le
    obtain ⟨idss, hidss, hRxs⟩ :=
      ih (fun y hy => hstep y (List.mem_cons_of_mem x hy)) hk₁ hxs
    refine ⟨ids :: idss, ?_, List.Forall₂.cons (hR x ids _ _ hidss.leavesOthers hRx) hRxs⟩
    rw [List.flatten_cons, List.map_append]
    exact hids.trans hidss

/-- Converted things hang below the owner in one slot, one for each and in
order. -/
theorem hangs_addEach {k : ℕ} (howner : owner < k) {slot : Slot} {convert : γ → Convert NodeId}
    {R : Arena → γ → NodeId → Prop}
    (hR : ∀ x i a b, LeavesOthers owner a b → R a x i → R b x i) {xs : List γ}
    (hyields : ∀ x ∈ xs, Yields K (convert x))
    (hconvert : ∀ x ∈ xs, ∀ σ σ' i, k ≤ σ.arena.size → convert x ctx σ = .ok (i, σ') →
      R σ'.arena x i)
    (hk : k ≤ σ.arena.size) (hrun : addEach owner slot xs convert ctx σ = .ok (u, σ')) :
    ∃ ids : List NodeId, Hangs owner (ids.map (⟨slot, ·⟩)) σ.arena σ'.arena ∧
      List.Forall₂ (R σ'.arena) xs ids := by
  have hone : ∀ x ∈ xs, ∀ σ σ' u, k ≤ σ.arena.size →
      addPart owner slot (convert x) ctx σ = .ok (u, σ') →
      ∃ ids : List NodeId, Hangs owner (ids.map (⟨slot, ·⟩)) σ.arena σ'.arena ∧
        ∃ i, ids = [i] ∧ R σ'.arena x i := by
    intro x hx σ σ' u hkσ hx'
    obtain ⟨i, σ₁, hi, hhangs, hothers⟩ :=
      hangs_addPart (hyields x hx) (Nat.lt_of_lt_of_le howner hkσ) hx'
    exact ⟨[i], hhangs, i, rfl, hR x i _ _ hothers (hconvert x hx σ σ₁ i hkσ hi)⟩
  obtain ⟨idss, hidss, hR'⟩ := hangs_forM (R := fun a x ids => ∃ i, ids = [i] ∧ R a x i)
    (fun x ids a b hs ⟨i, hi, hRi⟩ => ⟨i, hi, hR x i a b hs hRi⟩) hone hk hrun
  refine ⟨idss.flatten, hidss, ?_⟩
  clear hrun hyields hconvert hone hidss
  induction hR' with
  | nil => exact List.Forall₂.nil
  | cons hx _ ih =>
    obtain ⟨i, rfl, hRi⟩ := hx
    exact List.Forall₂.cons hRi ih

/-- Converted things hang below the owner in one slot, whatever becomes of
them. -/
theorem exists_hangs_addEach {slot : Slot} {convert : γ → Convert NodeId} {xs : List γ}
    (howner : owner < σ.arena.size) (hyields : ∀ x ∈ xs, Yields K (convert x))
    (hrun : addEach owner slot xs convert ctx σ = .ok (u, σ')) :
    ∃ ids : List NodeId, Hangs owner (ids.map (⟨slot, ·⟩)) σ.arena σ'.arena := by
  obtain ⟨ids, hhangs, -⟩ := hangs_addEach (R := fun _ _ _ => True) howner
    (fun _ _ _ _ _ => id) hyields (fun _ _ _ _ _ _ _ => trivial) (Nat.le_refl _) hrun
  exact ⟨ids, hhangs⟩

/-! Things in one slot leave another slot as it is. -/

section

variable {slot slot' : Slot} {convert : γ → Convert NodeId}

theorem beside_addPart {convert : Convert NodeId} (h : Yields K convert)
    (howner : owner < σ.arena.size) (hrun : addPart owner slot convert ctx σ = .ok (u, σ'))
    (hne : slot ≠ slot') : HangsBeside slot' owner σ.arena σ'.arena := by
  obtain ⟨child, -, -, hhangs, -⟩ := hangs_addPart h howner hrun
  exact ⟨_, hhangs, by simpa using hne⟩

theorem beside_addOptional {p : Option γ} (h : ∀ x, p = some x → Yields K (convert x))
    (howner : owner < σ.arena.size) (hrun : addOptional owner slot p convert ctx σ = .ok (u, σ'))
    (hne : slot ≠ slot') : HangsBeside slot' owner σ.arena σ'.arena := by
  cases p with
  | none =>
    obtain ⟨-, rfl⟩ := pure_eq_ok.1 hrun
    exact HangsBeside.refl slot' owner σ.arena
  | some x => exact beside_addPart (h x rfl) howner hrun hne

theorem beside_forM {f : γ → Convert Unit} {xs : List γ}
    (hstep : ∀ x ∈ xs, ∀ σ σ' u, owner < σ.arena.size → f x ctx σ = .ok (u, σ') →
      HangsBeside slot' owner σ.arena σ'.arena)
    (howner : owner < σ.arena.size) (hrun : xs.forM f ctx σ = .ok (u, σ')) :
    HangsBeside slot' owner σ.arena σ'.arena := by
  induction xs generalizing σ with
  | nil =>
    obtain ⟨-, rfl⟩ := pure_eq_ok.1 hrun
    exact HangsBeside.refl slot' owner σ.arena
  | cons x xs ih =>
    obtain ⟨v, σ₁, hx, hxs⟩ := bind_eq_ok.1 hrun
    have hfirst := hstep x List.mem_cons_self σ σ₁ v howner hx
    exact hfirst.andThen howner fun ho =>
      ih (fun y hy => hstep y (List.mem_cons_of_mem x hy)) ho hxs

theorem beside_addEach {xs : List γ} (h : ∀ x ∈ xs, Yields K (convert x))
    (howner : owner < σ.arena.size) (hrun : addEach owner slot xs convert ctx σ = .ok (u, σ'))
    (hne : slot ≠ slot') : HangsBeside slot' owner σ.arena σ'.arena :=
  beside_forM (fun x hx _ _ _ ho hx' => beside_addPart (h x hx) ho hx' hne) howner hrun

end

/-! ## Declarations -/

variable {t : Tree} {below : Below t}

theorem beside_addModifiers (hb : Grounded K below) {mods : Foreign.Modifiers (Part t)}
    (hm : ∀ p ∈ mods.annotations, Subtree p.1 t) {implied : UInt64}
    (howner : owner < σ.arena.size)
    (hrun : addModifiers below owner mods implied ctx σ = .ok (u, σ')) {slot : Slot}
    (hne : .modifiers ≠ slot) : HangsBeside slot owner σ.arena σ'.arena := by
  obtain ⟨v, σ₁, hann, hkey⟩ := bind_eq_ok.1 hrun
  have h₁ := beside_addEach (fun p hp => (hb.sound p (hm p hp)).annotated) howner hann hne
  exact h₁.andThen howner fun ho =>
    beside_addEach (K := K) (fun _ _ => yields_synthetic _ _ (by rfl)) ho hkey hne

theorem synthetic_eq_ok {kind : NodeKind} {span : Span} {id : NodeId}
    (hrun : synthetic kind span ctx σ = .ok (id, σ')) :
    id = σ.arena.size ∧ id < σ'.arena.size ∧
      σ'.arena.node id = ⟨kind, span, σ.arena.defaultFlags, none, []⟩ := by
  cases hrun
  refine ⟨rfl, ?_, Arena.node_alloc_self kind span⟩
  show σ.arena.size < (σ.arena.alloc kind span).2.size
  rw [Arena.size_alloc]
  exact Nat.lt_succ_self _

theorem allocAt_eq_ok {t : Tree} {kind : NodeKind} {span : Span} {id : NodeId}
    (hrun : allocAt t kind span ctx σ = .ok (id, σ')) :
    id = σ.arena.size ∧ id < σ'.arena.size ∧
      σ'.arena.node id = ⟨kind, span, σ.arena.defaultFlags, none, []⟩ := by
  cases hrun
  have hmade : synthetic kind span ctx σ =
      .ok (σ.arena.size, ⟨(σ.arena.alloc kind span).2, σ.origins⟩) := rfl
  have hfacts := synthetic_eq_ok hmade
  exact hfacts

theorem size_of_allocAt {t : Tree} {kind : NodeKind} {span : Span} {id : NodeId}
    (hrun : allocAt t kind span ctx σ = .ok (id, σ')) : σ'.arena.size = σ.arena.size + 1 := by
  cases hrun
  exact Arena.size_alloc kind span

/-- A node that has just been made has nothing below it. -/
theorem list_of_allocAt {t : Tree} {kind : NodeKind} {span : Span} {id : NodeId}
    (hrun : allocAt t kind span ctx σ = .ok (id, σ')) (slot : Slot) :
    σ'.arena.list id slot = [] := by
  obtain ⟨-, -, hnode⟩ := allocAt_eq_ok hrun
  exact Arena.list_of_entries_eq_nil (by rw [Arena.entries, hnode]) slot

theorem simpleName_eq_ok {identifier : String} {span : Span} {id : NodeId}
    (hrun : simpleName identifier span ctx σ = .ok (id, σ')) :
    id = σ.arena.size ∧ id < σ'.arena.size ∧ σ'.arena.kind id = .simpleName identifier := by
  obtain ⟨hid, hlt, hnode⟩ := synthetic_eq_ok hrun
  exact ⟨hid, hlt, by rw [Arena.kind, hnode]⟩

/-- A further child in another slot does not change the child in a
slot. -/
theorem child?_addOpt {a : Arena} {id n : NodeId} {slot slot' : Slot} (hid : id < a.size)
    (h : a.child? id slot = some n) (child : Option NodeId) :
    (a.addOpt id slot' child).child? id slot = some n := by
  cases child with
  | none => exact h
  | some c =>
    rw [Arena.child?, Option.map_eq_some_iff] at h
    obtain ⟨e, he, rfl⟩ := h
    rw [Arena.addOpt, Arena.child?, Arena.entries_addChild_self hid, List.find?_append, he]
    rfl

/-- **A variable becomes a fragment with its name.** -/
theorem named_fragment (hb : Grounded K below) {v : Declared t} (hv : v.Inside) {f : NodeId}
    (hrun : fragment below v ctx σ = .ok (f, σ')) :
    Named σ.arena.size σ'.arena v.parts.name f := by
  obtain ⟨n, σ₁, hname, hrun⟩ := bind_eq_ok.1 hrun
  obtain ⟨value, σ₂, hvalue, hrun⟩ := bind_eq_ok.1 hrun
  obtain ⟨stop, σ₃, hstop, hrun⟩ := bind_eq_ok.1 hrun
  obtain ⟨f, σ₄, hf, hrun⟩ := bind_eq_ok.1 hrun
  obtain ⟨_, σ₅, hadd, hrun⟩ := bind_eq_ok.1 hrun
  obtain ⟨_, σ₆, hopt, hrun⟩ := bind_eq_ok.1 hrun
  obtain ⟨rfl, rfl⟩ := pure_eq_ok.1 hrun
  have h₁₂ := (moves_optionalExpression hb hv.value).touches hvalue
  have h₂₃ : Touches [] [] σ₂.arena σ₃.arena := (keeps_fragmentEnd (K := K) v).touches hstop
  have h₅₆ := (moves_addOpt (K := K) f .initializer value).touches hopt
  obtain ⟨rfl, hn, hkind⟩ := simpleName_eq_ok hname
  have h₃₄ := (yields_allocAt (hb.known v.tree hv.tree) _ _ (by rfl)).touches hf
  obtain ⟨rfl, hf₄, hnode⟩ := allocAt_eq_ok hf
  have h₄₅ := (moves_addChild (K := K) σ₃.arena.size .name σ.arena.size).touches hadd
  have hn₂ := Nat.lt_of_lt_of_le hn h₁₂.size_le
  have hn₃ := Nat.lt_of_lt_of_le hn₂ h₂₃.size_le
  have hf₅ := Nat.lt_of_lt_of_le hf₄ h₄₅.size_le
  have hn₅ := Nat.lt_trans hn₃ hf₅
  cases hadd
  cases hopt
  refine ⟨⟨by omega, Nat.lt_of_lt_of_le hf₅ h₅₆.size_le⟩, σ.arena.size,
    ⟨Nat.le_refl _, Nat.lt_of_lt_of_le hn₅ h₅₆.size_le⟩, child?_addOpt hf₅ ?_ value, ?_⟩
  · -- the fragment is made with no entries, so its first one is the name
    rw [Arena.child?, Arena.entries_addChild_self hf₄, Arena.entries, hnode]
    rfl
  · have h₄ : σ₄.arena.kind σ.arena.size = .simpleName v.parts.name := by
      rw [h₃₄.kind _ hn₃, h₂₃.kind _ hn₂, h₁₂.kind _ hn, hkind]
    rw [Arena.identifier?, h₅₆.kind _ hn₅, h₄₅.kind _ (Nat.lt_trans hn₃ hf₄), h₄]

/-- **Variables declared together become one declaration** with one
fragment for each, under its name. -/
theorem declares_mergedDeclaration (hb : Grounded K below) {kind : NodeKind}
    {first : Declared t} {more : List (Declared t)} (hg : (Group.together first more).Inside)
    {stop : Int} {d : NodeId}
    (hrun : mergedDeclaration below kind first more stop ctx σ = .ok (d, σ')) :
    Declares σ.arena.size σ'.arena kind ((first :: more).map (fun v => v.parts.name)) d := by
  obtain ⟨hfirst, hmore⟩ := hg
  obtain ⟨d, σ₁, hd, hrun⟩ := bind_eq_ok.1 hrun
  obtain ⟨_, σ₂, hmods, hrun⟩ := bind_eq_ok.1 hrun
  obtain ⟨_, σ₃, htype, hrun⟩ := bind_eq_ok.1 hrun
  obtain ⟨_, σ₄, hfrags, hrun⟩ := bind_eq_ok.1 hrun
  obtain ⟨rfl, rfl⟩ := pure_eq_ok.1 hrun
  have hflags₁ := ((steps_allocAt (hb.known _ hfirst.tree) _ _).touches hd).defaultFlags
  obtain ⟨rfl, hd₁, hnode⟩ := allocAt_eq_ok hd
  have h₁₂ : HangsBeside .fragments σ.arena.size σ₁.arena σ₂.arena :=
    beside_addModifiers hb hfirst.annotations hd₁ hmods (by decide)
  have hd₂ := Nat.lt_of_lt_of_le hd₁ h₁₂.touches.size_le
  have h₂₃ : HangsBeside .fragments σ.arena.size σ₂.arena σ₃.arena :=
    beside_addOptional (fun p hp => (hb.sound p (hfirst.type p hp)).type) hd₂ htype (by decide)
  have hd₃ := Nat.lt_of_lt_of_le hd₂ h₂₃.touches.size_le
  obtain ⟨fs, h₃₄, hfs⟩ := hangs_addEach (k := σ₃.arena.size)
    (R := fun a (v : Declared t) f => Named σ₃.arena.size a v.parts.name f) hd₃
    (fun _ _ _ _ hs hf => hf.spared hd₃ hs)
    (fun v hv => yields_fragment hb (List.forall_mem_cons.2 ⟨hfirst, hmore⟩ v hv))
    (fun v hv σ σ' f hk hf =>
      (named_fragment hb (List.forall_mem_cons.2 ⟨hfirst, hmore⟩ v hv) hf).weaken hk)
    (Nat.le_refl _) hfrags
  have h₁₃ := h₁₂.trans h₂₃
  have htouches := h₁₃.touches.trans h₃₄.touches
  have hlist : σ₄.arena.list σ.arena.size .fragments = fs := by
    rw [h₃₄.list_of_slot, h₁₃.list_eq, Arena.list, Arena.entries, hnode]
    rfl
  refine ⟨⟨Nat.le_refl _, Nat.lt_of_lt_of_le hd₁ htouches.size_le⟩, ?_, ?_, ?_⟩
  · rw [htouches.kind _ hd₁, Arena.kind, hnode]
  · rw [h₃₄.flags, h₁₃.flags, htouches.defaultFlags, hflags₁, Arena.flags, hnode]
  · rw [hlist, List.forall₂_map_left_iff]
    exact hfs.imp fun v f hf => hf.weaken (by omega)

end Conversion

end TreeBridge
