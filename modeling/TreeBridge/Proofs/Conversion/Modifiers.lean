import TreeBridge.Proofs.Conversion.Keywords
import TreeBridge.Proofs.Conversion.Regions
/-!
# The modifiers of a converted declaration

A declaration gets its modifiers right after it is made: a node for every
use of an annotation, in order, then a node for every keyword in its
flags. Whatever it gets later hangs from other slots. So the modifiers of
a finished declaration are those it was given.
-/

namespace TreeBridge

namespace Conversion

open Foreign (Tree Shape ClassKind)
open Foreign.Tree (Part Parts Subtree)
open Unified (NodeId NodeKind Slot Keyword Arena Touches Alike LeavesOthers Hangs HangsBeside)

/-- A node that is not among the first `k` shows some kind and span. -/
structure Shows (shown : NodeKind → Span → Prop) (k : ℕ) (a : Arena) (i : NodeId) : Prop where
  fresh : k ≤ i ∧ i < a.size
  shown : shown (a.kind i) (a.span i)

/-- What is shown for the use of an annotation: an annotation over the
text of it. -/
def IsUse (u : Tree) (kind : NodeKind) (span : Span) : Prop :=
  kind.annotates = true ∧ span = spanOf u

/-- What is shown for a keyword: a modifier, wherever it stands. -/
def IsWord (keyword : Keyword) (kind : NodeKind) (_ : Span) : Prop :=
  kind = .modifier keyword

/-- The modifiers of a node are nodes for some uses of annotations, in
order, followed by nodes for some keywords. -/
structure Modified (uses : List Tree) (words : List Keyword) (k : ℕ) (a : Arena)
    (d : NodeId) : Prop where
  lt_size : d < a.size
  list : ∃ is js : List NodeId, a.list d .modifiers = is ++ js ∧
    List.Forall₂ (fun u i => Shows (IsUse u) k a i) uses is ∧
    List.Forall₂ (fun w j => Shows (IsWord w) k a j) words js

variable {K : ℕ → Prop} {α γ : Type} {t : Tree} {below : Below t} {k : ℕ} {ctx : Context}
variable {σ σ' : State} {owner : NodeId} {u : Unit} {slot slot' : Slot}

namespace Shows

variable {shown : NodeKind → Span → Prop} {a b : Arena} {i : NodeId}

theorem of_alike (h : Shows shown k a i) (hsize : a.size ≤ b.size) (halike : Alike i a b) :
    Shows shown k b i := by
  obtain ⟨⟨hk, hlt⟩, hshown⟩ := h
  refine ⟨⟨hk, Nat.lt_of_lt_of_le hlt hsize⟩, ?_⟩
  rw [halike.kind, halike.span]
  exact hshown

theorem spared (h : Shows shown k a i) (ho : owner < k) (hs : LeavesOthers owner a b) :
    Shows shown k b i :=
  have hne : i ≠ owner := Nat.ne_of_gt (Nat.lt_of_lt_of_le ho h.fresh.1)
  h.of_alike hs.size_le (hs.alike i h.fresh.2 hne)

theorem weaken {j : ℕ} (h : Shows shown k a i) (hj : j ≤ k) : Shows shown j a i :=
  ⟨⟨Nat.le_trans hj h.fresh.1, h.fresh.2⟩, h.shown⟩

/-- A node shows what it is made with. -/
theorem made {v : Tree} {kind : NodeKind} {span : Span}
    (hmade : allocAt v kind span ctx σ = .ok (i, σ')) (hk : k ≤ σ.arena.size)
    (hshown : shown kind span) : Shows shown k σ'.arena i := by
  obtain ⟨rfl, hlt, hnode⟩ := allocAt_eq_ok hmade
  refine ⟨⟨hk, hlt⟩, ?_⟩
  rw [Arena.kind, Arena.span, hnode]
  exact hshown

theorem addChild (h : Shows shown k a i) (owner : NodeId) (slot : Slot) (child : NodeId) :
    Shows shown k (a.addChild owner slot child) i := by
  refine ⟨?_, ?_⟩
  · rw [Arena.size_addChild]
    exact h.fresh
  · rw [Arena.kind_addChild, Arena.span_addChild]
    exact h.shown

/-- A node shows the same when others hang below it. -/
theorem beside (h : Shows shown k a i) (hs : HangsBeside slot i a b) : Shows shown k b i := by
  obtain ⟨⟨hk, hlt⟩, hshown⟩ := h
  refine ⟨⟨hk, Nat.lt_of_lt_of_le hlt hs.touches.size_le⟩, ?_⟩
  obtain ⟨_, hhangs, -⟩ := hs
  rw [hhangs.touches.kind i hlt, hhangs.span]
  exact hshown

end Shows

/-! ## Steps beside a slot -/

/-- A step that hangs nodes below a node, but none from a slot. -/
def Beside (slot : Slot) (owner : NodeId) (m : Convert α) : Prop :=
  ∀ ⦃ctx : Context⦄ ⦃σ σ' : State⦄ ⦃x : α⦄, owner < σ.arena.size → m ctx σ = .ok (x, σ') →
    HangsBeside slot owner σ.arena σ'.arena

/-- A step at the end, which gives the node back. -/
def Finishes (slot : Slot) (owner : NodeId) (m : Convert NodeId) : Prop :=
  Beside slot owner m ∧ ∀ ⦃ctx : Context⦄ ⦃σ σ' : State⦄ ⦃i : NodeId⦄,
    m ctx σ = .ok (i, σ') → i = owner

namespace Beside

theorem pure (x : α) : Beside slot owner (pure x) := by
  intro ctx σ σ' y _ hrun
  obtain ⟨rfl, rfl⟩ := pure_eq_ok.1 hrun
  exact HangsBeside.refl slot owner σ.arena

theorem bind {β : Type} {m : Convert α} {f : α → Convert β} (h : Beside slot owner m)
    (hf : ∀ x, Beside slot owner (f x)) : Beside slot owner (m >>= f) := by
  intro ctx σ σ' y ho hrun
  obtain ⟨x, σ₁, hm, hfx⟩ := bind_eq_ok.1 hrun
  exact (h ho hm).andThen ho fun ho => hf x ho hfx

theorem forM {f : γ → Convert Unit} {xs : List γ} (h : ∀ x ∈ xs, Beside slot owner (f x)) :
    Beside slot owner (xs.forM f) :=
  fun _ _ _ _ ho hrun => beside_forM (fun x hx _ _ _ ho hstep => h x hx ho hstep) ho hrun

theorem part {make : Convert NodeId} (h : Yields K make) (hne : slot ≠ slot') :
    Beside slot' owner (addPart owner slot make) :=
  fun _ _ _ _ ho hrun => beside_addPart h ho hrun hne

theorem optional {p : Option γ} {make : γ → Convert NodeId}
    (h : ∀ x, p = some x → Yields K (make x)) (hne : slot ≠ slot') :
    Beside slot' owner (addOptional owner slot p make) :=
  fun _ _ _ _ ho hrun => beside_addOptional h ho hrun hne

theorem each {xs : List γ} {make : γ → Convert NodeId} (h : ∀ x ∈ xs, Yields K (make x))
    (hne : slot ≠ slot') : Beside slot' owner (addEach owner slot xs make) :=
  fun _ _ _ _ ho hrun => beside_addEach h ho hrun hne

/-- What has been made is hung, if there is something. -/
theorem member {m : Convert (Option NodeId)} (h : Steps K [] m (fun id => id.toList))
    (hne : slot ≠ slot') : Beside slot' owner (do
      match ← m with
      | some id => addChild owner slot id
      | none => Pure.pure ()) := by
  intro ctx σ σ' u ho hrun
  obtain ⟨id, σ₁, hid, hadd⟩ := bind_eq_ok.1 hrun
  have htouches := h.touches hid
  cases id with
  | none =>
    obtain ⟨-, rfl⟩ := pure_eq_ok.1 hadd
    exact ⟨[], Hangs.of_touches htouches ho, by simp⟩
  | some id =>
    cases hadd
    exact ⟨_, Hangs.attach htouches ho slot, by simpa using hne⟩

end Beside

theorem Finishes.pure : Finishes slot owner (pure owner) :=
  ⟨Beside.pure owner, fun _ _ _ _ hrun => (pure_eq_ok.1 hrun).1.symm⟩

theorem Beside.andThen {m : Convert α} {f : α → Convert NodeId} (h : Beside slot owner m)
    (hf : ∀ x, Finishes slot owner (f x)) : Finishes slot owner (m >>= f) := by
  refine ⟨h.bind fun x => (hf x).1, fun ctx σ σ' i hrun => ?_⟩
  obtain ⟨x, σ₁, -, hfx⟩ := bind_eq_ok.1 hrun
  exact (hf x).2 hfx

/-- The step before the end. -/
theorem Beside.last {m : Convert α} (h : Beside slot owner m) :
    Finishes slot owner (m >>= fun _ => Pure.pure owner) :=
  h.andThen fun _ => Finishes.pure

/-! ## Uses of annotations -/

theorem beside_addPair (hb : Grounded K below) {p : Part t} (hp : Subtree p.1 t)
    (hne : .values ≠ slot) : Beside slot owner (addPair below owner p) := by
  unfold addPair
  split
  · next left right h =>
    have hleft := subtree_of_partsOf hp h (by simp [Shape.children] : left ∈ _)
    have hright := subtree_of_partsOf hp h (by simp [Shape.children] : right ∈ _)
    have hmake : Yields K (do
        let name ← (below left).name
        let value ← (below right).expression
        let pair ← alloc p.1 .memberValuePair
        addChild pair .name name
        addChild pair .value value
        Pure.pure pair) := by
      refine (hb.sound left hleft).name.bind fun name => ?_
      refine (hb.sound right hright).expression.bindNew fun value => ?_
      refine (yields_alloc (hb.known _ hp) .memberValuePair rfl).bindNew fun pair => ?_
      exact Moves.attach .name (List.Perm.swap name value []) (Moves.attachLast .value)
    have hpart : Beside slot owner (addPart owner .values _) := Beside.part hmake hne
    simpa only [addPart, bind_assoc, pure_bind] using hpart
  · exact Beside.pure ()

/-- **A use of an annotation becomes an annotation** over its text. -/
theorem shows_annotated (hb : Grounded K below) (hk : k ≤ σ.arena.size) {i : NodeId}
    (hrun : annotated below ctx σ = .ok (i, σ')) : Shows (IsUse t) k σ'.arena i := by
  cases hshape : t.parts with
  | annotationUse type arguments =>
    rw [annotated, hshape] at hrun
    have hsub (p : Part t) (hp : p ∈ (Shape.annotationUse type arguments).children) :
        Subtree p.1 t := subtree_of_parts hshape hp
    obtain ⟨name, σ₁, hname, hrun⟩ := bind_eq_ok.1 hrun
    have hk₁ : k ≤ σ₁.arena.size := Nat.le_trans hk
      ((hb.sound type (hsub type (by simp [Shape.children]))).name.touches hname).size_le
    unfold annotatedWith at hrun
    cases hbare : bareValue? arguments with
    | some value =>
      rw [hbare] at hrun
      have hvalue := hsub value (by simp [Shape.children, mem_of_bareValue? hbare])
      obtain ⟨v, σ₂, hv, hrun⟩ := bind_eq_ok.1 hrun
      obtain ⟨id, σ₃, hid, hrun⟩ := bind_eq_ok.1 hrun
      have hk₂ := Nat.le_trans hk₁ ((hb.sound value hvalue).expression.touches hv).size_le
      have hmade : Shows (IsUse t) k σ₃.arena id := Shows.made hid hk₂ ⟨rfl, rfl⟩
      cases hrun
      exact (hmade.addChild _ _ _).addChild _ _ _
    | none =>
      rw [hbare] at hrun
      obtain ⟨list, σ₂, hlist, hrun⟩ := bind_eq_ok.1 hrun
      obtain rfl : σ₁ = σ₂ := by
        cases hlist
        rfl
      by_cases hmarker : (arguments.isEmpty && list.isNone) = true
      · rw [if_pos hmarker] at hrun
        obtain ⟨id, σ₃, hid, hrun⟩ := bind_eq_ok.1 hrun
        have hmade : Shows (IsUse t) k σ₃.arena id := Shows.made hid hk₁ ⟨rfl, rfl⟩
        cases hrun
        exact hmade.addChild _ _ _
      · rw [if_neg hmarker] at hrun
        obtain ⟨id, σ₃, hid, hrun⟩ := bind_eq_ok.1 hrun
        obtain ⟨_, σ₄, hadd, hrun⟩ := bind_eq_ok.1 hrun
        obtain ⟨_, σ₅, hpairs, hrun⟩ := bind_eq_ok.1 hrun
        obtain ⟨rfl, rfl⟩ := pure_eq_ok.1 hrun
        have hmade : Shows (IsUse t) k σ₃.arena id := Shows.made hid hk₁ ⟨rfl, rfl⟩
        have hnamed : Shows (IsUse t) k σ₄.arena id := by
          cases hadd
          exact hmade.addChild _ _ _
        have hbeside : Beside .typeName id (arguments.forM (addPair below id)) :=
          Beside.forM fun p hp =>
            beside_addPair hb (hsub p (by simp [Shape.children, hp])) (by decide)
        exact hnamed.beside (hbeside hnamed.fresh.2 hpairs)
  | _ =>
    rw [annotated, hshape] at hrun
    cases hrun

/-- The actions on the parts of a tree make annotations of the uses of
them. -/
def Annotating (below : Below t) : Prop :=
  ∀ (p : Part t) ⦃k : ℕ⦄ ⦃ctx : Context⦄ ⦃σ σ' : State⦄ ⦃i : NodeId⦄, k ≤ σ.arena.size →
    (below p).annotated ctx σ = .ok (i, σ') → Shows (IsUse p.1) k σ'.arena i

theorem annotating_actions (t : Tree) : Annotating (fun p : Part t => actions p.1) := by
  intro p k ctx σ σ' i hk hrun
  have hrun : (actions p.1).annotated ctx σ = .ok (i, σ') := hrun
  rw [actions] at hrun
  exact shows_annotated (grounded_actions p.1) hk hrun

/-! ## Modifiers -/

/-- A conversion that makes a node with the modifiers it is given. -/
def Dresses (mods : Foreign.Modifiers (Part t)) (implied : UInt64) (m : Convert NodeId) : Prop :=
  ∀ ⦃k : ℕ⦄ ⦃ctx : Context⦄ ⦃σ σ' : State⦄ ⦃d : NodeId⦄, k ≤ σ.arena.size →
    m ctx σ = .ok (d, σ') →
    Modified (mods.annotations.map Subtype.val) (keywordsOf (mods.flags &&& ~~~implied)) k
      σ'.arena d

theorem shows_synthetic {shown : NodeKind → Span → Prop} {kind : NodeKind} {span : Span}
    (hshown : shown kind span) (hk : k ≤ σ.arena.size) {i : NodeId}
    (hrun : synthetic kind span ctx σ = .ok (i, σ')) : Shows shown k σ'.arena i := by
  obtain ⟨rfl, hlt, hnode⟩ := synthetic_eq_ok hrun
  refine ⟨⟨hk, hlt⟩, ?_⟩
  rw [Arena.kind, Arena.span, hnode]
  exact hshown

/-- **A new node gets the modifiers it is given**: the annotations, then
the keywords. -/
theorem modified_addModifiers (hb : Grounded K below) (ha : Annotating below)
    {mods : Foreign.Modifiers (Part t)} (hm : ∀ p ∈ mods.annotations, Subtree p.1 t)
    {implied : UInt64} {d : NodeId} (hd : d < σ.arena.size)
    (hempty : σ.arena.list d .modifiers = [])
    (hrun : addModifiers below d mods implied ctx σ = .ok (u, σ')) :
    Modified (mods.annotations.map Subtype.val) (keywordsOf (mods.flags &&& ~~~implied))
      σ.arena.size σ'.arena d := by
  obtain ⟨_, σ₁, huses, hwords⟩ := bind_eq_ok.1 hrun
  obtain ⟨is, his, hshown⟩ := hangs_addEach (K := K) (k := σ.arena.size)
    (R := fun a (p : Part t) i => Shows (IsUse p.1) σ.arena.size a i) hd
    (fun _ _ _ _ hs hi => hi.spared hd hs) (fun p hp => (hb.sound p (hm p hp)).annotated)
    (fun p _ _ _ _ hk hi => ha p hk hi) (Nat.le_refl _) huses
  obtain ⟨js, hjs, hspelled⟩ := hangs_addEach (K := K) (k := σ.arena.size)
    (R := fun a w j => Shows (IsWord w) σ.arena.size a j) hd
    (fun _ _ _ _ hs hj => hj.spared hd hs) (fun _ _ => yields_synthetic _ _ rfl)
    (fun w _ _ _ _ hk hj => shows_synthetic rfl hk hj) his.touches.size_le hwords
  have hd₁ := Nat.lt_of_lt_of_le hd his.touches.size_le
  refine ⟨Nat.lt_of_lt_of_le hd₁ hjs.touches.size_le, is, js, ?_, ?_, hspelled⟩
  · rw [hjs.list_of_slot, his.list_of_slot, hempty, List.nil_append]
  · rw [List.forall₂_map_left_iff]
    exact hshown.imp fun p i hi => hi.spared hd hjs.leavesOthers

/-- A node that is made, gets its modifiers first and then what hangs from
other slots. -/
theorem dresses_allocAt (hb : Grounded K below) (ha : Annotating below)
    {mods : Foreign.Modifiers (Part t)} (hm : ∀ p ∈ mods.annotations, Subtree p.1 t)
    {v : Tree} {kind : NodeKind} {span : Span} {implied : UInt64}
    {rest : NodeId → Convert NodeId} (hrest : ∀ id, Finishes .modifiers id (rest id)) :
    Dresses mods implied (do
      let id ← allocAt v kind span
      addModifiers below id mods implied
      rest id) := by
  intro k ctx σ σ' d hk hrun
  obtain ⟨d, σ₁, hmade, hrun⟩ := bind_eq_ok.1 hrun
  obtain ⟨_, σ₂, hmods, hrun⟩ := bind_eq_ok.1 hrun
  obtain rfl := (hrest d).2 hrun
  obtain ⟨rfl, hd₁, -⟩ := allocAt_eq_ok hmade
  obtain ⟨hd₂, is, js, hlist, huses, hwords⟩ :=
    modified_addModifiers hb ha hm hd₁ (list_of_allocAt hmade _) hmods
  have hbeside := (hrest σ.arena.size).1 hd₂ hrun
  obtain ⟨_, hhangs, -⟩ := id hbeside
  have hle : k ≤ σ₁.arena.size := Nat.le_trans hk (Nat.le_of_lt hd₁)
  refine ⟨Nat.lt_of_lt_of_le hd₂ hhangs.touches.size_le, is, js, hbeside.list_eq.trans hlist,
    huses.imp fun u i hi => ?_, hwords.imp fun w j hj => ?_⟩
  · exact (hi.spared hd₁ hhangs.leavesOthers).weaken hle
  · exact (hj.spared hd₁ hhangs.leavesOthers).weaken hle

theorem Dresses.stop {mods : Foreign.Modifiers (Part t)} {implied : UInt64} {e : Unsupported} :
    Dresses mods implied (throw e) := by
  intro k ctx σ σ' d _ hrun
  cases hrun

/-! ## Declarations -/

theorem beside_addTypeParameters (hb : Grounded K below) {ps : Parts t}
    (hps : ∀ p ∈ ps, Subtree p.1 t) : Beside .modifiers owner (addTypeParameters below owner ps) :=
  Beside.each (fun p hp => yields_typeParameter hb (hps p hp)) (by decide)

theorem beside_addMembers (hb : Grounded K below) {classKind : ClassKind} {ps : Parts t}
    (hps : ∀ p ∈ ps, Subtree p.1 t) :
    Beside .modifiers owner (addMembers below owner classKind ps) :=
  Beside.forM fun g hg => Beside.member
    (makesMember_groupedMember? hb classKind (inside_of_mem_groups hps g hg)).toSteps (by decide)

theorem dresses_typeDeclaration (hb : Grounded K below) (ha : Annotating below)
    {mods : Foreign.Modifiers (Part t)} (hm : t.parts.modifiers? = some mods) :
    Dresses mods 0 (typeDeclaration below) := by
  unfold typeDeclaration
  split
  · next mods name classKind typeParameters extending implementing permitting members h =>
    rw [h] at hm
    cases hm
    have hsub (q : Part t) (hq : q ∈ (Shape.classDef mods name classKind typeParameters
        extending implementing permitting members).children) : Subtree q.1 t :=
      subtree_of_parts h hq
    have hmembers (q : Part t) (hq : q ∈ members) : Subtree q.1 t :=
      hsub q (by simp [Shape.children, hq])
    refine dresses_allocAt hb ha (fun q hq => hsub q (by simp [Shape.children, hq])) fun id => ?_
    refine (Beside.part (K := K) (yields_simpleName name _) (by decide)).andThen fun _ => ?_
    refine (beside_addTypeParameters hb fun q hq => ?_).andThen fun _ => ?_
    · exact hsub q (by simp [Shape.children, hq])
    refine (Beside.optional (K := K) (fun q hq => ?_) (by decide)).andThen fun _ => ?_
    · exact (hb.sound q (hsub q (by simp [Shape.children, hq]))).type
    refine (Beside.each (K := K) (fun q hq => ?_) (by decide)).andThen fun _ => ?_
    · exact (hb.sound q (hsub q (by simp [Shape.children, hq]))).type
    have hpermitted : Beside .modifiers id (addPermitted below id permitting) :=
      fun _ _ _ _ ho hrun => beside_addPermitted hb
        (fun q hq => hsub q (by simp [Shape.children, hq])) ho hrun (by decide)
    refine hpermitted.andThen fun _ => ?_
    have hhead : Beside .modifiers id (addHeadMembers below id classKind members) :=
      fun _ _ _ _ ho hrun => beside_addHeadMembers hb hmembers ho hrun (by decide) (by decide)
    have hbody : Beside .modifiers id
        (addMembers below id classKind (bodyMembers classKind members)) :=
      beside_addMembers hb fun q hq => hmembers q (List.mem_filter.1 hq).1
    have hinside : Beside .modifiers id (insideType name do
        addHeadMembers below id classKind members
        addMembers below id classKind (bodyMembers classKind members)) :=
      fun _ _ _ _ ho hrun => (hhead.bind fun _ => hbody) ho hrun
    exact hinside.last
  · exact Dresses.stop

section

variable {p : Part t} {mods : Foreign.Modifiers (Part t)}

theorem dresses_method (hb : Grounded K below) (ha : Annotating below) (hp : Subtree p.1 t)
    (hm : p.parts.modifiers? = some mods) : Dresses mods 0 (method below p) := by
  unfold method
  split
  · next mods name typeParameters returnType parameters dims thrown body value h =>
    rw [h] at hm
    cases hm
    have hsub (q : Part t) (hq : q ∈ (Shape.methodDef mods name typeParameters returnType
        parameters dims thrown body value).children) : Subtree q.1 t :=
      subtree_of_partsOf hp h hq
    refine dresses_allocAt hb ha (fun q hq => hsub q (by simp [Shape.children, hq])) fun id => ?_
    refine (beside_addTypeParameters hb fun q hq => ?_).andThen fun _ => ?_
    · exact hsub q (by simp [Shape.children, hq])
    refine (Beside.optional (K := K) (fun q hq => ?_) (by decide)).andThen fun _ => ?_
    · exact (hb.sound q (hsub q (by simp [Shape.children, hq]))).type
    refine (Beside.part (K := K) (yields_methodName name _) (by decide)).andThen fun _ => ?_
    refine (Beside.each (K := K) (fun q hq => ?_) (by decide)).andThen fun _ => ?_
    · exact yields_parameter hb
        (hsub q (by simp [Shape.children, (List.mem_filter.1 hq).1])) 0
    refine (Beside.each (K := K) (fun q hq => ?_) (by decide)).andThen fun _ => ?_
    · exact (hb.sound q (hsub q (by simp [Shape.children, hq]))).type
    refine (Beside.optional (K := K) (fun q hq => ?_) (by decide)).last
    exact yields_blockAt hb (hsub q (by simp [Shape.children, hq]))
  · exact Dresses.stop

theorem dresses_annotationMember (hb : Grounded K below) (ha : Annotating below)
    (hp : Subtree p.1 t) (hm : p.parts.modifiers? = some mods) :
    Dresses mods 0 (annotationMember below p) := by
  unfold annotationMember
  split
  · next mods name typeParameters returnType parameters dims thrown body value h =>
    rw [h] at hm
    cases hm
    have hsub (q : Part t) (hq : q ∈ (Shape.methodDef mods name typeParameters returnType
        parameters dims thrown body value).children) : Subtree q.1 t :=
      subtree_of_partsOf hp h hq
    refine dresses_allocAt hb ha (fun q hq => hsub q (by simp [Shape.children, hq])) fun id => ?_
    refine (Beside.optional (K := K) (fun q hq => ?_) (by decide)).andThen fun _ => ?_
    · exact (hb.sound q (hsub q (by simp [Shape.children, hq]))).type
    refine (Beside.part (K := K) (yields_nameAt name _) (by decide)).andThen fun _ => ?_
    refine (Beside.optional (K := K) (fun q hq => ?_) (by decide)).last
    exact (hb.sound q (hsub q (by simp [Shape.children, hq]))).expression
  · exact Dresses.stop

/-- The modifiers of variables declared together are those of the
first. -/
theorem dresses_mergedDeclaration (hb : Grounded K below) (ha : Annotating below)
    {first : Declared t} {more : List (Declared t)} (hg : (Group.together first more).Inside)
    (kind : NodeKind) (stop : Int) :
    Dresses first.parts.mods 0 (mergedDeclaration below kind first more stop) := by
  obtain ⟨hfirst, hmore⟩ := hg
  refine dresses_allocAt hb ha hfirst.annotations fun id => ?_
  refine (Beside.optional (K := K) (fun q hq => (hb.sound q (hfirst.type q hq)).type)
    (by decide)).andThen fun _ => ?_
  refine (Beside.each (K := K) (fun v hv => ?_) (by decide)).last
  exact yields_fragment hb (List.forall_mem_cons.2 ⟨hfirst, hmore⟩ v hv)

theorem dresses_declarationExpression (hb : Grounded K below) (ha : Annotating below)
    {first : Declared t} {more : List (Declared t)} (hg : (Group.together first more).Inside) :
    Dresses first.parts.mods 0 (declarationExpression below first more) := by
  intro k ctx σ σ' d hk hrun
  obtain ⟨stop, σ₁, hstop, hmerged⟩ := bind_eq_ok.1 hrun
  have htouches : Touches [] [] σ.arena σ₁.arena :=
    (keeps_expressionEnd (K := K) _ _).touches hstop
  exact dresses_mergedDeclaration hb ha hg _ stop (Nat.le_trans hk htouches.size_le) hmerged

theorem modifiers?_of_asVariable? {s : Shape α} {v : Variable α} (h : asVariable? s = some v) :
    s.modifiers? = some v.mods := by
  cases s <;> simp only [asVariable?, reduceCtorEq, Option.some.injEq] at h
  subst h
  rfl

theorem modifiers?_of_declared? {v : Declared t} (h : declared? p = some v) :
    p.parts.modifiers? = some v.parts.mods := by
  obtain ⟨w, hw, rfl⟩ := Option.map_eq_some_iff.1 h
  exact modifiers?_of_asVariable? hw

/-- A variable alone is a declaration of it. -/
theorem dresses_statement (hb : Grounded K below) (ha : Annotating below)
    {v : Variable (Part t)} (hv : asVariable? t.parts = some v) :
    Dresses v.mods 0 (statement below) := by
  unfold statement
  cases h : t.parts <;> simp only [h, asVariable?, reduceCtorEq, Option.some.injEq] at hv
  next mods name type dims value =>
    subst hv
    have hin : (Declared.mk t ⟨mods, name, type, dims, value⟩).Inside := by
      refine ⟨Subtree.refl, fun p hp => ?_, fun p hp => ?_, fun p hp => ?_⟩ <;>
        dsimp only at hp <;> exact subtree_of_parts h (by simp [Shape.children, hp])
    exact dresses_mergedDeclaration hb ha ⟨hin, by simp⟩ _ _

theorem dresses_parameter (hb : Grounded K below) (ha : Annotating below) (hp : Subtree p.1 t)
    (hm : p.parts.modifiers? = some mods) (implied : UInt64) :
    Dresses mods implied (parameter below p implied) := by
  unfold parameter
  split
  · exact Dresses.stop
  · next v hv =>
    rw [modifiers?_of_declared? hv] at hm
    cases hm
    have hin := inside_of_declared? hp hv
    refine dresses_allocAt hb ha hin.annotations fun id => ?_
    refine (Beside.optional (K := K) (fun q hq => (hb.sound q (hin.type q hq)).type)
      (by decide)).andThen fun _ => ?_
    refine (Beside.part (K := K) (yields_nameAt _ _) (by decide)).andThen fun _ => ?_
    exact (Beside.optional (K := K) (fun q hq => (hb.sound q (hin.value q hq)).expression)
      (by decide)).last

/-- A parameter of a lambda with a type is a parameter like any other. -/
theorem lambdaParameter_eq {v : Declared t} (hv : declared? p = some v)
    (htype : v.parts.type ≠ none) : lambdaParameter below p = parameter below p 0 := by
  unfold lambdaParameter
  split
  · next h =>
    rw [h] at hv
    cases hv
    exact absurd rfl htype
  · rfl

end

end Conversion

end TreeBridge
