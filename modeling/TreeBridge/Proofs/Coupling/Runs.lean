import TreeBridge.Conversion.Member
import TreeBridge.Proofs.Conversion.Roots
import TreeBridge.Proofs.Unified.Hanging
/-!
# Two runs of a conversion beside each other

One conversion run twice, from different states or at different levels,
makes different nodes, and yet every node of one run has its counterpart
in the other. A coupling says which states and nodes of two runs belong
together, and that making a node, hanging it and marking it keep them
together. It grows with the runs: what belongs together at one stage does
at all later ones. Steps are coupled if they lead from states that belong
together to such states, and coupled steps compose.
-/

namespace TreeBridge

namespace Conversion

open Unified (NodeId NodeKind Slot Arena Hangs)

/-- The state with a further node, which may come from the foreign tree
with an id. -/
def State.made (σ : State) (kind : NodeKind) (span : Span) (source : Option ℕ) : State :=
  ⟨(σ.arena.alloc kind span).2, σ.origins ++ (source.map (σ.arena.size, ·)).toList⟩

/-- The state with another arena. -/
def State.withArena (σ : State) (f : Arena → Arena) : State :=
  { σ with arena := f σ.arena }

/-- Whether the types that a type permits hang from a slot. -/
@[reducible] def holdsPermitted : Slot → Bool
  | .permittedTypes => true
  | _ => false

/-- What belongs together in two runs, of which `left` and `right` say
whether they show the types that a type permits. If only the second does,
it may hang them where the first hangs nothing. -/
structure Coupling where
  /-- How far the two runs are: which nodes were made so far. -/
  Stage : Type
  Later : Stage → Stage → Prop
  /-- A node of the first run and its counterpart in the second. -/
  Nodes : Stage → NodeId → NodeId → Prop
  States : Stage → State → State → Prop
  left : Bool
  right : Bool
  right_of_left : left = true → right = true
  refl : ∀ w, Later w w
  trans : ∀ {w w₁ w₂}, Later w w₁ → Later w₁ w₂ → Later w w₂
  later : ∀ {w w₁ i j}, Later w w₁ → Nodes w i j → Nodes w₁ i j
  make : ∀ {w σ τ}, States w σ τ → ∀ kind span source, ∃ w₁, Later w w₁ ∧
    Nodes w₁ σ.arena.size τ.arena.size ∧
    States w₁ (σ.made kind span source) (τ.made kind span source)
  hang : ∀ {w σ τ i j c d slot}, States w σ τ → Nodes w i j → Nodes w c d →
    (holdsPermitted slot = true → left = true) →
    States w (σ.withArena fun a => a.addChild i slot c) (τ.withArena fun a => a.addChild j slot d)
  hangFirst : ∀ {w σ τ i j c d slot}, States w σ τ → Nodes w i j → Nodes w c d →
    (holdsPermitted slot = true → left = true) →
    States w (σ.withArena fun a => a.addChildFirst i slot c)
      (τ.withArena fun a => a.addChildFirst j slot d)
  flag : ∀ {w σ τ i j}, States w σ τ → Nodes w i j → ∀ flags,
    States w (σ.withArena fun a => a.addFlags i flags) (τ.withArena fun a => a.addFlags j flags)
  place : ∀ {w σ τ i j}, States w σ τ → Nodes w i j → ∀ span,
    States w (σ.withArena fun a => a.setSpan i span) (τ.withArena fun a => a.setSpan j span)
  /-- What the second run alone may do: it hangs permitted types from a
  counterpart, and makes nodes on the way that have none. -/
  hide : ∀ {w σ τ i j}, left = false → right = true → States w σ τ → Nodes w i j →
    j < τ.arena.size ∧ ∀ {τ' : State} {ids : List NodeId},
      Hangs j (ids.map (⟨.permittedTypes, ·⟩)) τ.arena τ'.arena → Grows τ τ' → States w σ τ'

namespace Coupling

/-- The contexts of two runs over one source. -/
structure Contexts (C : Coupling) (c d : Context) : Prop where
  source : c.source = d.source
  typeName : c.typeName = d.typeName
  left : c.level.supportsSealedTypes = C.left
  right : d.level.supportsSealedTypes = C.right

/-- The first run shows what hangs from a slot. It always does unless these
are permitted types, and whether they are is computed where a slot is
named. -/
class Shows (C : Coupling) (permitted : Bool) : Prop where
  shows : permitted = true → C.left = true

instance (C : Coupling) : C.Shows false :=
  ⟨nofun⟩

variable {C : Coupling} {α β γ : Type} {w w₁ : C.Stage} {i j c d : NodeId}

/-- From states that belong together, two steps lead to such states again
with results that belong together, unless one of them stops. -/
def Coupled (C : Coupling) (w : C.Stage) (V : C.Stage → α → β → Prop) (m : Convert α)
    (n : Convert β) : Prop :=
  ∀ ⦃w₁ : C.Stage⦄ ⦃ctx ctx' : Context⦄ ⦃σ σ' τ τ' : State⦄ ⦃a : α⦄ ⦃b : β⦄, C.Later w w₁ →
    C.Contexts ctx ctx' → C.States w₁ σ τ → m ctx σ = .ok (a, σ') → n ctx' τ = .ok (b, τ') →
    ∃ w₂, C.Later w₁ w₂ ∧ V w₂ a b ∧ C.States w₂ σ' τ'

/-- The results of two steps are one. -/
abbrev Same (C : Coupling) : C.Stage → α → α → Prop :=
  fun _ a b => a = b

/-- A conversion makes nodes that belong together. -/
def Makes (C : Coupling) (m : Convert NodeId) : Prop :=
  ∀ w, C.Coupled w C.Nodes m m

/-- What is done to nodes that belong together. -/
def Fills (C : Coupling) (f : NodeId → Convert Unit) : Prop :=
  ∀ ⦃w i j⦄, C.Nodes w i j → C.Coupled w C.Same (f i) (f j)

/-- What is done to nodes that belong together, up to a result. -/
def Completes (C : Coupling) (f : NodeId → Convert NodeId) : Prop :=
  ∀ ⦃w i j⦄, C.Nodes w i j → C.Coupled w C.Nodes (f i) (f j)

namespace Coupled

variable {V : C.Stage → α → β → Prop} {m : Convert α} {n : Convert β}

theorem pure {a : α} {b : β} (h : ∀ w₁, C.Later w w₁ → V w₁ a b) :
    C.Coupled w V (pure a) (pure b) := by
  intro w₁ ctx ctx' σ σ' τ τ' a' b' hw _ hσ hm hn
  obtain ⟨rfl, rfl⟩ := pure_eq_ok.1 hm
  obtain ⟨rfl, rfl⟩ := pure_eq_ok.1 hn
  exact ⟨w₁, C.refl w₁, h w₁ hw, hσ⟩

theorem same (a : α) : C.Coupled w C.Same (Pure.pure a : Convert α) (Pure.pure a) :=
  pure fun _ _ => rfl

theorem node (h : C.Nodes w i j) : C.Coupled w C.Nodes (Pure.pure i) (Pure.pure j) :=
  pure fun _ hw => C.later hw h

theorem stop {e : Unsupported} : C.Coupled w V (throw e) n := by
  intro w₁ ctx ctx' σ σ' τ τ' a b _ _ _ hm
  cases hm

theorem bind {α' β' : Type} {U : C.Stage → α' → β' → Prop} {f : α → Convert α'}
    {g : β → Convert β'} (h : C.Coupled w V m n)
    (hf : ∀ w₁ a b, C.Later w w₁ → V w₁ a b → C.Coupled w₁ U (f a) (g b)) :
    C.Coupled w U (m >>= f) (n >>= g) := by
  intro w₁ ctx ctx' σ σ' τ τ' a b hw hctx hσ hm hn
  obtain ⟨x, σ₁, hx, hfx⟩ := bind_eq_ok.1 hm
  obtain ⟨y, τ₁, hy, hgy⟩ := bind_eq_ok.1 hn
  obtain ⟨w₂, hw₂, hxy, hσ₁⟩ := h hw hctx hσ hx hy
  obtain ⟨w₃, hw₃, hab, hσ'⟩ :=
    hf w₂ x y (C.trans hw hw₂) hxy (C.refl w₂) hctx hσ₁ hfx hgy
  exact ⟨w₃, C.trans hw₂ hw₃, hab, hσ'⟩

theorem later (h : C.Coupled w V m n) (hw : C.Later w w₁) : C.Coupled w₁ V m n :=
  fun _ _ _ _ _ _ _ _ _ hw₁ => h (C.trans hw hw₁)

/-- A step before others, at any stage. -/
theorem andThen {α' β' : Type} {U : C.Stage → α' → β' → Prop} {m n : Convert α}
    {f : α → Convert α'} {g : α → Convert β'} (h : C.Coupled w C.Same m n)
    (hf : ∀ a, C.Coupled w U (f a) (g a)) : C.Coupled w U (m >>= f) (n >>= g) := by
  refine h.bind fun w₁ a b hw hab => ?_
  obtain rfl := hab
  exact (hf a).later hw

theorem forM {xs : List γ} {f g : γ → Convert Unit}
    (h : ∀ x ∈ xs, C.Coupled w C.Same (f x) (g x)) :
    C.Coupled w C.Same (xs.forM f) (xs.forM g) := by
  induction xs with
  | nil => exact same ()
  | cons x xs ih =>
    exact (h x List.mem_cons_self).andThen fun _ => ih fun y hy => h y (List.mem_cons_of_mem x hy)

/-- What only the context decides is one in both runs. -/
theorem ofRead {m : Convert α} {f : Context → α} (hm : ∀ ctx σ, m ctx σ = .ok (f ctx, σ))
    (hf : ∀ ⦃ctx ctx'⦄, C.Contexts ctx ctx' → f ctx = f ctx') : C.Coupled w C.Same m m := by
  intro w₁ ctx ctx' σ σ' τ τ' a b _ hctx hσ hma hmb
  rw [hm] at hma hmb
  cases hma
  cases hmb
  exact ⟨w₁, C.refl w₁, hf hctx, hσ⟩

/-- A change that keeps states together. -/
theorem change {f g : Arena → Arena} (h : ∀ ⦃w₁ σ τ⦄, C.Later w w₁ → C.States w₁ σ τ →
    C.States w₁ (σ.withArena f) (τ.withArena g)) :
    C.Coupled w C.Same (change f) (Conversion.change g) := by
  intro w₁ ctx ctx' σ σ' τ τ' a b hw _ hσ hm hn
  cases hm
  cases hn
  exact ⟨w₁, C.refl w₁, rfl, h hw hσ⟩

theorem insideType {m n : Convert α} {U : C.Stage → α → α → Prop} (name : String)
    (h : C.Coupled w U m n) :
    C.Coupled w U (insideType name m) (Conversion.insideType name n) :=
  fun _ _ _ _ _ _ _ _ _ hw hctx =>
    h hw ⟨hctx.source, rfl, hctx.left, hctx.right⟩

end Coupled

/-! ## Making nodes -/

theorem makes_synthetic (kind : NodeKind) (span : Span) : C.Makes (synthetic kind span) := by
  intro w w₁ ctx ctx' σ σ' τ τ' a b _ _ hσ hm hn
  cases hm
  cases hn
  obtain ⟨w₂, hw₂, hnodes, hstates⟩ := C.make hσ kind span none
  have hmade (σ : State) : σ.made kind span none =
      { σ with arena := (σ.arena.alloc kind span).2 } := by
    rw [State.made, Option.map_none, Option.toList_none, List.append_nil]
  rw [hmade, hmade] at hstates
  exact ⟨w₂, hw₂, hnodes, hstates⟩

theorem makes_allocAt (t : Foreign.Tree) (kind : NodeKind) (span : Span) :
    C.Makes (allocAt t kind span) := by
  intro w w₁ ctx ctx' σ σ' τ τ' a b _ _ hσ hm hn
  cases hm
  cases hn
  exact C.make hσ kind span (some t.id)

theorem makes_alloc (t : Foreign.Tree) (kind : NodeKind) : C.Makes (alloc t kind) :=
  makes_allocAt t kind _

theorem makes_simpleName (identifier : String) (span : Span) :
    C.Makes (simpleName identifier span) :=
  makes_synthetic _ _

theorem makes_nameAt (identifier : String) (offset : Int) : C.Makes (nameAt identifier offset) :=
  makes_simpleName _ _

theorem makes_nameEndingAt (identifier : String) (stop : Int) :
    C.Makes (nameEndingAt identifier stop) :=
  makes_simpleName _ _

/-! ## Changing nodes -/

section

variable {slot slot' : Slot}

theorem coupled_addChild (hi : C.Nodes w i j) (hc : C.Nodes w c d)
    [C.Shows (holdsPermitted slot)] :
    C.Coupled w C.Same (addChild i slot c) (addChild j slot d) :=
  Coupled.change fun _ _ _ hw hσ => C.hang hσ (C.later hw hi) (C.later hw hc) Shows.shows

theorem coupled_addChildFirst (hi : C.Nodes w i j) (hc : C.Nodes w c d)
    [C.Shows (holdsPermitted slot)] :
    C.Coupled w C.Same (change fun a => a.addChildFirst i slot c)
      (change fun a => a.addChildFirst j slot d) :=
  Coupled.change fun _ _ _ hw hσ => C.hangFirst hσ (C.later hw hi) (C.later hw hc) Shows.shows

end

theorem coupled_addFlags (hi : C.Nodes w i j) (flags : UInt32) :
    C.Coupled w C.Same (change fun a => a.addFlags i flags) (change fun a => a.addFlags j flags) :=
  Coupled.change fun _ _ _ hw hσ => C.flag hσ (C.later hw hi) flags

theorem coupled_setSpan (hi : C.Nodes w i j) (span : Span) :
    C.Coupled w C.Same (change fun a => a.setSpan i span) (change fun a => a.setSpan j span) :=
  Coupled.change fun _ _ _ hw hσ => C.place hσ (C.later hw hi) span

theorem coupled_markRecovered (hi : C.Nodes w i j) :
    C.Coupled w C.Same (markRecovered i) (markRecovered j) :=
  coupled_addFlags hi _

/-! ## Filling nodes -/

theorem Completes.pure : C.Completes pure :=
  fun _ _ _ hi => Coupled.node hi

theorem Fills.andThen {f : NodeId → Convert Unit} {g : NodeId → Convert NodeId} (h : C.Fills f)
    (hg : C.Completes g) : C.Completes (fun id => f id >>= fun _ => g id) :=
  fun _ _ _ hi => (h hi).andThen fun _ => hg hi

/-- The last step before the node is given back. -/
theorem Fills.last {f : NodeId → Convert Unit} (h : C.Fills f) :
    C.Completes (fun id => f id >>= fun _ => Pure.pure id) :=
  h.andThen .pure

theorem Fills.bind {f g : NodeId → Convert Unit} (h : C.Fills f) (hg : C.Fills g) :
    C.Fills (fun id => f id >>= fun _ => g id) :=
  fun _ _ _ hi => (h hi).andThen fun _ => hg hi

theorem Fills.forM {xs : List γ} {f : NodeId → γ → Convert Unit}
    (h : ∀ x, C.Fills (fun id => f id x)) : C.Fills (fun id => xs.forM (f id)) :=
  fun _ _ _ hi => Coupled.forM fun x _ => h x hi

/-- A node is made and completed. -/
theorem Makes.andThen {m : Convert NodeId} {f : NodeId → Convert NodeId} (h : C.Makes m)
    (hf : C.Completes f) : C.Makes (m >>= f) :=
  fun w => (h w).bind fun _ _ _ _ hid => hf hid

theorem Makes.stop {e : Unsupported} : C.Makes (throw e) :=
  fun _ => Coupled.stop

theorem makes_unsupported (t : Foreign.Tree) : C.Makes (unsupported t) :=
  Makes.stop

theorem makes_placeholder (t : Foreign.Tree) (kind : NodeKind) : C.Makes (placeholder t kind) :=
  (makes_alloc t kind).andThen (Fills.last fun _ _ _ hi => coupled_addFlags hi _)

/-! ## Reading -/

theorem coupled_read :
    C.Coupled w (fun _ => C.Contexts) (read : Convert Context) (read : Convert Context) := by
  intro w₁ ctx ctx' σ σ' τ τ' a b _ hctx hσ hm hn
  cases hm
  cases hn
  exact ⟨w₁, C.refl w₁, hctx, hσ⟩

theorem coupled_tokensBetween (start stop : Int) :
    C.Coupled w C.Same (tokensBetween start stop) (tokensBetween start stop) :=
  Coupled.ofRead (f := fun ctx => Lexical.codeTokensBetween ctx.source start stop)
    (fun _ _ => rfl) fun _ _ hctx => by rw [hctx.source]

theorem coupled_findToken? (word : String) (start stop : Int) :
    C.Coupled w C.Same (findToken? word start stop) (findToken? word start stop) :=
  Coupled.ofRead (f := fun ctx => Lexical.findToken? ctx.source word start stop)
    (fun _ _ => rfl) fun _ _ hctx => by rw [hctx.source]

/-! ## Adding parts -/

section

variable {slot slot' : Slot}

theorem fills_addPart {convert : Convert NodeId} (h : C.Makes convert)
    [C.Shows (holdsPermitted slot)] :
    C.Fills (fun id => addPart id slot convert) :=
  fun w _ _ hi => (h w).bind fun _ _ _ hw hc => coupled_addChild (C.later hw hi) hc

theorem fills_addOptional {p : Option γ} {convert : γ → Convert NodeId}
    (h : ∀ x, C.Makes (convert x))
    [C.Shows (holdsPermitted slot)] :
    C.Fills (fun id => addOptional id slot p convert) := by
  intro w i j hi
  cases p with
  | none => exact Coupled.same ()
  | some x => exact fills_addPart (h x) hi

theorem fills_addEach {xs : List γ} {convert : γ → Convert NodeId}
    (h : ∀ x, C.Makes (convert x))
    [C.Shows (holdsPermitted slot)] :
    C.Fills (fun id => addEach id slot xs convert) :=
  Fills.forM fun x => fills_addPart (h x)

/-- A node made last, over one child. -/
theorem coupled_over (t : Foreign.Tree) (kind : NodeKind) (hc : C.Nodes w c d)
    [C.Shows (holdsPermitted slot)] :
    C.Coupled w C.Nodes (do
      let id ← alloc t kind
      addChild id slot c
      pure id) (do
      let id ← alloc t kind
      addChild id slot d
      pure id) :=
  (makes_alloc t kind w).bind fun _ _ _ hw hid =>
    (coupled_addChild hid (C.later hw hc)).andThen fun _ => Coupled.node hid

/-- A node made last, over two children. -/
theorem coupled_pairOf {c' d' : NodeId} (t : Foreign.Tree) (kind : NodeKind)
    (hc : C.Nodes w c d) (hc' : C.Nodes w c' d')
    [C.Shows (holdsPermitted slot)]
    [C.Shows (holdsPermitted slot')] :
    C.Coupled w C.Nodes (do
      let id ← alloc t kind
      addChild id slot c
      addChild id slot' c'
      pure id) (do
      let id ← alloc t kind
      addChild id slot d
      addChild id slot' d'
      pure id) :=
  (makes_alloc t kind w).bind fun _ _ _ hw hid =>
    (coupled_addChild hid (C.later hw hc)).andThen fun _ =>
    (coupled_addChild hid (C.later hw hc')).andThen fun _ => Coupled.node hid

end

/-- Every action on a tree makes nodes that belong together. -/
structure Agree (C : Coupling) (acts : Actions) : Prop where
  name : C.Makes acts.name
  type : C.Makes acts.type
  expression : C.Makes acts.expression
  annotated : C.Makes acts.annotated
  statement : C.Makes acts.statement
  typeDeclaration : C.Makes acts.typeDeclaration

end Coupling

end Conversion

end TreeBridge
