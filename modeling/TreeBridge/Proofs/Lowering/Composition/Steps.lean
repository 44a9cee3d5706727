import TreeBridge.Lowering.Build
import TreeBridge.Proofs.Foreign.Ids
/-!
# Steps composed of primitive steps

The lowering of a tree, however large, is composed of a few primitive
steps: it makes trees, raises reports, settles and retracts them, and
looks at its state. `Composed` says so of a step, with what holds of every
tree that the step makes and of every report that it raises, and with the
trees that it may use: a tree that is made is used for one other tree at
most. What the primitive steps keep, every composed step keeps
(`Composed.invariant`); every tree that a composed step yields has been
held before it or is new (`Composed.count_ids_le`); and what holds of all
trees that are made holds of all that are yielded
(`Composed.everywhere`). The three inductions are made once.
-/

namespace TreeBridge

namespace Lowering

open Foreign (Diagnostic Shape)
open Foreign.Tree (idsOf)

/-- The codes of the reports of a front end that parses and does no
more. -/
def parserCodes : List String :=
  ["compiler.err.expected", "compiler.err.premature.eof", "compiler.err.illegal.start.of.expr",
    "compiler.err.illegal.start.of.type", "compiler.err.repeated.modifier",
    "compiler.err.illegal.combination.of.modifiers"]

/-- An error under one of the codes of the parser. -/
structure ParserError (d : Diagnostic) : Prop where
  kind : d.kind = .error
  code : d.code ∈ parserCodes

theorem ParserError.errorAt {code : String} (h : code ∈ parserCodes) (message : String)
    (start stop : Int) : ParserError (.errorAt code message start stop) :=
  ⟨rfl, h⟩

theorem ParserError.aboutTree {d : Diagnostic} (h : ParserError d) (tree : Nat) :
    ParserError (d.aboutTree tree) :=
  ⟨h.kind, h.code⟩

/-! ## The trees that a step yields -/

/-- What a step yields holds trees. -/
class Bears (α : Type) where
  trees : α → List Foreign.Tree

open Bears (trees)

instance : Bears Unit := ⟨fun _ => []⟩
instance : Bears State := ⟨fun _ => []⟩
instance : Bears Foreign.Tree := ⟨fun t => [t]⟩
instance : Bears (Option Foreign.Tree) := ⟨Option.toList⟩
instance : Bears (List Foreign.Tree) := ⟨id⟩
instance : Bears (List (List Foreign.Tree)) := ⟨List.flatten⟩
instance : Bears (Option (List Foreign.Tree)) := ⟨fun ts => ts.getD []⟩
instance : Bears (Foreign.Modifiers Foreign.Tree) := ⟨fun mods => mods.annotations⟩

@[simp] theorem trees_tree (t : Foreign.Tree) : trees t = [t] := rfl

@[simp] theorem trees_option (t : Option Foreign.Tree) : trees t = t.toList := rfl

@[simp] theorem trees_list (ts : List Foreign.Tree) : trees ts = ts := rfl

/-- What holds of a tree with any flags if it holds of the tree. -/
def Flagless (P : Foreign.Tree → Prop) : Prop :=
  ∀ t flags, P t → P (t.withVariableFlags flags)

/-- What holds all over a tree does not hang on flags if it does not hang
on the flags of one tree. -/
theorem Flagless.everywhere {P : Foreign.Tree → Prop} (h : Flagless P) :
    Flagless (Foreign.Tree.Everywhere P) :=
  fun t flags ht => ht.withVariableFlags (h t flags ht.self)

/-- Trees made up of trees that are held, each used once at most, up to
flags: no id occurs more often, and what holds of all that are held and
does not hang on flags holds of them. -/
structure Spends (ts held : List Foreign.Tree) : Prop where
  count : ∀ i, (idsOf ts).count i ≤ (idsOf held).count i
  forall_mem : ∀ {P : Foreign.Tree → Prop}, Flagless P → (∀ u ∈ held, P u) → ∀ t ∈ ts, P t

variable {ts us held held' : List Foreign.Tree}

namespace Spends

/-- Trees that stand among those that are held. -/
theorem of_subset (h : ts ⊆ held) (hcount : ∀ i, (idsOf ts).count i ≤ (idsOf held).count i) :
    Spends ts held :=
  ⟨hcount, fun _ hheld t ht => hheld t (h ht)⟩

theorem refl (ts : List Foreign.Tree) : Spends ts ts :=
  of_subset (List.Subset.refl ts) fun _ => Nat.le_refl _

theorem trans (h : Spends ts us) (h' : Spends us held) : Spends ts held :=
  ⟨fun i => Nat.le_trans (h.count i) (h'.count i),
    fun hP hheld => h.forall_mem hP (h'.forall_mem hP hheld)⟩

theorem of_eq (h : ts = held) : Spends ts held :=
  h ▸ refl ts

theorem of_perm (h : ts.Perm held) : Spends ts held :=
  of_subset h.subset fun i => Nat.le_of_eq ((h.flatMap_right Foreign.Tree.ids).count_eq i)

theorem nil : Spends [] held :=
  of_subset (List.nil_subset held) fun _ => Nat.zero_le _

/-- Some of what is held may be dropped. -/
theorem drop (ts us vs : List Foreign.Tree) : Spends (ts ++ vs) (ts ++ us ++ vs) := by
  refine of_subset (by simp) fun i => ?_
  simp only [Foreign.Tree.idsOf_append, List.count_append]
  omega

/-- The last of what is held may be used before what stands in front of
it. -/
theorem swap (ts us vs : List Foreign.Tree) : Spends (ts ++ vs ++ us) (ts ++ us ++ vs) := by
  refine of_subset (by simp) fun i => ?_
  simp only [Foreign.Tree.idsOf_append, List.count_append]
  omega

/-- Flags do not count. -/
theorem withVariableFlags (flags : UInt64) (ts : List Foreign.Tree) :
    Spends (ts.map (Foreign.Tree.withVariableFlags flags)) ts where
  count i := Nat.le_of_eq (by rw [Foreign.Tree.idsOf_map_withVariableFlags])
  forall_mem hP hheld t ht := by
    obtain ⟨u, hu, rfl⟩ := List.mem_map.1 ht
    exact hP u flags (hheld u hu)

end Spends

/-- What holds of every tree that a step makes and of every report that it
raises. -/
structure Guarantee where
  tree : Foreign.Tree → Prop
  report : Diagnostic → Prop

/-- Whether a tree declares a type, a method or a variable. -/
def isDeclaration (t : Foreign.Tree) : Bool :=
  match t.shape with
  | .classDef .. | .methodDef .. | .varDef .. => true
  | _ => false

/-- Whether a tree holds malformed text. -/
def isMalformed (t : Foreign.Tree) : Bool :=
  match t.shape with
  | .erroneous .. => true
  | _ => false

/-- A tree of malformed text that points at an offset. -/
structure MalformedAt (offset : Int) (t : Foreign.Tree) : Prop where
  malformed : isMalformed t = true
  position : t.position = offset

/-- A step composed of primitive steps that makes trees and raises reports
as guaranteed, and uses trees that are held. The owner of a report is the
tree of a declaration, or that of the malformed text that it is on. -/
inductive Composed (G : Guarantee) :
    {α : Type} → [Bears α] → List Foreign.Tree → Build α → Prop
  | pure {α : Type} [Bears α] {held : List Foreign.Tree} {a : α} (h : Spends (trees a) held) :
    Composed G held (pure a : Build α)
  | get {held : List Foreign.Tree} : Composed G held (get : Build State)
  | make {held : List Foreign.Tree} {start position stop : Int} {shape : Shape Foreign.Tree}
    (h : Spends shape.children held)
    (hmade : ∀ id, G.tree (.node id start position (if 0 ≤ stop then stop else -1) shape)) :
    Composed G held (make start position stop shape)
  | report {held : List Foreign.Tree} {t : Foreign.Tree} {d : Diagnostic} (h : Spends [t] held)
    (hd : G.report (d.aboutTree t.id)) (hmalformed : MalformedAt d.start t) :
    Composed G held (report (d.aboutTree t.id) >>= fun _ => Pure.pure t)
  | reportUnsettled {held : List Foreign.Tree} {d : Diagnostic} (h : G.report d)
    (hnone : d.tree = none) : Composed G held (reportUnsettled d)
  | settle {held : List Foreign.Tree} {t : Foreign.Tree} (h : Spends [t] held)
    (hdeclares : isDeclaration t = true) :
    Composed G held (settle t.id >>= fun _ => Pure.pure t)
  | retract {held : List Foreign.Tree} (count : Nat) : Composed G held (retract count)
  | bind {α β : Type} [Bears α] [Bears β] {kept spent held : List Foreign.Tree} {m : Build α}
    {f : α → Build β} (hheld : Spends (kept ++ spent) held) (h : Composed G spent m)
    (hf : ∀ σ, Composed G (kept ++ trees (m σ).1) (f (m σ).1)) : Composed G held (m >>= f)

/-! ## What composed steps keep -/

/-- What holds of a state and is kept by every primitive step that raises
reports as guaranteed. -/
structure Invariant (R : Diagnostic → Prop) (I : State → Prop) : Prop where
  make : ∀ {σ}, I σ → I { σ with next := σ.next + 1 }
  report : ∀ {σ d}, R d → I σ → I (report d σ).2
  reportUnsettled : ∀ {σ d}, R d → I σ → I (reportUnsettled d σ).2
  settle : ∀ {σ} owner, I σ → I (settle owner σ).2
  retract : ∀ {σ} count, I σ → I (retract count σ).2

namespace Composed

variable {G : Guarantee}
variable {α β γ : Type} [Bears α] [Bears β] [Bears γ]

/-- **A composed step keeps every invariant.** -/
theorem invariant {I : State → Prop} (hI : Invariant G.report I) {m : Build α}
    (h : Composed G held m) {σ : State} (hσ : I σ) : I (m σ).2 := by
  induction h generalizing σ with
  | pure => exact hσ
  | get => exact hσ
  | make => exact hI.make hσ
  | report _ hd => exact hI.report hd hσ
  | reportUnsettled hd => exact hI.reportUnsettled hd hσ
  | @settle _ t => exact hI.settle t.id hσ
  | retract count => exact hI.retract count hσ
  | bind _ _ _ ihm ihf => exact ihf σ (ihm hσ)

/-- How often an id is given by steps from one state to another. -/
def givenBetween (σ τ : State) (i : Nat) : Nat :=
  if σ.next ≤ i ∧ i < τ.next then 1 else 0

theorem givenBetween_add {σ τ υ : State} (h : σ.next ≤ τ.next) (h' : τ.next ≤ υ.next) (i : Nat) :
    givenBetween σ τ i + givenBetween τ υ i = givenBetween σ υ i := by
  unfold givenBetween
  grind

theorem givenBetween_make (start position stop : Int) (shape : Shape Foreign.Tree) (σ : State)
    (i : Nat) : givenBetween σ (Lowering.make start position stop shape σ).2 i =
      if σ.next == i then 1 else 0 := by
  have hnext : (Lowering.make start position stop shape σ).2.next = σ.next + 1 := rfl
  unfold givenBetween
  rw [hnext]
  grind

/-- **The trees that a composed step yields** are those that it holds and
new ones, and no id is given twice. -/
theorem count_ids_le {m : Build α} (h : Composed G held m) (σ : State) :
    σ.next ≤ (m σ).2.next ∧
      ∀ i, (idsOf (trees (m σ).1)).count i ≤
        (idsOf held).count i + givenBetween σ (m σ).2 i := by
  induction h generalizing σ with
  | pure h => exact ⟨Nat.le_refl _, fun i => Nat.le_add_right_of_le (h.count i)⟩
  | @make held start position stop shape h _ =>
    refine ⟨Nat.le_succ _, fun i => ?_⟩
    have hids : idsOf (trees (Lowering.make start position stop shape σ).1) =
        σ.next :: idsOf shape.children := by
      rw [trees_tree, Foreign.Tree.idsOf_cons, Foreign.Tree.ids_eq]
      exact List.append_nil _
    rw [hids, List.count_cons, givenBetween_make]
    exact Nat.add_le_add_right (h.count i) _
  | @bind _ _ _ _ kept spent held m f hheld _ _ ihm ihf =>
    obtain ⟨hle, hm⟩ := ihm σ
    obtain ⟨hle', hf⟩ := ihf σ (m σ).2
    have hrun : (m >>= f) σ = f (m σ).1 (m σ).2 := rfl
    rw [hrun]
    refine ⟨Nat.le_trans hle hle', fun i => ?_⟩
    -- what the first step gives the second does not give again
    have hgiven := givenBetween_add hle hle' i
    have hkept := hheld.count i
    have hspent := hm i
    have hrest := hf i
    rw [Foreign.Tree.idsOf_append, List.count_append] at hkept hrest
    omega
  | get => exact ⟨Nat.le_refl _, fun i => Nat.zero_le _⟩
  | report h => exact ⟨Nat.le_refl _, fun i => Nat.le_add_right_of_le (h.count i)⟩
  | reportUnsettled => exact ⟨Nat.le_refl _, fun i => Nat.zero_le _⟩
  | settle h => exact ⟨Nat.le_refl _, fun i => Nat.le_add_right_of_le (h.count i)⟩
  | retract => exact ⟨Nat.le_refl _, fun i => Nat.zero_le _⟩

/-- **What holds of all trees that are made**, whatever their flags, holds
of every tree that a composed step yields and of all trees below it, if it
holds of those that the step uses. -/
theorem everywhere (hG : Flagless G.tree) {m : Build α} (h : Composed G held m) (σ : State)
    (hheld : ∀ t ∈ held, t.Everywhere G.tree) : ∀ t ∈ trees (m σ).1, t.Everywhere G.tree := by
  have hflags := hG.everywhere
  induction h generalizing σ with
  | pure h => exact h.forall_mem hflags hheld
  | make h hmade =>
    intro t ht
    obtain rfl := List.mem_singleton.1 ht
    exact .of_children (hmade _) (h.forall_mem hflags hheld)
  | @bind _ _ _ _ kept spent held m f hspends _ _ ihm ihf =>
    have hall := hspends.forall_mem hflags hheld
    have hm := ihm σ fun t ht => hall t (List.mem_append_right kept ht)
    refine ihf σ (m σ).2 fun t ht => ?_
    rcases List.mem_append.1 ht with hkept | hnew
    · exact hall t (List.mem_append_left _ hkept)
    · exact hm t hnew
  | get => exact fun t ht => absurd ht List.not_mem_nil
  | report h => exact h.forall_mem hflags hheld
  | reportUnsettled => exact fun t ht => absurd ht List.not_mem_nil
  | settle h => exact h.forall_mem hflags hheld
  | retract => exact fun t ht => absurd ht List.not_mem_nil

/-! ## Compositions -/

variable {m : Build α} {f : α → Build β}

/-- What is guaranteed may be weakened. -/
theorem imp {H : Guarantee} (htree : ∀ t, G.tree t → H.tree t)
    (hreport : ∀ d, G.report d → H.report d) (h : Composed G held m) : Composed H held m := by
  induction h with
  | pure h => exact .pure h
  | get => exact .get
  | make h hmade => exact .make h fun id => htree _ (hmade id)
  | report h hd hmalformed => exact .report h (hreport _ hd) hmalformed
  | reportUnsettled hd hnone => exact .reportUnsettled (hreport _ hd) hnone
  | settle h hdeclares => exact .settle h hdeclares
  | retract count => exact .retract count
  | bind hspends _ _ ihm ihf => exact .bind hspends ihm ihf

/-- A step may hold more than it uses. -/
theorem mono (h : Composed G held m) (hheld : Spends held held') : Composed G held' m := by
  cases h with
  | pure h => exact .pure (h.trans hheld)
  | get => exact .get
  | make h hmade => exact .make (h.trans hheld) hmade
  | report h hd hmalformed => exact .report (h.trans hheld) hd hmalformed
  | reportUnsettled hd hnone => exact .reportUnsettled hd hnone
  | settle h hdeclares => exact .settle (h.trans hheld) hdeclares
  | retract count => exact .retract count
  | bind hkept h hf => exact .bind (hkept.trans hheld) h hf

/-- A step that uses nothing adds to what the steps after it hold. -/
theorem after (h : Composed G [] m) (hf : ∀ a, Composed G (held ++ trees a) (f a)) :
    Composed G held (m >>= f) :=
  .bind (.of_eq (List.append_nil held)) h fun _ => hf _

/-- A step that uses what is held leaves what it yields. -/
theorem andThenOf (h : Composed G held m) (hf : ∀ σ, Composed G (trees (m σ).1) (f (m σ).1)) :
    Composed G held (m >>= f) :=
  have hheld : Spends ([] ++ held) held := .refl held
  .bind hheld h hf

theorem andThen (h : Composed G held m) (hf : ∀ a, Composed G (trees a) (f a)) :
    Composed G held (m >>= f) :=
  h.andThenOf fun _ => hf _

/-- A step that yields no tree leaves what is held. -/
theorem before {f : Unit → Build β} {m : Build Unit} (h : Composed G [] m)
    (hf : Composed G held (f ())) : Composed G held (m >>= f) :=
  h.after fun _ => hf.mono (.of_eq (List.append_nil held).symm)

end Composed

section

variable {G : Guarantee} {α γ : Type} [Bears γ]

theorem composed_settled {m : Build Foreign.Tree} (h : Composed G held m)
    (hdeclares : ∀ σ, isDeclaration (m σ).1 = true) : Composed G held (settled m) :=
  h.andThenOf fun σ => .settle (.refl [_]) (hdeclares σ)

/-- A step that makes one tree is a step that makes a list of one. -/
theorem composed_one {m : Build Foreign.Tree} (h : Composed G held m) :
    Composed G held (do pure [← m]) :=
  h.andThen fun t => .pure (.refl [t])

theorem composed_mapM {xs : List α} {f : α → Build Foreign.Tree}
    (h : ∀ x ∈ xs, Composed G [] (f x)) : Composed G [] (xs.mapM f) := by
  induction xs with
  | nil => exact .pure (.refl [])
  | cons x xs ih =>
    rw [List.mapM_cons]
    have hx := h x List.mem_cons_self
    have hxs := ih fun y hy => h y (List.mem_cons_of_mem x hy)
    exact hx.after fun t => hxs.after fun ts => .pure (.refl (t :: ts))

theorem composed_gather {xs : List α} {f : α → Build (List Foreign.Tree)}
    (h : ∀ x ∈ xs, Composed G [] (f x)) : Composed G [] (gather f xs) := by
  have hxs : Composed G [] (xs.mapM f) := by
    induction xs with
    | nil => exact .pure (.refl [])
    | cons x xs ih =>
      rw [List.mapM_cons]
      have hx := h x List.mem_cons_self
      have hxs := ih fun y hy => h y (List.mem_cons_of_mem x hy)
      exact hx.after fun ts => hxs.after fun tss => .pure (.refl (ts ++ tss.flatten))
  exact hxs.andThen fun tss => .pure (.refl tss.flatten)

theorem composed_foldlM {xs : List α} {f : γ → α → Build γ}
    (h : ∀ x ∈ xs, ∀ acc, Composed G (trees acc) (f acc x)) (acc : γ) :
    Composed G (trees acc) (xs.foldlM f acc) := by
  induction xs generalizing acc with
  | nil => exact .pure (.refl _)
  | cons x xs ih =>
    rw [List.foldlM_cons]
    have hxs := ih fun y hy => h y (List.mem_cons_of_mem x hy)
    exact (h x List.mem_cons_self acc).andThen hxs

end

end Lowering

end TreeBridge
