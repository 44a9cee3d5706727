import TreeBridge.Proofs.Binding.Origin
import TreeBridge.Proofs.Binding.Site
/-!
# What the ledger of a unit keeps

The walk over a unit enters one declaration after the other. A log beside
the ledger says from which origin each key was put together: `Logged` is
what holds of the two at every moment. A declaration that is closed gets
a key that no logged declaration has, since its number is higher than
every number in use, or since the ledger does not know its key yet.
-/

namespace TreeBridge

namespace Binding

open Unified (Arena NodeId NodeKind Tree)

/-! ## Reading a ledger -/

namespace Ledger

variable {σ : Ledger} {t : Tree} {key name : String} {kind : BindingKind} {i : NodeId}

/-- How often a key was counted. -/
def countOf (σ : Ledger) (key : String) : Nat :=
  ((σ.counts.find? fun c => c.1 == key).map (·.2)).getD 0

theorem fst_count (key : String) : (σ.count key).1 = σ.countOf key + 1 := rfl

theorem countOf_count (key other : String) :
    (σ.count key).2.countOf other = if key = other then σ.countOf key + 1 else σ.countOf other := by
  unfold count countOf
  by_cases h : key = other
  · subst h
    simp
  · simp [h]

theorem key?_assign (j : NodeId) :
    (σ.assign j key).key? i = if j = i then some key else σ.key? i := by
  unfold assign key?
  by_cases h : j = i
  · subst h
    simp
  · simp [h]

theorem key?_enter (b : Binding) : (σ.enter b).key? i = σ.key? i := rfl

theorem countOf_declare (other : String) : (σ.declare t key kind name).countOf other =
    σ.countOf other := by
  unfold declare
  dsimp only
  split <;> rfl

/-- A declared node has its key, also when it is its own name. -/
theorem key?_declare_self : (σ.declare t key kind name).key? t.id = some key := by
  unfold declare
  dsimp only
  split
  · rw [key?_enter, key?_assign, key?_assign]
    simp
  · rw [key?_enter, key?_assign, if_pos rfl]

/-- A declaration gives a key to nodes of its own only. -/
theorem key?_declare_of_notMem (h : i ∉ t.ids) :
    (σ.declare t key kind name).key? i = σ.key? i := by
  have hself : t.id ≠ i := fun heq => h (heq ▸ t.id_mem_ids)
  unfold declare
  dsimp only
  split
  · next n hn =>
    have hname : n.id ≠ i := by
      obtain ⟨c, hc, rfl⟩ := Option.map_eq_some_iff.1 hn
      exact fun heq =>
        h (heq ▸ Tree.ids_subset_of_mem (List.mem_of_find?_eq_some hc) c.2.id_mem_ids)
    rw [key?_enter, key?_assign, if_neg hname, key?_assign, if_neg hself]
  · rw [key?_enter, key?_assign, if_neg hself]

theorem isSome_binding?_iff :
    (σ.binding? key).isSome = true ↔ key ∈ σ.bindings.map Binding.key := by
  unfold binding?
  rw [List.find?_isSome]
  simp

theorem isSome_binding?_declare {other : String} :
    ((σ.declare t key kind name).binding? other).isSome = true ↔
      other = key ∨ (σ.binding? other).isSome = true := by
  have henter (τ : Ledger) : ((τ.enter ⟨key, kind, name⟩).binding? other).isSome = true ↔
      other = key ∨ (τ.binding? other).isSome = true := by
    rw [isSome_binding?_iff, isSome_binding?_iff]
    by_cases h : other = key
    · simp [enter, h]
    · -- only bindings with the key itself are replaced
      have hkept (b : Binding) (hb : b.key = other) : b.key ≠ key := hb ▸ h
      simp only [enter, List.map_cons, List.mem_cons, h, false_or, List.mem_map, List.mem_filter,
        bne_iff_ne]
      exact exists_congr fun b => ⟨fun hb => ⟨hb.1.1, hb.2⟩, fun hb => ⟨⟨hb.1, hkept b hb.2⟩, hb.2⟩⟩
  unfold declare
  dsimp only
  split <;> exact henter _

/-- What a ledger only gains: keys of some nodes, bindings and counts. -/
structure Extends (ids : List NodeId) (σ τ : Ledger) : Prop where
  key : ∀ i, i ∉ ids → τ.key? i = σ.key? i
  bound : ∀ key, (σ.binding? key).isSome = true → (τ.binding? key).isSome = true
  count : ∀ key, σ.countOf key ≤ τ.countOf key

theorem Extends.refl (ids : List NodeId) (σ : Ledger) : Extends ids σ σ :=
  ⟨fun _ _ => rfl, fun _ h => h, fun _ => Nat.le_refl _⟩

theorem Extends.trans {ids : List NodeId} {σ τ υ : Ledger} (h : Extends ids σ τ)
    (h' : Extends ids τ υ) : Extends ids σ υ :=
  ⟨fun i hi => (h'.key i hi).trans (h.key i hi), fun key hkey => h'.bound key (h.bound key hkey),
    fun key => Nat.le_trans (h.count key) (h'.count key)⟩

theorem extends_count (ids : List NodeId) (key : String) : Extends ids σ (σ.count key).2 := by
  refine ⟨fun _ _ => rfl, fun _ h => h, fun other => ?_⟩
  rw [countOf_count]
  split
  · next h => exact h ▸ Nat.le_succ _
  · exact Nat.le_refl _

theorem extends_declare : Extends t.ids σ (σ.declare t key kind name) :=
  ⟨fun _ hi => key?_declare_of_notMem hi, fun _ h => isSome_binding?_declare.2 (.inr h),
    fun other => Nat.le_of_eq (countOf_declare other).symm⟩

end Ledger

/-! ## Origins in a ledger -/

/-- What the number of an origin counts, with the number. -/
def Origin.counter? : Origin → Option (String × Nat)
  | .innerType outer (some n) _ => some (outer, n)
  | .localVariable member name (some n) => some (localKey member name none, n)
  | _ => none

/-- An origin whose number was counted. -/
def Origin.Counted (σ : Ledger) (o : Origin) : Prop :=
  ∀ key n, o.counter? = some (key, n) → n ≤ σ.countOf key

theorem Origin.Counted.mono {σ τ : Ledger} {ids : List NodeId} (h : σ.Extends ids τ) {o : Origin}
    (ho : o.Counted σ) : o.Counted τ :=
  fun key n hkey => Nat.le_trans (ho key n hkey) (h.count key)

/-- The origin of an open declaration in a scope. -/
def openOrigin (scope : Scope) (t : Tree) : Origin :=
  match role t.kind, scope.owner with
  | .type, some outer => .innerType outer none (declaredName t)
  | .type, none => .unitType scope.package (declaredName t)
  | .enumConstant, _ => .memberVariable scope.ownerName (declaredName t)
  | _, some owner => .memberVariable owner (declaredName t)
  | _, none => .looseVariable (declaredName t)

/-- A declaration in the log of a walk. -/
structure Entry where
  site : Site
  origin : Origin

/-- A scope spells out a place: the type around has a logged key. -/
structure Stands (log : List Entry) (scope : Scope) (place : Place) : Prop where
  package : scope.package = place.package
  member : scope.member.isSome = place.inMember
  owner : Option.Rel (fun binary owner =>
    ∃ e ∈ log, e.site.id = owner ∧ e.origin.key = typeKey binary) scope.owner place.owner

/-- The origin of a declaration is the one of its name and its holder if
it is open, and private if it is closed. -/
structure Fits (a : Arena) (log : List Entry) (e : Entry) : Prop where
  openSite : e.site.isOpen a = true →
    ∃ scope, Stands log scope e.site.place ∧ e.origin = openOrigin scope e.site.tree
  closedSite : e.site.isOpen a = false → e.origin.isPrivate = true

/-- What holds of a ledger and the log of the walk that has filled it. -/
structure Logged (a : Arena) (log : List Entry) (σ : Ledger) : Prop where
  key : ∀ e ∈ log, σ.key? e.site.id = some e.origin.key
  bound : ∀ e ∈ log, (σ.binding? e.origin.key).isSome = true
  counted : ∀ e ∈ log, e.origin.Counted σ
  plain : ∀ e ∈ log, e.origin.Plain
  fits : ∀ e ∈ log, Fits a log e
  apart : log.Pairwise fun d e => d.origin = e.origin → d.origin.isPrivate = false

section Growth

variable {a : Arena} {log log' : List Entry} {σ τ : Ledger}

theorem Stands.mono (hsub : log ⊆ log') {scope : Scope} {place : Place}
    (h : Stands log scope place) : Stands log' scope place := by
  obtain ⟨hpackage, hmember, howner⟩ := h
  refine ⟨hpackage, hmember, ?_⟩
  generalize scope.owner = binary, place.owner = owner at howner
  cases howner with
  | none => exact .none
  | some h =>
    obtain ⟨e, he, hkey⟩ := h
    exact .some ⟨e, hsub he, hkey⟩

theorem Fits.mono (hsub : log ⊆ log') {e : Entry} (h : Fits a log e) : Fits a log' e := by
  refine ⟨fun hopen => ?_, h.closedSite⟩
  obtain ⟨scope, hscope, heq⟩ := h.openSite hopen
  exact ⟨scope, hscope.mono hsub, heq⟩

/-- What is logged stays true of a ledger that has gained keys of other
nodes only. -/
theorem Logged.mono {ids : List NodeId} (h : Logged a log σ) (hext : σ.Extends ids τ)
    (hfresh : ∀ e ∈ log, e.site.id ∉ ids) : Logged a log τ where
  key e he := (hext.key _ (hfresh e he)).trans (h.key e he)
  bound e he := hext.bound _ (h.bound e he)
  counted e he := (h.counted e he).mono hext
  plain := h.plain
  fits := h.fits
  apart := h.apart

/-- **One more declaration**, under an origin that no logged declaration
has if it is private. -/
theorem Logged.declare {site : Site} {o : Origin} {kind : BindingKind} {name : String}
    (h : Logged a log σ) (hfresh : ∀ e ∈ log, e.site.id ∉ site.tree.ids) (hcounted : o.Counted σ)
    (hplain : o.Plain) (hfits : Fits a log ⟨site, o⟩)
    (hnew : o.isPrivate = true → ∀ e ∈ log, e.origin ≠ o) :
    Logged a (log ++ [⟨site, o⟩]) (σ.declare site.tree o.key kind name) := by
  have hlogged := h.mono (@Ledger.extends_declare σ site.tree o.key name kind) hfresh
  have hsub : log ⊆ log ++ [⟨site, o⟩] := List.subset_append_left _ _
  have hall {P : Entry → Prop} (hold : ∀ e ∈ log, P e) (hone : P ⟨site, o⟩) :
      ∀ e ∈ log ++ [⟨site, o⟩], P e := by
    intro e he
    rcases List.mem_append.1 he with he | he
    · exact hold e he
    · exact List.mem_singleton.1 he ▸ hone
  constructor
  case key => exact hall hlogged.key Ledger.key?_declare_self
  case bound => exact hall hlogged.bound (Ledger.isSome_binding?_declare.2 (.inl rfl))
  case counted => exact hall hlogged.counted (hcounted.mono Ledger.extends_declare)
  case plain => exact hall h.plain hplain
  case fits => exact hall (fun e he => (h.fits e he).mono hsub) (hfits.mono hsub)
  case apart =>
    refine List.pairwise_append.2 ⟨h.apart, List.pairwise_singleton _ _, fun d hd e he heq => ?_⟩
    rw [List.mem_singleton.1 he] at heq
    by_contra hprivate
    rw [Bool.not_eq_false, heq] at hprivate
    exact hnew hprivate d hd heq

end Growth

end Binding

end TreeBridge
