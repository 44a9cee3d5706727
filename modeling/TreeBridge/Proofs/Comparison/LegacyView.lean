import TreeBridge.Proofs.Comparison.Symmetry
import TreeBridge.Proofs.Unified.Names
/-!
# Comparing what the legacy view shows

In legacy mode the walk for a divergence does not enter the modifiers of a
declaration and the supertypes of a type: it compares one word of flags
and the names instead. What it asks of all the other pairs of nodes is
stated for the descent that leaves these slots out. So a tree in which
modifiers and supertypes are replaced, at any number of declarations on
any depth, by others that the legacy view shows alike has no divergence
from the tree it was made of.
-/

namespace TreeBridge

namespace Comparison

open Unified

/-! ## The descent in legacy mode -/

/-- A step of the descent in legacy mode: from two nodes of one kind to
their children at one index of one slot, if the legacy view does not
replace the slot. -/
def DescendsLegacy (pair below : Tree × Tree) : Prop :=
  pair.1.kind = pair.2.kind ∧ ∃ slot ∉ legacySlots pair.1.kind, ∃ i : Nat,
    (pair.1.list slot)[i]? = some below.1 ∧ (pair.2.list slot)[i]? = some below.2

/-- The pairs of nodes that a descent in legacy mode meets. -/
def ReachedLegacy (l r p q : Tree) : Prop :=
  Relation.ReflTransGen DescendsLegacy (l, r) (p, q)

/-- What legacy mode asks of a pair that it reaches: two aligned nodes,
tolerated for each other if their kinds differ. Nodes of one kind have one
legacy view, and as many children in each slot that this view does not
replace. -/
structure AgreesLegacy (p q : Tree) : Prop where
  aligned : Aligned p q
  tolerated : p.kind ≠ q.kind → tolerated p q = true
  alike : p.kind = q.kind → LegacyAlike p q
  sizes : p.kind = q.kind → ∀ slot ∉ legacySlots p.kind,
    (p.list slot).length = (q.list slot).length

theorem reachedLegacy_self (l r : Tree) : ReachedLegacy l r l r :=
  Relation.ReflTransGen.refl

/-- A pair is reached at once, or below two children of two nodes of one
kind. -/
theorem reachedLegacy_iff {l r p q : Tree} :
    ReachedLegacy l r p q ↔ (p = l ∧ q = r) ∨
      (l.kind = r.kind ∧ ∃ slot ∉ legacySlots l.kind, ∃ (i : Nat) (x y : Tree),
        (l.list slot)[i]? = some x ∧ (r.list slot)[i]? = some y ∧ ReachedLegacy x y p q) := by
  constructor
  · intro h
    rcases Relation.ReflTransGen.cases_head h with
      heq | ⟨⟨x, y⟩, ⟨hkind, slot, hslot, i, hx, hy⟩, hrest⟩
    · obtain ⟨rfl, rfl⟩ := Prod.mk.inj heq
      exact .inl ⟨rfl, rfl⟩
    · exact .inr ⟨hkind, slot, hslot, i, x, y, hx, hy, hrest⟩
  · rintro (⟨rfl, rfl⟩ | ⟨hkind, slot, hslot, i, x, y, hx, hy, hrest⟩)
    · exact reachedLegacy_self _ _
    · exact Relation.ReflTransGen.head ⟨hkind, slot, hslot, i, hx, hy⟩ hrest

/-- What the walk for a divergence asks of two nodes and of their children
in legacy mode. -/
theorem divergenceBelow_legacy_iff_paired {steps : List String} {l r : Tree} :
    divergenceBelow true steps l r = none ↔
      (Aligned l r ∧ if l.kind = r.kind then LegacyAlike l r else tolerated l r = true) ∧
        (l.kind = r.kind → ∀ slot ∉ legacySlots l.kind, Paired (fun i x y => divergenceBelow true
          (steps ++ [step slot i (l.list slot).length]) x y = none)
            (l.list slot) (r.list slot)) := by
  rw [divergenceBelow_eq_none_iff_paired, rootCause?_eq_none_iff_alike]
  refine and_congr (by simp) ⟨fun h hkind slot hslot => ?_, fun h slot hslot => ?_⟩
  · by_cases hshared : slot ∈ l.slots ∨ slot ∈ r.slots
    · exact h slot (mem_comparedSlots.2 ⟨hkind, hshared, fun hlegacy => hslot hlegacy.2⟩)
    -- a slot that neither node has is empty
    · rw [not_or] at hshared
      rw [list_eq_nil_of_not_mem_slots hshared.1, list_eq_nil_of_not_mem_slots hshared.2]
      exact paired_nil
  · obtain ⟨hkind, -, hlegacy⟩ := mem_comparedSlots.1 hslot
    exact h hkind slot fun hmem => hlegacy ⟨rfl, hmem⟩

/-- **What legacy mode looks at**: a walk in legacy mode finds no
divergence, whatever the steps above it, exactly where all pairs that it
reaches agree. -/
theorem divergenceBelow_legacy_eq_none_iff (l : Tree) : ∀ (steps : List String) (r : Tree),
    divergenceBelow true steps l r = none ↔
      ∀ p q, ReachedLegacy l r p q → AgreesLegacy p q := by
  induction l using slotInduction with
  | h l ih =>
    intro steps r
    rw [divergenceBelow_legacy_iff_paired]
    constructor
    · rintro ⟨⟨haligned, hroot⟩, hbelow⟩ p q hpq
      rcases reachedLegacy_iff.1 hpq with
        ⟨rfl, rfl⟩ | ⟨hkind, slot, hslot, i, x, y, hx, hy, hrest⟩
      · refine ⟨haligned, fun hkind => ?_, fun hkind => ?_, fun hkind slot hslot => ?_⟩
        · rwa [if_neg hkind] at hroot
        · rwa [if_pos hkind] at hroot
        · exact (hbelow hkind slot hslot).1
      · have hnone := (hbelow hkind slot hslot).2 i x y hx hy
        exact (ih slot x (List.mem_of_getElem? hx) _ y).1 hnone p q hrest
    · intro h
      have hroot := h l r (reachedLegacy_self l r)
      refine ⟨⟨hroot.aligned, ?_⟩, fun hkind slot hslot =>
        ⟨hroot.sizes hkind slot hslot, fun i x y hx hy => ?_⟩⟩
      · split_ifs with hkind
        · exact hroot.alike hkind
        · exact hroot.tolerated hkind
      · refine (ih slot x (List.mem_of_getElem? hx) _ y).2 fun p q hpq => h p q ?_
        exact reachedLegacy_iff.2 (.inr ⟨hkind, slot, hslot, i, x, y, hx, hy, hpq⟩)

/-! ## Replacing what the legacy view hides -/

/-- A slot of two nodes whose contents may be any, for the legacy view
shows them alike: the modifiers of a declaration if they have one word of
flags, the superclass and the interfaces of a type if they have the same
names in the same order. -/
def Replaces (l r : Tree) : Slot → Prop
  | .modifiers => l.kind.isBodyDeclaration = true ∧ l.modifierFlags = r.modifierFlags
  | .superclassType => l.kind.isTypeDeclaration = true ∧ l.superclassName? = r.superclassName?
  | .superInterfaceTypes =>
    l.kind.isTypeDeclaration = true ∧ l.superInterfaceNames = r.superInterfaceNames
  | _ => False

/-- **A tree made of another by replacing what the legacy view hides**, at
any set of declarations. All other nodes are kept, with their kinds, spans
and flags. -/
inductive Recast : Tree → Tree → Prop
  | intro {l r : Tree} (kind : l.kind = r.kind) (span : l.span = r.span)
    (flags : l.flags = r.flags)
    (sizes : ∀ slot, ¬ Replaces l r slot → (l.list slot).length = (r.list slot).length)
    (below : ∀ slot, ¬ Replaces l r slot → ∀ (i : Nat) (x y : Tree),
      (l.list slot)[i]? = some x → (r.list slot)[i]? = some y → Recast x y) : Recast l r

variable {l r p q : Tree} {slot : Slot}

/-- Only slots that the legacy view replaces are replaced. -/
theorem Replaces.mem_legacySlots (h : Replaces l r slot) : slot ∈ legacySlots l.kind := by
  unfold Replaces at h
  unfold legacySlots
  split at h
  · simp [h.1]
  · simp [h.1]
  · simp [h.1]
  · exact h.elim

namespace Recast

theorem kind_eq : Recast l r → l.kind = r.kind
  | .intro kind .. => kind

theorem aligned : Recast l r → Aligned l r
  | .intro _ span flags .. => ⟨by rw [span], by rw [span]; simp, by rw [flags]⟩

/-- What is not replaced is kept, child by child. -/
theorem paired (h : Recast l r) (hslot : ¬ Replaces l r slot) :
    Paired (fun _ => Recast) (l.list slot) (r.list slot) := by
  obtain ⟨-, -, -, hsizes, hbelow⟩ := h
  exact ⟨hsizes slot hslot, hbelow slot hslot⟩

theorem of_paired (kind : l.kind = r.kind) (span : l.span = r.span) (flags : l.flags = r.flags)
    (h : ∀ slot, Replaces l r slot ∨ Paired (fun _ => Recast) (l.list slot) (r.list slot)) :
    Recast l r :=
  .intro kind span flags (fun slot hslot => ((h slot).resolve_left hslot).1)
    fun slot hslot => ((h slot).resolve_left hslot).2

theorem refl (t : Tree) : Recast t t := by
  induction t using slotInduction with
  | h t ih => exact of_paired rfl rfl rfl fun slot => .inr (Paired.self fun _ u hu => ih slot u hu)

/-- The first child in a slot that is never replaced is kept. -/
theorem child? {x : Tree} (h : Recast l r) (hslot : ¬ Replaces l r slot)
    (hx : l.child? slot = some x) : ∃ y, r.child? slot = some y ∧ Recast x y := by
  rcases (h.paired hslot).child? with ⟨hnone, -⟩ | ⟨x', y, hx', hy, hxy⟩
  · rw [hnone] at hx
    cases hx
  · obtain rfl := Option.some.inj (hx'.symm.trans hx)
    exact ⟨y, hy, hxy⟩

theorem symm (h : Recast l r) : Recast r l := by
  induction l using slotInduction generalizing r with
  | h l ih =>
    obtain ⟨hkind, hspan, hflags, hsizes, hbelow⟩ := h
    have hreplaces (slot : Slot) (hslot : ¬ Replaces r l slot) : ¬ Replaces l r slot := by
      refine fun h => hslot ?_
      unfold Replaces at h ⊢
      split at h
      · exact ⟨hkind ▸ h.1, h.2.symm⟩
      · exact ⟨hkind ▸ h.1, h.2.symm⟩
      · exact ⟨hkind ▸ h.1, h.2.symm⟩
      · exact h.elim
    exact .intro hkind.symm hspan.symm hflags.symm
      (fun slot hslot => (hsizes slot (hreplaces slot hslot)).symm)
      fun slot hslot i y x hy hx =>
        ih slot x (List.mem_of_getElem? hx) (hbelow slot (hreplaces slot hslot) i x y hx hy)

/-! ## Names are kept -/

theorem identifier?_eq (h : Recast l r) : l.identifier? = r.identifier? := by
  rw [Tree.identifier?, Tree.identifier?, h.kind_eq]

/-- The text of a name is read from slots that are not replaced. -/
theorem nameText?_eq_some {s : String} (h : Recast l r) (hs : l.nameText? = some s) :
    r.nameText? = some s := by
  induction l using slotInduction generalizing r s with
  | h l ih =>
    rw [Tree.nameText?_eq_some_iff] at hs ⊢
    rcases hs with hkind | ⟨hkind, qualifier, name, q, n, hq, hn, hqs, hns, rfl⟩
    · exact .inl (h.kind_eq ▸ hkind)
    · obtain ⟨qualifier', hq', hqualifier⟩ := h.child? (id : ¬ Replaces l r .qualifier) hq
      obtain ⟨name', hn', hname⟩ := h.child? (id : ¬ Replaces l r .name) hn
      exact .inr ⟨h.kind_eq ▸ hkind, qualifier', name', q, n, hq', hn',
        ih _ qualifier (mem_list_of_child? hq) hqualifier hqs,
        ih _ name (mem_list_of_child? hn) hname hns, rfl⟩

theorem typeName?_eq_some {s : String} (h : Recast l r) (hs : l.typeName? = some s) :
    r.typeName? = some s := by
  induction l using slotInduction generalizing r s with
  | h l ih =>
    rw [Tree.typeName?_eq_some_iff] at hs ⊢
    rcases hs with ⟨hkind, name, hn, hns⟩ | ⟨hkind, qualifier, name, q, n, hq, hn, hqs, hns, rfl⟩ |
      ⟨hkind, base, hb, hbs⟩
    · obtain ⟨name', hn', hname⟩ := h.child? (id : ¬ Replaces l r .name) hn
      exact .inl ⟨h.kind_eq ▸ hkind, name', hn', hname.nameText?_eq_some hns⟩
    · obtain ⟨qualifier', hq', hqualifier⟩ := h.child? (id : ¬ Replaces l r .qualifier) hq
      obtain ⟨name', hn', hname⟩ := h.child? (id : ¬ Replaces l r .name) hn
      exact .inr (.inl ⟨h.kind_eq ▸ hkind, qualifier', name', q, n, hq', hn',
        ih _ qualifier (mem_list_of_child? hq) hqualifier hqs, hname.identifier?_eq ▸ hns, rfl⟩)
    · obtain ⟨base', hb', hbase⟩ := h.child? (id : ¬ Replaces l r .type) hb
      exact .inr (.inr ⟨h.kind_eq ▸ hkind, base', hb',
        ih _ base (mem_list_of_child? hb) hbase hbs⟩)

theorem typeName?_eq (h : Recast l r) : l.typeName? = r.typeName? :=
  Option.ext fun _ => ⟨h.typeName?_eq_some, h.symm.typeName?_eq_some⟩

/-! ## The legacy view is kept -/

theorem modifierFlags_eq (h : Recast l r) (hslot : ¬ Replaces l r .modifiers) :
    l.modifierFlags = r.modifierFlags := by
  have hflags : (l.list .modifiers).map (·.kind.modifierFlag) =
      (r.list .modifiers).map (·.kind.modifierFlag) :=
    Paired.map_eq ⟨(h.paired hslot).1, fun i x y hx hy =>
      congrArg NodeKind.modifierFlag ((h.paired hslot).2 i x y hx hy).kind_eq⟩
  -- the word only depends on the words of the modifiers
  have hword (t : Tree) : t.modifierFlags =
      ((t.list .modifiers).map (·.kind.modifierFlag)).foldl (· ||| ·) 0 := List.foldl_map.symm
  rw [hword, hword, hflags]

theorem superclassName?_eq (h : Recast l r) (hslot : ¬ Replaces l r .superclassType) :
    l.superclassName? = r.superclassName? := by
  rw [Tree.superclassName?, Tree.superclassName?]
  rcases (h.paired hslot).child? with ⟨hx, hy⟩ | ⟨x, y, hx, hy, hxy⟩
  · rw [hx, hy]
  · rw [hx, hy, Option.bind_some, Option.bind_some, hxy.typeName?_eq]

theorem superInterfaceNames_eq (h : Recast l r) (hslot : ¬ Replaces l r .superInterfaceTypes) :
    l.superInterfaceNames = r.superInterfaceNames := by
  have hnames : (l.list .superInterfaceTypes).map Tree.typeName? =
      (r.list .superInterfaceTypes).map Tree.typeName? :=
    Paired.map_eq ⟨(h.paired hslot).1, fun i x y hx hy =>
      ((h.paired hslot).2 i x y hx hy).typeName?_eq⟩
  have hread (t : Tree) : t.superInterfaceNames =
      ((t.list .superInterfaceTypes).map Tree.typeName?).filterMap id := by
    rw [List.filterMap_map]
    rfl
  rw [hread, hread, hnames]

/-- A replacement is not seen in the legacy view of the node itself. -/
theorem legacyAlike (h : Recast l r) : LegacyAlike l r where
  modifierFlags _ := by
    by_cases hslot : Replaces l r .modifiers
    · exact hslot.2
    · exact h.modifierFlags_eq hslot
  superclassName? _ := by
    by_cases hslot : Replaces l r .superclassType
    · exact hslot.2
    · exact h.superclassName?_eq hslot
  superInterfaceNames _ := by
    by_cases hslot : Replaces l r .superInterfaceTypes
    · exact hslot.2
    · exact h.superInterfaceNames_eq hslot

theorem of_descendsLegacy {pair below : Tree × Tree} (h : Recast pair.1 pair.2)
    (hstep : DescendsLegacy pair below) : Recast below.1 below.2 := by
  obtain ⟨-, slot, hslot, i, hx, hy⟩ := hstep
  exact (h.paired fun hreplaces => hslot hreplaces.mem_legacySlots).2 i _ _ hx hy

/-- The pairs that are reached in legacy mode are made by replacements as
well. -/
theorem of_reachedLegacy (h : Recast l r) (hpq : ReachedLegacy l r p q) : Recast p q := by
  have hreached : ∀ {pair : Tree × Tree}, Relation.ReflTransGen DescendsLegacy (l, r) pair →
      Recast pair.1 pair.2 := by
    intro pair hpair
    induction hpair with
    | refl => exact h
    | tail _ hstep ih => exact ih.of_descendsLegacy hstep
  exact hreached hpq

theorem agreesLegacy (h : Recast l r) : AgreesLegacy l r where
  aligned := h.aligned
  tolerated hkind := absurd h.kind_eq hkind
  alike _ := h.legacyAlike
  sizes _ _ hslot := (h.paired fun hreplaces => hslot hreplaces.mem_legacySlots).1

end Recast

/-- **Legacy comparison ignores what the legacy view hides**: a tree and
one made of it by replacing modifiers and supertypes by others that the
legacy view shows alike have no divergence, whichever comes first. -/
theorem firstDivergence_legacy_recast (h : Recast l r) :
    firstDivergence true l r = none ∧ firstDivergence true r l = none := by
  have hforward : firstDivergence true l r = none :=
    (divergenceBelow_legacy_eq_none_iff l _ r).2 fun p q hpq =>
      (h.of_reachedLegacy hpq).agreesLegacy
  exact ⟨hforward, divergenceBelow_comm true l _ _ r hforward⟩

theorem paired_singleton {R : Nat → Tree → Tree → Prop} {x y : Tree} (h : R 0 x y) :
    Paired R [x] [y] := by
  refine ⟨rfl, fun i x' y' hx hy => ?_⟩
  cases i with
  | zero =>
    obtain rfl := Option.some.inj hx
    obtain rfl := Option.some.inj hy
    exact h
  | succ i => cases hx

/-- A class type without arguments. -/
def classType (name : String) : Tree :=
  .node 0 .simpleType .unset 0 [(.name, .node 0 (.simpleName name) .unset 0 [])]

/-- A class type with an argument. -/
def genericType (name argument : String) : Tree :=
  .node 0 .parameterizedType .unset 0
    [(.type, classType name), (.typeArguments, classType argument)]

/-- A method of which only the modifiers are of interest. -/
def methodUnder (modifiers : List NodeKind) : Tree :=
  .node 0 (.methodDeclaration false 0) .unset 0
    (modifiers.map fun kind => (.modifiers, .node 0 kind .unset 0 []))

/-- A class of which only the superclass and one method are of interest. -/
def classAbove (superclass method : Tree) : Tree :=
  .node 0 (.typeDeclaration false) .unset 0
    [(.superclassType, superclass), (.bodyDeclarations, method)]

/-- A class below `A` against one below `A<B>`, where the modifiers of a
method of the first are annotated, turned round and partly repeated in the
second. -/
theorem firstDivergence_legacy_recast_genericSuperclass :
    let l := classAbove (classType "A") (methodUnder [.modifier .publicAccess, .modifier .static])
    let r := classAbove (genericType "A" "B") (methodUnder
      [.annotationMarker, .modifier .static, .modifier .publicAccess, .modifier .static])
    Recast l r ∧ firstDivergence true l r = none ∧ firstDivergence true r l = none := by
  intro l r
  have hmethod : Recast (methodUnder [.modifier .publicAccess, .modifier .static])
      (methodUnder
        [.annotationMarker, .modifier .static, .modifier .publicAccess, .modifier .static]) := by
    refine .of_paired rfl rfl rfl fun slot => ?_
    cases slot
    case modifiers => exact .inl ⟨rfl, rfl⟩
    all_goals exact .inr paired_nil
  have hsuperclass : l.superclassName? = r.superclassName? := by
    have hplain : (classType "A").typeName? = some "A" := by
      rw [Tree.typeName?_eq_some_iff]
      exact .inl ⟨rfl, _, rfl, by rw [Tree.nameText?_eq_some_iff]; exact .inl rfl⟩
    have hgeneric : (genericType "A" "B").typeName? = some "A" := by
      rw [Tree.typeName?_eq_some_iff]
      exact .inr (.inr ⟨rfl, _, rfl, hplain⟩)
    exact hplain.trans hgeneric.symm
  have h : Recast l r := by
    refine .of_paired rfl rfl rfl fun slot => ?_
    cases slot
    case superclassType => exact .inl ⟨rfl, hsuperclass⟩
    case bodyDeclarations => exact .inr (paired_singleton hmethod)
    all_goals exact .inr paired_nil
  exact ⟨h, firstDivergence_legacy_recast h⟩

end Comparison

end TreeBridge
