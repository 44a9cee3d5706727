import TreeBridge.Binding.Reference
import TreeBridge.Proofs.Unified.Enlarging
/-!
# Constructors and the types they belong to

A constructor is settled when it is a member of the body of a type and
has the name of that type. Once settled it stays so while the arena grows.
While the members of a body are made, one constructor at a time is not
settled yet: the one that is to become the next member.
-/

namespace TreeBridge

namespace Unified

open Binding (nameOf?)

/-- Whether a node declares a constructor. -/
def NodeKind.isConstructor : NodeKind → Bool
  | methodDeclaration isConstructor _ => isConstructor
  | _ => false

/-- A node has the body of a type with a name: it declares that type, or it
is an anonymous class, whose name is empty. -/
inductive HasBodyOf (a : Arena) (owner : NodeId) : String → Prop
  | declared {name : String} (hkind : (a.kind owner).isTypeDeclaration = true)
    (hname : nameOf? a owner = some name) : HasBodyOf a owner name
  | anonymous (hkind : a.kind owner = .anonymousClassDeclaration) : HasBodyOf a owner ""

/-- A node is a member of the body of a type and has the name of that
type. -/
structure Settled (a : Arena) (owner : NodeId) (name : String) (i : NodeId) : Prop where
  member : i ∈ a.list owner .bodyDeclarations
  body : HasBodyOf a owner name
  name : nameOf? a i = some name

/-- From `a` to `b` the arena grows, and every constructor that is made is
settled. -/
structure Settles (a b : Arena) : Prop extends Enlarges a b where
  settled : ∀ i, a.size ≤ i → (b.kind i).isConstructor = true → ∃ owner name, Settled b owner name i

/-- From `a` to `b` the arena grows, and every constructor that is made is
settled, or else it is the node that is offered as a member of a type with
a name, and has this name. -/
structure Offers (name : String) (offered : Option NodeId) (a b : Arena) : Prop
    extends Enlarges a b where
  settled : ∀ i, a.size ≤ i → (b.kind i).isConstructor = true →
    (∃ owner name, Settled b owner name i) ∨ offered = some i ∧ nameOf? b i = some name

variable {a b c : Arena} {owner i : NodeId} {name : String}

theorem Enlarges.nameOf?_eq_some (h : Enlarges a b) (hname : nameOf? a i = some name) :
    nameOf? b i = some name := by
  obtain ⟨n, hn, hident⟩ := Option.bind_eq_some_iff.1 hname
  rw [nameOf?, h.child?_eq_some (by decide) hn]
  exact h.identifier?_eq_some hident

theorem HasBodyOf.lt_size (h : HasBodyOf a owner name) : owner < a.size := by
  rcases Nat.lt_or_ge owner a.size with hlt | hge
  · exact hlt
  · have hkind : a.kind owner = .compilationUnit := by
      rw [Arena.kind, Arena.node_of_size_le hge]
      rfl
    cases h <;> simp_all [NodeKind.isTypeDeclaration]

theorem HasBodyOf.enlarged (h : HasBodyOf a owner name) (hab : Enlarges a b) :
    HasBodyOf b owner name := by
  have hkind := hab.kind owner h.lt_size
  cases h with
  | declared hk hname => exact .declared (hkind ▸ hk) (hab.nameOf?_eq_some hname)
  | anonymous hk => exact .anonymous (hkind.trans hk)

theorem Settled.enlarged (h : Settled a owner name i) (hab : Enlarges a b) :
    Settled b owner name i :=
  ⟨hab.mem_list h.member, h.body.enlarged hab, hab.nameOf?_eq_some h.name⟩

/-- An id that addresses no node is no constructor. -/
theorem isConstructor_of_size_le (h : a.size ≤ i) : (a.kind i).isConstructor = false := by
  rw [Arena.kind, Arena.node_of_size_le h]
  rfl

namespace Settles

/-- Nothing is made. -/
theorem of_enlarges (h : Enlarges a b) (hsize : b.size = a.size) : Settles a b :=
  ⟨h, fun i hi hc => by
    rw [isConstructor_of_size_le (hsize ▸ hi)] at hc
    cases hc⟩

theorem refl (a : Arena) : Settles a a :=
  of_enlarges (Enlarges.refl a) rfl

theorem trans (h : Settles a b) (h' : Settles b c) : Settles a c where
  toEnlarges := h.toEnlarges.trans h'.toEnlarges
  settled i hi hc := by
    rcases Nat.lt_or_ge i b.size with hlt | hge
    · rw [h'.kind i hlt] at hc
      obtain ⟨owner, name, hsettled⟩ := h.settled i hi hc
      exact ⟨owner, name, hsettled.enlarged h'.toEnlarges⟩
    · exact h'.settled i hge hc

theorem alloc {kind : NodeKind} (span : Span) (hk : kind.isConstructor = false) :
    Settles a (a.alloc kind span).2 where
  toEnlarges := Enlarges.alloc kind span
  settled i hi hc := by
    rcases Nat.eq_or_lt_of_le hi with rfl | hlt
    · rw [Arena.kind, Arena.node_alloc_self, hk] at hc
      cases hc
    · rw [isConstructor_of_size_le (by rw [Arena.size_alloc]; omega)] at hc
      cases hc

/-- Whatever is offered, nothing has to be settled. -/
theorem offers (h : Settles a b) (name : String) (offered : Option NodeId) :
    Offers name offered a b :=
  ⟨h.toEnlarges, fun i hi hc => Or.inl (h.settled i hi hc)⟩

end Settles

namespace Offers

variable {offered : Option NodeId}

/-- With nothing on offer, all is settled. -/
theorem settles (h : Offers name none a b) : Settles a b :=
  ⟨h.toEnlarges, fun i hi hc => (h.settled i hi hc).resolve_right fun ho => by cases ho.1⟩

/-- **What is offered is settled as a member** of a type with the name. -/
theorem settlesMember {child : NodeId} (h : Offers name (some child) a b)
    (howner : HasBodyOf b owner name) :
    Settles a (b.addChild owner .bodyDeclarations child) where
  toEnlarges := h.toEnlarges.trans (Enlarges.addChild owner _ child)
  settled i hi hc := by
    have hgrow : Enlarges b (b.addChild owner .bodyDeclarations child) :=
      Enlarges.addChild owner _ child
    rw [Arena.kind_addChild] at hc
    rcases h.settled i hi hc with ⟨owner', name', hsettled⟩ | ⟨hi, hname⟩
    · exact ⟨owner', name', hsettled.enlarged hgrow⟩
    · obtain rfl : child = i := Option.some.inj hi
      refine ⟨owner, name, ?_, howner.enlarged hgrow, hgrow.nameOf?_eq_some hname⟩
      rw [Arena.list_addChild_self howner.lt_size]
      exact List.mem_append_right _ (List.mem_singleton_self child)

end Offers

end Unified

end TreeBridge
