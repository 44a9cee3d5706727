import Mathlib.Data.List.Pairwise
import TreeBridge.Binding.Declaration
import TreeBridge.Proofs.Unified.Unfolding
/-!
# Where declarations stand

A place says what is around a node of a unit in terms of nodes: the type
around it, and whether a member of that type is around it as well. A
declaration is open when only a type or a package holds it: a member of a
type, a type of its own, and every variable that neither a method nor an
initializer is around, such as the parameter of a function that a field
starts with. What stands inside a member is closed, unless it is a field
by its place.
-/

namespace TreeBridge

namespace Binding

open Unified (Arena NodeId NodeKind Tree)

/-! ## Places -/

/-- What a node is to the declarations of a unit. -/
inductive Role
  | package
  | type
  | anonymousType
  | method
  | annotationMember
  | initializer
  | enumConstant
  | var
  | other
  deriving DecidableEq

/-- What the nodes of a kind are to the declarations of a unit. -/
def role : NodeKind → Role
  | .packageDeclaration => .package
  | .typeDeclaration _ | .enumDeclaration | .recordDeclaration | .annotationTypeDeclaration => .type
  | .anonymousClassDeclaration => .anonymousType
  | .methodDeclaration _ _ => .method
  | .annotationTypeMemberDeclaration => .annotationMember
  | .initializer => .initializer
  | .enumConstantDeclaration => .enumConstant
  | .variableDeclarationFragment _ | .singleVariableDeclaration _ _ => .var
  | _ => .other

/-- What is around a node: the package of the unit as a path, the nearest
type, and whether a method or an initializer of that type is between. -/
structure Place where
  package : String
  owner : Option NodeId
  inMember : Bool
  deriving DecidableEq

/-- The place of a whole unit. -/
def Place.top : Place := ⟨"", none, false⟩

/-- The place inside a node; `none` for a node below which nothing is
declared. -/
def Place.inside? (place : Place) (t : Tree) : Option Place :=
  match role t.kind with
  | .package | .annotationMember => none
  | .type | .anonymousType => some { place with owner := some t.id, inMember := false }
  | .method | .initializer => some { place with inMember := true }
  | .enumConstant | .var | .other => some place

/-- The place inside a unit with a package clause, behind the clause. -/
def Place.packaged (place : Place) (t : Tree) : Place :=
  match t.kind, t.child? .package with
  | .compilationUnit, some clause => { place with package := pathOf (packageName clause) }
  | _, _ => place

/-- The subtrees of a node in the order they are visited, with whether
they stand behind the package clause. -/
def branches (t : Tree) : List (Bool × Tree) :=
  match leading? t with
  | some clause =>
    (false, clause) :: ((t.children.map (·.2)).filter fun u => u.id != clause.id).map (true, ·)
  | none => (t.children.map (·.2)).map (true, ·)

theorem mem_children_of_leading? {t u : Tree} (h : leading? t = some u) :
    u ∈ t.children.map (·.2) := by
  unfold leading? at h
  split at h
  · obtain ⟨c, hc, rfl⟩ := Option.map_eq_some_iff.1 h
    exact List.mem_map_of_mem (List.mem_of_find?_eq_some hc)
  · cases h

theorem mem_children_of_mem_branches {t : Tree} {b : Bool × Tree} (h : b ∈ branches t) :
    b.2 ∈ t.children.map (·.2) := by
  unfold branches at h
  split at h
  · next clause hclause =>
    rcases List.mem_cons.1 h with rfl | h
    · exact mem_children_of_leading? hclause
    · obtain ⟨u, hu, rfl⟩ := List.mem_map.1 h
      exact (List.mem_filter.1 hu).1
  · obtain ⟨u, hu, rfl⟩ := List.mem_map.1 h
    exact hu

theorem sizeOf_lt_of_mem_branches {t : Tree} {b : Bool × Tree} (h : b ∈ branches t) :
    sizeOf b.2 < sizeOf t := by
  obtain ⟨c, hc, hb⟩ := List.mem_map.1 (mem_children_of_mem_branches h)
  exact hb ▸ Tree.sizeOf_lt_of_mem hc

theorem ids_subset_of_mem_branches {t : Tree} {b : Bool × Tree} (h : b ∈ branches t) :
    b.2.ids ⊆ t.ids := by
  obtain ⟨c, hc, hb⟩ := List.mem_map.1 (mem_children_of_mem_branches h)
  exact hb ▸ Tree.ids_subset_of_mem hc

theorem nodup_ids_of_mem_branches {t : Tree} (hnodup : t.ids.Nodup) {b : Bool × Tree}
    (h : b ∈ branches t) : b.2.ids.Nodup := by
  obtain ⟨c, hc, hb⟩ := List.mem_map.1 (mem_children_of_mem_branches h)
  exact hb ▸ Tree.nodup_ids_of_mem hnodup hc

theorem id_notMem_ids_of_mem_branches {t : Tree} (hnodup : t.ids.Nodup) {b : Bool × Tree}
    (h : b ∈ branches t) : t.id ∉ b.2.ids := by
  obtain ⟨c, hc, hb⟩ := List.mem_map.1 (mem_children_of_mem_branches h)
  exact hb ▸ Tree.id_notMem_ids_of_mem hnodup hc

/-- Different branches have no node in common. -/
theorem pairwise_disjoint_branches {t : Tree} (hnodup : t.ids.Nodup) :
    (branches t).Pairwise fun b c => b.2.ids.Disjoint c.2.ids := by
  have hchildren : (t.children.map (·.2)).Pairwise fun u v => u.ids.Disjoint v.ids :=
    List.pairwise_map.2 (Tree.pairwise_disjoint_children hnodup)
  unfold branches
  split
  · next clause hclause =>
    refine List.pairwise_cons.2 ⟨fun b hb => ?_, List.pairwise_map.2 (hchildren.filter _)⟩
    obtain ⟨u, hu, rfl⟩ := List.mem_map.1 hb
    obtain ⟨hu, hne⟩ := List.mem_filter.1 hu
    -- the clause is a child as well, and a different one
    have : Std.Symm fun u v : Tree => u.ids.Disjoint v.ids := ⟨fun _ _ h i hv hu => h hu hv⟩
    refine hchildren.forall (mem_children_of_leading? hclause) hu ?_
    rintro rfl
    simp at hne
  · exact List.pairwise_map.2 hchildren

/-! ## Sites -/

/-- A node and the place where it stands. -/
structure Site where
  place : Place
  tree : Tree

/-- Every node of a tree that is visited, in the order of the visits. -/
def sites (place : Place) (t : Tree) : List Site :=
  ⟨place, t⟩ ::
    match place.inside? t with
    | none => []
    | some inner =>
      (branches t).attach.flatMap fun b =>
        sites (if b.1.1 then inner.packaged t else inner) b.1.2
termination_by sizeOf t
decreasing_by exact sizeOf_lt_of_mem_branches b.2

theorem sites_of_none {place : Place} {t : Tree} (h : place.inside? t = none) :
    sites place t = [⟨place, t⟩] := by
  rw [sites, h]

theorem sites_of_some {place inner : Place} {t : Tree} (h : place.inside? t = some inner) :
    sites place t = ⟨place, t⟩ ::
      (branches t).flatMap fun b => sites (if b.1 then inner.packaged t else inner) b.2 := by
  rw [sites, h]
  dsimp only
  congr 1
  conv_rhs => rw [← List.attach_map_subtype_val (branches t), List.flatMap_map]

theorem id_mem_ids_of_mem_sites {place : Place} {t : Tree} {site : Site}
    (h : site ∈ sites place t) : site.tree.id ∈ t.ids := by
  induction place, t using sites.induct with
  | case1 place t ih =>
    cases hinside : place.inside? t with
    | none =>
      rw [sites_of_none hinside, List.mem_singleton] at h
      exact h ▸ t.id_mem_ids
    | some inner =>
      rw [sites_of_some hinside] at h
      rcases List.mem_cons.1 h with rfl | h
      · exact t.id_mem_ids
      · obtain ⟨b, hb, h⟩ := List.mem_flatMap.1 h
        exact ids_subset_of_mem_branches hb (ih inner ⟨b, hb⟩ h)

namespace Site

/-- The id of the node at a site. -/
def id (site : Site) : NodeId :=
  site.tree.id

/-- The name that is declared at a site. -/
def name (site : Site) : String :=
  declaredName site.tree

/-- Whether a site declares a type or a variable. -/
def declares (site : Site) : Bool :=
  match role site.tree.kind with
  | .type | .anonymousType | .enumConstant | .var => true
  | _ => false

/-- Whether a site declares a type. -/
def isType (site : Site) : Bool :=
  match role site.tree.kind with
  | .type | .anonymousType => true
  | _ => false

/-- Whether nothing but a type or a package holds a declaration: an enum
constant, a field, a variable that no member is around, and a type that
no member of another type is around. -/
def isOpen (a : Arena) (site : Site) : Bool :=
  match role site.tree.kind with
  | .enumConstant => true
  | .var => isFieldPlace a site.id || !site.place.inMember
  | .type => site.place.owner.isNone || !site.place.inMember
  | _ => false

end Site

/-- What holds an open declaration. -/
inductive Holder
  | type (key : String)
  | package (path : String)
  deriving DecidableEq

/-- The holder of an open declaration: the type around it, by its key. A
type that no type is around is held by its package, a variable by none,
and an enum constant by a type without a name. -/
def Site.holder (σ : Ledger) (site : Site) : Holder :=
  match site.place.owner, role site.tree.kind with
  | some owner, _ => .type ((σ.key? owner).getD "")
  | none, .enumConstant => .type (typeKey "")
  | none, .type => .package site.place.package
  | none, _ => .package ""

/-- Two declarations that nothing sets apart: both are open, and they are
types or variables of one name and one holder. -/
structure SharesName (a : Arena) (σ : Ledger) (d e : Site) : Prop where
  left : d.isOpen a = true
  right : e.isOpen a = true
  isType : d.isType = e.isType
  name : d.name = e.name
  holder : d.holder σ = e.holder σ

end Binding

end TreeBridge
