import Mathlib.Data.List.Chain
import Mathlib.Data.List.Nodup
import TreeBridge.Proofs.Foreign.Ids
/-!
# The index of a tree with distinct ids

Where no two subtrees of a root share an id, the index of the root is
exact: it finds every subtree by its id, it finds the parent of every
subtree but the root, and the path of a subtree leads from it to the root
through parents alone.
-/

namespace TreeBridge

namespace Foreign

/-- The first entry with a key is the one entry that has it. -/
theorem find?_key_of_mem {α : Type} {key : α → Nat} {entries : List α} {a : α}
    (hnodup : (entries.map key).Nodup) (ha : a ∈ entries) :
    entries.find? (fun b => key b == key a) = some a := by
  cases hfind : entries.find? (fun b => key b == key a) with
  | none => exact absurd (beq_self_eq_true (key a)) (List.find?_eq_none.1 hfind a ha)
  | some b =>
    have hkey : key b = key a := by simpa using List.find?_some hfind
    rw [List.inj_on_of_nodup_map hnodup (List.mem_of_find?_eq_some hfind) ha hkey]

namespace Tree

variable {t u c : Tree}

/-- All subtrees but the root are children of subtrees. -/
theorem flatMap_children_perm (t : Tree) :
    (t :: t.lastFirst.flatMap children).Perm t.lastFirst := by
  induction t using preorder.induct with
  | case1 t ih =>
    have hbelow : (t.children.reverse.flatMap fun c => c :: c.lastFirst.flatMap children).Perm
        (t.children.reverse.flatMap lastFirst) :=
      List.Perm.flatMap_left _ fun c hc => ih ⟨c, List.mem_reverse.1 hc⟩
    have hsplit := List.flatMap_append_perm t.children.reverse (fun c => [c])
      fun c => c.lastFirst.flatMap children
    rw [List.flatMap_singleton'] at hsplit
    rw [lastFirst_eq, List.flatMap_cons, List.flatMap_assoc]
    refine List.Perm.cons t (List.Perm.trans ?_ (hsplit.trans hbelow))
    exact t.children.reverse_perm.symm.append_right _

theorem length_lastFirst_lt (h : c ∈ t.children) : c.lastFirst.length < t.lastFirst.length := by
  have hsub : c.lastFirst.Sublist (t.children.reverse.map lastFirst).flatten :=
    List.sublist_flatten_of_mem (List.mem_map_of_mem (List.mem_reverse.2 h))
  rw [lastFirst_eq t, List.length_cons]
  exact Nat.lt_succ_of_le hsub.length_le

/-! ## Chains of parents -/

/-- Trees each of which is a child of the next. -/
def Ascends (ts : List Tree) : Prop :=
  ts.IsChain fun c p => c ∈ p.children

variable {root : Tree} {above : List Tree}

/-- From every subtree a chain of parents leads to the root. -/
theorem Subtree.exists_ascends (h : Subtree u t) :
    ∃ above, Ascends (u :: above) ∧ (u :: above).getLast? = some t := by
  induction h with
  | refl => exact ⟨[], List.isChain_singleton u, rfl⟩
  | @child c t hc _ ih =>
    obtain ⟨above, hchain, hlast⟩ := ih
    refine ⟨above ++ [t], ?_, List.getLast?_concat (l := u :: above)⟩
    refine List.isChain_append.2 ⟨hchain, List.isChain_singleton t, fun x hx y hy => ?_⟩
    obtain rfl := Option.some.inj (hlast.symm.trans hx)
    obtain rfl := Option.some.inj hy
    exact hc

theorem Ascends.subtree (h : Ascends (u :: above)) (hlast : (u :: above).getLast? = some root) :
    Subtree u root := by
  induction above generalizing u with
  | nil =>
    obtain rfl := Option.some.inj hlast
    exact .refl
  | cons p above ih =>
    obtain ⟨hc, hchain⟩ := List.isChain_cons_cons.1 h
    rw [List.getLast?_cons_cons] at hlast
    exact (Subtree.of_mem hc).trans (ih hchain hlast)

/-- All trees of a chain to the root are subtrees of it. -/
theorem Ascends.subtree_of_mem (h : Ascends (u :: above))
    (hlast : (u :: above).getLast? = some root) (hc : c ∈ u :: above) : Subtree c root := by
  obtain ⟨below, rest, hsplit⟩ := List.append_of_mem hc
  rw [hsplit] at h hlast
  rw [List.getLast?_append_cons] at hlast
  exact Ascends.subtree (List.isChain_append.1 h).2.1 hlast

/-- A chain of parents is shorter than the visit of its end. -/
theorem Ascends.length_lt (h : Ascends (u :: above))
    (hlast : (u :: above).getLast? = some root) : above.length < root.lastFirst.length := by
  have hlonger : above.length + u.lastFirst.length ≤ root.lastFirst.length := by
    induction above generalizing u with
    | nil =>
      obtain rfl := Option.some.inj hlast
      exact Nat.le_of_eq (Nat.zero_add _)
    | cons p above ih =>
      obtain ⟨hc, hchain⟩ := List.isChain_cons_cons.1 h
      rw [List.getLast?_cons_cons] at hlast
      have := ih hchain hlast
      have := length_lastFirst_lt hc
      rw [List.length_cons]
      omega
  have hself : 0 < u.lastFirst.length := by
    rw [lastFirst_eq]
    exact Nat.succ_pos _
  omega

end Tree

namespace Index

open Foreign.Tree (Subtree Ascends)

variable {root u p : Tree} {above : List Tree}

/-! ## What the index holds -/

/-- The links lead from the id of every subtree but the root. -/
theorem keys_links_perm (root : Tree) :
    (root.id :: (ofTree root).links.map (·.1)).Perm (root.lastFirst.map Tree.id) := by
  have hkeys : (ofTree root).links.map (·.1) =
      ((root.lastFirst.flatMap Tree.children).map Tree.id).reverse := by
    rw [ofTree, List.map_reverse, List.map_flatMap, List.map_flatMap]
    simp only [List.map_map, Function.comp_def]
  rw [hkeys]
  exact ((List.reverse_perm _).cons root.id).trans (root.flatMap_children_perm.map Tree.id)

theorem length_links (root : Tree) : (ofTree root).links.length + 1 = root.lastFirst.length := by
  have hlength := (keys_links_perm root).length_eq
  simpa using hlength

theorem mem_links (hp : Subtree p root) (hu : u ∈ p.children) :
    (u.id, p) ∈ (ofTree root).links :=
  List.mem_reverse.2 (List.mem_flatMap.2
    ⟨p, Tree.mem_lastFirst_iff.2 hp, List.mem_map_of_mem hu⟩)

variable (hnodup : root.ids.Nodup)
include hnodup

theorem nodup_visited : ((ofTree root).visited.map Tree.id).Nodup := by
  rw [ofTree, List.map_reverse, List.nodup_reverse]
  exact root.ids_perm.nodup_iff.1 hnodup

theorem nodup_keys : (root.id :: (ofTree root).links.map (·.1)).Nodup :=
  (keys_links_perm root).nodup_iff.2 (root.ids_perm.nodup_iff.1 hnodup)

/-- **Every subtree is found by its id.** -/
theorem get?_id (hu : Subtree u root) : (ofTree root).get? u.id = some u :=
  find?_key_of_mem (nodup_visited hnodup) (List.mem_reverse.2 (Tree.mem_lastFirst_iff.2 hu))

theorem parentId?_id (hp : Subtree p root) (hu : u ∈ p.children) :
    (ofTree root).parentId? u.id = some p.id := by
  have hfind := find?_key_of_mem (List.nodup_cons.1 (nodup_keys hnodup)).2 (mem_links hp hu)
  rw [parentId?, hfind]
  rfl

theorem parentId?_root : (ofTree root).parentId? root.id = none := by
  have hroot := (List.nodup_cons.1 (nodup_keys hnodup)).1
  rw [parentId?, Option.map_eq_none_iff, List.find?_eq_none]
  intro link hlink hkey
  exact hroot (List.mem_map.2 ⟨link, hlink, by simpa using hkey⟩)

/-- **The parent of a subtree is the tree that it is a child of.** -/
theorem parent?_id (hp : Subtree p root) (hu : u ∈ p.children) :
    (ofTree root).parent? u.id = some p := by
  rw [parent?, parentId?_id hnodup hp hu]
  exact get?_id hnodup hp

/-- **Only the root has no parent.** -/
theorem parent?_eq_none_iff (hu : Subtree u root) :
    (ofTree root).parent? u.id = none ↔ u = root := by
  constructor
  · intro hnone
    obtain ⟨above, hchain, hlast⟩ := hu.exists_ascends
    cases above with
    | nil => exact Option.some.inj hlast
    | cons p above =>
      obtain ⟨hc, hchain⟩ := List.isChain_cons_cons.1 hchain
      rw [List.getLast?_cons_cons] at hlast
      rw [parent?_id hnodup (Ascends.subtree hchain hlast) hc] at hnone
      cases hnone
  · rintro rfl
    rw [parent?, parentId?_root hnodup]
    rfl

/-! ## Paths -/

/-- A chain of parents up to the root is found where it fits. -/
theorem ancestorsWithin_id {height : Nat} (hchain : Ascends (u :: above))
    (hlast : (u :: above).getLast? = some root) (hfits : above.length ≤ height) :
    (ofTree root).ancestorsWithin height u.id = some above := by
  induction above generalizing u height with
  | nil =>
    obtain rfl : u = root := Option.some.inj hlast
    cases height with
    | zero => rfl
    | succ height => rw [ancestorsWithin, parentId?_root hnodup]
  | cons p above ih =>
    obtain ⟨hc, hchain⟩ := List.isChain_cons_cons.1 hchain
    rw [List.getLast?_cons_cons] at hlast
    have hp := Ascends.subtree hchain hlast
    cases height with
    | zero => cases hfits
    | succ height =>
      have habove := ih hchain hlast (Nat.le_of_succ_le_succ hfits)
      rw [ancestorsWithin, parentId?_id hnodup hp hc]
      dsimp only
      rw [get?_id hnodup hp, habove]

/-- The path of a tree is the chain of parents that leads from it to the
root. -/
theorem path?_id (hchain : Ascends (u :: above)) (hlast : (u :: above).getLast? = some root) :
    (ofTree root).path? u.id = some ⟨u, above⟩ := by
  have hfits : above.length ≤ (ofTree root).links.length := by
    have := hchain.length_lt hlast
    have := length_links root
    omega
  have hu := Ascends.subtree hchain hlast
  rw [path?, get?_id hnodup hu, ancestorsWithin_id hnodup hchain hlast hfits]

/-- **The path of a subtree leads from it to the root.** -/
theorem exists_path?_id (hu : Subtree u root) :
    ∃ path, (ofTree root).path? u.id = some path ∧ path.leaf = u ∧
      path.trees.getLast? = some root ∧ Ascends path.trees := by
  obtain ⟨above, hchain, hlast⟩ := hu.exists_ascends
  exact ⟨⟨u, above⟩, path?_id hnodup hchain hlast, rfl, hlast, hchain⟩

end Index

end Foreign

end TreeBridge
