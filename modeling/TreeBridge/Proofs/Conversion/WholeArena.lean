import TreeBridge.Conversion.Unit
import TreeBridge.Proofs.Conversion.Bodies
/-!
# A converted unit is one tree over its whole arena

The actions on a tree are tied by recursion on its size; by induction all
of them leave one loose root. A unit starts from an empty arena, so its
root is the only one in the end: every node hangs below it exactly once,
and every origin is the id of a subtree of the foreign root.
-/

namespace TreeBridge

namespace Conversion

open Foreign (Tree Shape)
open Foreign.Tree (Part Parts Subtree)
open Unified (NodeId Arena Forest)

variable {K : ℕ → Prop}

/-- **Every action on a tree leaves one loose root.** -/
theorem sound_actions (t : Tree) (hK : ∀ u, Subtree u t → K u.id) : (actions t).Sound K := by
  induction t using actions.induct with
  | case1 t ih =>
    have hb : Grounded K (fun p : Part t => actions p.1) :=
      ⟨hK, fun p hp => ih p (fun u hu => hK u (hu.trans hp))⟩
    rw [actions]
    exact ⟨yields_name hb, yields_type hb, yields_expression hb, yields_annotated hb,
      yields_statement hb, yields_typeDeclaration hb⟩

theorem grounded_actions (t : Tree) : Grounded (fun _ => True) (fun p : Part t => actions p.1) :=
  ⟨fun _ _ => trivial, fun p _ => sound_actions p.1 fun _ _ => trivial⟩

variable {t : Tree} {below : Below t}

theorem yields_packageClause (hb : Grounded K below) {p : Part t} (hp : Subtree p.1 t) :
    Yields K (packageClause below p) := by
  unfold packageClause
  split
  · next annotations name h =>
    refine (yields_alloc (hb.known _ hp) .packageDeclaration rfl).bind fun id => ?_
    refine (keeps_addEach .annotations fun q hq => ?_).bind fun _ => ?_
    · exact (hb.sound q (subtree_of_partsOf hp h (by simp [Shape.children, hq]))).annotated
    refine (keeps_addPart .name (hb.sound name ?_).name).bind fun _ => Moves.pure rfl
    exact subtree_of_partsOf hp h (by simp [Shape.children])
  · exact Moves.stop

theorem subtree_importedName {p : Part t} (hp : Subtree p.1 t) :
    Subtree (importedName p).1.1 t := by
  unfold importedName
  split
  · next selected h => exact subtree_of_partsOf hp h (by simp [Shape.children])
  · exact hp

theorem keeps_addImport (hb : Grounded K below) (owner : NodeId) {p : Part t}
    (hp : Subtree p.1 t) : Keeps K owner (addImport below owner p) := by
  unfold addImport
  split
  · next whole isStatic h =>
    have hw := subtree_of_partsOf hp h (by simp [Shape.children] : whole ∈ _)
    refine (yields_alloc (hb.known _ hp) _ (by rfl)).bindNew fun id => ?_
    refine ((keeps_addPart .name (hb.sound _ (subtree_importedName hw)).name).frame
      [owner]).bind fun _ => ?_
    exact (moves_addChild owner .imports id).permute (List.Perm.swap owner id [])
      (fun _ => List.Perm.refl _)
  · exact Moves.pure rfl

theorem keeps_addTopLevel (hb : Grounded K below) (owner : NodeId) {p : Part t}
    (hp : Subtree p.1 t) : Keeps K owner (addTopLevel below owner p) := by
  unfold addTopLevel
  split
  · exact keeps_addPart _ (hb.sound p hp).typeDeclaration
  · exact Moves.pure rfl

theorem yields_unit (hb : Grounded K below) : Yields K (unit below) := by
  unfold unit
  split
  · next clause imports members h =>
    refine keeps_read.bind fun ctx => ?_
    refine (yields_allocAt hb.root .compilationUnit _ rfl).bind fun id => ?_
    refine (keeps_addOptional .package fun p hp => ?_).bind fun _ => ?_
    · exact yields_packageClause hb (subtree_of_parts h (by simp [Shape.children, hp]))
    refine (keeps_forM fun p hp => ?_).bind fun _ => ?_
    · exact keeps_addImport hb id (subtree_of_parts h (by simp [Shape.children, hp]))
    refine (keeps_forM fun p hp => ?_).bind fun _ => Moves.pure rfl
    exact keeps_addTopLevel hb id (subtree_of_parts h (by simp [Shape.children, hp]))
  · exact Moves.stop

end Conversion

open Conversion in
/-- A converted unit is a forest with its root as the only one, and its
origins are ids of trees below the foreign root. -/
theorem loose_of_convert {source : Source} {level : Unified.Level} {root : Foreign.Tree}
    {u : ConvertedUnit} (h : convert source level root = .ok u) :
    Unified.Forest u.arena [u.root] ∧
      ∀ o ∈ u.origins, o.1 < u.arena.size ∧
        ∃ t, (Foreign.Index.ofTree root).get? o.2 = some t ∧ t.id = o.2 := by
  let K : ℕ → Prop := fun id => ∃ t, (Foreign.Index.ofTree root).get? id = some t ∧ t.id = id
  have hK : ∀ t, Foreign.Tree.Subtree t root → K t.id :=
    fun t ht => Foreign.Index.get?_of_subtree ht
  have hb : Grounded K (fun p : Foreign.Tree.Part root => actions p.1) :=
    ⟨hK, fun p hp => sound_actions p.1 fun t ht => hK t (ht.trans hp)⟩
  -- nothing is loose before a conversion, so its root is all that is loose after it
  have hstart : Loose K State.initial ([] ++ []) :=
    ⟨Unified.Forest.empty.congr rfl rfl rfl, fun o ho => by cases ho⟩
  unfold convert at h
  cases hrun : unit (fun p : Foreign.Tree.Part root => actions p.1) ⟨source, level, ""⟩
      State.initial with
  | error e =>
    rw [hrun] at h
    cases h
  | ok r =>
    obtain ⟨id, σ⟩ := r
    rw [hrun] at h
    cases h
    obtain ⟨hforest, horigins⟩ := (yields_unit hb).loose [] hstart hrun
    exact ⟨hforest, horigins⟩

/-- **A converted unit is one tree that uses its whole arena**, and every
node that came from a foreign tree came from one that the index of the
foreign root finds. -/
theorem convert_isTree {source : Source} {level : Unified.Level} {root : Foreign.Tree}
    {u : ConvertedUnit} (h : convert source level root = .ok u) :
    Unified.IsTree u.arena u.root ∧
      ∀ o ∈ u.origins, o.1 < u.arena.size ∧
        ∃ t, (Foreign.Index.ofTree root).get? o.2 = some t ∧ t.id = o.2 := by
  obtain ⟨hforest, horigins⟩ := loose_of_convert h
  exact ⟨hforest.isTree, horigins⟩

/-- The foreign tree of a class with one field. -/
def fieldUnit : Foreign.Tree :=
  .node 5 0 0 22 (.unit none [] [
    .node 4 0 0 22 (.classDef .empty "A" .classType [] none [] [] [
      .node 3 10 14 20 (.varDef .empty "f" (some (.node 1 10 10 13 (.typeIdent .int))) 0
        (some (.node 2 18 18 19 (.literal .int "1"))))])])

theorem convert_isTree_fieldUnit :
    ∃ u, convert (.ofString "class A { int f = 1; }") .latest fieldUnit = .ok u ∧
      Unified.IsTree u.arena u.root ∧
        ∀ o ∈ u.origins, o.1 < u.arena.size ∧
          ∃ t, (Foreign.Index.ofTree fieldUnit).get? o.2 = some t ∧ t.id = o.2 := by
  have hok : (convert (.ofString "class A { int f = 1; }") .latest fieldUnit).isOk = true := by
    decide +kernel
  cases h : convert (.ofString "class A { int f = 1; }") .latest fieldUnit with
  | error e =>
    rw [h] at hok
    cases hok
  | ok u => exact ⟨u, rfl, convert_isTree h⟩

end TreeBridge
