import TreeBridge.Problem.Classification
import TreeBridge.Problem.Highlight
import TreeBridge.Proofs.Lowering.Distinct
/-!
# The tree that a problem is shown at

In the scene of a source every tree is found by its id, and the trail of a
diagnostic is the chain of parents from its tree up to the root. So what a
problem is shown at can be told from the trees themselves: most problems
are shown at the tree of their diagnostic, those of a missing default
constructor at the nearest class around it, and a mismatch of parameters
at the call that the tree is an argument of.
-/

namespace TreeBridge

namespace Problem

open Foreign (Diagnostic Index Shape Tree)
open Foreign.Tree (Ascends Subtree)

/-- The scene of a source: the index is that of its own tree. -/
def Scene.ofSource (file : String) (s : Source) (n : Concrete.Node) : Scene :=
  ⟨file, s, .ofTree (parse s n).root⟩

variable {file : String} {s : Source} {n : Concrete.Node} {id : Id} {d : Diagnostic}
variable {t c : Tree} {above : List Tree}

/-! ## Trails -/

/-- A diagnostic is about the tree that has its id. -/
theorem tree?_ofSource (ht : Subtree t (parse s n).root) (hd : d.tree = some t.id) :
    (Scene.ofSource file s n).tree? d = some t := by
  rw [Scene.tree?, hd]
  exact Index.get?_id (Lowering.nodup_ids_lower s n) ht

/-- In the scene of a source the tree of a diagnostic is a tree of the
source. -/
theorem subtree_of_tree? (h : (Scene.ofSource file s n).tree? d = some t) :
    Subtree t (parse s n).root ∧ d.tree = some t.id := by
  obtain ⟨i, hi, hget⟩ := Option.bind_eq_some_iff.1 h
  have hid : t.id = i := by simpa using List.find?_some hget
  have hvisited : t ∈ (parse s n).root.lastFirst :=
    List.mem_reverse.1 (List.mem_of_find?_eq_some hget)
  exact ⟨Foreign.Tree.mem_lastFirst_iff.1 hvisited, hid ▸ hi⟩

/-- **The trail of a diagnostic is the chain of parents** from its tree to
the root. -/
theorem trail_ofSource (hd : d.tree = some t.id) (hchain : Ascends (t :: above))
    (hlast : (t :: above).getLast? = some (parse s n).root) :
    (Scene.ofSource file s n).trail d = t :: above := by
  have hpath : (Index.ofTree (parse s n).root).path? t.id = some ⟨t, above⟩ :=
    Index.path?_id (Lowering.nodup_ids_lower s n) hchain hlast
  simp only [Scene.trail, Scene.upFrom, Scene.ofSource, hd, hpath, Index.Path.trees]

/-- The trees from one with an id up start with that tree. -/
theorem head?_upFrom_or (scene : Scene) (i : Nat) :
    (scene.upFrom i).head?.or (scene.index.get? i) = scene.index.get? i := by
  unfold Scene.upFrom Foreign.Index.path?
  cases scene.index.get? i with
  | none => rfl
  | some t => cases scene.index.ancestorsWithin scene.index.links.length i <;> rfl

/-- The trail of a diagnostic starts with its tree, if it has one. -/
theorem head?_trail_or (scene : Scene) (d : Diagnostic) :
    (scene.trail d).head?.or (scene.tree? d) = scene.tree? d := by
  unfold Scene.trail Scene.tree?
  cases d.tree with
  | none => rfl
  | some i => exact head?_upFrom_or scene i

/-! ## Where a problem is shown -/

/-- A problem is shown at a tree by the shape of that tree. -/
structure ShownAt (scene : Scene) (id : Id) (d : Diagnostic) (t : Tree) : Prop where
  noDoc : isAboutDoc d = false
  ordinary : specialSpan? scene id d = none
  shown : (shownTrail scene id d).head?.or (scene.tree? d) = some t

theorem ShownAt.highlight_eq {scene : Scene} (h : ShownAt scene id d t) :
    highlight scene id d = elementSpan scene id d t := by
  unfold highlight sceneSpan
  rw [if_neg (Bool.eq_false_iff.1 h.noDoc), h.ordinary, h.shown]

/-- The problems that are not shown at the tree of their diagnostic, by
its shape alone. -/
def isShownElsewhere : Id → Bool
  | .incompatibleExceptionInThrowsClause | .parameterMismatch
  | .notVisibleConstructorInDefaultConstructor | .undefinedConstructorInDefaultConstructor
  | .sealedSuperClassDoesNotPermit | .sealedSuperInterfaceDoesNotPermit => true
  | _ => false

theorem specialSpan?_of_not_isShownElsewhere {scene : Scene} (hid : isShownElsewhere id = false) :
    specialSpan? scene id d = none := by
  unfold specialSpan?
  split <;> first | rfl | cases hid

theorem shownTrail_of_not_isShownElsewhere {scene : Scene} (hid : isShownElsewhere id = false) :
    shownTrail scene id d = scene.trail d := by
  unfold shownTrail
  split <;> first | rfl | cases hid

/-- **All other problems are shown at the tree of their diagnostic.** -/
theorem shownAt_of_tree? {scene : Scene} (hid : isShownElsewhere id = false)
    (hdoc : isAboutDoc d = false) (ht : scene.tree? d = some t) : ShownAt scene id d t where
  noDoc := hdoc
  ordinary := specialSpan?_of_not_isShownElsewhere hid
  shown := by rw [shownTrail_of_not_isShownElsewhere hid, head?_trail_or, ht]

theorem shownAt_of_subtree (hid : isShownElsewhere id = false) (hdoc : isAboutDoc d = false)
    (ht : Subtree t (parse s n).root) (hd : d.tree = some t.id) :
    ShownAt (.ofSource file s n) id d t :=
  shownAt_of_tree? hid hdoc (tree?_ofSource ht hd)

/-- Without a tree they are shown where their diagnostic is. -/
theorem highlight_of_tree?_eq_none {scene : Scene} (hid : isShownElsewhere id = false)
    (hdoc : isAboutDoc d = false) (hnone : scene.tree? d = none) :
    highlight scene id d = ownSpan d := by
  rw [highlight, if_neg (Bool.eq_false_iff.1 hdoc), sceneSpan,
    specialSpan?_of_not_isShownElsewhere hid, shownTrail_of_not_isShownElsewhere hid,
    head?_trail_or, hnone]

/-! ## Doc comments -/

theorem isShownElsewhere_docProblem (message : String) :
    isShownElsewhere (Message.docProblem message) = false := by
  unfold Message.docProblem
  dsimp only
  split_ifs <;> rfl

/-- Of the codes that depend on nothing else one is shown elsewhere. -/
theorem code_of_isShownElsewhere : ∀ c ∈ fixedCodes, isShownElsewhere c.2 = true →
    c.1 = "compiler.err.override.meth.doesnt.throw" := by
  decide +kernel

/-- **A problem that is shown elsewhere is about no doc comment.** -/
theorem noDoc_of_isShownElsewhere {scene : Scene}
    (h : isShownElsewhere (classify scene d) = true) : isAboutDoc d = false := by
  unfold classify at h
  split at h
  · next c hc =>
    have hcode : c.1 = d.code := by simpa using List.find?_some hc
    rw [code_of_isShownElsewhere c (List.mem_of_find?_eq_some hc) h] at hcode
    rw [isAboutDoc, ← hcode]
    decide +kernel
  · unfold classifyByScene at h
    split at h
    case h_19 => cases (isShownElsewhere_docProblem _).symm.trans h
    case h_20 => cases (isShownElsewhere_docProblem _).symm.trans h
    case h_21 => split at h <;> cases h
    -- none of the other codes is that of a doc comment
    all_goals
      next hcode =>
        rw [isAboutDoc, hcode]
        decide +kernel

end Problem

end TreeBridge
