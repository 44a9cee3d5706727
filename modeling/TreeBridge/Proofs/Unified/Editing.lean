import TreeBridge.Proofs.Unified.Ancestry
import TreeBridge.Proofs.Unified.Sorting
/-!
# Editing an arena

An arena is put together edit by edit: nodes are allocated, said more
about, sorted, and attached as last or first children. An edit is in
order when every node that it attaches has no parent yet and is neither
the new parent nor above it. Every edit that is in order keeps a forest
(`Edit.exists_forest_apply`), so however many follow one another, parents
and children agree and both kinds of links can be followed to an end
(`Edit.wellLinked_run`).
-/

namespace TreeBridge

namespace Unified

/-- A single change of an arena. -/
inductive Edit where
  | alloc (kind : NodeKind) (span : Span)
  | withDefaultFlags (flags : UInt32)
  | setSpan (id : NodeId) (span : Span)
  | setKind (id : NodeId) (kind : NodeKind)
  | addFlags (id : NodeId) (flags : UInt32)
  | sortSlot (id : NodeId) (slot : Slot)
  | addChild (parent : NodeId) (slot : Slot) (child : NodeId)
  | addOpt (parent : NodeId) (slot : Slot) (child : Option NodeId)
  | addAll (parent : NodeId) (slot : Slot) (children : List NodeId)
  | addChildFirst (parent : NodeId) (slot : Slot) (child : NodeId)

namespace Edit

/-- The arena after an edit. -/
def apply (a : Arena) : Edit → Arena
  | alloc kind span => (a.alloc kind span).2
  | withDefaultFlags flags => a.withDefaultFlags flags
  | setSpan id span => a.setSpan id span
  | setKind id kind => a.setKind id kind
  | addFlags id flags => a.addFlags id flags
  | sortSlot id slot => a.sortSlot id slot
  | addChild parent slot child => a.addChild parent slot child
  | addOpt parent slot child => a.addOpt parent slot child
  | addAll parent slot children => a.addAll parent slot children
  | addChildFirst parent slot child => a.addChildFirst parent slot child

/-- The arena after several edits. -/
def run (a : Arena) (edits : List Edit) : Arena :=
  edits.foldl apply a

/-- A node may be attached to another when both are there, it has no
parent yet, and it is neither that node nor above it. -/
def MayHang (a : Arena) (parent child : NodeId) : Prop :=
  parent < a.size ∧ child < a.size ∧ a.parent child = none ∧ child ≠ parent ∧
    child ∉ a.ancestors parent

instance (a : Arena) (parent child : NodeId) : Decidable (MayHang a parent child) :=
  inferInstanceAs (Decidable (_ ∧ _))

/-- Several nodes may be attached when each may once those before it
are. -/
def MayHangAll (a : Arena) (parent : NodeId) (slot : Slot) : List NodeId → Prop
  | [] => True
  | child :: rest =>
    MayHang a parent child ∧ MayHangAll (a.addChild parent slot child) parent slot rest

instance decidableMayHangAll (parent : NodeId) (slot : Slot) :
    ∀ (a : Arena) (children : List NodeId), Decidable (MayHangAll a parent slot children)
  | _, [] => inferInstanceAs (Decidable True)
  | a, child :: rest =>
    @instDecidableAnd _ _ (inferInstanceAs (Decidable (MayHang a parent child)))
      (decidableMayHangAll parent slot (a.addChild parent slot child) rest)

/-- An edit is in order when what it attaches may be attached. -/
def InOrder (a : Arena) : Edit → Prop
  | addChild parent _ child => MayHang a parent child
  | addOpt parent _ child => ∀ c ∈ child, MayHang a parent c
  | addAll parent slot children => MayHangAll a parent slot children
  | addChildFirst parent _ child => MayHang a parent child
  | _ => True

instance (a : Arena) : (edit : Edit) → Decidable (edit.InOrder a)
  | addChild parent _ child => inferInstanceAs (Decidable (MayHang a parent child))
  | addOpt parent _ child => inferInstanceAs (Decidable (∀ c ∈ child, MayHang a parent c))
  | addAll parent slot children =>
    inferInstanceAs (Decidable (MayHangAll a parent slot children))
  | addChildFirst parent _ child => inferInstanceAs (Decidable (MayHang a parent child))
  | alloc .. | withDefaultFlags _ | setSpan .. | setKind .. | addFlags .. | sortSlot .. =>
    inferInstanceAs (Decidable True)

/-- Several edits are in order when each is in the arena that those before
it have made. -/
def AllInOrder (a : Arena) : List Edit → Prop
  | [] => True
  | edit :: rest => edit.InOrder a ∧ AllInOrder (edit.apply a) rest

instance decidableAllInOrder : ∀ (a : Arena) (edits : List Edit), Decidable (AllInOrder a edits)
  | _, [] => inferInstanceAs (Decidable True)
  | a, edit :: rest =>
    @instDecidableAnd _ _ (inferInstanceAs (Decidable (edit.InOrder a)))
      (decidableAllInOrder (edit.apply a) rest)

/-! ## One edit -/

variable {a : Arena} {roots : List NodeId} {parent child : NodeId}

/-- A node that may be attached is a root, and the new parent is beside its
subtree. -/
theorem MayHang.exists_forest (h : MayHang a parent child) (hforest : Forest a roots) :
    ∃ rest, Forest a (child :: rest) ∧ parent < a.size ∧ parent ∉ a.preorder child := by
  obtain ⟨hparent, hchild, hnone, hne, habove⟩ := h
  have hroot : child ∈ roots := hforest.mem_roots_iff.2 ⟨hchild, hnone⟩
  refine ⟨roots.erase child, hforest.perm (List.perm_cons_erase hroot), hparent, ?_⟩
  rw [hforest.wellLinked.mem_preorder_iff child hchild, not_or]
  exact ⟨Ne.symm hne, habove⟩

theorem exists_forest_addChild (hforest : Forest a roots) (h : MayHang a parent child)
    (slot : Slot) : ∃ rest, Forest (a.addChild parent slot child) rest := by
  obtain ⟨rest, hrest, hparent, hbeside⟩ := h.exists_forest hforest
  exact ⟨rest, hrest.addChild_of_beside slot hparent hbeside⟩

theorem exists_forest_addAll (hforest : Forest a roots) {slot : Slot} {children : List NodeId}
    (h : MayHangAll a parent slot children) :
    ∃ rest, Forest (a.addAll parent slot children) rest := by
  induction children generalizing a roots with
  | nil => exact ⟨roots, hforest⟩
  | cons child children ih =>
    obtain ⟨hchild, hchildren⟩ := h
    obtain ⟨rest, hrest⟩ := exists_forest_addChild hforest hchild slot
    exact ih hrest hchildren

theorem forest_sortSlot (hforest : Forest a roots) (id : NodeId) (slot : Slot) :
    Forest (a.sortSlot id slot) roots := by
  refine hforest.rearrange (Arena.size_sortSlot slot) (Arena.parent_sortSlot slot) fun i => ?_
  by_cases hi : i = id
  · subst hi
    exact Arena.perm_entries_sortSlot_self.map _
  · rw [Arena.children, Arena.entries_sortSlot_of_ne slot hi, Arena.children]

/-- **An edit that is in order keeps a forest.** -/
theorem exists_forest_apply (hforest : Forest a roots) {edit : Edit} (h : edit.InOrder a) :
    ∃ rest, Forest (edit.apply a) rest := by
  cases edit with
  | alloc kind span => exact ⟨_, hforest.alloc kind span⟩
  -- what is only said about a node, or about nodes to come, leaves the links alone
  | withDefaultFlags flags => exact ⟨roots, hforest.congr rfl rfl rfl⟩
  | setSpan id span =>
    exact ⟨roots, hforest.congr (Arena.size_setSpan span) (Arena.parent_setSpan span)
      (Arena.children_setSpan span)⟩
  | setKind id kind =>
    exact ⟨roots, hforest.congr (Arena.size_modify _) (Arena.parent_modify fun _ => rfl)
      (Arena.children_modify fun _ => rfl)⟩
  | addFlags id flags =>
    exact ⟨roots, hforest.congr (Arena.size_modify _) (Arena.parent_modify fun _ => rfl)
      (Arena.children_modify fun _ => rfl)⟩
  | sortSlot id slot => exact ⟨roots, forest_sortSlot hforest id slot⟩
  | addChild parent slot child => exact exists_forest_addChild hforest h slot
  | addOpt parent slot child =>
    cases child with
    | none => exact ⟨roots, hforest⟩
    | some child => exact exists_forest_addChild hforest (h child rfl) slot
  | addAll parent slot children => exact exists_forest_addAll hforest h
  | addChildFirst parent slot child =>
    obtain ⟨rest, hrest, hparent, hbeside⟩ := MayHang.exists_forest h hforest
    exact ⟨rest, hrest.addChildFirst_of_beside slot hparent hbeside⟩

/-! ## Many edits -/

theorem exists_forest_run (hforest : Forest a roots) {edits : List Edit}
    (h : AllInOrder a edits) : ∃ rest, Forest (run a edits) rest := by
  induction edits generalizing a roots with
  | nil => exact ⟨roots, hforest⟩
  | cons edit edits ih =>
    obtain ⟨hedit, hedits⟩ := h
    obtain ⟨rest, hrest⟩ := exists_forest_apply hforest hedit
    exact ih hrest hedits

/-- **Edits that are in order make a forest.** Whatever has been done to an
arena that was empty at first, its links agree and can be followed: up to
a node without parent, and down over a subtree, each of whose nodes is
listed once. -/
theorem wellLinked_run {edits : List Edit} (h : AllInOrder .empty edits) :
    WellLinked (run .empty edits) := by
  obtain ⟨rest, hrest⟩ := exists_forest_run Forest.empty h
  exact hrest.wellLinked

/-- A field whose modifiers come in from both ends and are sorted, hung
into a type with all that it has. -/
def fieldEdits : List Edit :=
  [.alloc .fieldDeclaration ⟨0, 20⟩, .alloc (.modifier .final) ⟨7, 5⟩,
    .alloc (.modifier .static) .unset, .alloc (.primitiveType .int) ⟨13, 3⟩,
    .alloc (.modifier .publicAccess) .unset, .addAll 0 .modifiers [1, 2], .addChild 0 .type 3,
    .addChildFirst 0 .modifiers 4, .setSpan 4 ⟨0, 6⟩, .sortSlot 0 .modifiers,
    .alloc (.typeDeclaration false) .unset, .addOpt 5 .bodyDeclarations (some 0),
    .addOpt 5 .javadoc none, .setKind 5 .enumDeclaration, .addFlags 5 Flag.malformed]

theorem wellLinked_fieldEdits :
    AllInOrder .empty fieldEdits ∧ WellLinked (run .empty fieldEdits) ∧
      (run .empty fieldEdits).ancestors 4 = [0, 5] := by
  have h : AllInOrder .empty fieldEdits := by decide
  exact ⟨h, wellLinked_run h, by decide⟩

end Edit

end Unified

end TreeBridge
