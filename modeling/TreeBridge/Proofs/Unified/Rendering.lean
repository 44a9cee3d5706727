import TreeBridge.Unified.Render
/-!
# What a text is made of

A node reads of its children their texts, slot by slot, and nothing else
(`render_congr`). Only an array creation looks one level deeper, at the
texts of what stands below its type.
-/

namespace TreeBridge

namespace Unified

/-! ## Parts with the same texts -/

namespace Parts

variable {ps qs : Parts}

/-- Whether two lists of parts have the same texts in each slot. -/
def SameTexts (ps qs : Parts) : Prop :=
  ∀ slot, texts ps slot = texts qs slot

/-- The texts in one slot of what stands below the type of a node. -/
def belowType (ps : Parts) (slot : Slot) : List String :=
  ((((first? ps .type).map (·.parts)).getD []).filter (fun p => p.1 == slot)).map (·.2)

/-- The first child in a slot has the first of the texts there. -/
theorem text_first? (ps : Parts) (slot : Slot) :
    (first? ps slot).map (·.text) = (texts ps slot).head? := by
  rw [first?, texts, List.head?_map, List.head?_filter, Option.map_map]
  rfl

theorem has_eq_isSome_head? (ps : Parts) (slot : Slot) :
    has ps slot = (texts ps slot).head?.isSome := by
  rw [has, ← text_first?, Option.isSome_map]

theorem opt_eq_head? (ps : Parts) (slot : Slot) :
    opt ps slot = (texts ps slot).head?.getD "" := by
  rw [opt, text_first?]

/-- An array creation reads the texts below its type. -/
theorem creation_eq (ps : Parts) :
    creation ps = "new " ++ (belowType ps .elementType).head?.getD "" ++
      each ps .dimensions "[" "]" ++
      dims ((belowType ps .dimensions).length - (texts ps .dimensions).length) ++
      opt ps .initializer := by
  simp only [creation, belowType, List.head?_map, List.head?_filter, List.length_map]

namespace SameTexts

variable (h : SameTexts ps qs)

include h

theorem has (slot : Slot) : Parts.has ps slot = Parts.has qs slot := by
  rw [has_eq_isSome_head?, has_eq_isSome_head?, h slot]

theorem opt (slot : Slot) : Parts.opt ps slot = Parts.opt qs slot := by
  rw [opt_eq_head?, opt_eq_head?, h slot]

theorem list (slot : Slot) (separator : String) :
    Parts.list ps slot separator = Parts.list qs slot separator := by
  rw [Parts.list, Parts.list, h slot]

theorem each (slot : Slot) (before after : String) :
    Parts.each ps slot before after = Parts.each qs slot before after := by
  rw [Parts.each, Parts.each, h slot]

theorem whenUsed (slot : Slot) (text : String) :
    Parts.whenUsed ps slot text = Parts.whenUsed qs slot text := by
  rw [Parts.whenUsed, Parts.whenUsed, h.has]

theorem optThen (slot : Slot) (after : String) :
    Parts.optThen ps slot after = Parts.optThen qs slot after := by
  rw [Parts.optThen, Parts.optThen, h.opt, h.whenUsed]

theorem modifiers : Parts.modifiers ps = Parts.modifiers qs :=
  h.each _ _ _

theorem typeParameters : Parts.typeParameters ps = Parts.typeParameters qs := by
  rw [Parts.typeParameters, Parts.typeParameters, h.list, h.whenUsed]

theorem typeArguments : Parts.typeArguments ps = Parts.typeArguments qs := by
  rw [Parts.typeArguments, Parts.typeArguments, h.list, h.whenUsed]

theorem arguments : Parts.arguments ps = Parts.arguments qs := by
  rw [Parts.arguments, Parts.arguments, h.list]

theorem body : Parts.body ps = Parts.body qs := by
  rw [Parts.body, Parts.body, h.list]

theorem interfaces (keyword : String) :
    Parts.interfaces ps keyword = Parts.interfaces qs keyword := by
  rw [Parts.interfaces, Parts.interfaces, h.list, h.whenUsed]

theorem assigned : Parts.assigned ps = Parts.assigned qs := by
  rw [Parts.assigned, Parts.assigned, h.opt, h.whenUsed]

theorem creation (htype : ∀ slot, belowType ps slot = belowType qs slot) :
    Parts.creation ps = Parts.creation qs := by
  rw [creation_eq, creation_eq, htype, htype, h.each, h .dimensions, h.opt]

end SameTexts

end Parts

/-- **The text of a node is made of the texts of its children.** An array
creation also reads the texts below its type. -/
theorem NodeKind.render_congr (kind : NodeKind) {ps qs : Parts} (h : ps.SameTexts qs)
    (htype : kind = .arrayCreation → ∀ slot, ps.belowType slot = qs.belowType slot) :
    kind.render ps = kind.render qs := by
  cases kind with
  | arrayCreation => exact h.creation (htype rfl)
  | _ =>
    unfold render
    simp only [h.has, h.opt, h.list, h.each, h.whenUsed, h.optThen, h.modifiers,
      h.typeParameters, h.typeArguments, h.arguments, h.body, h.interfaces, h.assigned]

/-! ## The parts of a tree -/

namespace Tree

/-- The rendered children of a tree. -/
def parts (t : Tree) : Parts :=
  t.children.map (fun c => (c.1, c.2.rendered))

theorem rendered_eq (t : Tree) :
    t.rendered = ⟨t.kind.render t.parts, t.parts.map (fun p => (p.1, p.2.text))⟩ := by
  have hparts : t.children.attach.map (fun c => (c.1.1, c.1.2.rendered)) = t.parts :=
    calc t.children.attach.map (fun c => (c.1.1, c.1.2.rendered))
        = (t.children.attach.map Subtype.val).map (fun c => (c.1, c.2.rendered)) :=
          by rw [List.map_map]; rfl
      _ = t.parts := by rw [List.attach_map_subtype_val, parts]
  rw [rendered, hparts]

theorem render_eq (t : Tree) : t.render = t.kind.render t.parts := by
  rw [render, rendered_eq]

theorem texts_parts (t : Tree) (slot : Slot) :
    t.parts.texts slot = (t.list slot).map render := by
  rw [Parts.texts, parts, list, List.filter_map, List.map_map, List.map_map]
  rfl

theorem first?_parts (t : Tree) (slot : Slot) :
    t.parts.first? slot = (t.child? slot).map rendered := by
  rw [Parts.first?, parts, child?, List.find?_map, Option.map_map, Option.map_map]
  rfl

theorem opt_parts (t : Tree) (slot : Slot) :
    t.parts.opt slot = ((t.child? slot).map render).getD "" := by
  rw [Parts.opt, first?_parts, Option.map_map]
  rfl

/-- The text of a field access. -/
theorem render_fieldAccess {t receiver name : Tree} (hkind : t.kind = .fieldAccess)
    (hreceiver : t.child? .expression = some receiver) (hname : t.child? .name = some name) :
    t.render = receiver.render ++ "." ++ name.render := by
  rw [render_eq, hkind]
  change t.parts.opt .expression ++ "." ++ t.parts.opt .name = _
  rw [opt_parts, opt_parts, hreceiver, hname]
  rfl

/-- The text of a qualified name. -/
theorem render_qualifiedName {t qualifier name : Tree} (hkind : t.kind = .qualifiedName)
    (hqualifier : t.child? .qualifier = some qualifier) (hname : t.child? .name = some name) :
    t.render = qualifier.render ++ "." ++ name.render := by
  rw [render_eq, hkind]
  change t.parts.opt .qualifier ++ "." ++ t.parts.opt .name = _
  rw [opt_parts, opt_parts, hqualifier, hname]
  rfl

/-- Below the type of a tree stands what its type holds. -/
theorem belowType_parts (t : Tree) (slot : Slot) :
    t.parts.belowType slot = ((t.child? .type).map fun u => (u.list slot).map render).getD [] := by
  rw [Parts.belowType, first?_parts, Option.map_map]
  cases t.child? .type with
  | none => rfl
  | some u =>
    change (u.rendered.parts.filter (fun p => p.1 == slot)).map (·.2) = (u.list slot).map render
    rw [rendered_eq, ← texts_parts, Parts.texts, List.filter_map, List.map_map]
    rfl

end Tree

end Unified

end TreeBridge
