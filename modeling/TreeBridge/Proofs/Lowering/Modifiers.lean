import TreeBridge.Proofs.Conversion.Keywords
import TreeBridge.Proofs.Lowering.Composition.Sites
import TreeBridge.Proofs.Lowering.Layout
/-!
# Lowered declarations carry the modifiers that are spelled

The modifiers of a declaration are read from one node: every use of an
annotation becomes a tree, in order, every keyword sets its flag, and what
is neither is passed over. A declaration has these flags and, by its form,
further ones that no keyword spells.
-/

namespace TreeBridge

namespace Lowering

open Concrete (Node Kind)
open Concrete.Node (Part Parts)
open Conversion (wordOf flagOf Unspelled)
open Unified (Keyword)

/-- The nodes below the modifiers of a declaration. -/
def modifierNodes (k : Node) : List Node :=
  match k.children.find? (fun c => c.kind == .modifiers) with
  | some mods => mods.children
  | none => []

/-- The uses of annotations among nodes, in order. -/
def annotationsAmong (cs : List Node) : List Node :=
  cs.filter (fun c => c.kind.annotates)

/-- The keywords among nodes, in order and as often as they are spelled. -/
def keywordsAmong (s : Source) (cs : List Node) : List Keyword :=
  (cs.filter (fun c => !c.kind.annotates && !c.kind.isComment)).filterMap
    (fun c => Keyword.ofText? (c.text s))

/-- A tree is what a node reads as, taken as a use of an annotation. -/
def ReadFrom (s : Source) (c : Node) (a : Foreign.Tree) : Prop :=
  ∃ σ : State, a = ((actions s c).annotated σ).1

/-- Modifiers hold what nodes spell: their uses of annotations in order,
and the flags of their keywords among flags that no keyword spells. -/
structure Spelled (s : Source) (cs : List Node) (mods : Foreign.Modifiers Foreign.Tree) : Prop where
  annotations : List.Forall₂ (ReadFrom s) (annotationsAmong cs) mods.annotations
  flags : ∃ added, Unspelled added ∧ mods.flags = wordOf (keywordsAmong s cs) ||| added

/-- A tree declares something under the modifiers that nodes spell. -/
def Carries (s : Source) (cs : List Node) (t : Foreign.Tree) : Prop :=
  ∃ mods, t.shape.modifiers? = some mods ∧ Spelled s cs mods

variable {s : Source} {n : Node} {cs : List Node} {c : Node}
variable {mods : Foreign.Modifiers Foreign.Tree}

/-! ## Reading modifiers -/

namespace Spelled

theorem nil {mods : Foreign.Modifiers Foreign.Tree} (hflags : mods.flags = 0)
    (hannotations : mods.annotations = []) : Spelled s [] mods where
  annotations := by
    rw [hannotations]
    exact .nil
  flags := ⟨0, Conversion.unspelled_zero, by simp [hflags, keywordsAmong, wordOf]⟩

/-- Flags that no keyword spells may be added. -/
theorem withFlags (h : Spelled s cs mods) {added : UInt64} (hadded : Unspelled added) :
    Spelled s cs (mods.withFlags added) where
  annotations := h.annotations
  flags := by
    obtain ⟨before, hbefore, hflags⟩ := h.flags
    refine ⟨before ||| added, fun keyword => ?_, ?_⟩
    · rw [Conversion.isIn_or, hbefore, hadded, Bool.or_false]
    · show mods.flags ||| added = _
      rw [hflags, UInt64.or_assoc]

theorem annotation (h : Spelled s cs mods) (hc : c.kind.annotates = true) {a : Foreign.Tree}
    (ha : ReadFrom s c a) :
    Spelled s (cs ++ [c]) { mods with annotations := mods.annotations ++ [a] } where
  annotations := by
    rw [annotationsAmong, List.filter_append, List.filter_cons_of_pos (by simpa using hc)]
    exact List.rel_append h.annotations (.cons ha .nil)
  flags := by
    have hnone : [c].filter (fun c => !c.kind.annotates && !c.kind.isComment) = [] := by simp [hc]
    rw [keywordsAmong, List.filter_append, hnone, List.append_nil]
    exact h.flags

theorem keyword (h : Spelled s cs mods) (hannotates : c.kind.annotates = false)
    (hcomment : c.kind.isComment = false) {k : Keyword}
    (hk : Keyword.ofText? (c.text s) = some k) :
    Spelled s (cs ++ [c]) (mods.withFlags (flagOf k)) where
  annotations := by
    rw [annotationsAmong, List.filter_append, List.filter_cons_of_neg (by simp [hannotates]),
      List.filter_nil, List.append_nil]
    exact h.annotations
  flags := by
    obtain ⟨added, hadded, hflags⟩ := h.flags
    have hword : keywordsAmong s (cs ++ [c]) = keywordsAmong s cs ++ [k] := by
      rw [keywordsAmong, List.filter_append, List.filterMap_append]
      simp [hannotates, hcomment, hk, keywordsAmong]
    refine ⟨added, hadded, ?_⟩
    show mods.flags ||| flagOf k = _
    rw [hflags, hword, wordOf, wordOf, List.foldl_append, UInt64.or_assoc, UInt64.or_comm added,
      ← UInt64.or_assoc]
    rfl

/-- What is neither an annotation nor a keyword says nothing. -/
theorem skip (h : Spelled s cs mods) (hannotates : c.kind.annotates = false)
    (hskip : c.kind.isComment = true ∨ Keyword.ofText? (c.text s) = none) :
    Spelled s (cs ++ [c]) mods where
  annotations := by
    rw [annotationsAmong, List.filter_append, List.filter_cons_of_neg (by simp [hannotates]),
      List.filter_nil, List.append_nil]
    exact h.annotations
  flags := by
    have hnone : keywordsAmong s (cs ++ [c]) = keywordsAmong s cs := by
      rw [keywordsAmong, List.filter_append, List.filterMap_append, ← keywordsAmong]
      rcases hskip with hcomment | htext
      · simp [hcomment]
      · by_cases hcomment : c.kind.isComment = true <;> simp [hannotates, hcomment, htext]
    rw [hnone]
    exact h.flags

end Spelled

/-- The actions on all parts of a node. -/
abbrev allBelow (s : Source) (n : Node) : Below n :=
  fun p => actions s p.1

/-- One more node is read. -/
theorem spelled_addModifier (h : Spelled s cs mods) (p : Part n) :
    Gives (Spelled s (cs ++ [p.1])) (addModifier s (allBelow s n) mods p) := by
  unfold addModifier
  by_cases hannotates : p.kind.annotates = true
  · rw [if_pos hannotates]
    exact fun σ => h.annotation hannotates ⟨σ, rfl⟩
  · rw [if_neg hannotates]
    rw [Bool.not_eq_true] at hannotates
    by_cases hcomment : p.kind.isComment = true
    · rw [if_pos hcomment]
      exact Gives.pure (h.skip hannotates (.inl hcomment))
    · rw [if_neg hcomment, Conversion.ofKeyword?_eq]
      rw [Bool.not_eq_true] at hcomment
      cases hk : Keyword.ofText? (p.text s) with
      | none => exact Gives.pure (h.skip hannotates (.inr hk))
      | some k =>
        have hspelled := h.keyword hannotates hcomment hk
        dsimp only [Option.map_some]
        split
        · exact Gives.last fun _ => Gives.pure hspelled
        · exact Gives.pure hspelled

theorem spelled_foldlM (ps : Parts n) (h : Spelled s cs mods) :
    Gives (Spelled s (cs ++ ps.map Subtype.val))
      (ps.foldlM (addModifier s (allBelow s n)) mods) := by
  induction ps generalizing cs mods with
  | nil =>
    rw [List.map_nil, List.append_nil]
    exact Gives.pure h
  | cons p ps ih =>
    rw [List.foldlM_cons, List.map_cons, List.append_cons]
    exact (spelled_addModifier h p).bind fun _ hspelled => ih hspelled

/-- **Modifiers are read as they are spelled**, from the first node of
their kind. -/
theorem spelled_modifiersOf {k : Node} {ps : Parts n} (hps : ps.map Subtype.val = k.children) :
    Gives (Spelled s (modifierNodes k)) (modifiersOf s (allBelow s n) ps) := by
  have hfirst := Concrete.Node.Parts.ofKind?_val hps .modifiers
  unfold modifiersOf modifiers modifierNodes
  rw [← hfirst]
  cases ps.ofKind? .modifiers with
  | none => exact Gives.pure (.nil rfl rfl)
  | some p =>
    have hnone : Spelled s [] (modifiersAt p) := .nil rfl rfl
    have hparts := spelled_foldlM p.parts hnone
    rw [List.nil_append, p.map_val_parts] at hparts
    exact hparts.bind fun _ hspelled => Gives.last fun _ => Gives.pure hspelled

/-! ## Declarations -/

/-- A declaration that keeps the modifiers it is given carries those that
are spelled. -/
theorem carries_declaring {k : Node} {ps : Parts n} (hps : ps.map Subtype.val = k.children)
    {settles : Bool} {rest : Foreign.Modifiers Foreign.Tree → Build Foreign.Tree}
    (h : ∀ mods cs, Spelled s cs mods → Gives (Carries s cs) (rest mods)) :
    Gives (Carries s (modifierNodes k)) (declaring s (allBelow s n) ps settles rest) := by
  unfold declaring
  refine (spelled_modifiersOf hps).bind fun mods hspelled => ?_
  split
  · exact (h mods _ hspelled).settled
  · exact h mods _ hspelled

theorem unspelled_iff {flags : UInt64} : Unspelled flags ↔
    ∀ keyword ∈ Keyword.all, Foreign.Flag.isIn (flagOf keyword) flags = false :=
  ⟨fun h keyword _ => h keyword, fun h keyword => h keyword (Conversion.mem_all keyword)⟩

theorem unspelled_typeForm (kind : Kind) : Unspelled (typeForm kind).flags := by
  rw [unspelled_iff]
  unfold typeForm
  split <;> decide +kernel

theorem unspelled_constructorFlags (n : Node) : Unspelled (constructorFlags n) := by
  rw [unspelled_iff]
  unfold constructorFlags
  split <;> decide +kernel

theorem unspelled_varargs : Unspelled Foreign.Flag.varargs := by
  rw [unspelled_iff]
  decide +kernel

theorem carries_typeDeclaration (s : Source) (n : Node) :
    Gives (Carries s (modifierNodes n)) (typeDeclaration s (allBelow s n)) :=
  carries_declaring n.map_val_parts fun _ _ hspelled _ =>
    ⟨_, rfl, hspelled.withFlags (unspelled_typeForm n.kind)⟩

theorem carries_method (s : Source) (n : Node) :
    Gives (Carries s (modifierNodes n)) (method s (allBelow s n)) :=
  carries_declaring n.map_val_parts fun _ _ hspelled _ => ⟨_, rfl, hspelled⟩

theorem carries_constructor (s : Source) (n : Node) :
    Gives (Carries s (modifierNodes n)) (constructor s (allBelow s n)) :=
  carries_declaring n.map_val_parts fun _ _ hspelled _ =>
    ⟨_, rfl, hspelled.withFlags (unspelled_constructorFlags n)⟩

/-- Every declarator of a declaration carries the modifiers of it. -/
theorem carries_declarator (s : Source) (first : Bool) (stop : Int) (d : Part n) :
    Gives (Carries s (modifierNodes n)) (declarator s (allBelow s n) first stop d) := by
  unfold declarator
  cases first with
  | true => exact carries_declaring n.map_val_parts fun _ _ hspelled _ => ⟨_, rfl, hspelled⟩
  | false =>
    have hagain : Gives (Spelled s (modifierNodes n)) (modifiersAgain s (allBelow s n) n.parts) :=
      fun σ => spelled_modifiersOf n.map_val_parts σ
    exact hagain.bind fun _ hspelled => Gives.settled fun _ => ⟨_, rfl, hspelled⟩

theorem carries_formal (s : Source) (p : Part n) : Gives (Carries s (modifierNodes p.1))
    (declaring s (allBelow s n) p.parts true (formalAfter s (allBelow s n) p)) :=
  carries_declaring p.map_val_parts fun _ _ hspelled _ => ⟨_, rfl, hspelled⟩

theorem carries_spread (s : Source) (p : Part n) : Gives (Carries s (modifierNodes p.1))
    (declaring s (allBelow s n) p.parts true (spreadAfter s (allBelow s n) p)) :=
  carries_declaring p.map_val_parts fun _ _ hspelled _ =>
    ⟨_, rfl, hspelled.withFlags unspelled_varargs⟩

theorem carries_caught (s : Source) (p : Part n) : Gives (Carries s (modifierNodes p.1))
    (declaring s (allBelow s n) p.parts true (caughtAfter s (allBelow s n) p)) :=
  carries_declaring p.map_val_parts fun _ _ hspelled _ => ⟨_, rfl, hspelled⟩

theorem carries_resource (s : Source) (p type : Part n) : Gives (Carries s (modifierNodes p.1))
    (declaring s (allBelow s n) p.parts false (resourceAfter s (allBelow s n) p type)) :=
  carries_declaring p.map_val_parts fun _ _ hspelled _ => ⟨_, rfl, hspelled⟩

theorem carries_loopVariable (s : Source) (n : Node) :
    Gives (Carries s (modifierNodes n)) (loopVariable s (allBelow s n)) :=
  carries_declaring n.map_val_parts fun _ _ hspelled _ => ⟨_, rfl, hspelled⟩

/-! ## Uses of annotations -/

/-- A use of an annotation is read over its node. -/
theorem ReadFrom.shape {a : Foreign.Tree} (h : ReadFrom s c a) :
    (∃ type arguments, a.shape = .annotationUse type arguments) ∧ a.start = c.start ∧
      a.stop = c.stop := by
  obtain ⟨σ, rfl⟩ := h
  rw [actions]
  exact ⟨⟨_, _, rfl⟩, rfl, recorded_stop c.stop⟩

end Lowering

end TreeBridge
