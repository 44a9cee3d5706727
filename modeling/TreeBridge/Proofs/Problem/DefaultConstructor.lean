import Mathlib.Data.List.TakeWhile
import TreeBridge.Proofs.Problem.NameHighlight
/-!
# Problems with a default constructor

A class without a constructor calls one of its superclass all the same. If
that one does not exist, or cannot be seen, no line of the class is at
fault, and the problem is shown at the name of the class: of the nearest
one around the tree of the diagnostic. But the name is looked for from the
position of the diagnostic on. A diagnostic at the head of the class is
shown there; one at a call that somebody wrote stands behind the name, and
is shown at the call or at a later place that has the same text.
-/

namespace TreeBridge

namespace Problem

open Foreign (Diagnostic Tree)
open Foreign.Tree (Ascends Subtree)
open Lowering (DeclaresType Sited)
open Word (OccursAt)

variable {file : String} {s : Source} {n : Concrete.Node} {d : Diagnostic}
variable {t c : Tree} {above : List Tree} {name : String}

/-- The problems with a constructor that a default constructor calls. -/
def isOfDefaultConstructor (id : Id) : Bool :=
  id == .notVisibleConstructorInDefaultConstructor ||
    id == .undefinedConstructorInDefaultConstructor

/-- The nearest class among trees around each other. -/
def nearestClass? (trees : List Tree) : Option Tree :=
  trees.find? (fun t => t.tag == .classDef)

/-! ## Classes -/

/-- The name of the class that a tree declares. -/
def className? (t : Tree) : Option String :=
  match t.shape with
  | .classDef _ name _ _ _ _ _ _ => some name
  | _ => none

theorem elementSpan_of_className? {scene : Scene} {id : Id} (h : className? c = some name)
    (hposition : d.position ≠ -1) : elementSpan scene id d c =
      if startsWithMember c = true then ownSpan d else nameSpan scene.source name d := by
  unfold className? at h
  split at h
  · next hshape =>
    cases h
    rw [elementSpan_classDef hshape]
    cases startsWithMember c <;> simp [hposition]
  · cases h

/-- The name of a class stands right below its node. -/
theorem exists_declaresType (hc : Subtree c (parse s n).root) (h : className? c = some name)
    (hname : name ≠ "") : ∃ k m : Concrete.Node, k.Within n ∧ DeclaresType s k m name c := by
  have hsited := Lowering.sited_lower s n c hc
  unfold className? at h
  unfold Sited at hsited
  split at h
  · next hshape =>
    cases h
    rw [hshape] at hsited
    exact hsited.resolve_left hname
  · cases h

/-! ## Names -/

/-- A name is shown at or behind the position or the start of a
diagnostic. -/
theorem min_le_start_nameSpan : min d.position d.start ≤ (nameSpan s name d).start := by
  unfold nameSpan
  split
  · exact Int.le_refl _
  · next hname =>
    split
    · next hit hhit =>
      have hne : name ≠ "" := by simpa using hname
      have hle := ((Word.find?_eq_some_iff hne).1 hhit).2.2.1.start_le
      exact Int.le_trans (Int.min_le_left _ _) hle
    · exact Int.le_refl _

/-! ## The nearest class -/

/-- **A problem with a default constructor is shown at the nearest
class.** -/
theorem highlight_nearestClass (hd : d.tree = some t.id) (hchain : Ascends (t :: above))
    (hlast : (t :: above).getLast? = some (parse s n).root)
    (hnearest : nearestClass? (t :: above) = some c) (hclass : className? c = some name)
    (hposition : d.position ≠ -1)
    (hid : isOfDefaultConstructor (classify (.ofSource file s n) d) = true) :
    highlight (.ofSource file s n) (classify (.ofSource file s n) d) d =
      if startsWithMember c = true then ownSpan d else nameSpan s name d := by
  have htrail : (Scene.ofSource file s n).trail d = t :: above :=
    trail_ofSource hd hchain hlast
  have hids : classify (.ofSource file s n) d = .notVisibleConstructorInDefaultConstructor ∨
      classify (.ofSource file s n) d = .undefinedConstructorInDefaultConstructor := by
    simpa [isOfDefaultConstructor] using hid
  have helsewhere : isShownElsewhere (classify (.ofSource file s n) d) = true := by
    rcases hids with h | h <;> rw [h] <;> rfl
  have htop : (shownTrail (.ofSource file s n) (classify (.ofSource file s n) d) d).head? =
      some c := by
    have hclimb : shownTrail (.ofSource file s n) (classify (.ofSource file s n) d) d =
        (t :: above).dropWhile (fun u => u.tag != .classDef) := by
      rw [← htrail]
      rcases hids with h | h <;> rw [h] <;> rfl
    rw [hclimb, ← hnearest, nearestClass?, List.find?_eq_head?_dropWhile_not]
    rfl
  have hshown : ShownAt (.ofSource file s n) (classify (.ofSource file s n) d) d c := by
    refine ⟨noDoc_of_isShownElsewhere helsewhere, ?_, by rw [htop]; rfl⟩
    rcases hids with h | h <;> rw [h] <;> rfl
  rw [hshown.highlight_eq, elementSpan_of_className? hclass hposition]
  rfl

/-- **A problem with a default constructor is shown at the name in the
head of the class** exactly if that is the first place with the text of
the name from the position of the diagnostic on, or if nothing is found
and the diagnostic itself gives that place. So a diagnostic that lies
behind the name is never shown there. -/
theorem highlight_defaultConstructor_iff (hd : d.tree = some t.id)
    (hchain : Ascends (t :: above)) (hlast : (t :: above).getLast? = some (parse s n).root)
    (hnearest : nearestClass? (t :: above) = some c) (hclass : className? c = some name)
    (hname : name ≠ "") (hposition : 0 ≤ d.position)
    (hid : isOfDefaultConstructor (classify (.ofSource file s n) d) = true)
    (hsize : s.size < 2147483648) :
    ∃ k m : Concrete.Node, k.Within n ∧ DeclaresType s k m name c ∧
      (highlight (.ofSource file s n) (classify (.ofSource file s n) d) d =
          ⟨m.start, name.utf8ByteSize⟩ ↔
        startsWithMember c = false ∧ s.isBoundary d.position.toNat = true ∧
            IsLeast {h | OccursAt s name d.position s.size h} m.start ∨
          (startsWithMember c = true ∨ s.isBoundary d.position.toNat = false ∨
              ∀ h, ¬ OccursAt s name d.position s.size h) ∧
            ownSpan d = ⟨m.start, name.utf8ByteSize⟩) ∧
      (m.start < d.position → m.start < d.start →
        (highlight (.ofSource file s n) (classify (.ofSource file s n) d) d).start ≠ m.start) := by
  have hc : Subtree c (parse s n).root :=
    Ascends.subtree_of_mem hchain hlast (List.mem_of_find?_eq_some hnearest)
  obtain ⟨k, m, hk, hdeclares⟩ := exists_declaresType hc hclass hname
  have hin := Concrete.Node.bounds_of_text hdeclares.name hname
  refine ⟨k, m, hk, hdeclares, ?_⟩
  rw [highlight_nearestClass hd hchain hlast hnearest hclass (by omega) hid]
  cases startsWithMember c with
  | true =>
    simp only [if_true, true_or, true_and, false_and, false_or, Bool.true_eq_false]
    intro hafter hstart
    unfold ownSpan spanTo
    dsimp only
    omega
  | false =>
    simp only [Bool.false_eq_true, if_false, false_or, true_and]
    rw [nameSpan_eq_iff hname (by omega), Word.find?_eq_some_iff hname,
      Word.find?_eq_none_iff hname hposition, and_iff_right hposition]
    refine ⟨Iff.rfl, fun hafter hstart => ?_⟩
    have hle : min d.position d.start ≤ (nameSpan s name d).start := min_le_start_nameSpan
    omega

/-- A class with a constructor that calls one of the superclass. -/
def chainedSource : Source :=
  .ofString "class B extends A \x7b B() \x7b super(1); \x7d \x7d"

/-- The concrete tree of the class. -/
def chainedUnit : Concrete.Node :=
  .mk (.token "program") none true false false 0 39 [
    .mk .classDeclaration none true false false 0 39 [
      .mk (.token "class") none false false false 0 5 [],
      .mk .identifier (some .name) true false false 6 7 [],
      .mk (.token "superclass") (some .superclass) true false false 8 17 [
        .mk (.token "extends") none false false false 8 15 [],
        .mk .typeIdentifier none true false false 16 17 []],
      .mk .classBody (some .body) true false false 18 39 [
        .mk (.token "\x7b") none false false false 18 19 [],
        .mk .constructorDeclaration none true false false 20 37 [
          .mk .identifier (some .name) true false false 20 21 [],
          .mk .formalParameters (some .parameters) true false false 21 23 [
            .mk (.token "(") none false false false 21 22 [],
            .mk (.token ")") none false false false 22 23 []],
          .mk (.token "constructor_body") (some .body) true false false 24 37 [
            .mk (.token "\x7b") none false false false 24 25 [],
            .mk .explicitConstructorInvocation none true false false 26 35 [
              .mk .superKeyword (some .constructorKeyword) true false false 26 31 [],
              .mk (.token "argument_list") (some .arguments) true false false 31 34 [
                .mk (.token "(") none false false false 31 32 [],
                .mk .decimalIntegerLiteral none true false false 32 33 [],
                .mk (.token ")") none false false false 33 34 []],
              .mk (.token ";") none false false false 34 35 []],
            .mk (.token "\x7d") none false false false 36 37 []]],
        .mk (.token "\x7d") none false false false 38 39 []]]]

/-- The call has more arguments than the constructor has parameters. -/
def chainedMismatch : Diagnostic :=
  { (Diagnostic.errorAt "compiler.err.cant.apply.symbol" "constructor cannot be applied" 26
      31).aboutTree 1 with
    arguments := [.kindName .constructorKind,
      .diagnostic (.errorAt "compiler.misc.arg.length.mismatch" "lists differ in length" 26 31)] }

/-- The scene of the class. -/
def chainedScene : Scene :=
  .ofSource "B.java" chainedSource chainedUnit

/-- A call of a constructor of the superclass is shown itself, and not the
name of the class. -/
theorem highlight_chained :
    (chainedScene.trail chainedMismatch).map (fun t => (t.tag, className? t)) =
      [(.ident, none), (.call, none), (.execute, none), (.block, none), (.methodDef, none),
        (.classDef, some "B"), (.unit, none)] ∧
    classify chainedScene chainedMismatch = .undefinedConstructorInDefaultConstructor ∧
    highlight chainedScene .undefinedConstructorInDefaultConstructor chainedMismatch =
      ⟨26, 5⟩ ∧
    chainedSource.textOf? ⟨26, 5⟩ = some "super" ∧
    chainedSource.textOf? ⟨6, 1⟩ = some "B" := by
  decide +kernel

theorem highlight_defaultConstructor_chained :
    ∃ c k m, className? c = some "B" ∧ DeclaresType chainedSource k m "B" c ∧
      (m.start < (26 : Int) →
        (highlight chainedScene (classify chainedScene chainedMismatch) chainedMismatch).start ≠
          m.start) := by
  have hfound : ((parse chainedSource chainedUnit).root.lastFirst.filter
      (fun t => t.id == 1)).map Tree.id = [1] := by decide +kernel
  obtain ⟨t, hleaf, hleafId⟩ := List.map_eq_singleton_iff.1 hfound
  have hmem : t ∈ (parse chainedSource chainedUnit).root.lastFirst :=
    List.mem_of_mem_filter (hleaf ▸ List.mem_singleton_self t)
  obtain ⟨above, hchain, hlast⟩ := (Tree.mem_lastFirst_iff.1 hmem).exists_ascends
  have hd : chainedMismatch.tree = some t.id := hleafId ▸ rfl
  have htrail : chainedScene.trail chainedMismatch = t :: above := trail_ofSource hd hchain hlast
  have hnearest : (nearestClass? (chainedScene.trail chainedMismatch)).map className? =
      some (some "B") := by decide +kernel
  obtain ⟨c, hc, hclass⟩ := Option.map_eq_some_iff.1 hnearest
  have hid : isOfDefaultConstructor (classify chainedScene chainedMismatch) = true := by
    decide +kernel
  obtain ⟨k, m, -, hdeclares, -, hbehind⟩ := highlight_defaultConstructor_iff hd hchain hlast
    (htrail ▸ hc) hclass (by decide) (by decide) hid (by decide +kernel)
  exact ⟨c, k, m, hclass, hdeclares, fun h => hbehind h h⟩

end Problem

end TreeBridge
