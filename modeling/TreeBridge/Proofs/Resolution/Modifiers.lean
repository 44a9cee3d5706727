import TreeBridge.Proofs.Conversion.Modifiers
import TreeBridge.Proofs.Lowering.Modifiers
import TreeBridge.Proofs.Resolution.Fragments
import TreeBridge.Proofs.Unified.Names
/-!
# Modifiers come back as they were spelled

Modifiers are read from the source into a word of flags, to which a
declaration adds further flags by its form, and they are made of the word
again when the declaration is converted. No flag that is added is that of
a keyword. So a converted declaration has the uses of annotations of the
source, in order, followed by one modifier for every keyword there, and
the legacy view has the flags of these keywords.

Enum constants and components of records are no such declarations: some
of the flags that they always have are those of keywords, and these are
not shown.
-/

namespace TreeBridge

open Concrete (Node)
open Foreign (Tree)
open Foreign.Tree (Part Parts Subtree)
open Unified (NodeId NodeKind Slot Keyword Arena Alike)

namespace Conversion

open Lowering (modifierNodes annotationsAmong keywordsAmong allBelow)

/-- Every way in which a node that owns modifiers is lowered to a
declaration: of a type, of a method or a constructor, of a field or a
local variable with each of its declarators, of a parameter of a method,
a lambda or a catch clause, of a resource, or of the variable of a
loop. -/
inductive LowersDeclaration (s : Source) : Node → Tree → Prop
  | type (n : Node) (σ : Lowering.State) :
    LowersDeclaration s n ((Lowering.actions s n).typeDeclaration σ).1
  | method (n : Node) (σ : Lowering.State) :
    LowersDeclaration s n (Lowering.method s (allBelow s n) σ).1
  | constructor (n : Node) (σ : Lowering.State) :
    LowersDeclaration s n (Lowering.constructor s (allBelow s n) σ).1
  | declarator {n : Node} (first : Bool) (stop : Int) (d : Node.Part n) (σ : Lowering.State) :
    LowersDeclaration s n (Lowering.declarator s (allBelow s n) first stop d σ).1
  | formal {n : Node} (p : Node.Part n) (σ : Lowering.State) :
    LowersDeclaration s p.1 (Lowering.declaring s (allBelow s n) p.parts true
      (Lowering.formalAfter s (allBelow s n) p) σ).1
  | spread {n : Node} (p : Node.Part n) (σ : Lowering.State) :
    LowersDeclaration s p.1 (Lowering.declaring s (allBelow s n) p.parts true
      (Lowering.spreadAfter s (allBelow s n) p) σ).1
  | caught {n : Node} (p : Node.Part n) (σ : Lowering.State) :
    LowersDeclaration s p.1 (Lowering.declaring s (allBelow s n) p.parts true
      (Lowering.caughtAfter s (allBelow s n) p) σ).1
  | resource {n : Node} (p type : Node.Part n) (σ : Lowering.State) :
    LowersDeclaration s p.1 (Lowering.declaring s (allBelow s n) p.parts false
      (Lowering.resourceAfter s (allBelow s n) p type) σ).1
  | loopVariable (n : Node) (σ : Lowering.State) :
    LowersDeclaration s n (Lowering.loopVariable s (allBelow s n) σ).1

/-- Every way in which a tree is converted to a declaration that shows its
modifiers: to a type, a method, a member of an annotation type, variables
declared together or alone, a parameter, or a parameter of a lambda,
which has modifiers only if it has a type. -/
inductive ConvertsDeclaration (ctx : Context) (τ : State) : Tree → NodeId → State → Prop
  | type {t : Tree} {d : NodeId} {τ' : State}
    (hrun : (actions t).typeDeclaration ctx τ = .ok (d, τ')) : ConvertsDeclaration ctx τ t d τ'
  | method {t : Tree} {p : Part t} {d : NodeId} {τ' : State} (hp : Subtree p.1 t)
    (hrun : method (fun q => actions q.1) p ctx τ = .ok (d, τ')) :
    ConvertsDeclaration ctx τ p.1 d τ'
  | annotationMember {t : Tree} {p : Part t} {d : NodeId} {τ' : State} (hp : Subtree p.1 t)
    (hrun : annotationMember (fun q => actions q.1) p ctx τ = .ok (d, τ')) :
    ConvertsDeclaration ctx τ p.1 d τ'
  | together {t : Tree} {p : Part t} {first : Declared t} {more : List (Declared t)}
    {kind : NodeKind} {d : NodeId} {τ' : State} (hp : Subtree p.1 t)
    (hfirst : declared? p = some first) (hmore : ∀ v ∈ more, v.Inside)
    (hrun : declaration (fun q => actions q.1) kind first more ctx τ = .ok (d, τ')) :
    ConvertsDeclaration ctx τ p.1 d τ'
  | expression {t : Tree} {p : Part t} {first : Declared t} {more : List (Declared t)}
    {d : NodeId} {τ' : State} (hp : Subtree p.1 t) (hfirst : declared? p = some first)
    (hmore : ∀ v ∈ more, v.Inside)
    (hrun : declarationExpression (fun q => actions q.1) first more ctx τ = .ok (d, τ')) :
    ConvertsDeclaration ctx τ p.1 d τ'
  | statement {t : Tree} {v : Variable (Part t)} {d : NodeId} {τ' : State}
    (hv : asVariable? t.parts = some v) (hrun : (actions t).statement ctx τ = .ok (d, τ')) :
    ConvertsDeclaration ctx τ t d τ'
  | parameter {t : Tree} {p : Part t} {d : NodeId} {τ' : State} (hp : Subtree p.1 t)
    (hrun : parameter (fun q => actions q.1) p 0 ctx τ = .ok (d, τ')) :
    ConvertsDeclaration ctx τ p.1 d τ'
  | lambdaParameter {t : Tree} {p : Part t} {v : Declared t} {d : NodeId} {τ' : State}
    (hp : Subtree p.1 t) (hv : declared? p = some v) (htype : v.parts.type ≠ none)
    (hrun : lambdaParameter (fun q => actions q.1) p ctx τ = .ok (d, τ')) :
    ConvertsDeclaration ctx τ p.1 d τ'

/-- Nodes are the uses of annotations among nodes of the source, in order
and over the same text. -/
structure UsesOf (cs : List Node) (a : Arena) (uses : List NodeId) : Prop where
  annotates : ∀ i ∈ uses, (a.kind i).annotates = true
  spans : uses.map a.span =
    (annotationsAmong cs).map (fun c => Span.ofBounds c.start c.stop)

/-- Nodes are one modifier for every keyword among nodes of the source. -/
def WordsOf (s : Source) (cs : List Node) (a : Arena) (words : List NodeId) : Prop :=
  ∃ keywords : List Keyword, words.map a.kind = keywords.map .modifier ∧ keywords.Nodup ∧
    ∀ w, w ∈ keywords ↔ w ∈ keywordsAmong s cs

/-- The modifiers of a converted declaration are what nodes spell: their
uses of annotations, then their keywords, and these keywords in the legacy
view. -/
structure Respells (s : Source) (cs : List Node) (a : Arena) (d : NodeId) : Prop where
  list : ∃ uses words : List NodeId, a.list d .modifiers = uses ++ words ∧
    UsesOf cs a uses ∧ WordsOf s cs a words
  flags : (a.tree d).modifierFlags = legacyWord (keywordsAmong s cs)

variable {s : Source} {k : Node} {cs : List Node} {t : Tree} {ctx : Context} {τ τ' : State}
variable {d : NodeId} {a b : Arena}

/-- **A lowered declaration carries the modifiers that are spelled.** -/
theorem carries_of_lowersDeclaration (h : LowersDeclaration s k t) :
    Lowering.Carries s (modifierNodes k) t := by
  cases h with
  | type _ σ =>
    rw [Lowering.typeDeclaration_actions]
    exact Lowering.carries_typeDeclaration s k σ
  | method _ σ => exact Lowering.carries_method s k σ
  | constructor _ σ => exact Lowering.carries_constructor s k σ
  | declarator first stop p σ => exact Lowering.carries_declarator s first stop p σ
  | formal p σ => exact Lowering.carries_formal s p σ
  | spread p σ => exact Lowering.carries_spread s p σ
  | caught p σ => exact Lowering.carries_caught s p σ
  | resource p type σ => exact Lowering.carries_resource s p type σ
  | loopVariable _ σ => exact Lowering.carries_loopVariable s k σ

/-! ## Every conversion keeps the modifiers of its tree -/

theorem exists_parts_modifiers {mods : Foreign.Modifiers Tree}
    (h : t.shape.modifiers? = some mods) :
    ∃ own : Foreign.Modifiers (Part t), t.parts.modifiers? = some own ∧
      own.map Subtype.val = mods := by
  rw [← Foreign.Tree.map_val_parts, Foreign.Shape.modifiers?_map, Option.map_eq_some_iff] at h
  exact h

theorem exists_partsOf_modifiers {p : Part t} {mods : Foreign.Modifiers Tree}
    (h : p.1.shape.modifiers? = some mods) :
    ∃ own : Foreign.Modifiers (Part t), p.parts.modifiers? = some own ∧
      own.map Subtype.val = mods := by
  rw [← Foreign.Tree.Part.map_val_parts, Foreign.Shape.modifiers?_map,
    Option.map_eq_some_iff] at h
  exact h

/-- What dresses a node with the modifiers of a tree. -/
theorem Dresses.modified {own : Foreign.Modifiers (Part t)} {mods : Foreign.Modifiers Tree}
    {m : Convert NodeId} (h : Dresses own 0 m) (hown : own.map Subtype.val = mods)
    (hrun : m ctx τ = .ok (d, τ')) :
    Modified mods.annotations (keywordsOf mods.flags) 0 τ'.arena d := by
  have hmodified := h (Nat.zero_le _) hrun
  have hall : own.flags &&& ~~~(0 : UInt64) = own.flags := by simp
  rw [hall] at hmodified
  subst hown
  exact hmodified

/-- A variable among the parts of a tree has the modifiers of its part. -/
theorem mods_of_declared? {p : Part t} {v : Declared t} (hv : declared? p = some v)
    {own : Foreign.Modifiers (Part t)} (hown : p.parts.modifiers? = some own) :
    v.parts.mods = own :=
  Option.some.inj ((modifiers?_of_declared? hv).symm.trans hown)

/-- **A conversion shows the modifiers of its tree.** -/
theorem modified_of_convertsDeclaration (hc : ConvertsDeclaration ctx τ t d τ')
    {mods : Foreign.Modifiers Tree} (hm : t.shape.modifiers? = some mods) :
    Modified mods.annotations (keywordsOf mods.flags) 0 τ'.arena d := by
  cases hc with
  | type hrun =>
    obtain ⟨own, hown, hmap⟩ := exists_parts_modifiers hm
    rw [actions] at hrun
    exact (dresses_typeDeclaration (grounded_actions t) (annotating_actions t) hown).modified
      hmap hrun
  | @method t' p _ _ hp hrun =>
    obtain ⟨own, hown, hmap⟩ := exists_partsOf_modifiers hm
    exact (dresses_method (grounded_actions t') (annotating_actions t') hp hown).modified hmap hrun
  | @annotationMember t' p _ _ hp hrun =>
    obtain ⟨own, hown, hmap⟩ := exists_partsOf_modifiers hm
    exact (dresses_annotationMember (grounded_actions t') (annotating_actions t') hp
      hown).modified hmap hrun
  | @together t' p first more kind _ _ hp hfirst hmore hrun =>
    obtain ⟨own, hown, hmap⟩ := exists_partsOf_modifiers hm
    rw [← mods_of_declared? hfirst hown] at hmap
    exact (dresses_mergedDeclaration (grounded_actions t') (annotating_actions t')
      ⟨inside_of_declared? hp hfirst, hmore⟩ kind _).modified hmap hrun
  | @expression t' p first more _ _ hp hfirst hmore hrun =>
    obtain ⟨own, hown, hmap⟩ := exists_partsOf_modifiers hm
    rw [← mods_of_declared? hfirst hown] at hmap
    exact (dresses_declarationExpression (grounded_actions t') (annotating_actions t')
      ⟨inside_of_declared? hp hfirst, hmore⟩).modified hmap hrun
  | @statement _ v _ _ hv hrun =>
    obtain ⟨own, hown, hmap⟩ := exists_parts_modifiers hm
    rw [actions] at hrun
    obtain rfl : v.mods = own := Option.some.inj ((modifiers?_of_asVariable? hv).symm.trans hown)
    exact (dresses_statement (grounded_actions t) (annotating_actions t) hv).modified hmap hrun
  | @parameter t' p _ _ hp hrun =>
    obtain ⟨own, hown, hmap⟩ := exists_partsOf_modifiers hm
    exact (dresses_parameter (grounded_actions t') (annotating_actions t') hp hown 0).modified
      hmap hrun
  | @lambdaParameter t' p v _ _ hp hv htype hrun =>
    obtain ⟨own, hown, hmap⟩ := exists_partsOf_modifiers hm
    rw [lambdaParameter_eq hv htype] at hrun
    exact (dresses_parameter (grounded_actions t') (annotating_actions t') hp hown 0).modified
      hmap hrun

/-! ## The legacy view -/

theorem list_treeWithin (a : Arena) (depth : ℕ) (d : NodeId) (slot : Slot) :
    (a.treeWithin (depth + 1) d).list slot = (a.list d slot).map (a.treeWithin depth) := by
  rw [Arena.treeWithin, Unified.Tree.list, Unified.Tree.children, Arena.list, List.filter_map,
    List.map_map, List.map_map]
  rfl

/-- The legacy view reads the modifiers from the arena. -/
theorem modifierFlags_tree (hd : d < a.size) : (a.tree d).modifierFlags =
    (a.list d .modifiers).foldl (fun word i => word ||| (a.kind i).modifierFlag) 0 := by
  obtain ⟨depth, hdepth⟩ : ∃ depth, a.size = depth + 1 :=
    Nat.exists_eq_succ_of_ne_zero (Nat.ne_zero_of_lt hd)
  rw [Unified.Tree.modifierFlags, Arena.tree, hdepth, list_treeWithin, List.foldl_map]
  simp only [Arena.kind_treeWithin]

/-- Annotations have no flags. -/
theorem foldl_modifierFlag_of_annotates {is : List NodeId}
    (h : ∀ i ∈ is, (a.kind i).annotates = true) (word : UInt32) :
    is.foldl (fun word i => word ||| (a.kind i).modifierFlag) word = word := by
  induction is with
  | nil => rfl
  | cons i is ih =>
    obtain ⟨hi, his⟩ := List.forall_mem_cons.1 h
    have hnone : (a.kind i).modifierFlag = 0 := by
      cases hk : a.kind i <;> rw [hk] at hi <;> first | rfl | cases hi
    rw [List.foldl_cons, hnone, UInt32.or_zero, ih his]

/-- **The legacy word is that of the keywords** among the modifiers. -/
theorem modifierFlags_of_list {is js : List NodeId} {keywords : List Keyword} (hd : d < a.size)
    (hlist : a.list d .modifiers = is ++ js) (his : ∀ i ∈ is, (a.kind i).annotates = true)
    (hjs : js.map a.kind = keywords.map .modifier) :
    (a.tree d).modifierFlags = legacyWord keywords := by
  rw [modifierFlags_tree hd, hlist, List.foldl_append, foldl_modifierFlag_of_annotates his]
  calc js.foldl (fun word i => word ||| (a.kind i).modifierFlag) 0
    _ = (js.map a.kind).foldl (fun word kind => word ||| kind.modifierFlag) 0 := by
      rw [List.foldl_map]
    _ = legacyWord keywords := by
      rw [hjs, List.foldl_map]
      rfl

/-! ## There and back -/

/-- The keywords of the flags that are spelled, each once. -/
theorem keywordsOf_spelled {mods : Foreign.Modifiers Tree} (h : Lowering.Spelled s cs mods) :
    (keywordsOf mods.flags).Nodup ∧
      ∀ w, w ∈ keywordsOf mods.flags ↔ w ∈ keywordsAmong s cs := by
  obtain ⟨added, hadded, hflags⟩ := h.flags
  rw [hflags]
  exact keywordsOf_wordOf hadded _

theorem map_kind_of_words {words : List Keyword} {js : List NodeId}
    (h : List.Forall₂ (fun w j => Shows (IsWord w) 0 a j) words js) :
    js.map a.kind = words.map .modifier := by
  induction h with
  | nil => rfl
  | cons hw _ ih => rw [List.map_cons, List.map_cons, hw.shown, ih]

/-- Uses of annotations stand over the text of their nodes. -/
theorem usesOf_spelled {mods : Foreign.Modifiers Tree} (h : Lowering.Spelled s cs mods)
    {is : List NodeId}
    (his : List.Forall₂ (fun u i => Shows (IsUse u) 0 a i) mods.annotations is) :
    UsesOf cs a is := by
  have hread := h.annotations
  suffices hall : ∀ uses, List.Forall₂ (Lowering.ReadFrom s) uses mods.annotations →
      (∀ i ∈ is, (a.kind i).annotates = true) ∧
        is.map a.span = uses.map (fun c => Span.ofBounds c.start c.stop) from
    ⟨(hall _ hread).1, (hall _ hread).2⟩
  clear hread
  generalize mods.annotations = trees at his
  induction his with
  | nil =>
    intro uses huses
    cases huses
    exact ⟨by simp, rfl⟩
  | cons hi _ ih =>
    intro uses huses
    obtain ⟨c, rest, hc, hrest, rfl⟩ := List.forall₂_cons_right_iff.1 huses
    obtain ⟨hannotates, hspans⟩ := ih rest hrest
    obtain ⟨-, hstart, hstop⟩ := hc.shape
    refine ⟨List.forall_mem_cons.2 ⟨hi.shown.1, hannotates⟩, ?_⟩
    rw [List.map_cons, List.map_cons, hspans, hi.shown.2, spanOf, hstart, hstop]

theorem respells_of_modified {mods : Foreign.Modifiers Tree} (h : Lowering.Spelled s cs mods)
    (hm : Modified mods.annotations (keywordsOf mods.flags) 0 a d) : Respells s cs a d := by
  obtain ⟨hd, is, js, hlist, his, hjs⟩ := hm
  obtain ⟨hnodup, hmem⟩ := keywordsOf_spelled h
  have huses := usesOf_spelled h his
  have hwords := map_kind_of_words hjs
  refine ⟨⟨is, js, hlist, huses, _, hwords, hnodup, hmem⟩, ?_⟩
  rw [modifierFlags_of_list hd hlist huses.annotates hwords, legacyWord_eq_of_mem_iff hmem]

/-- **Modifiers come back as they were spelled.** A node that owns
modifiers is lowered to a declaration, whatever is lowered before; the
tree is converted, whatever is converted before. Then the modifiers of
the declaration are the uses of annotations that the node spells, in
order, and one modifier for every keyword that it spells, and the legacy
view has the flags of these keywords. -/
theorem respells_of_lowersDeclaration (hl : LowersDeclaration s k t)
    (hc : ConvertsDeclaration ctx τ t d τ') : Respells s (modifierNodes k) τ'.arena d := by
  obtain ⟨mods, hmods, hspelled⟩ := carries_of_lowersDeclaration hl
  exact respells_of_modified hspelled (modified_of_convertsDeclaration hc hmods)

/-- A class with an annotation between its keywords, of which one is
repeated. -/
def repeatedFinalSource : Source :=
  .ofString "final @B public final class A \x7b\x7d"

/-- The class. -/
def repeatedFinalClass : Node :=
  .mk .classDeclaration none true false false 0 32 [
    .mk .modifiers none true false false 0 21 [
      .mk (.token "final") none false false false 0 5 [],
      .mk .annotationMarker none true false false 6 8 [
        .mk (.token "@") none false false false 6 7 [],
        .mk .identifier (some .name) true false false 7 8 []],
      .mk (.token "public") none false false false 9 15 [],
      .mk (.token "final") none false false false 16 21 []],
    .mk (.token "class") none false false false 22 27 [],
    .mk .identifier (some .name) true false false 28 29 [],
    .mk .classBody (some .body) true false false 30 32 [
      .mk (.token "\x7b") none false false false 30 31 [],
      .mk (.token "\x7d") none false false false 31 32 []]]

/-- The foreign tree of the class. -/
def repeatedFinalTree : Tree :=
  ((Lowering.actions repeatedFinalSource repeatedFinalClass).typeDeclaration .initial).1

theorem respells_repeatedFinal :
    LowersDeclaration repeatedFinalSource repeatedFinalClass repeatedFinalTree ∧
      ∃ d τ', ConvertsDeclaration ⟨repeatedFinalSource, .latest, ""⟩ .initial repeatedFinalTree
          d τ' ∧
        Respells repeatedFinalSource (modifierNodes repeatedFinalClass) τ'.arena d ∧
        (τ'.arena.tree d).modifierFlags = Keyword.publicAccess.flag ||| Keyword.final.flag := by
  have hlowers : LowersDeclaration repeatedFinalSource repeatedFinalClass repeatedFinalTree :=
    LowersDeclaration.type _ _
  have hok : ((actions repeatedFinalTree).typeDeclaration ⟨repeatedFinalSource, .latest, ""⟩
      .initial).isOk = true := by decide +kernel
  obtain ⟨d, τ', hrun⟩ := exists_of_isOk hok
  have hconverts := ConvertsDeclaration.type hrun
  have hrespells := respells_of_lowersDeclaration hlowers hconverts
  have hword : legacyWord (keywordsAmong repeatedFinalSource (modifierNodes repeatedFinalClass)) =
      Keyword.publicAccess.flag ||| Keyword.final.flag := by decide +kernel
  exact ⟨hlowers, d, τ', hconverts, hrespells, hrespells.flags.trans hword⟩

/-! ## Later steps -/

/-- Modifiers stay as long as nothing is done to the declaration and to
what hangs below any node. -/
theorem Respells.kept (h : Respells s cs a d) (hd : d < a.size) (hsize : a.size ≤ b.size)
    (hbelow : AlikeBelow a b) (halike : Alike d a b) : Respells s cs b d := by
  obtain ⟨⟨uses, words, hlist, huses, keywords, hkinds, hnodup, hmem⟩, hflags⟩ := h
  have hsame (i : NodeId) (hi : i ∈ uses ++ words) : Alike i a b :=
    (hbelow.of_mem_list hd (hlist ▸ hi)).2
  have huses' : UsesOf cs b uses := by
    refine ⟨fun i hi => ?_, ?_⟩
    · rw [(hsame i (List.mem_append_left words hi)).kind]
      exact huses.annotates i hi
    · rw [← huses.spans]
      exact List.map_congr_left fun i hi => (hsame i (List.mem_append_left words hi)).span
  have hkinds' : words.map b.kind = keywords.map .modifier := by
    rw [← hkinds]
    exact List.map_congr_left fun i hi => (hsame i (List.mem_append_right uses hi)).kind
  have hlist' : b.list d .modifiers = uses ++ words := (halike.list_eq _).trans hlist
  refine ⟨⟨uses, words, hlist', huses', keywords, hkinds', hnodup, hmem⟩, ?_⟩
  rw [modifierFlags_of_list (Nat.lt_of_lt_of_le hd hsize) hlist' huses'.annotates hkinds',
    legacyWord_eq_of_mem_iff hmem]

/-- **Hanging a declaration from its parent leaves its modifiers.** -/
theorem Respells.of_addChild {K : ℕ → Prop} {σ σ' : State} {owner : NodeId} {slot : Slot}
    {rest : List NodeId} {u : Unit} (h : Respells s cs σ.arena d)
    (hσ : Loose K σ (owner :: d :: rest)) (hrun : addChild owner slot d ctx σ = .ok (u, σ')) :
    Respells s cs σ'.arena d := by
  have htouches := (moves_addChild (K := K) owner slot d).touches hrun
  have hforest : Unified.Forest σ.arena ([owner, d] ++ rest) := hσ.forest
  have hd : d < σ.arena.size := hσ.forest.lt_size (by simp)
  have hne : d ≠ owner := fun hd => (List.nodup_cons.1 hσ.forest.nodup).1 (by simp [hd])
  refine h.kept hd htouches.size_le (alikeBelow_of_touches hforest htouches) ?_
  cases hrun
  exact Alike.addChild hne

/-- **A later step leaves the modifiers of a declaration** that does not
wait for its parent any more. -/
theorem Respells.of_moves {K : ℕ → Prop} {α : Type} {m : Convert α} {pre rest : List NodeId}
    {post : α → List NodeId} {σ σ' : State} {x : α} (h : Respells s cs σ.arena d)
    (hm : Moves K pre m post) (hσ : Loose K σ (pre ++ rest)) (hd : d < σ.arena.size)
    (hnot : d ∉ pre) (hrun : m ctx σ = .ok (x, σ')) : Respells s cs σ'.arena d := by
  have htouches := hm.touches hrun
  exact h.kept hd htouches.size_le (alikeBelow_of_touches hσ.forest htouches)
    (Alike.of_node_eq (htouches.node d hd hnot))

end Conversion

end TreeBridge
