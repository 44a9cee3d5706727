import TreeBridge.Proofs.Problem.ShownTree
import TreeBridge.Proofs.Text.WholeWord
/-!
# Problems that are shown at a member

A selection of a member points at the dot in front of the member. A
problem with it is shown over as many bytes as the name has, right behind
the dot; a mismatch of parameters is shown from there to the end of the
name of the called method. Both are the name exactly where nothing stands
between the dot and the name.
-/

namespace TreeBridge

namespace Problem

open Foreign (Diagnostic Shape Tree)
open Foreign.Tree (Ascends Subtree)
open Lowering (Called Selects SelectsClass)

variable {file : String} {s : Source} {n : Concrete.Node} {id : Id} {d : Diagnostic}
variable {t c method arg : Tree} {name : String}

/-! ## The text of a span -/

/-- The text of a span is a name exactly if the bytes from its start on
spell the name. -/
theorem textOf?_eq_some_iff {start : Nat} (hname : name ≠ "") (hsize : s.size < 2147483648) :
    s.textOf? ⟨start, name.utf8ByteSize⟩ = some name ↔
      utf8 name.toList <+: s.bytes.drop start := by
  constructor
  · intro h
    unfold Source.textOf? at h
    split at h
    · have hordered : (start : Int) ≤ Span.stop ⟨start, name.utf8ByteSize⟩ := by
        by_contra hlt
        unfold Source.slice? at h
        rw [if_pos (.inr (Int.not_le.1 hlt))] at h
        cases h
      generalize Span.stop ⟨start, name.utf8ByteSize⟩ = stop at h hordered
      have hend : 0 ≤ stop := by omega
      obtain ⟨stop, rfl⟩ := Int.eq_ofNat_of_zero_le hend
      obtain ⟨rfl, -⟩ := Word.bounds_of_slice? h
      exact Word.spells_of_slice? (by rwa [Int.natCast_add] at h)
    · cases h
  · intro h
    have hfits := h.length_le
    rw [length_utf8, List.length_drop] at hfits
    have hpos : 0 < name.utf8ByteSize :=
      Nat.pos_of_ne_zero fun hzero => hname (String.utf8ByteSize_eq_zero_iff.1 hzero)
    unfold Source.size at hsize
    rw [Source.textOf?_of_fits (by omega) (by omega) (by omega)]
    have hoccurs : Word.OccursAt s name 0 s.size start := by
      refine (Word.occursAt_iff hname (Int.le_refl 0)).2 ⟨start, rfl, by omega, ?_, h⟩
      rw [length_utf8, Int.toNat_natCast, Source.size]
      omega
    exact hoccurs.spelled

/-! ## Selections -/

/-- The name of the member that a tree selects. -/
def member? (t : Tree) : Option String :=
  match t.shape with
  | .select _ name => some name
  | _ => none

theorem exists_shape_of_member? (h : member? t = some name) :
    ∃ selected, t.shape = .select selected name := by
  unfold member? at h
  split at h
  · next selected own hshape =>
    cases h
    exact ⟨selected, hshape⟩
  · cases h

/-- A problem with a selection is shown over as many bytes as the name of
the member has, right behind the position of the selection. -/
theorem highlight_select (ht : Subtree t (parse s n).root) (hmember : member? t = some name)
    (hd : d.tree = some t.id) (hid : isShownElsewhere id = false) (hdoc : isAboutDoc d = false)
    (hpackage : namesPackage d = false) :
    highlight (.ofSource file s n) id d =
      ⟨wrap32 (t.position + 1), wrap32 name.utf8ByteSize⟩ := by
  obtain ⟨selected, hshape⟩ := exists_shape_of_member? hmember
  rw [(shownAt_of_subtree hid hdoc ht hd).highlight_eq, elementSpan, hshape]
  dsimp only
  rw [if_neg (Bool.eq_false_iff.1 hpackage)]

/-- A selection points at an offset, or right before the source. -/
theorem neg_one_le_position {k : Concrete.Node}
    (h : (∃ m, Selects s k m name t) ∨ SelectsClass k name t) : -1 ≤ t.position := by
  rcases h with ⟨m, hselects⟩ | hclass
  · rw [hselects.position]
    unfold Concrete.Node.dotOffset
    split <;> omega
  · rw [hclass.position]
    omega

theorem exists_selects (ht : Subtree t (parse s n).root) (hmember : member? t = some name) :
    ∃ k : Concrete.Node, k.Within n ∧ ((∃ m, Selects s k m name t) ∨ SelectsClass k name t) := by
  have hsited := Lowering.sited_lower s n t ht
  obtain ⟨selected, hshape⟩ := exists_shape_of_member? hmember
  unfold Lowering.Sited at hsited
  rwa [hshape] at hsited

/-- The name of a member is no longer than the source, if it is none of
the words that need no text. -/
theorem utf8ByteSize_member_lt {k : Concrete.Node} (hsize : s.size < 2147483648)
    (h : (∃ m, Selects s k m name t) ∨ SelectsClass k name t) :
    name.utf8ByteSize < 2147483648 := by
  rcases h with ⟨m, hselects⟩ | hclass
  · rcases hselects.name with htext | ⟨-, rfl⟩ | ⟨-, rfl⟩
    · by_cases hname : name = ""
      · rw [hname]
        decide
      · obtain ⟨hstop, hin⟩ := Concrete.Node.bounds_of_text htext hname
        omega
    · decide
    · decide
  · rw [hclass.name]
    decide

/-- The text that a problem with a selection is shown at is the name of the
member exactly if that is what stands right behind the dot. -/
theorem textOf?_highlight_select_iff (ht : Subtree t (parse s n).root)
    (hmember : member? t = some name) (hname : name ≠ "") (hposition : t.position < s.size)
    (hd : d.tree = some t.id) (hid : isShownElsewhere id = false) (hdoc : isAboutDoc d = false)
    (hpackage : namesPackage d = false) (hsize : s.size < 2147483648) :
    s.textOf? (highlight (.ofSource file s n) id d) = some name ↔
      utf8 name.toList <+: s.bytes.drop (t.position + 1).toNat := by
  obtain ⟨k, -, hk⟩ := exists_selects ht hmember
  have hstart := neg_one_le_position hk
  have hlength := utf8ByteSize_member_lt hsize hk
  have hnonneg : 0 ≤ t.position + 1 := by omega
  obtain ⟨p, hp⟩ := Int.eq_ofNat_of_zero_le hnonneg
  rw [highlight_select ht hmember hd hid hdoc hpackage,
    wrap32_of_nonneg_of_lt hnonneg (by omega),
    wrap32_of_nonneg_of_lt (Int.natCast_nonneg _) (by omega), hp]
  exact textOf?_eq_some_iff hname hsize

/-- Two places that spell one word begin with one byte. -/
theorem getElem?_eq_of_spells {word bytes : List UInt8} {i j : Nat} (hne : word ≠ [])
    (hi : word <+: bytes.drop i) (hj : word <+: bytes.drop j) : bytes[i]? = bytes[j]? := by
  have hfirst {k : Nat} (hk : word <+: bytes.drop k) : bytes[k]? = word[0]? := by
    obtain ⟨rest, hrest⟩ := hk
    rw [← Nat.add_zero k, ← List.getElem?_drop, ← hrest,
      List.getElem?_append_left (List.length_pos_iff.2 hne)]
  rw [hfirst hi, hfirst hj]

/-! ## Calls -/

/-- The method that a tree calls, and the arguments. -/
def callOf? (t : Tree) : Option (Tree × List Tree) :=
  match t.shape with
  | .call _ method args => some (method, args)
  | _ => none

variable {args : List Tree}

theorem exists_shape_of_callOf? (h : callOf? c = some (method, args)) :
    ∃ typeArguments, c.shape = .call typeArguments method args := by
  unfold callOf? at h
  split at h
  · next typeArguments method' args' hshape =>
    cases h
    exact ⟨typeArguments, hshape⟩
  · cases h

theorem mem_children_of_callOf? (h : callOf? c = some (method, args)) :
    ∀ t ∈ method :: args, t ∈ c.children := by
  obtain ⟨typeArguments, hshape⟩ := exists_shape_of_callOf? h
  rw [Tree.children, hshape]
  simp +contextual [Shape.children]

/-- A member that is called ends where its node does. -/
theorem exists_called (hc : Subtree c (parse s n).root) (hcall : callOf? c = some (method, args))
    (hmember : member? method = some name) :
    ∃ k m : Concrete.Node, k.Within n ∧ Selects s k m name method ∧ method.stop = m.stop := by
  have hsited := Lowering.sited_lower s n c hc
  obtain ⟨typeArguments, hshape⟩ := exists_shape_of_callOf? hcall
  obtain ⟨selected, hselect⟩ := exists_shape_of_member? hmember
  unfold Lowering.Sited at hsited
  rw [hshape] at hsited
  exact hsited selected name hselect

/-- The nearest call around an argument is the one that it is an argument
of. -/
theorem head?_toCall_trail (hc : Subtree c (parse s n).root)
    (hcall : callOf? c = some (method, args)) (harg : arg ∈ args) (hd : d.tree = some arg.id) :
    (toCall ((Scene.ofSource file s n).trail d)).head? = some c := by
  obtain ⟨typeArguments, hshape⟩ := exists_shape_of_callOf? hcall
  have hchild := mem_children_of_callOf? hcall arg (List.mem_cons_of_mem _ harg)
  obtain ⟨above, hchain, hlast⟩ := hc.exists_ascends
  have htrail : (Scene.ofSource file s n).trail d = arg :: c :: above :=
    trail_ofSource hd (List.isChain_cons_cons.2 ⟨hchild, hchain⟩)
      (by rwa [List.getLast?_cons_cons])
  have htag : c.tag = .call := by
    rw [Tree.tag, hshape]
    rfl
  rw [htrail, toCall, List.drop_one, List.tail_cons, List.dropWhile_cons]
  simp [htag]

/-- A mismatch of parameters at an argument is shown from right behind the
dot in front of the called method to the end of its name. -/
theorem highlight_argument (hc : Subtree c (parse s n).root)
    (hcall : callOf? c = some (method, args)) (hmember : member? method = some name)
    (harg : arg ∈ args) (hd : d.tree = some arg.id)
    (hid : classify (.ofSource file s n) d = .parameterMismatch) :
    highlight (.ofSource file s n) .parameterMismatch d =
      .ofBounds (wrap32 (method.position + 1)) method.stop := by
  have helsewhere : isShownElsewhere (classify (.ofSource file s n) d) = true := by
    rw [hid]
    rfl
  have hdoc : isAboutDoc d = false := noDoc_of_isShownElsewhere helsewhere
  obtain ⟨typeArguments, hshape⟩ := exists_shape_of_callOf? hcall
  obtain ⟨selected, hselect⟩ := exists_shape_of_member? hmember
  have hspecial : specialSpan? (.ofSource file s n) .parameterMismatch d =
      some (.ofBounds (wrap32 (method.position + 1)) method.stop) := by
    rw [specialSpan?, head?_toCall_trail hc hcall harg hd, Option.bind_some, calledSpan?, hshape]
    dsimp only
    rw [hselect]
  rw [highlight, if_neg (Bool.eq_false_iff.1 hdoc), sceneSpan, hspecial]

/-- The text from an offset to the end of a node is that of the node
exactly if the node starts there. -/
theorem textOf?_ofBounds_iff {m : Concrete.Node} {start : Int} (hname : name ≠ "")
    (htext : m.text s = name) (hstart : 0 ≤ start) (hsize : s.size < 2147483648) :
    s.textOf? (.ofBounds start m.stop) = some name ↔ (m.start : Int) = start := by
  have hslice := Concrete.Node.slice?_of_text htext hname
  obtain ⟨hstop, hin⟩ := Concrete.Node.bounds_of_text htext hname
  obtain ⟨p, rfl⟩ := Int.eq_ofNat_of_zero_le hstart
  rcases Int.lt_or_le m.stop p with hlt | hle
  · rw [Span.ofBounds, if_pos (.inr hlt)]
    exact iff_of_false (fun h => nomatch h) (by omega)
  · have hend : (p : Int) + (m.stop - p) = m.stop := by omega
    rw [Span.ofBounds, if_neg (by omega), wrap32_of_nonneg_of_lt (by omega) (by omega),
      Source.textOf?_of_fits (by omega) (by omega) (by omega), hend]
    constructor
    · intro h
      obtain ⟨hstop', -⟩ := Word.bounds_of_slice? h
      omega
    · intro h
      rwa [← h]

/-! ## Where members are shown -/

/-- **A problem with a member is shown at its name** exactly if the name
stands right behind the dot: at a selection the span covers what stands
there, which is not the name if it begins with another byte, and at an
argument of a call it reaches from there to the end of the name. -/
theorem textOf?_highlight_member (file : String) (s : Source) (n : Concrete.Node)
    (hsize : s.size < 2147483648) :
    (∀ (id : Id) (d : Diagnostic) (t : Tree) (name : String), Subtree t (parse s n).root →
        member? t = some name → name ≠ "" → t.position < s.size → d.tree = some t.id →
        isShownElsewhere id = false → isAboutDoc d = false → namesPackage d = false →
        (s.textOf? (highlight (.ofSource file s n) id d) = some name ↔
          utf8 name.toList <+: s.bytes.drop (t.position + 1).toNat) ∧
        ∃ k : Concrete.Node, k.Within n ∧ (SelectsClass k name t ∨ ∃ m, Selects s k m name t ∧
          (m.text s = name →
            ((m.start : Int) = t.position + 1 →
              s.textOf? (highlight (.ofSource file s n) id d) = some name) ∧
            (s.bytes[(t.position + 1).toNat]? ≠ s.bytes[m.start]? →
              s.textOf? (highlight (.ofSource file s n) id d) ≠ some name)))) ∧
      ∀ (d : Diagnostic) (c method arg : Tree) (args : List Tree) (name : String),
        Subtree c (parse s n).root → callOf? c = some (method, args) →
        member? method = some name → name ≠ "" → method.position < s.size → arg ∈ args →
        d.tree = some arg.id → classify (.ofSource file s n) d = .parameterMismatch →
        ∃ k m : Concrete.Node, k.Within n ∧ Selects s k m name method ∧ (m.text s = name →
          (s.textOf? (highlight (.ofSource file s n) .parameterMismatch d) = some name ↔
            (m.start : Int) = method.position + 1)) := by
  constructor
  · intro id d t name ht hmember hname hposition hd hid hdoc hpackage
    have hiff : s.textOf? (highlight (.ofSource file s n) id d) = some name ↔
        utf8 name.toList <+: s.bytes.drop (t.position + 1).toNat :=
      textOf?_highlight_select_iff ht hmember hname hposition hd hid hdoc hpackage hsize
    obtain ⟨k, hk, hselects | hclass⟩ := exists_selects ht hmember
    · obtain ⟨m, hm⟩ := hselects
      refine ⟨hiff, k, hk, .inr ⟨m, hm, fun htext => ?_⟩⟩
      have hspelled : utf8 name.toList <+: s.bytes.drop m.start :=
        Word.spells_of_slice? (Concrete.Node.slice?_start_of_text htext hname)
      constructor
      · intro hnext
        rwa [hiff, ← hnext, Int.toNat_natCast]
      · intro hother heq
        exact hother (getElem?_eq_of_spells (utf8_toList_ne_nil hname) (hiff.1 heq) hspelled)
    · exact ⟨hiff, k, hk, .inl hclass⟩
  · intro d c method arg args name hc hcall hmember hname hposition harg hd hid
    obtain ⟨k, m, hk, hselects, hstop⟩ := exists_called hc hcall hmember
    have hstart := neg_one_le_position (.inl ⟨m, hselects⟩)
    refine ⟨k, m, hk, hselects, fun htext => ?_⟩
    rw [highlight_argument hc hcall hmember harg hd hid, hstop,
      wrap32_of_nonneg_of_lt (by omega) (by omega)]
    exact textOf?_ofBounds_iff hname htext (by omega) hsize

/-- A field that is a call, with a blank behind the dot. -/
def spacedSource : Source :=
  .ofString "class A \x7b Object f = a. b(c); \x7d"

/-- The concrete tree of the class of the field. -/
def spacedUnit : Concrete.Node :=
  .mk (.token "program") none true false false 0 31 [
    .mk .classDeclaration none true false false 0 31 [
      .mk (.token "class") none false false false 0 5 [],
      .mk .identifier (some .name) true false false 6 7 [],
      .mk .classBody (some .body) true false false 8 31 [
        .mk (.token "\x7b") none false false false 8 9 [],
        .mk .fieldDeclaration none true false false 10 29 [
          .mk .typeIdentifier (some .type) true false false 10 16 [],
          .mk .variableDeclarator (some .declarator) true false false 17 28 [
            .mk .identifier (some .name) true false false 17 18 [],
            .mk (.token "=") none false false false 19 20 [],
            .mk .methodInvocation (some .value) true false false 21 28 [
              .mk .identifier (some .object) true false false 21 22 [],
              .mk (.token ".") none false false false 22 23 [],
              .mk .identifier (some .name) true false false 24 25 [],
              .mk (.token "argument_list") (some .arguments) true false false 25 28 [
                .mk (.token "(") none false false false 25 26 [],
                .mk .identifier none true false false 26 27 [],
                .mk (.token ")") none false false false 27 28 []]]],
          .mk (.token ";") none false false false 28 29 []],
        .mk (.token "\x7d") none false false false 30 31 []]]]

/-- The method of the call is not known. -/
def spacedUnknown : Diagnostic :=
  (Diagnostic.errorAt "compiler.err.cant.resolve.location.args" "cannot find symbol" 21
    25).aboutTree 2

/-- The method of the call does not fit its argument. -/
def spacedMismatch : Diagnostic :=
  { (Diagnostic.errorAt "compiler.err.cant.apply.symbol" "method cannot be applied" 26
      27).aboutTree 3 with arguments := [.kindName .methodKind] }

/-- The scene of the class. -/
def spacedScene : Scene :=
  .ofSource "A.java" spacedSource spacedUnit

/-- The blank is taken for the name of the member, or for its beginning. -/
theorem highlight_spaced :
    ((parse spacedSource spacedUnit).root.lastFirst.filterMap (fun t =>
        (member? t).map (fun name => (t.id, t.position, name)))) = [(2, 22, "b")] ∧
    ((parse spacedSource spacedUnit).root.lastFirst.filterMap callOf?).map
        (fun call => (call.1.id, call.2.map Tree.id)) = [(2, [3])] ∧
    spacedUnknown.tree = some 2 ∧ spacedMismatch.tree = some 3 ∧
    classify spacedScene spacedUnknown = .undefinedMethod ∧
    classify spacedScene spacedMismatch = .parameterMismatch ∧
    highlight spacedScene .undefinedMethod spacedUnknown = ⟨23, 1⟩ ∧
    spacedSource.textOf? ⟨23, 1⟩ = some " " ∧
    highlight spacedScene .parameterMismatch spacedMismatch = ⟨23, 2⟩ ∧
    spacedSource.textOf? ⟨23, 2⟩ = some " b" := by
  decide +kernel

theorem textOf?_highlight_spaced :
    (∃ t, Subtree t (parse spacedSource spacedUnit).root ∧ member? t = some "b" ∧
      (spacedSource.textOf? (highlight spacedScene .undefinedMethod spacedUnknown) = some "b" ↔
        utf8 "b".toList <+: spacedSource.bytes.drop (t.position + 1).toNat)) ∧
    ∃ method k m, Selects spacedSource k m "b" method ∧ (m.text spacedSource = "b" →
      (spacedSource.textOf? (highlight spacedScene .parameterMismatch spacedMismatch) = some "b" ↔
        (m.start : Int) = method.position + 1)) := by
  have hcalls : ((parse spacedSource spacedUnit).root.lastFirst.filterMap (fun c =>
      (callOf? c).map (fun call => (c, call)))).map (fun call =>
        (member? call.2.1, call.2.1.id, call.2.1.position, call.2.2.map Tree.id)) =
          [(some "b", 2, 22, [3])] := by decide +kernel
  obtain ⟨⟨c, method, args⟩, hfound, hcall⟩ := List.map_eq_singleton_iff.1 hcalls
  obtain ⟨hmember, hcall⟩ := Prod.mk.inj hcall
  obtain ⟨hmethod, hcall⟩ := Prod.mk.inj hcall
  obtain ⟨hposition, hargs⟩ := Prod.mk.inj hcall
  obtain ⟨arg, rfl, harg⟩ := List.map_eq_singleton_iff.1 hargs
  obtain ⟨c', hc, hcall⟩ := List.mem_filterMap.1 (hfound ▸ List.mem_singleton_self _)
  obtain ⟨call, hcall, hpair⟩ := Option.map_eq_some_iff.1 hcall
  obtain ⟨rfl, rfl⟩ := Prod.mk.inj hpair
  have hc := Tree.mem_lastFirst_iff.1 hc
  have hin : method.position < spacedSource.size := by
    rw [hposition]
    decide +kernel
  obtain ⟨hselections, harguments⟩ := textOf?_highlight_member "A.java" spacedSource spacedUnit
    (by decide +kernel)
  have hmethodIn : Subtree method (parse spacedSource spacedUnit).root :=
    .trans (.of_mem (mem_children_of_callOf? hcall method List.mem_cons_self)) hc
  obtain ⟨hselected, -⟩ := hselections .undefinedMethod spacedUnknown method "b" hmethodIn hmember
    (by decide) hin (hmethod ▸ rfl) rfl (by decide +kernel) rfl
  obtain ⟨k, m, -, hselects, hargument⟩ := harguments spacedMismatch c' method arg [arg] "b" hc
    hcall hmember (by decide) hin (List.mem_singleton_self _) (harg ▸ rfl) (by decide +kernel)
  exact ⟨⟨method, hmethodIn, hmember, hselected⟩, method, k, m, hselects, hargument⟩

end Problem

end TreeBridge
