import TreeBridge.Proofs.Conversion.Modifiers
import TreeBridge.Proofs.Lexical.Nesting
/-!
# The brackets of an array creation

The tokens behind the element type of an array creation are read with one
counter for open brackets and open parentheses, and with the place where
the last outermost one opened. Inside a pair, properly nested tokens leave
the reading as it was. So a whole reading finds the outermost pairs: a
span for every pair of square brackets before the first brace, and that
brace. The type of the creation gets a dimension over every span, and the
initializer starts with the brace.
-/

namespace TreeBridge

namespace Conversion

open Foreign (Tree Shape)
open Foreign.Tree (Part Parts Subtree)
open Lexical (Token TokenKind Enclosure Nested)
open Unified (NodeId NodeKind Child Arena Touches Alike LeavesOthers Hangs)

/-! ## What a reading finds -/

/-- The span of a pair, from its opening to its closing bracket. -/
def enclosureSpan (e : Enclosure) : Span :=
  .ofBounds e.opening.start e.closing.stop

/-- The pairs of square brackets before the first pair of braces. -/
def squarePairs (pairs : List Enclosure) : List Enclosure :=
  (pairs.takeWhile fun e => e.opening.kind != .leftBrace).filter
    fun e => e.opening.kind == .leftBracket

/-- The brace that opens the first pair of braces. -/
def firstBrace? (pairs : List Enclosure) : Option Token :=
  (pairs.find? fun e => e.opening.kind == .leftBrace).map (·.opening)

variable {t : Token} {ts inside : List Token} {pairs within : List Enclosure} {e : Enclosure}
  {depth : ℕ} {opened : Int} {spans : List Span}

theorem mem_of_mem_squarePairs (h : e ∈ squarePairs pairs) : e ∈ pairs :=
  (List.takeWhile_sublist _).subset (List.mem_filter.1 h).1

theorem exists_of_firstBrace? {brace : Token} (h : firstBrace? pairs = some brace) :
    ∃ e ∈ pairs, e.opening = brace := by
  obtain ⟨e, he, rfl⟩ := Option.map_eq_some_iff.1 h
  exact ⟨e, List.mem_of_find?_eq_some he, rfl⟩

/-! ## One token -/

/-- A reading that has found no brace yet. -/
def reading (depth : ℕ) (opened : Int) (spans : List Span) : BracketRead :=
  ⟨depth, opened, spans, none⟩

theorem readBracket_plain (h : t.kind.isBracket = false) :
    readBracket (reading depth opened spans) t = reading depth opened spans := by
  obtain ⟨kind, start, stop⟩ := t
  cases kind with
  | leftParen | rightParen | leftBrace | rightBrace | leftBracket | rightBracket => cases h
  | _ => rfl

theorem readBracket_opening (h : t.kind = .leftParen ∨ t.kind = .leftBracket) :
    readBracket (reading depth opened spans) t =
      reading (depth + 1) (if depth = 0 then t.start else opened) spans := by
  rcases h with h | h <;> by_cases hdepth : depth = 0 <;> simp [readBracket, reading, h, hdepth]

theorem readBracket_rightParen (h : t.kind = .rightParen) :
    readBracket (reading (depth + 1) opened spans) t = reading depth opened spans := by
  simp [readBracket, reading, h]

theorem readBracket_rightBracket (h : t.kind = .rightBracket) :
    readBracket (reading (depth + 1) opened spans) t =
      reading depth opened (if depth = 0 then spans ++ [.ofBounds opened t.stop] else spans) := by
  by_cases hdepth : depth = 0 <;> simp [readBracket, reading, h, hdepth]

theorem readBracket_leftBrace (h : t.kind = .leftBrace) :
    readBracket (reading depth opened spans) t =
      if depth = 0 then ⟨0, opened, spans, some t.start⟩ else reading depth opened spans := by
  by_cases hdepth : depth = 0 <;> simp [readBracket, reading, h, hdepth]

theorem readBracket_rightBrace (h : t.kind = .rightBrace) :
    readBracket (reading depth opened spans) t = reading depth opened spans := by
  simp [readBracket, reading, h]

/-- After the brace nothing is read. -/
theorem foldl_readBracket_of_brace {brace : Int} (ts : List Token) :
    ts.foldl readBracket ⟨depth, opened, spans, some brace⟩ =
      ⟨depth, opened, spans, some brace⟩ := by
  induction ts with
  | nil => rfl
  | cons t ts ih => exact ih

/-! ## Nested tokens -/

/-- **Inside a pair, nested tokens leave a reading as it was.** -/
theorem foldl_readBracket_inside (h : Nested ts pairs) (hdepth : depth ≠ 0) :
    ts.foldl readBracket (reading depth opened spans) = reading depth opened spans := by
  induction h generalizing depth with
  | nil => rfl
  | plain hplain _ ih => rw [List.foldl_cons, readBracket_plain hplain, ih hdepth]
  | @pair e inside ts within pairs _ _ ihInside ihRest =>
    -- the depth stays above zero throughout, so no opening is remembered and no span is found
    rw [List.foldl_cons, List.foldl_append, List.foldl_cons]
    rcases TokenKind.closing?_eq_some_iff.1 e.closes with ⟨ho, hc⟩ | ⟨ho, hc⟩ | ⟨ho, hc⟩
    · rw [readBracket_opening (.inl ho), if_neg hdepth, ihInside (Nat.succ_ne_zero depth),
        readBracket_rightParen hc, ihRest hdepth]
    · rw [readBracket_leftBrace ho, if_neg hdepth, ihInside hdepth, readBracket_rightBrace hc,
        ihRest hdepth]
    · rw [readBracket_opening (.inr ho), if_neg hdepth, ihInside (Nat.succ_ne_zero depth),
        readBracket_rightBracket hc, if_neg hdepth, ihRest hdepth]

/-- **Outside of all pairs, nested tokens are read as their outermost
pairs**: the reading is outside again in the end, and has got a span for
every pair of square brackets before the first brace, and that brace. -/
theorem foldl_readBracket_outside (h : Nested ts pairs) (opened : Int) (spans : List Span) :
    ∃ last, ts.foldl readBracket (reading 0 opened spans) =
      ⟨0, last, spans ++ (squarePairs pairs).map enclosureSpan,
        (firstBrace? pairs).map fun brace => (brace.start : Int)⟩ := by
  induction h generalizing opened spans with
  | nil => exact ⟨opened, by simp [reading, squarePairs, firstBrace?]⟩
  | plain hplain _ ih =>
    rw [List.foldl_cons, readBracket_plain hplain]
    exact ih opened spans
  | @pair e inside ts within pairs hinside _ _ ih =>
    -- what is inside is read at depth one, unless a brace has ended the reading
    rw [List.foldl_cons, List.foldl_append, List.foldl_cons]
    rcases TokenKind.closing?_eq_some_iff.1 e.closes with ⟨ho, hc⟩ | ⟨ho, hc⟩ | ⟨ho, hc⟩
    · have hpairs : squarePairs (e :: pairs) = squarePairs pairs := by simp [squarePairs, ho]
      have hbrace : firstBrace? (e :: pairs) = firstBrace? pairs := by simp [firstBrace?, ho]
      rw [readBracket_opening (.inl ho), if_pos rfl,
        foldl_readBracket_inside hinside (Nat.succ_ne_zero 0), readBracket_rightParen hc, hpairs,
        hbrace]
      exact ih e.opening.start spans
    · have hpairs : squarePairs (e :: pairs) = [] := by simp [squarePairs, ho]
      have hbrace : firstBrace? (e :: pairs) = some e.opening := by simp [firstBrace?, ho]
      rw [readBracket_leftBrace ho, if_pos rfl, ← List.foldl_cons, ← List.foldl_append,
        foldl_readBracket_of_brace, hpairs, hbrace]
      exact ⟨opened, by simp⟩
    · have hpairs : squarePairs (e :: pairs) = e :: squarePairs pairs := by simp [squarePairs, ho]
      have hbrace : firstBrace? (e :: pairs) = firstBrace? pairs := by simp [firstBrace?, ho]
      rw [readBracket_opening (.inr ho), if_pos rfl,
        foldl_readBracket_inside hinside (Nat.succ_ne_zero 0), readBracket_rightBracket hc,
        if_pos rfl, hpairs, hbrace, List.map_cons]
      obtain ⟨last, hlast⟩ := ih e.opening.start (spans ++ [enclosureSpan e])
      rw [List.append_assoc, List.singleton_append] at hlast
      exact ⟨last, hlast⟩

/-! ## The nodes -/

/-- A span reaches from one offset to another, which it keeps as an offset
of 32 bits. -/
structure Reaches (span : Span) (start stop : Int) : Prop where
  start : span.start = start
  stop : span.stop = wrap32 stop

theorem reaches_ofBounds {start stop : Int} (hstart : 0 ≤ start) (hle : start ≤ stop) :
    Reaches (.ofBounds start stop) start stop := by
  have hbounds : Span.ofBounds start stop = ⟨start, wrap32 (stop - start)⟩ :=
    if_neg (by omega)
  have hsum : start + (stop - start) = stop := by omega
  refine ⟨by rw [hbounds], ?_⟩
  rw [hbounds]
  show wrap32 (start + wrap32 (stop - start)) = wrap32 stop
  unfold wrap32
  rw [Int.add_bmod_bmod, hsum]

/-- What is shown for a span: a dimension over it. -/
def IsDimension (span : Span) (kind : NodeKind) (place : Span) : Prop :=
  kind = .dimension ∧ place = span

/-- A node that is not among the first `k` is an array type: below it are an
element type and dimensions over some spans, in order. -/
structure Dimensioned (k : ℕ) (a : Arena) (spans : List Span) (i : NodeId) : Prop where
  fresh : k ≤ i ∧ i < a.size
  kind : a.kind i = .arrayType
  children : ∃ (element : NodeId) (dims : List NodeId),
    a.entries i = ⟨.elementType, element⟩ :: dims.map (⟨.dimensions, ·⟩) ∧
      List.Forall₂ (fun span d => Shows (IsDimension span) k a d) spans dims

/-- What is made after an array type leaves it as it is. -/
theorem Dimensioned.of_alike {k : ℕ} {a b : Arena} {i : NodeId} (h : Dimensioned k a spans i)
    (hsize : a.size ≤ b.size) (halike : ∀ j < a.size, Alike j a b) : Dimensioned k b spans i := by
  obtain ⟨⟨hk, hi⟩, hkind, element, dims, hentries, hdims⟩ := h
  have hself := halike i hi
  exact ⟨⟨hk, Nat.lt_of_lt_of_le hi hsize⟩, hself.kind.trans hkind, element, dims,
    hself.entries.trans hentries,
    hdims.imp fun _ d hd => hd.of_alike hsize (halike d hd.fresh.2)⟩

section

variable {K : ℕ → Prop} {tree : Tree} {below : Below tree} {ctx : Context} {σ σ' : State}
  {id : NodeId} {u : Unit}

/-- **The type of an array creation** has a dimension over every span. -/
theorem dimensioned_arrayTypeWith (hb : Grounded K below) {p : Part tree} (hp : Subtree p.1 tree)
    (hrun : arrayTypeWith below p spans ctx σ = .ok (id, σ')) :
    Dimensioned σ.arena.size σ'.arena spans id := by
  obtain ⟨element, σ₁, helement, hrun⟩ := bind_eq_ok.1 hrun
  obtain ⟨id, σ₂, hid, hrun⟩ := bind_eq_ok.1 hrun
  obtain ⟨_, σ₃, hadd, hrun⟩ := bind_eq_ok.1 hrun
  obtain ⟨_, σ₄, hdims, hrun⟩ := bind_eq_ok.1 hrun
  obtain ⟨rfl, rfl⟩ := pure_eq_ok.1 hrun
  have hle : σ.arena.size ≤ σ₁.arena.size := ((hb.sound p hp).type.touches helement).size_le
  obtain ⟨hidEq, hid₂, hnode⟩ := synthetic_eq_ok hid
  have hnew : σ.arena.size ≤ id := hidEq ▸ hle
  cases hadd
  have hid₃ : id < (σ₂.arena.addChild id .elementType element).size := by
    rwa [Arena.size_addChild]
  obtain ⟨dims, hhangs, hmade⟩ := hangs_addEach (K := K) hid₃
    (R := fun a span d => Shows (IsDimension span) (σ₂.arena.addChild id .elementType element).size
      a d)
    (fun _ _ _ _ hs hd => hd.spared hid₃ hs) (fun _ _ => yields_synthetic _ _ rfl)
    (fun _ _ _ _ _ hk hd => shows_synthetic ⟨rfl, rfl⟩ hk hd) (Nat.le_refl _) hdims
  refine ⟨⟨hnew, Nat.lt_of_lt_of_le hid₃ hhangs.touches.size_le⟩, ?_, element, dims, ?_,
    hmade.imp fun _ _ hd => hd.weaken (Nat.le_trans hnew (Nat.le_of_lt hid₃))⟩
  · rw [hhangs.touches.kind id hid₃, Arena.kind_addChild, Arena.kind, hnode]
  · rw [hhangs.entries, Arena.entries_addChild_self hid₂, Arena.entries, hnode]
    rfl

/-- The elements of an array creation hang below it in one initializer, that
starts with the brace and ends with the creation. -/
theorem hangs_addInitializer (hb : Grounded K below) {owner : NodeId} {brace : Option Int}
    {elements : Option (Parts tree)} (he : ∀ ps, elements = some ps → ∀ p ∈ ps, Subtree p.1 tree)
    (howner : owner < σ.arena.size)
    (hrun : addInitializer below owner brace elements ctx σ = .ok (u, σ')) :
    ∃ initializer : Option NodeId, initializer.isSome = elements.isSome ∧
      Hangs owner (initializer.toList.map (⟨.initializer, ·⟩)) σ.arena σ'.arena ∧
      ∀ i ∈ initializer, σ'.arena.kind i = .arrayInitializer ∧
        σ'.arena.span i = .ofBounds (brace.getD (-1)) tree.stop := by
  cases elements with
  | none =>
    obtain ⟨-, rfl⟩ := pure_eq_ok.1 hrun
    exact ⟨none, rfl, Hangs.nil owner σ.arena, by simp⟩
  | some ps =>
    obtain ⟨i, σ₁, hi, hrun⟩ := bind_eq_ok.1 hrun
    obtain ⟨_, σ₂, hfill, hadd⟩ := bind_eq_ok.1 hrun
    cases hadd
    have hmakes := (yields_synthetic (K := K) _ _ (by rfl)).touches hi
    obtain ⟨rfl, hlt, hnode⟩ := synthetic_eq_ok hi
    obtain ⟨ids, hhangs⟩ := exists_hangs_addEach hlt
      (fun p hp => (hb.sound p (he ps rfl p hp)).expression) hfill
    refine ⟨some σ.arena.size, rfl, Hangs.attach (hmakes.trans hhangs.touches) howner .initializer,
      fun j hj => ?_⟩
    obtain rfl := Option.some.inj hj
    refine ⟨?_, ?_⟩
    · show (σ₂.arena.addChild owner .initializer σ.arena.size).kind σ.arena.size = _
      rw [Arena.kind_addChild, hhangs.touches.kind _ hlt, Arena.kind, hnode]
    · show (σ₂.arena.addChild owner .initializer σ.arena.size).span σ.arena.size = _
      rw [Arena.span_addChild, hhangs.span, Arena.span, hnode]

/-- **An array creation is made of what its tokens are read as.** -/
theorem arrayCreation_eq_ok (hb : Grounded K below) {elementType : Part tree} {dims : Parts tree}
    {extraDims : ℕ} {elements : Option (Parts tree)} (ht : Subtree elementType.1 tree)
    (hd : ∀ p ∈ dims, Subtree p.1 tree)
    (he : ∀ ps, elements = some ps → ∀ p ∈ ps, Subtree p.1 tree)
    (hrun : arrayCreation below elementType dims extraDims elements ctx σ = .ok (id, σ')) :
    let read := (Lexical.codeTokensBetween ctx.source elementType.1.stop tree.stop).foldl
      readBracket (reading 0 (-1) [])
    ∃ (type : NodeId) (sizes : List NodeId) (initializer : Option NodeId),
      σ'.arena.kind id = .arrayCreation ∧
      σ'.arena.entries id = ⟨.type, type⟩ :: (sizes.map (⟨.dimensions, ·⟩) ++
        initializer.toList.map (⟨.initializer, ·⟩)) ∧
      Dimensioned σ.arena.size σ'.arena (read.brackets.take (dims.length + extraDims)) type ∧
      initializer.isSome = elements.isSome ∧
      ∀ i ∈ initializer, σ'.arena.kind i = .arrayInitializer ∧
        σ'.arena.span i = .ofBounds (read.brace.getD (-1)) tree.stop := by
  obtain ⟨tokens, _, htokens, hrun⟩ := bind_eq_ok.1 hrun
  cases htokens
  obtain ⟨type, σ₁, htype, hrun⟩ := bind_eq_ok.1 hrun
  obtain ⟨id, σ₂, hid, hrun⟩ := bind_eq_ok.1 hrun
  obtain ⟨_, σ₃, hadd, hrun⟩ := bind_eq_ok.1 hrun
  obtain ⟨_, σ₄, hsizes, hrun⟩ := bind_eq_ok.1 hrun
  obtain ⟨_, σ₅, hinitializer, hrun⟩ := bind_eq_ok.1 hrun
  obtain ⟨rfl, rfl⟩ := pure_eq_ok.1 hrun
  have hdimensioned := dimensioned_arrayTypeWith hb ht htype
  have hmakes := (yields_alloc hb.root .arrayCreation rfl).touches hid
  obtain ⟨hidEq, hid₂, hnode⟩ := allocAt_eq_ok hid
  cases hadd
  have hid₃ : id < (σ₂.arena.addChild id .type type).size := by rwa [Arena.size_addChild]
  obtain ⟨sizes, hsized⟩ := exists_hangs_addEach hid₃
    (fun p hp => (hb.sound p (hd p hp)).expression) hsizes
  have hid₄ := Nat.lt_of_lt_of_le hid₃ hsized.touches.size_le
  obtain ⟨initializer, hsome, hinitialized, hspan⟩ := hangs_addInitializer hb he hid₄ hinitializer
  have hhangs := hsized.trans hinitialized
  refine ⟨type, sizes, initializer, ?_, ?_, ?_, hsome, hspan⟩
  · rw [hhangs.touches.kind id hid₃, Arena.kind_addChild, Arena.kind, hnode]
  · rw [hhangs.entries, Arena.entries_addChild_self hid₂, Arena.entries, hnode]
    rfl
  · -- the creation is newer than its type, and all later steps hang nodes below the creation
    have hothers : LeavesOthers id σ₁.arena σ₅.arena :=
      ((LeavesOthers.of_touches hmakes (by simp)).trans
        (LeavesOthers.addChild id .type type)).trans hhangs.leavesOthers
    exact hdimensioned.of_alike hothers.size_le fun j hj =>
      hothers.alike j hj (Nat.ne_of_lt (hidEq ▸ hj))

/-- A node is the creation of an array with its brackets matched. Below it
are a type, sizes, and an initializer if there are elements. The type has
one dimension for every pair of square brackets before the first brace, in
order, each from the opening to the closing bracket, and the initializer
starts with that brace. -/
structure Bracketed (k : ℕ) (a : Arena) (pairs : List Enclosure) (elements : Option (List Tree))
    (stop : Int) (id : NodeId) : Prop where
  kind : a.kind id = .arrayCreation
  spans : ∀ e ∈ squarePairs pairs, Reaches (enclosureSpan e) e.opening.start e.closing.stop
  children : ∃ (type : NodeId) (sizes : List NodeId) (initializer : Option NodeId),
    a.entries id = ⟨.type, type⟩ :: (sizes.map (⟨.dimensions, ·⟩) ++
      initializer.toList.map (⟨.initializer, ·⟩)) ∧
    Dimensioned k a ((squarePairs pairs).map enclosureSpan) type ∧
    initializer.isSome = elements.isSome ∧
    ∀ i ∈ initializer, a.kind i = .arrayInitializer ∧
      ∀ brace ∈ firstBrace? pairs, Reaches (a.span i) brace.start stop

theorem expression_newArray {elementType : Part tree} {dims : Parts tree} {extraDims : ℕ}
    {elements : Option (Parts tree)}
    (h : tree.parts = .newArray (some elementType) dims extraDims elements) :
    expression below = arrayCreation below elementType dims extraDims elements := by
  rw [expression, h]

/-- **The brackets of an array creation are matched.** If the tokens behind
the element type are properly nested, with a pair of square brackets before
the first brace for each dimension of the tree, then these pairs and that
brace are what the type and the initializer are made of, whatever is nested
inside the pairs. -/
theorem bracketed_arrayCreation {element : Tree} {dims : List Tree} {extraDims : ℕ}
    {elements : Option (List Tree)}
    (htree : tree.shape = .newArray (some element) dims extraDims elements)
    (hnested : Nested (Lexical.codeTokensBetween ctx.source element.stop tree.stop) pairs)
    (hcount : (squarePairs pairs).length = dims.length + extraDims)
    (hrun : (actions tree).expression ctx σ = .ok (id, σ')) :
    Bracketed σ.arena.size σ'.arena pairs elements tree.stop id := by
  rw [← Foreign.Tree.map_val_parts] at htree
  obtain ⟨p, ps, qs, hparts, hp, rfl, rfl⟩ := Shape.eq_newArray_of_map htree
  obtain ⟨elementType, rfl, rfl⟩ := Option.map_eq_some_iff.1 hp
  have hexpression : (actions tree).expression =
      arrayCreation (fun q : Part tree => actions q.1) elementType ps extraDims qs := by
    rw [actions]
    exact expression_newArray hparts
  rw [hexpression] at hrun
  obtain ⟨type, sizes, initializer, hkind, hentries, hdims, hsome, hspan⟩ :=
    arrayCreation_eq_ok (grounded_actions tree)
      (subtree_of_parts hparts (by simp [Shape.children]))
      (fun q hq => subtree_of_parts hparts (by simp [Shape.children, hq]))
      (fun rs hrs q hq => subtree_of_parts hparts (by simp [Shape.children, hrs, hq])) hrun
  obtain ⟨last, hread⟩ := foldl_readBracket_outside hnested (-1) []
  rw [hread] at hdims hspan
  rw [List.length_map] at hcount
  refine ⟨hkind, fun e he => ?_, type, sizes, initializer, hentries, ?_, ?_, fun i hi => ?_⟩
  · have hbounds := hnested.bounds (mem_of_mem_squarePairs he)
    exact reaches_ofBounds (Int.natCast_nonneg _) (by omega)
  · rwa [List.nil_append, List.take_of_length_le (by simp [hcount])] at hdims
  · rw [hsome, Option.isSome_map]
  · obtain ⟨hinitializer, hstart⟩ := hspan i hi
    refine ⟨hinitializer, fun brace hbrace => ?_⟩
    obtain ⟨e, he, rfl⟩ := exists_of_firstBrace? hbrace
    rw [hstart, hbrace]
    exact reaches_ofBounds (Int.natCast_nonneg _) (Int.le_of_lt (hnested.bounds he).1)

end

/-- An array creation with both a size and elements, the size a call that is
given a lambda with an index expression in its block. -/
def crowdedSource : Source :=
  .ofString "new int[f(() -> \x7breturn a[0];\x7d)] @N(\x7b1\x7d) [] \x7b2\x7d"

/-- Its foreign tree. The annotation of the second dimension has no tree. -/
def crowdedCreation : Tree :=
  .node 10 0 0 47 (.newArray (some (.node 0 4 4 7 (.typeIdent .int))) [
    .node 8 8 8 31 (.call [] (.node 1 8 8 9 (.ident "f")) [
      .node 7 10 13 30 (.lambda [] (.node 6 16 16 30 (.block false [
        .node 5 17 17 29 (.returnValue (some (.node 4 24 24 28 (.indexed
          (.node 2 24 24 25 (.ident "a")) (.node 3 26 26 27 (.literal .int "0"))))))])) true)])]
    1 (some [.node 9 45 45 46 (.literal .int "2")]))

/-- The outermost pairs behind its element type. -/
def crowdedPairs : List Enclosure :=
  [⟨⟨.leftBracket, 7, 8⟩, ⟨.rightBracket, 31, 32⟩, rfl⟩,
    ⟨⟨.leftParen, 35, 36⟩, ⟨.rightParen, 39, 40⟩, rfl⟩,
    ⟨⟨.leftBracket, 41, 42⟩, ⟨.rightBracket, 42, 43⟩, rfl⟩,
    ⟨⟨.leftBrace, 44, 45⟩, ⟨.rightBrace, 46, 47⟩, rfl⟩]

theorem nested_crowdedPairs :
    Nested (Lexical.codeTokensBetween crowdedSource 7 47) crowdedPairs := by
  have hindex := Nested.pair (e := ⟨⟨.leftBracket, 25, 26⟩, ⟨.rightBracket, 27, 28⟩, rfl⟩)
    (.plain (t := ⟨.number, 26, 27⟩) rfl .nil) (.plain (t := ⟨.semicolon, 28, 29⟩) rfl .nil)
  have hblock := Nested.pair (e := ⟨⟨.leftBrace, 16, 17⟩, ⟨.rightBrace, 29, 30⟩, rfl⟩)
    (.plain (t := ⟨.keyword, 17, 23⟩) rfl (.plain (t := ⟨.identifier, 24, 25⟩) rfl hindex)) .nil
  have hlambda := Nested.pair (e := ⟨⟨.leftParen, 10, 11⟩, ⟨.rightParen, 11, 12⟩, rfl⟩) .nil
    (.plain (t := ⟨.operator, 13, 15⟩) rfl hblock)
  have hcall := Nested.pair (e := ⟨⟨.leftParen, 9, 10⟩, ⟨.rightParen, 30, 31⟩, rfl⟩) hlambda .nil
  have harguments := Nested.pair (e := ⟨⟨.leftBrace, 36, 37⟩, ⟨.rightBrace, 38, 39⟩, rfl⟩)
    (.plain (t := ⟨.number, 37, 38⟩) rfl .nil) .nil
  have helements := Nested.pair (e := ⟨⟨.leftBrace, 44, 45⟩, ⟨.rightBrace, 46, 47⟩, rfl⟩)
    (.plain (t := ⟨.number, 45, 46⟩) rfl .nil) .nil
  have hopen := Nested.pair (e := ⟨⟨.leftBracket, 41, 42⟩, ⟨.rightBracket, 42, 43⟩, rfl⟩) .nil
    helements
  have hannotated := Nested.pair (e := ⟨⟨.leftParen, 35, 36⟩, ⟨.rightParen, 39, 40⟩, rfl⟩)
    harguments hopen
  have hwhole := Nested.pair (e := ⟨⟨.leftBracket, 7, 8⟩, ⟨.rightBracket, 31, 32⟩, rfl⟩)
    (.plain (t := ⟨.identifier, 8, 9⟩) rfl hcall)
    (.plain (t := ⟨.at, 33, 34⟩) rfl (.plain (t := ⟨.identifier, 34, 35⟩) rfl hannotated))
  refine Eq.subst (motive := fun ts => Nested ts crowdedPairs) ?_ hwhole
  decide +kernel

theorem bracketed_arrayCreation_crowded :
    ∃ id σ', (actions crowdedCreation).expression ⟨crowdedSource, .latest, ""⟩ State.initial =
        .ok (id, σ') ∧
      Nested (Lexical.codeTokensBetween crowdedSource 7 47) crowdedPairs ∧
      (squarePairs crowdedPairs).length = 1 + 1 ∧
      Bracketed 0 σ'.arena crowdedPairs (some [.node 9 45 45 46 (.literal .int "2")]) 47 id := by
  have hok : ((actions crowdedCreation).expression ⟨crowdedSource, .latest, ""⟩
      State.initial).isOk = true := by
    decide +kernel
  cases hrun : (actions crowdedCreation).expression ⟨crowdedSource, .latest, ""⟩
      State.initial with
  | error e =>
    rw [hrun] at hok
    cases hok
  | ok r =>
    obtain ⟨id, σ'⟩ := r
    exact ⟨id, σ', rfl, nested_crowdedPairs, rfl,
      bracketed_arrayCreation rfl nested_crowdedPairs rfl hrun⟩

end Conversion

end TreeBridge
