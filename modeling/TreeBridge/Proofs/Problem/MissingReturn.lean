import Mathlib.Data.List.DropRight
import TreeBridge.Problem.Classification
import TreeBridge.Proofs.Lexical.Tiling
import TreeBridge.Proofs.Problem.ShownTree
/-!
# Problems of a missing return

A missing return is reported at the body of a method and shown at its
head, which is read from the tokens before the body. The reading forgets
everything at a closing brace and at a semicolon, and takes the last
identifier in front of the first opening parenthesis since then for the
name. So it comes to the name of the method exactly where nothing else
with parentheses stands between: no annotation with arguments and no head
of a type or of a method around.
-/

namespace TreeBridge

namespace Problem

open Foreign (Diagnostic Shape Tree)
open Foreign.Tree (Subtree)
open Lexical (Token)

/-! ## What is read of a head -/

/-- A token at which the head read so far is forgotten. -/
def endsHead (t : Token) : Bool :=
  t.kind == .rightBrace || t.kind == .semicolon

/-- The tokens behind the last one at which a head is forgotten. -/
def sinceEnd (tokens : List Token) : List Token :=
  tokens.rtakeWhile (fun t => !endsHead t)

/-- The identifiers in front of the first opening parenthesis. -/
def namesAhead (tokens : List Token) : List Token :=
  (tokens.takeWhile (fun t => t.kind != .leftParen)).filter (fun t => t.kind == .identifier)

/-- An opening parenthesis. -/
def HasOpening (tokens : List Token) : Prop :=
  ∃ t ∈ tokens, t.kind = .leftParen

/-- A closing parenthesis behind an identifier that stands in front of the
first opening one. -/
def HasClosing (tokens : List Token) : Prop :=
  ∃ before close after, tokens = before ++ close :: after ∧ close.kind = .rightParen ∧
    namesAhead before ≠ []

/-- A token is taken for the name of a method: behind the last brace or
semicolon it is the last identifier in front of the first parenthesis, and
there is a closing parenthesis. -/
structure ReadAsName (tokens : List Token) (name : Token) : Prop where
  name : (namesAhead (sinceEnd tokens)).getLast? = some name
  opening : HasOpening (sinceEnd tokens)
  closing : HasClosing (sinceEnd tokens)

variable {tokens : List Token} {t : Token}

/-- Once a parenthesis has been opened no more names are taken. -/
theorem namesAhead_append_of_hasOpening {more : List Token} (h : HasOpening tokens) :
    namesAhead (tokens ++ more) = namesAhead tokens := by
  obtain ⟨u, hu, hleft⟩ := h
  unfold namesAhead
  rw [List.takeWhile_append, if_neg]
  intro hlength
  have hall := List.takeWhile_eq_self_iff.1 ((List.takeWhile_prefix _).eq_of_length hlength) u hu
  simp [hleft] at hall

theorem namesAhead_append_of_not {more : List Token} (h : ¬ HasOpening tokens) :
    namesAhead (tokens ++ more) = namesAhead tokens ++ namesAhead more := by
  have hall : tokens.takeWhile (fun t => t.kind != .leftParen) = tokens :=
    List.takeWhile_eq_self_iff.2 fun u hu => by simpa using fun hleft => h ⟨u, hu, hleft⟩
  unfold namesAhead
  rw [List.takeWhile_append, hall, if_pos rfl, List.filter_append]

/-- Only an identifier is one more name. -/
theorem namesAhead_append_of_ne (h : t.kind ≠ .identifier) :
    namesAhead (tokens ++ [t]) = namesAhead tokens := by
  by_cases hopening : HasOpening tokens
  · exact namesAhead_append_of_hasOpening hopening
  · rw [namesAhead_append_of_not hopening]
    have hnone : namesAhead [t] = [] := by
      unfold namesAhead
      rw [List.takeWhile_cons]
      split <;> simp [h]
    rw [hnone, List.append_nil]

theorem hasOpening_append_singleton :
    HasOpening (tokens ++ [t]) ↔ HasOpening tokens ∨ t.kind = .leftParen := by
  simp [HasOpening, or_and_right, exists_or]

theorem hasClosing_append_singleton :
    HasClosing (tokens ++ [t]) ↔
      HasClosing tokens ∨ t.kind = .rightParen ∧ namesAhead tokens ≠ [] := by
  constructor
  · rintro ⟨before, close, after, hsplit, hclose, hnames⟩
    rcases List.eq_nil_or_concat after with rfl | ⟨after, u, rfl⟩
    · obtain ⟨rfl, hlast⟩ := List.append_inj' hsplit rfl
      obtain rfl := List.singleton_inj.1 hlast
      exact .inr ⟨hclose, hnames⟩
    · rw [List.concat_eq_append, ← List.cons_append, ← List.append_assoc] at hsplit
      obtain ⟨rfl, -⟩ := List.append_inj' hsplit rfl
      exact .inl ⟨before, close, after, rfl, hclose, hnames⟩
  · rintro (⟨before, close, after, rfl, hclose, hnames⟩ | ⟨hclose, hnames⟩)
    · exact ⟨before, close, after ++ [t], by simp, hclose, hnames⟩
    · exact ⟨tokens, t, [], rfl, hclose, hnames⟩

/-- What a reading holds of the tokens since a head was forgotten. -/
structure Remembers (read : HeadRead) (tokens : List Token) : Prop where
  name : read.name = (namesAhead tokens).getLast?
  left : read.left.isSome = true ↔ HasOpening tokens
  right : read.right.isSome = true ↔ HasClosing tokens

theorem remembers_nil : Remembers ⟨none, none, none⟩ [] where
  name := rfl
  left := by simp [HasOpening]
  right := by simp [HasClosing]

namespace Remembers

variable {read : HeadRead}

/-- A token that is neither an identifier nor a parenthesis changes
nothing. -/
theorem append_other (h : Remembers read tokens) (hname : t.kind ≠ .identifier)
    (hleft : t.kind ≠ .leftParen) (hright : t.kind ≠ .rightParen) :
    Remembers read (tokens ++ [t]) where
  name := by rw [namesAhead_append_of_ne hname, h.name]
  left := by simp [h.left, hasOpening_append_singleton, hleft]
  right := by simp [h.right, hasClosing_append_singleton, hright]

theorem append_identifier (h : Remembers read tokens) (ht : t.kind = .identifier) :
    Remembers (if read.left.isNone then { read with name := some t } else read)
      (tokens ++ [t]) := by
  have hleft : read.left.isSome = true ↔ HasOpening (tokens ++ [t]) := by
    simp [h.left, hasOpening_append_singleton, ht]
  have hright : read.right.isSome = true ↔ HasClosing (tokens ++ [t]) := by
    simp [h.right, hasClosing_append_singleton, ht]
  by_cases hopening : HasOpening tokens
  · rw [if_neg (by simpa [← Option.isSome_iff_ne_none] using h.left.2 hopening)]
    exact ⟨by rw [namesAhead_append_of_hasOpening hopening, h.name], hleft, hright⟩
  · rw [if_pos (by simpa using mt h.left.1 hopening)]
    have hlast : namesAhead [t] = [t] := by simp [namesAhead, ht]
    refine ⟨?_, hleft, hright⟩
    rw [namesAhead_append_of_not hopening, hlast, List.getLast?_concat]

theorem append_leftParen (h : Remembers read tokens) (ht : t.kind = .leftParen) :
    Remembers { read with left := some t } (tokens ++ [t]) where
  name := by rw [namesAhead_append_of_ne (by simp [ht]), h.name]
  left := by simp [hasOpening_append_singleton, ht]
  right := by simp [h.right, hasClosing_append_singleton, ht]

theorem append_rightParen (h : Remembers read tokens) (ht : t.kind = .rightParen) :
    Remembers (if read.name.isSome then { read with right := some t } else read)
      (tokens ++ [t]) := by
  have hname : read.name = (namesAhead (tokens ++ [t])).getLast? := by
    rw [namesAhead_append_of_ne (by simp [ht]), h.name]
  have hleft : read.left.isSome = true ↔ HasOpening (tokens ++ [t]) := by
    simp [h.left, hasOpening_append_singleton, ht]
  have hsome : read.name.isSome = true ↔ namesAhead tokens ≠ [] := by
    rw [h.name, List.getLast?_isSome]
  split
  · next hnamed =>
    exact ⟨hname, hleft, by simp [hasClosing_append_singleton, ht, hsome.1 hnamed]⟩
  · next hnamed =>
    have hnone := mt hsome.2 hnamed
    exact ⟨hname, hleft, by simp [h.right, hasClosing_append_singleton, hnone]⟩

/-- **Reading one more token** remembers what stands since the last end of
a head. -/
theorem step (h : Remembers read (sinceEnd tokens)) (t : Token) :
    Remembers (readHead read t) (sinceEnd (tokens ++ [t])) := by
  have hsince : sinceEnd (tokens ++ [t]) = if endsHead t then [] else sinceEnd tokens ++ [t] := by
    unfold sinceEnd
    rw [List.rtakeWhile_concat]
    cases endsHead t <;> rfl
  rw [hsince]
  unfold readHead endsHead
  split
  case h_1 hkind => simpa [hkind] using h.append_identifier hkind
  case h_2 hkind => simpa [hkind] using h.append_leftParen hkind
  case h_3 hkind => simpa [hkind] using h.append_rightParen hkind
  case h_4 hkind => simpa [hkind] using remembers_nil
  case h_5 hkind => simpa [hkind] using remembers_nil
  case h_6 hidentifier hleft hright hbrace hsemicolon =>
    have hends : ¬ (t.kind == .rightBrace || t.kind == .semicolon) = true := by
      simpa using ⟨hbrace, hsemicolon⟩
    rw [if_neg hends]
    exact h.append_other hidentifier hleft hright

/-- **What is read of any tokens.** -/
theorem run (tokens : List Token) :
    Remembers (tokens.foldl readHead ⟨none, none, none⟩) (sinceEnd tokens) := by
  induction tokens using List.reverseRecOn with
  | nil => exact remembers_nil
  | append_singleton tokens t ih =>
    rw [List.foldl_append, List.foldl_cons, List.foldl_nil]
    exact ih.step t

end Remembers

/-! ## The head of a method -/

/-- The code tokens that start no later than a body. -/
def tokensUpTo (s : Source) (start : Int) : List Token :=
  (Lexical.codeTokens s 0).takeWhile (fun t => decide ((t.start : Int) ≤ start))

variable {s : Source} {start : Int}

theorem start_lt_size_of_mem (ht : t ∈ tokensUpTo s start) : t.start < s.size := by
  have hcode := (List.takeWhile_prefix _).subset ht
  obtain ⟨-, hlt, hle⟩ := Lexical.tiles_zero.within t (List.mem_of_mem_filter hcode)
  omega

/-- The head starts at the token that is taken for the name. -/
theorem headSpan?_of_readAsName {name : Token} (h : ReadAsName (tokensUpTo s start) name) :
    ∃ span, headSpan? s start = some span ∧ span.start = name.start := by
  have hrun := Remembers.run (tokensUpTo s start)
  cases hread : (tokensUpTo s start).foldl readHead ⟨none, none, none⟩ with
  | mk first left right =>
    rw [hread] at hrun
    obtain rfl : first = some name := hrun.name.trans h.name
    obtain ⟨left, rfl⟩ := Option.isSome_iff_exists.1 (hrun.left.2 h.opening)
    obtain ⟨right, rfl⟩ := Option.isSome_iff_exists.1 (hrun.right.2 h.closing)
    have hin : name ∈ tokensUpTo s start := by
      have hmem := List.mem_of_mem_filter (List.mem_of_getLast? h.name)
      exact (List.rtakeWhile_suffix _ _).subset ((List.takeWhile_prefix _).subset hmem)
    have hstart := start_lt_size_of_mem hin
    unfold tokensUpTo at hread
    unfold headSpan?
    dsimp only
    rw [hread]
    refine ⟨_, rfl, ?_⟩
    dsimp only
    omega

/-- **The head is read exactly if a token is taken for the name.** -/
theorem headSpan?_eq_none_iff :
    headSpan? s start = none ↔ ∀ name, ¬ ReadAsName (tokensUpTo s start) name := by
  constructor
  · intro hnone name hname
    obtain ⟨span, hspan, -⟩ := headSpan?_of_readAsName hname
    rw [hnone] at hspan
    cases hspan
  · intro h
    have hrun := Remembers.run (tokensUpTo s start)
    unfold headSpan?
    dsimp only
    split
    · next _ name left right hread =>
      rw [tokensUpTo, hread] at hrun
      exact absurd ⟨hrun.name.symm, hrun.left.1 rfl, hrun.right.1 rfl⟩ (h name)
    · rfl

/-! ## Where a missing return is shown -/

variable {file : String} {n : Concrete.Node} {d : Diagnostic} {m b : Tree} {name : String}

/-- The name of a method and the block that is its body, if it has one. -/
def bodyOf? (t : Tree) : Option (String × Tree) :=
  match t.shape with
  | .methodDef _ name _ _ _ _ _ (some body) _ =>
    match body.shape with
    | .block _ _ => some (name, body)
    | _ => none
  | _ => none

theorem shape_of_bodyOf? (h : bodyOf? m = some (name, b)) :
    (∃ mods typeParameters returnType parameters dims thrown defaultValue, m.shape =
      .methodDef mods name typeParameters returnType parameters dims thrown (some b)
        defaultValue) ∧
      ∃ isStatic statements, b.shape = .block isStatic statements := by
  unfold bodyOf? at h
  split at h
  · next mods own typeParameters returnType parameters dims thrown body defaultValue hshape =>
    split at h
    · next isStatic statements hblock =>
      cases h
      exact ⟨⟨mods, typeParameters, returnType, parameters, dims, thrown, defaultValue, hshape⟩,
        isStatic, statements, hblock⟩
    · cases h
  · cases h

theorem mem_children_of_bodyOf? (h : bodyOf? m = some (name, b)) : b ∈ m.children := by
  obtain ⟨⟨mods, typeParameters, returnType, parameters, dims, thrown, defaultValue, hshape⟩, -⟩ :=
    shape_of_bodyOf? h
  rw [Tree.children, hshape]
  simp [Shape.children]

/-- The name of a method that is no constructor stands at its position. -/
theorem slice?_name_of_bodyOf? (hm : Subtree m (parse s n).root)
    (hbody : bodyOf? m = some (name, b)) (hname : name ≠ "") (hmethod : name ≠ "<init>") :
    s.slice? m.position (m.position + name.utf8ByteSize) = some name := by
  have hsited := Lowering.sited_lower s n m hm
  obtain ⟨⟨mods, typeParameters, returnType, parameters, dims, thrown, defaultValue, hshape⟩, -⟩ :=
    shape_of_bodyOf? hbody
  unfold Lowering.Sited at hsited
  rw [hshape] at hsited
  obtain ⟨k, -, htext, hposition⟩ := (hsited.resolve_left hmethod).resolve_left hname
  rw [hposition]
  exact Concrete.Node.slice?_start_of_text htext hname

/-- A missing return that is reported at a body is shown at the head that
is read before it, and else where it is reported. -/
theorem highlight_missingReturn (hm : Subtree m (parse s n).root)
    (hbody : bodyOf? m = some (name, b)) (hd : d.tree = some b.id)
    (hcode : d.code = "compiler.err.missing.ret.stmt") :
    highlight (.ofSource file s n) (classify (.ofSource file s n) d) d =
      (headSpan? s b.start).getD (ownSpan d) := by
  obtain ⟨-, isStatic, statements, hshape⟩ := shape_of_bodyOf? hbody
  have hb : Subtree b (parse s n).root := .trans (.of_mem (mem_children_of_bodyOf? hbody)) hm
  have hid : classify (.ofSource file s n) d = .shouldReturnValue := by
    unfold classify
    rw [hcode]
    rfl
  have hdoc : isAboutDoc d = false := by
    unfold isAboutDoc
    rw [hcode]
    decide +kernel
  have hshown : ShownAt (.ofSource file s n) .shouldReturnValue d b :=
    shownAt_of_subtree rfl hdoc hb hd
  rw [hid, hshown.highlight_eq, elementSpan, hshape]
  dsimp only
  rw [unnamedSpan, if_pos hcode, tree?_ofSource hb hd, missingReturnSpan]
  simp only [hshape]
  rfl

/-- **A missing return is shown at the name of its method** exactly if the
token that is taken for the name stands there; where no token is taken for
a name, exactly if the diagnostic itself starts there. -/
theorem start_highlight_missingReturn_iff (hm : Subtree m (parse s n).root)
    (hbody : bodyOf? m = some (name, b)) (hname : name ≠ "") (hd : d.tree = some b.id)
    (hcode : d.code = "compiler.err.missing.ret.stmt") :
    (name ≠ "<init>" → s.slice? m.position (m.position + name.utf8ByteSize) = some name) ∧
      ((highlight (.ofSource file s n) (classify (.ofSource file s n) d) d).start = m.position ↔
        (∃ token, ReadAsName (tokensUpTo s b.start) token ∧ (token.start : Int) = m.position) ∨
          (∀ token, ¬ ReadAsName (tokensUpTo s b.start) token) ∧
            (ownSpan d).start = m.position) := by
  refine ⟨slice?_name_of_bodyOf? hm hbody hname, ?_⟩
  rw [highlight_missingReturn hm hbody hd hcode]
  by_cases hread : ∃ token, ReadAsName (tokensUpTo s b.start) token
  · obtain ⟨token, htoken⟩ := hread
    obtain ⟨span, hspan, hstart⟩ := headSpan?_of_readAsName htoken
    rw [hspan, Option.getD_some, hstart]
    constructor
    · exact fun h => .inl ⟨token, htoken, h⟩
    · rintro (⟨other, hother, h⟩ | ⟨hnone, -⟩)
      · rwa [Option.some.inj (htoken.name.symm.trans hother.name)]
      · exact absurd htoken (hnone token)
  · have hnone := not_exists.1 hread
    rw [headSpan?_eq_none_iff.2 hnone, Option.getD_none, and_iff_right hnone]
    exact (or_iff_right fun ⟨token, htoken, _⟩ => hnone token htoken).symm

/-- A method with an annotation that has arguments. -/
def annotatedSource : Source :=
  .ofString "class A \x7b @B(1) int m() \x7b \x7d \x7d"

/-- The concrete tree of the class of the method. -/
def annotatedUnit : Concrete.Node :=
  .mk (.token "program") none true false false 0 29 [
    .mk .classDeclaration none true false false 0 29 [
      .mk (.token "class") none false false false 0 5 [],
      .mk .identifier (some .name) true false false 6 7 [],
      .mk .classBody (some .body) true false false 8 29 [
        .mk (.token "\x7b") none false false false 8 9 [],
        .mk .methodDeclaration none true false false 10 27 [
          .mk .modifiers none true false false 10 15 [
            .mk .annotationUse none true false false 10 15 [
              .mk (.token "@") none false false false 10 11 [],
              .mk .identifier (some .name) true false false 11 12 [],
              .mk (.token "annotation_argument_list") (some .arguments) true false false 12 15 [
                .mk (.token "(") none false false false 12 13 [],
                .mk .decimalIntegerLiteral none true false false 13 14 [],
                .mk (.token ")") none false false false 14 15 []]]],
          .mk .integralType (some .type) true false false 16 19 [
            .mk (.token "int") none false false false 16 19 []],
          .mk .identifier (some .name) true false false 20 21 [],
          .mk .formalParameters (some .parameters) true false false 21 23 [
            .mk (.token "(") none false false false 21 22 [],
            .mk (.token ")") none false false false 22 23 []],
          .mk .block (some .body) true false false 24 27 [
            .mk (.token "\x7b") none false false false 24 25 [],
            .mk (.token "\x7d") none false false false 26 27 []]],
        .mk (.token "\x7d") none false false false 28 29 []]]]

/-- The missing return of the method, reported at the end of its body. -/
def annotatedReturn : Diagnostic :=
  { (Diagnostic.errorAt "compiler.err.missing.ret.stmt" "missing return statement" 24 27).aboutTree
      4 with position := 26 }

/-- The scene of the class. -/
def annotatedScene : Scene :=
  .ofSource "A.java" annotatedSource annotatedUnit

/-- The name of the annotation is taken for that of the method. -/
theorem highlight_annotated :
    ((parse annotatedSource annotatedUnit).root.lastFirst.filter (fun t => (bodyOf? t).isSome)).map
        (fun t => (t.position, (bodyOf? t).map (fun b => (b.1, b.2.id)))) =
      [(20, some ("m", 4))] ∧
    annotatedReturn.tree = some 4 ∧
    highlight annotatedScene (classify annotatedScene annotatedReturn) annotatedReturn =
      ⟨11, 11⟩ := by
  decide +kernel

theorem start_highlight_annotated :
    ∃ m b, Subtree m (parse annotatedSource annotatedUnit).root ∧ bodyOf? m = some ("m", b) ∧
      annotatedSource.slice? m.position (m.position + 1) = some "m" ∧
      ((highlight annotatedScene (classify annotatedScene annotatedReturn)
          annotatedReturn).start = m.position ↔
        (∃ token, ReadAsName (tokensUpTo annotatedSource b.start) token ∧
          (token.start : Int) = m.position) ∨
          (∀ token, ¬ ReadAsName (tokensUpTo annotatedSource b.start) token) ∧
            (ownSpan annotatedReturn).start = m.position) := by
  have hfound : ((parse annotatedSource annotatedUnit).root.lastFirst.filterMap bodyOf?).map
      (fun b => (b.1, b.2.id)) = [("m", 4)] := by decide +kernel
  obtain ⟨⟨name, b⟩, hbodies, hb⟩ := List.map_eq_singleton_iff.1 hfound
  obtain ⟨rfl, hid⟩ := Prod.mk.inj hb
  obtain ⟨m, hm, hbody⟩ := List.mem_filterMap.1 (hbodies ▸ List.mem_singleton_self _)
  have hsub := Tree.mem_lastFirst_iff.1 hm
  obtain ⟨hname, hiff⟩ := start_highlight_missingReturn_iff (d := annotatedReturn)
    hsub hbody (by decide) (hid ▸ rfl) rfl
  exact ⟨m, b, hsub, hbody, hname (by decide), hiff⟩

end Problem

end TreeBridge
