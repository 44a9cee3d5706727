import TreeBridge.Proofs.Lexical.Tiling
import TreeBridge.Proofs.Lowering.ReportOwners
import TreeBridge.Proofs.Problem.ParserError
import TreeBridge.Proofs.Problem.ShownTree
/-!
# Problems lie in their file

A problem is shown at the span of its diagnostic, at a name that is found
in the source or at the token near an empty place. All of these lie in the
source. A selection could be shown elsewhere, since the word after its dot
need not stand in the source; but the diagnostics of a source are about
declarations and malformed text alone, and about no selection. So the
problems of a source are in bounds if its nodes are.
-/

namespace TreeBridge

/-- A span within the first bytes of a text. -/
structure Span.Within (span : Span) (size : Nat) : Prop where
  start_nonneg : 0 ≤ span.start
  length_nonneg : 0 ≤ span.length
  stop_le : span.start + span.length ≤ size

/-- The last byte of a span within a text that 32-bit offsets reach is the
one before its end. -/
theorem Span.Within.bounds_last {span : Span} {size : Nat} (h : span.Within size)
    (hsize : size < 2147483648) : (0 ≤ span.start ∧ span.start ≤ size) ∧
      span.start - 1 ≤ wrap32 (span.start + span.length - 1) ∧
      wrap32 (span.start + span.length - 1) ≤ size - 1 := by
  obtain ⟨hstart, hlength, hstop⟩ := h
  have hlast : wrap32 (span.start + span.length - 1) = span.start + span.length - 1 :=
    Int.bmod_eq_of_le (by omega) (by omega)
  rw [hlast]
  omega

namespace Concrete

/-- All nodes of a concrete tree lie within the first bytes of a text. -/
def Node.LiesIn (n : Node) (size : Nat) : Prop :=
  ∀ m : Node, m.Within n → m.start ≤ m.stop ∧ m.stop ≤ size

/-- A node lies within a text with all nodes below it. -/
theorem Node.liesIn_mk {kind : Kind} {field : Option Field} {isNamed isMissing isError : Bool}
    {start stop size : Nat} {children : List Node} :
    (Node.mk kind field isNamed isMissing isError start stop children).LiesIn size ↔
      (start ≤ stop ∧ stop ≤ size) ∧ ∀ c ∈ children, c.LiesIn size := by
  constructor
  · exact fun h => ⟨h _ (.refl _), fun c hc m hm => h m (hm.inside (.child hc))⟩
  · rintro ⟨hself, hchildren⟩ m (rfl | hm)
    · exact hself
    · cases hm with
      | child hm => exact hchildren m hm m (.refl m)
      | deeper hm hc => exact hchildren _ hc m (.inr hm)

end Concrete

namespace Problem

open Concrete (Node)
open Foreign (Diagnostic Tree)
open Foreign.Tree (Subtree)
open Lowering (MalformedAt Reported isDeclaration)

variable {file : String} {s : Source} {n : Node} {d : Diagnostic} {t : Tree} {id : Id}

/-! ## Errors of the parser -/

/-- The codes of the parser are none of a doc comment or of a missing
return. -/
theorem noDoc_of_mem_parserCodes : ∀ code ∈ Lowering.parserCodes,
    Text.hasInfix ".dc".toList code.toList = false ∧ code ≠ "compiler.warn.proc.messager" ∧
      code ≠ "compiler.err.missing.ret.stmt" := by
  decide +kernel

/-- No problem of the parser is shown elsewhere or up to the end of the
parameters. -/
theorem shown_of_mem_parserProblems :
    ∀ id ∈ parserProblems, isShownElsewhere id = false ∧ showsParameters id = false := by
  decide

theorem isAboutDoc_of_parserError (h : Lowering.ParserError d) : isAboutDoc d = false := by
  obtain ⟨hdotted, hmessager, -⟩ := noDoc_of_mem_parserCodes d.code h.code
  rw [isAboutDoc, hdotted, Bool.false_or, beq_eq_false_iff_ne]
  exact hmessager

/-- **What the diagnostics of a source are about**: a declaration, or
malformed text that starts where the diagnostic does. -/
theorem owner_of_mem_diagnostics (hd : d ∈ (parse s n).diagnostics)
    (ht : (Scene.ofSource file s n).tree? d = some t) :
    isDeclaration t = true ∨ MalformedAt d.start t := by
  obtain ⟨hsub, htree⟩ := subtree_of_tree? ht
  obtain ⟨e, he, rfl⟩ := exists_report_of_mem_diagnostics hd
  rcases he with hmalformed | hlowering
  · have hnone : e.tree = none := (Lowering.reported_of_mem_malformedReports hmalformed).2
    exact absurd (hnone.symm.trans htree) (by simp)
  · exact Lowering.owns_lower (d := e) hlowering hsub htree

/-! ## Where a diagnostic is -/

/-- A diagnostic within the first bytes of a text that points at its
start. -/
structure Placed (d : Diagnostic) (size : Nat) : Prop where
  position : d.position = d.start
  start_nonneg : 0 ≤ d.start
  start_le_stop : d.start ≤ d.stop
  stop_le : d.stop ≤ size

theorem placed_of_reported (h : Reported n d) (hn : n.LiesIn s.size) : Placed d s.size := by
  obtain ⟨m, hm, hposition, hstart, hstop⟩ := h.place
  obtain ⟨hle, hsize⟩ := hn m hm
  have hbounds : m.start ≤ d.stop ∧ d.stop ≤ s.size := by
    rcases hstop with hstop | hstop <;> omega
  exact ⟨hposition.trans hstart.symm, by omega, by omega, hbounds.2⟩

namespace Placed

variable {size : Nat} (h : Placed d size) (hsize : size < 2147483648)
include h hsize

theorem ownSpan_eq : ownSpan d = ⟨d.start, d.stop - d.start⟩ := by
  obtain ⟨hposition, hnonneg, hle, hstop⟩ := h
  have hlength : wrap32 (d.stop - d.start) = d.stop - d.start :=
    wrap32_of_nonneg_of_lt (by omega) (by omega)
  rw [ownSpan, spanTo, hposition, Int.min_self, Int.max_eq_left hle, hlength]

theorem within_ownSpan : (ownSpan d).Within size := by
  have hstop : d.start + (d.stop - d.start) ≤ size := by
    have := h.stop_le
    omega
  rw [h.ownSpan_eq hsize]
  exact ⟨h.start_nonneg, Int.sub_nonneg.2 h.start_le_stop, hstop⟩

end Placed

/-! ## Spans in the source -/

/-- The token near an offset is one of the tokens. -/
theorem mem_of_tokenNear {offset : Int} {tokens : List Lexical.Token} {token : Lexical.Token}
    (h : tokenNear offset tokens = some token) : token ∈ tokens := by
  have hearlier : tokens.takeWhile (fun t => decide ((t.stop : Int) ≤ offset)) ⊆ tokens :=
    (List.takeWhile_sublist _).subset
  unfold tokenNear at h
  dsimp only at h
  split at h
  · next next previous hnext hprevious =>
    split at h
    · exact Option.some.inj h ▸ hearlier (List.mem_of_getLast? hprevious)
    · exact Option.some.inj h ▸ List.mem_of_getElem? hnext
  · next hnext _ => exact Option.some.inj h ▸ List.mem_of_getElem? hnext
  · exact hearlier (List.mem_of_getLast? h)

section

variable (h : Placed d s.size) (hsize : s.size < 2147483648)
include h hsize

/-- A name that is found stands in the source. -/
theorem within_nameSpan (name : String) : (nameSpan s name d).Within s.size := by
  have hown := h.within_ownSpan hsize
  unfold nameSpan
  split
  · exact hown
  next hempty =>
  have hname : name ≠ "" := by simpa using hempty
  cases hfound : s.find? (utf8 name.toList) d.position with
  | none => exact hown
  | some hit =>
    obtain ⟨hposition, -, hleast⟩ := (Word.find?_eq_some_iff hname).1 hfound
    have hstart : d.position ≤ hit := hleast.1.start_le
    have hstop : hit + name.utf8ByteSize ≤ min (s.size : Int) s.size := hleast.1.le_stop
    rw [Int.min_self] at hstop
    have hlength : wrap32 name.utf8ByteSize = name.utf8ByteSize :=
      wrap32_of_nonneg_of_lt (Int.natCast_nonneg _) (by omega)
    rw [hlength]
    exact ⟨Int.le_trans hposition hstart, Int.natCast_nonneg _, hstop⟩

omit h hsize in
/-- The token near an offset of the source lies in the source, and so does
the offset if there is no token. -/
theorem within_spanNear {offset : Int} (hoffset : offset ≤ s.size) :
    (spanNear s offset).Within s.size := by
  unfold spanNear
  cases hnear : tokenNear offset (Lexical.codeTokens s 0) with
  | none =>
    refine ⟨Int.le_max_right _ _, Int.le_refl 0, ?_⟩
    show max offset 0 + 0 ≤ s.size
    omega
  | some token =>
    obtain ⟨-, hlt, hle⟩ := Lexical.scans_zero.2.ordered.1 token (mem_of_tokenNear hnear)
    refine ⟨?_, Int.le_max_right _ _, ?_⟩
    · show 0 ≤ min (token.start : Int) (s.size - 1)
      omega
    · show min (token.start : Int) (s.size - 1) + max ((token.stop : Int) - token.start - 1) 0 ≤
        s.size
      omega

/-- A problem with a declaration is shown at a name or where its
diagnostic is. -/
theorem within_elementSpan_of_isDeclaration {scene : Scene} (hscene : scene.source = s)
    (hid : showsParameters id = false) (ht : isDeclaration t = true) :
    (elementSpan scene id d t).Within s.size := by
  subst hscene
  have hname := within_nameSpan h hsize
  unfold elementSpan
  cases hshape : t.shape with
  | classDef =>
    dsimp only
    unfold classSpan
    split
    · exact hname _
    · exact h.within_ownSpan hsize
  | varDef => exact hname _
  | methodDef =>
    dsimp only
    rw [methodSpan, hid]
    exact hname _
  | _ =>
    rw [isDeclaration, hshape] at ht
    cases ht

/-- A problem with malformed text is shown near its start or where its
diagnostic is. -/
theorem within_elementSpan_of_malformedAt {scene : Scene} (hscene : scene.source = s)
    (hcode : d.code ≠ "compiler.err.missing.ret.stmt") (ht : MalformedAt d.start t) :
    (elementSpan scene id d t).Within s.size := by
  subst hscene
  obtain ⟨hmalformed, hposition⟩ := ht
  have hunnamed : (unnamedSpan scene t d).Within scene.source.size := by
    have hstart := h.start_le_stop
    have hstop := h.stop_le
    rw [unnamedSpan, if_neg hcode]
    split
    · exact within_spanNear (by omega)
    · exact h.within_ownSpan hsize
  unfold elementSpan
  cases hshape : t.shape with
  | erroneous => exact hunnamed
  | _ =>
    rw [Lowering.isMalformed, hshape] at hmalformed
    cases hmalformed

end

/-- **The highlight of a diagnostic of a source lies in the source**, if
all nodes of its concrete tree do. -/
theorem within_highlight (hn : n.LiesIn s.size) (hsize : s.size < 2147483648)
    (hd : d ∈ (parse s n).diagnostics) :
    (highlight (.ofSource file s n) (classify (.ofSource file s n) d) d).Within s.size := by
  have hreported := reported_of_mem_diagnostics hd
  have hplaced := placed_of_reported hreported hn
  obtain ⟨hid, hparameters⟩ := shown_of_mem_parserProblems _
    (classify_mem_parserProblems hreported.error (.ofSource file s n))
  have hdoc := isAboutDoc_of_parserError hreported.error
  cases htree : (Scene.ofSource file s n).tree? d with
  | none =>
    rw [highlight_of_tree?_eq_none hid hdoc htree]
    exact hplaced.within_ownSpan hsize
  | some t =>
    rw [(shownAt_of_tree? hid hdoc htree).highlight_eq]
    rcases owner_of_mem_diagnostics hd htree with hdeclares | hmalformed
    · exact within_elementSpan_of_isDeclaration hplaced hsize rfl hparameters hdeclares
    · have hcode := (noDoc_of_mem_parserCodes d.code hreported.error.code).2.2
      exact within_elementSpan_of_malformedAt hplaced hsize rfl hcode hmalformed

/-- **The problems of a source are in bounds.** If 32-bit offsets reach the
whole source and all nodes of the concrete tree lie in it, every problem
that its diagnostics report starts in the source, at its end at most, and
the last byte of the problem is one of the source, or the one before the
start of an empty problem. -/
theorem inBounds_of_mem_reports (o : Options) (hn : n.LiesIn s.size)
    (hsize : s.size < 2147483648) :
    ∀ r ∈ reports o (.ofSource file s n) (parse s n).diagnostics,
      (0 ≤ r.start ∧ r.start ≤ s.size) ∧ r.start - 1 ≤ r.last ∧ r.last ≤ s.size - 1 := by
  intro r hr
  obtain ⟨d, hd, hreport⟩ := List.mem_filterMap.1 hr
  have hspan := @within_highlight file s n d hn hsize hd
  unfold report? at hreport
  obtain ⟨-, hr⟩ := Option.ite_none_left_eq_some.1 hreport
  obtain rfl := Option.some.inj hr
  exact hspan.bounds_last hsize

/-- The two problems of the class with conflicting modifiers are in bounds,
though that of the missing semicolon ends before it starts. -/
theorem inBounds_conflictingAccess :
    conflictingAccess.tree.LiesIn conflictingAccess.source.size ∧
      conflictingAccess.source.size < 2147483648 ∧
      ∃ rs, reports lenient.options (.ofSource "A.java" conflictingAccess.source
          conflictingAccess.tree)
          (parse conflictingAccess.source conflictingAccess.tree).diagnostics = rs ∧
        rs.length = 2 ∧ ∀ r ∈ rs, (0 ≤ r.start ∧ r.start ≤ conflictingAccess.source.size) ∧
          r.start - 1 ≤ r.last ∧ r.last ≤ conflictingAccess.source.size - 1 := by
  have hsource : conflictingAccess.source.size = 32 := by decide +kernel
  have hlies : conflictingAccess.tree.LiesIn 32 := by
    simp [conflictingAccess, Concrete.Node.liesIn_mk]
  have hn : conflictingAccess.tree.LiesIn conflictingAccess.source.size := hsource ▸ hlies
  have hsize : conflictingAccess.source.size < 2147483648 := by omega
  have herrors : ∀ d ∈ (parse conflictingAccess.source conflictingAccess.tree).diagnostics,
      Lowering.ParserError d := fun _ hd => parserError_of_mem_diagnostics hd
  have hreported := forall₂_reports herrors lenient.options
    (.ofSource "A.java" conflictingAccess.source conflictingAccess.tree)
  refine ⟨hn, hsize, _, rfl, ?_, inBounds_of_mem_reports lenient.options hn hsize⟩
  rw [← hreported.length_eq, parse, List.length_mergeSort, List.length_map]
  decide +kernel

end Problem

end TreeBridge
