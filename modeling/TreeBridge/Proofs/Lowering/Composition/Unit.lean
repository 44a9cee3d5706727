import TreeBridge.Lowering.Unit
import TreeBridge.Proofs.Lowering.Composition.Bodies
import TreeBridge.Proofs.Lowering.Reports
/-!
# Composed units

All actions on all nodes are composed, by recursion on the node, and so
is the reading of a unit. What every primitive step keeps therefore holds
of the state that a lowering ends in (`lower_invariant`), and the reports
of a source, of its malformed text and of its lowering alike, are errors
of the parser on the text of a node (`reported_of_mem_diagnostics`).
-/

namespace TreeBridge

namespace Lowering

open Foreign (Diagnostic)
open Concrete (Node)
open Concrete.Node (Part Parts)
open Bears (trees)

/-- **All ways to read a node are composed**: the names of the trees that
they make are read from the node, and so are the places of reports. -/
theorem composed_actions (s : Source) (n : Node) : (actions s n).AllComposed (siting s n) := by
  induction n using actions.induct with
  | case1 n ih =>
    have hb : ∀ p : Part n, (actions s p.1).AllComposed (siting s n) := fun p =>
      (ih p).inside p.2
    rw [actions]
    exact ⟨composed_expression hb, composed_type hb, composed_name hb, composed_annotated hb,
      composed_element hb, composed_initial hb, composed_pattern hb, composed_statements hb,
      composed_members hb, composed_typeDeclaration hb, composed_malformed hb⟩

/-- Reading malformed text makes a malformed tree where the text starts. -/
def Wraps (a : Actions) (start : Int) : Prop :=
  ∀ σ, MalformedAt start (a.malformed σ).1

theorem wraps_actions (s : Source) (n : Node) : Wraps (actions s n) n.start := by
  rw [actions]
  exact fun _ => ⟨rfl, rfl⟩

instance : Bears UnitRead :=
  ⟨fun read => read.clause.toList ++ read.imports ++ read.members⟩

/-- A tree read last may be used in any place of a unit; the clause that it
replaces is dropped. -/
theorem spends_unitRead {clause : Option Foreign.Tree} {imports members : List Foreign.Tree}
    (t : Foreign.Tree) :
    Spends ([t] ++ imports ++ members) (clause.toList ++ imports ++ members ++ [t]) ∧
      Spends (clause.toList ++ (imports ++ [t]) ++ members)
        (clause.toList ++ imports ++ members ++ [t]) ∧
      Spends (clause.toList ++ imports ++ (members ++ [t]))
        (clause.toList ++ imports ++ members ++ [t]) := by
  refine ⟨.of_subset ?_ fun i => ?_, .of_subset ?_ fun i => ?_, .of_subset ?_ fun i => ?_⟩
  -- for each of the three, the trees stand among those that are held
  any_goals grind
  all_goals
    simp only [Foreign.Tree.idsOf_append, List.count_append]
    omega

section

variable {s : Source} {n : Node} {below : Below n} (hb : ∀ p, (below p).AllComposed (siting s n))
include hb

theorem composed_packageClause (p : Part n) :
    Composed (siting s n) [] (packageClause below p) := by
  have hparts := composed_foldlM
    (fun q (_ : q ∈ p.parts.named) => composed_annotatedStep hb q) ([], none)
  refine hparts.after fun read => ?_
  have hname := composed_orPlaceholder (fun q => (hb q).name) read.2 p.stop
  exact hname.after fun _ => composed_makeOver (.refl _) fun _ => trivial

omit hb in
theorem composed_onDemand (p : Part n) (qualifier : Foreign.Tree) :
    Composed (siting s n) [qualifier] (onDemand p qualifier) := by
  unfold onDemand
  split
  · exact .pure (.refl _)
  · next star hstar =>
    have hmem := List.mem_of_find?_eq_some hstar
    have hkind : star.kind = .asterisk := by simpa using List.find?_some hstar
    exact .make (.refl _) fun _ =>
      sited_select p.map_val_parts (.inr p.2) hmem (.inr (.inr ⟨hkind, rfl⟩))

theorem composed_importClause (p : Part n) : Composed (siting s n) [] (importClause below p) := by
  have hname := composed_orPlaceholder (fun q => (hb q).name)
    (p.parts.named.find? (fun c => c.kind == .identifier || c.kind == .scopedIdentifier)) p.stop
  exact hname.after fun name => .andThen (composed_onDemand p name) fun whole =>
    composed_spanning (.refl [whole]) fun _ => trivial

variable (hwraps : ∀ p, Wraps (below p) p.start)
include hwraps

theorem composed_moduleDeclaration (p : Part n) :
    Composed (siting s n) [] (moduleDeclaration below p) := by
  have hcode : "compiler.err.illegal.start.of.type" ∈ parserCodes := by decide
  have hreported := Reported.errorAt (.inr p.2) hcode "module declarations are not supported"
  exact (hb p).malformed.andThenOf fun σ =>
    .report (.refl [_]) (hreported.aboutTree _) (hwraps p σ)

theorem composed_unitStep (p : Part n) (read : UnitRead) :
    Composed (siting s n) (trees read) (unitStep below read p) := by
  unfold unitStep
  split
  · exact (composed_packageClause hb p).after fun t => .pure (spends_unitRead t).1
  · exact (composed_importClause hb p).after fun t => .pure (spends_unitRead t).2.1
  · exact (composed_moduleDeclaration hb hwraps p).after fun t => .pure (spends_unitRead t).2.2
  · dsimp only
    split
    · exact (hb p).typeDeclaration.after fun t => .pure (spends_unitRead t).2.2
    · exact (hb p).malformed.after fun t => .pure (spends_unitRead t).2.2

theorem composed_unit : Composed (siting s n) [] (unit s below) := by
  have hparts := composed_foldlM
    (fun p (_ : p ∈ n.parts.named) => composed_unitStep hb hwraps p) ⟨none, [], []⟩
  exact hparts.after fun _ => .make (.refl _) fun _ => trivial

end

/-- The reading of a whole unit is composed. -/
theorem composed_lower (s : Source) (n : Node) :
    Composed (siting s n) [] (unit s fun p : Part n => actions s p.1) :=
  composed_unit (fun p => (composed_actions s p.1).inside p.2) fun p => wraps_actions s p.1

/-- **What every primitive step keeps holds after a lowering.** -/
theorem lower_invariant {s : Source} {n : Node} {I : State → Prop} (hI : Invariant (Reported n) I)
    (hinitial : I .initial) : I (lower s n).2 :=
  (composed_lower s n).invariant hI hinitial

/-- **The name of every lowered tree is read from the concrete tree.** -/
theorem sited_lower (s : Source) (n : Node) : (lower s n).1.Everywhere (Sited s n) :=
  (composed_lower s n).everywhere (flagless_sited s n) .initial
    (fun _ ht => absurd ht List.not_mem_nil) _ List.mem_cons_self

/-! ## Reports -/

/-- What holds of every report, about whatever tree, holds of all reports of
a state at any time. -/
theorem invariant_reports {R : Diagnostic → Prop} (hR : ∀ d tree, R d → R (d.aboutTree tree)) :
    Invariant R fun σ => ∀ d ∈ σ.reports, R d where
  make h := h
  report hd h := List.forall_mem_append.2 ⟨h, List.forall_mem_singleton.2 hd⟩
  reportUnsettled hd h := List.forall_mem_append.2 ⟨h, List.forall_mem_singleton.2 hd⟩
  settle owner h := fun d hd => by
    rcases mem_reports_settle hd with hold | ⟨e, he, rfl⟩
    · exact h d hold
    · exact hR e owner (h e he)
  retract count h := fun d hd => h d (List.mem_of_mem_take hd)

/-- **Every report of a lowering** is one of the parser on the text of a
node. -/
theorem reported_of_mem_reports {s : Source} {n : Node} {d : Diagnostic}
    (h : d ∈ (lower s n).2.reports) : Reported n d :=
  lower_invariant (s := s) (invariant_reports fun _ tree hd => hd.aboutTree tree)
    (fun _ hd => absurd hd List.not_mem_nil) d h

/-- The reports of malformed text are about no tree. -/
theorem reported_of_mem_malformedReports {contentEnd : Nat} {n : Node} {d : Diagnostic}
    (h : d ∈ malformedReports contentEnd n) : Reported n d ∧ d.tree = none := by
  induction n using malformedReports.induct with
  | case1 n hmissing =>
    rw [malformedReports, if_pos hmissing] at h
    obtain rfl := List.mem_singleton.1 h
    have hcode : "compiler.err.expected" ∈ parserCodes := by decide
    exact ⟨⟨⟨rfl, hcode⟩, n, .refl n, rfl, rfl, .inr rfl⟩, rfl⟩
  | case2 n hmissing herror =>
    rw [malformedReports, if_neg hmissing, if_pos herror] at h
    obtain rfl := List.mem_singleton.1 h
    unfold misplaced
    split
    · exact ⟨.errorAt (.refl n) (by decide) _, rfl⟩
    · exact ⟨.errorAt (.refl n) (by decide) _, rfl⟩
  | case3 n hmissing herror hhas ih =>
    rw [malformedReports, if_neg hmissing, if_neg herror, if_pos hhas] at h
    obtain ⟨c, -, hc⟩ := List.mem_flatMap.1 h
    obtain ⟨hreported, hnone⟩ := ih c hc
    exact ⟨hreported.inside (.child c.2), hnone⟩
  | case4 n hmissing herror hhas =>
    rw [malformedReports, if_neg hmissing, if_neg herror, if_neg hhas] at h
    exact absurd h List.not_mem_nil

theorem Reported.stamp {n : Node} {d : Diagnostic} (h : Reported n d) (starts : LineStarts) :
    Reported n (stamp starts d) :=
  ⟨⟨h.error.kind, h.error.code⟩, h.place⟩

end Lowering

open Lowering in
/-- A diagnostic of a source is a report of its malformed text or of its
lowering, with its line and column. -/
theorem exists_report_of_mem_diagnostics {s : Source} {tree : Concrete.Node}
    {d : Foreign.Diagnostic} (h : d ∈ (parse s tree).diagnostics) :
    ∃ e, (e ∈ malformedReports s.contentEnd tree ∨ e ∈ (lower s tree).2.reports) ∧
      d = stamp (.ofBytes s.bytes) e := by
  have hmem : d ∈ (malformedReports s.contentEnd tree ++ (lower s tree).2.reports).map
      (stamp (.ofBytes s.bytes)) := List.mem_mergeSort.1 h
  obtain ⟨e, he, rfl⟩ := List.mem_map.1 hmem
  exact ⟨e, List.mem_append.1 he, rfl⟩

open Lowering in
/-- **Every diagnostic of a source** is a report of the parser on the text
of a node. -/
theorem reported_of_mem_diagnostics {s : Source} {tree : Concrete.Node}
    {d : Foreign.Diagnostic} (h : d ∈ (parse s tree).diagnostics) : Reported tree d := by
  obtain ⟨e, hmalformed | hlowering, rfl⟩ := exists_report_of_mem_diagnostics h
  · exact (reported_of_mem_malformedReports hmalformed).1.stamp _
  · exact (reported_of_mem_reports hlowering).stamp _

open Lowering in
/-- **Every diagnostic of a source is an error of the parser.** -/
theorem parserError_of_mem_diagnostics {s : Source} {tree : Concrete.Node}
    {d : Foreign.Diagnostic} (h : d ∈ (parse s tree).diagnostics) : ParserError d :=
  (reported_of_mem_diagnostics h).error

end TreeBridge
