import Mathlib.Data.List.Forall2
import TreeBridge.Proofs.Lowering.Composition.Unit
import TreeBridge.Resolution.Resolve
/-!
# Errors of the parser as problems

An error of the parser classifies to one of `parserProblems`, wherever in
the tree it is about. None of these is ignored, and none is a problem
whose severity the options choose. So a resolved unit has one problem for
each diagnostic of its source, and all of them are errors.
-/

namespace TreeBridge

namespace Problem

open Foreign (Diagnostic Tree)
open Lowering (ParserError parserCodes)

/-- The problems of modifiers that exclude each other. -/
def combinationProblems : List Id :=
  [.illegalModifiers, .illegalVisibilityModifierCombinationForMethod,
    .illegalVisibilityModifierForInterfaceMemberType,
    .illegalVisibilityModifierCombinationForMemberType,
    .illegalVisibilityModifierCombinationForField,
    .illegalModifierCombinationForInterfaceMethod,
    .illegalModifierCombinationFinalAbstractForClass,
    .illegalModifierCombinationFinalVolatileForField]

/-- The problems that errors of the parser report. -/
def parserProblems : List Id :=
  [.parsingErrorInsertTokenAfter, .parsingErrorUnexpectedEof, .syntaxError,
    .duplicateModifierForArgument] ++ combinationProblems

theorem accessCombination_mem (t : Tree) (parent : Option Tree) :
    accessCombination t parent ∈ combinationProblems := by
  unfold accessCombination
  split <;> decide

theorem otherCombination_mem (mentions : String → Bool) (t : Tree) (parent : Option Tree) :
    otherCombination mentions t parent ∈ combinationProblems := by
  unfold otherCombination
  split
  · decide
  · split <;> decide
  · split <;> decide
  · decide

theorem illegalCombination_mem (message : String) (trail : List Tree) :
    illegalCombination message trail ∈ combinationProblems := by
  cases trail with
  | nil => exact List.mem_cons_self
  | cons t above =>
    rw [illegalCombination]
    split
    · exact accessCombination_mem _ _
    · exact otherCombination_mem _ _ _

/-- Every code of the parser names its problem, save for that of modifiers
that exclude each other. -/
theorem find?_fixedCodes_of_mem : ∀ code ∈ parserCodes,
    (fixedCodes.find? (fun c => c.1 == code)).any (fun c => decide (c.2 ∈ parserProblems)) ∨
      fixedCodes.find? (fun c => c.1 == code) = none ∧
        code = "compiler.err.illegal.combination.of.modifiers" := by
  decide

/-- **The problem of an error of the parser**, at whatever tree it is. -/
theorem classify_mem_parserProblems {d : Diagnostic} (h : ParserError d) (scene : Scene) :
    classify scene d ∈ parserProblems := by
  rcases find?_fixedCodes_of_mem d.code h.code with hfixed | ⟨hnone, hcode⟩
  · rw [classify]
    cases hc : fixedCodes.find? (fun c => c.1 == d.code) with
    | none =>
      rw [hc] at hfixed
      cases hfixed
    | some c =>
      rw [hc] at hfixed
      exact of_decide_eq_true hfixed
  · have hscene : classifyByScene scene d = illegalCombination d.message (scene.trail d) := by
      rw [classifyByScene, hcode]
      rfl
    rw [classify, hnone, hscene]
    exact List.mem_append_right _ (illegalCombination_mem _ _)

/-- No option softens or drops a problem of the parser. -/
theorem irritant?_eq_none_of_mem :
    ∀ id ∈ parserProblems, id ≠ .ignored ∧ Options.irritant? id.code = none := by
  decide

/-- A problem that reports a diagnostic as an error, with its code and its
message. -/
structure ReportsAsError (d : Diagnostic) (r : Report) : Prop where
  code : r.foreignCode = d.code
  message : r.message = d.message
  severity : r.severity = .error

/-- **An error of the parser is reported as an error**, whatever the
options. -/
theorem report?_parserError {d : Diagnostic} (h : ParserError d) (o : Options) (scene : Scene) :
    ∃ r, report? o scene d = some r ∧ ReportsAsError d r := by
  obtain ⟨hknown, hirritant⟩ := irritant?_eq_none_of_mem _ (classify_mem_parserProblems h scene)
  have hseverity : severity o (classify scene d) d.kind = .error := by
    rw [severity, Options.severity?, hirritant, h.kind]
    rfl
  have hreported : ¬(classify scene d = .ignored ∨
      severity o (classify scene d) d.kind = .ignore) := by
    rw [hseverity, not_or]
    exact ⟨hknown, by decide⟩
  refine ⟨_, if_neg hreported, rfl, rfl, ?_⟩
  exact hseverity

theorem forall₂_reports {ds : List Diagnostic} (h : ∀ d ∈ ds, ParserError d) (o : Options)
    (scene : Scene) : List.Forall₂ ReportsAsError ds (reports o scene ds) := by
  induction ds with
  | nil => exact .nil
  | cons d ds ih =>
    obtain ⟨r, hr, hreports⟩ := report?_parserError (h d List.mem_cons_self) o scene
    rw [reports, List.filterMap_cons, hr]
    exact .cons hreports (ih fun e he => h e (List.mem_cons_of_mem d he))

end Problem

open Problem in
/-- **No error of the parser is lost or softened.** The problems of a
resolved unit are the diagnostics of its source, one for one and in order,
each with the code and the message of its diagnostic, and every one is an
error whatever the options say. -/
theorem forall₂_problems_of_resolve {settings : Settings} {input : Input} {u : CompilationUnit}
    (h : resolve settings input = .ok u) :
    List.Forall₂ ReportsAsError (parse input.source input.tree).diagnostics u.problems := by
  rw [resolve, resolveParsed] at h
  split at h
  · cases h
  · cases h
    exact forall₂_reports (fun d hd => parserError_of_mem_diagnostics hd) _ _

/-- A class with two modifiers that exclude each other and a field without
its semicolon. -/
def conflictingAccess : Input where
  file := "A.java"
  source := .ofString "public private class A \x7b int f \x7d"
  tree :=
    .mk (.token "program") none true false false 0 32 [
      .mk .classDeclaration none true false false 0 32 [
        .mk .modifiers none true false false 0 14 [
          .mk (.token "public") none false false false 0 6 [],
          .mk (.token "private") none false false false 7 14 []],
        .mk (.token "class") none false false false 15 20 [],
        .mk .identifier (some .name) true false false 21 22 [],
        .mk .classBody (some .body) true false false 23 32 [
          .mk (.token "\x7b") none false false false 23 24 [],
          .mk .fieldDeclaration none true false false 25 30 [
            .mk .integralType (some .type) true false false 25 28 [
              .mk (.token "int") none false false false 25 28 []],
            .mk .variableDeclarator (some .declarator) true false false 29 30 [
              .mk .identifier (some .name) true false false 29 30 []],
            .mk (.token ";") none false true false 30 30 []],
          .mk (.token "\x7d") none false false false 31 32 []]]]

/-- Settings that ignore all problems whose severity can be chosen. -/
def lenient : Settings :=
  { Settings.default with
    options := .ofPairs (["rawTypeReference", "uncheckedTypeOperation", "missingSerialVersion",
      "unnecessaryTypeCheck", "emptyStatement", "missingHashCodeMethod",
      "missingDeprecatedAnnotation", "nonSerializableInstanceField", "missingJavadocTags",
      "invalidJavadoc"].map (fun name => (Options.problemKey ++ name, "ignore"))) }

open Problem in
theorem forall₂_problems_conflictingAccess :
    ∃ u, resolve lenient conflictingAccess = .ok u ∧ u.problems.length = 2 ∧
      List.Forall₂ ReportsAsError
        (parse conflictingAccess.source conflictingAccess.tree).diagnostics u.problems := by
  have hok : (resolve lenient conflictingAccess).isOk = true := by decide +kernel
  have hreports : (Lowering.malformedReports conflictingAccess.source.contentEnd
      conflictingAccess.tree ++ (Lowering.lower conflictingAccess.source
        conflictingAccess.tree).2.reports).length = 2 := by decide +kernel
  have hlength : (parse conflictingAccess.source conflictingAccess.tree).diagnostics.length = 2 := by
    rw [parse, List.length_mergeSort, List.length_map]
    exact hreports
  cases h : resolve lenient conflictingAccess with
  | error what =>
    rw [h] at hok
    cases hok
  | ok u =>
    have hproblems := forall₂_problems_of_resolve h
    exact ⟨u, rfl, by rw [← hproblems.length_eq, hlength], hproblems⟩

end TreeBridge
