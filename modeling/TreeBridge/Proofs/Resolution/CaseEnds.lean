import TreeBridge.Proofs.Conversion.Cases
import TreeBridge.Proofs.Lexical.Tiling
import TreeBridge.Proofs.Lowering.Layout
import TreeBridge.Proofs.Text.Word
/-!
# Where cases end

The node of a case ends with the first arrow or colon that is found after
the labels of its tree. A guard has no tree, so it lies between the labels
and the separator that belongs to them. So the node ends with its own
separator exactly if no token before it is spelled the same.
-/

namespace TreeBridge

/-! ## The first token with a spelling -/

namespace Lexical

variable {s : Source} {start limit : Int} {word : String} {t : Token}

/-- **The first token with a spelling** is a given one with it, or one that
ends before that. -/
theorem findToken?_of_mem (ht : t ∈ codeTokens s start) (hlimit : (t.start : Int) < limit)
    (hspells : t.spells s (utf8 word.toList) = true) :
    ∃ u ∈ codeTokens s start, findToken? s word start limit = some u ∧ u.stop ≤ t.stop ∧
      (u.stop = t.stop ↔ ∀ v ∈ codeTokens s start, v.spells s (utf8 word.toList) = true →
        t.start ≤ v.start) := by
  obtain ⟨hwithin, hordered⟩ := (@scans_codeTokens s start).ordered
  obtain ⟨earlier, later, hsplit⟩ := List.append_of_mem ht
  rw [hsplit, List.pairwise_append, List.pairwise_cons] at hordered
  obtain ⟨-, ⟨hlater, -⟩, hearlier⟩ := hordered
  have hbefore : ∀ u ∈ earlier, u.stop ≤ t.start := fun u hu =>
    hearlier u hu t List.mem_cons_self
  have hin : ∀ u ∈ earlier, (u.start : Int) < limit := fun u hu => by
    have := (hwithin u (hsplit ▸ List.mem_append_left _ hu)).2.1
    have := hbefore u hu
    omega
  have hbetween : codeTokensBetween s start limit =
      earlier ++ t :: later.takeWhile (fun u => decide ((u.start : Int) < limit)) := by
    rw [codeTokensBetween, hsplit,
      List.takeWhile_append_of_pos fun u hu => decide_eq_true (hin u hu),
      List.takeWhile_cons_of_pos (p := fun u : Token => decide ((u.start : Int) < limit))
        (decide_eq_true hlimit)]
  have hfind : findToken? s word start limit =
      (earlier.find? fun u => u.spells s (utf8 word.toList)).or (some t) := by
    rw [findToken?, hbetween, List.find?_append,
      List.find?_cons_of_pos (p := fun u : Token => u.spells s (utf8 word.toList)) hspells]
  have htlt := (hwithin t ht).2.1
  cases hfirst : earlier.find? fun u => u.spells s (utf8 word.toList) with
  | none =>
    rw [hfirst, Option.none_or] at hfind
    refine ⟨t, ht, hfind, Nat.le_refl _, iff_of_true rfl fun v hv hv' => ?_⟩
    rw [hsplit, List.mem_append, List.mem_cons] at hv
    rcases hv with hv | rfl | hv
    · exact absurd hv' (List.find?_eq_none.1 hfirst v hv)
    · exact Nat.le_refl _
    · exact Nat.le_trans (Nat.le_of_lt htlt) (hlater v hv)
  | some u =>
    rw [hfirst, Option.some_or] at hfind
    have hmem := List.mem_of_find?_eq_some hfirst
    have hu : u ∈ codeTokens s start := hsplit ▸ List.mem_append_left _ hmem
    have hult := (hwithin u hu).2.1
    have hule := hbefore u hmem
    refine ⟨u, hu, hfind, by omega, iff_of_false (by omega) fun h => ?_⟩
    have := h u hu (List.find?_some (p := fun u : Token => u.spells s (utf8 word.toList)) hfirst)
    omega

end Lexical

/-! ## The cases of a rule or a group -/

namespace Lowering

open Concrete (Node Kind)
open Concrete.Node (Part Parts)

variable {s : Source} {n : Node}

/-- The labels of a rule, which has one, or of a group. -/
def labelsOf (member : Part n) : Parts n :=
  if member.kind = .switchRule then (member.parts.ofKind? .switchLabel).toList
  else member.parts.named.filter (fun c => c.kind == .switchLabel)

/-- What stands between the labels and the statements of a rule or a
group. -/
def separatorOf (member : Part n) : String :=
  if member.kind = .switchRule then "->" else ":"

/-- A part is the separator that follows a label in a rule or a group. It
is not empty, and the rule or the statements of the group end behind
it. -/
structure Separates (member label separator : Part n) : Prop where
  found : member.parts.find?
    (fun p => p.kind == .token (separatorOf member) && decide (label.stop ≤ p.start)) =
      some separator
  start_lt : separator.start < separator.stop
  inside : separator.stop ≤ member.stop
  before : ∀ c ∈ member.parts.named, c.kind ≠ .switchLabel → separator.stop ≤ c.stop

/-- A tree is the case of a label of a rule or a group: it starts at an
offset, and the separator that follows the label starts before its end. -/
structure IsCaseOf (member label : Part n) (u : Foreign.Tree) : Prop where
  start : 0 ≤ u.start
  shape : ∃ labels isDefault statements,
    u.shape = .switchCase labels isDefault (member.kind == .switchRule) statements
  stop : ∀ separator, Separates member label separator → (separator.start : Int) < u.stop

theorem stop_make {start position stop : Int} {shape : Foreign.Shape Foreign.Tree} (h : 0 ≤ stop)
    (σ : State) : (make start position stop shape σ).1.stop = stop :=
  if_pos h

/-- The case of a label of a group, by where it ends. -/
theorem isCaseOf_groupCase (below : Below n) {group label : Part n} {stop : Int}
    (hkind : group.kind ≠ .switchRule) (hstop : 0 ≤ stop)
    (hseparator : ∀ separator, Separates group label separator → (separator.start : Int) < stop)
    (statements : Parts n) : Gives (IsCaseOf group label) (groupCase below label stop statements) :=
  Gives.last fun labels => Gives.last fun read σ => by
    refine ⟨Int.natCast_nonneg _, ⟨labels, isDefaultLabel label, read, ?_⟩,
      fun separator h => ?_⟩
    · rw [beq_eq_false_iff_ne.2 hkind]
      rfl
    · rw [stop_make hstop]
      exact hseparator separator h

theorem colonStop_of_separates {group label separator : Part n} (hkind : group.kind ≠ .switchRule)
    (h : Separates group label separator) : colonStop group label = separator.stop := by
  have hfound := h.found
  rw [separatorOf, if_neg hkind] at hfound
  rw [colonStop, hfound]

theorem colonStop_nonneg (group label : Part n) : 0 ≤ colonStop group label := by
  unfold colonStop
  split <;> exact Int.natCast_nonneg _

/-- Every label of a group lowers to a case of its own. -/
theorem isCaseOf_groupCases (below : Below n) {group : Part n}
    (hkind : group.kind ≠ .switchRule) {statements : Parts n}
    (hs : ∀ c ∈ statements, c ∈ group.parts.named ∧ c.kind ≠ .switchLabel) :
    ∀ labels, Gives (List.Forall₂ (IsCaseOf group) labels)
      (groupCases below group statements labels)
  | [] => Gives.pure .nil
  | [label] => by
    refine Gives.bind (Q := IsCaseOf group label) ?_ fun t ht => Gives.pure (.cons ht .nil)
    cases hlast : statements.getLast? with
    | none =>
      refine isCaseOf_groupCase below hkind (colonStop_nonneg group label) (fun separator h => ?_) _
      show _ < colonStop group label
      rw [colonStop_of_separates hkind h]
      exact Int.ofNat_lt.2 h.start_lt
    | some c =>
      obtain ⟨hc, hlabel⟩ := hs c (List.mem_of_getLast? hlast)
      refine isCaseOf_groupCase below hkind (Int.natCast_nonneg _) (fun separator h => ?_) _
      exact Int.ofNat_lt.2 (Nat.lt_of_lt_of_le h.start_lt (h.before c hc hlabel))
  | label :: next :: rest => by
    refine (isCaseOf_groupCase below hkind (colonStop_nonneg group label) (fun separator h => ?_)
      []).bind fun t ht => (isCaseOf_groupCases below hkind hs (next :: rest)).bind
        fun ts hts => Gives.pure (.cons ht hts)
    rw [colonStop_of_separates hkind h]
    exact Int.ofNat_lt.2 h.start_lt

theorem isCaseOf_ruleCase (below : Below n) (inExpression : Bool) {rule label : Part n}
    (hkind : rule.kind = .switchRule) (hlabel : rule.parts.ofKind? .switchLabel = some label) :
    Gives (IsCaseOf rule label) (ruleCase below inExpression rule) := by
  unfold ruleCase
  rw [hlabel]
  refine Gives.last fun labels => Gives.last fun statements σ => ?_
  refine ⟨Int.natCast_nonneg _, ⟨labels, isDefaultLabel label, statements, ?_⟩,
    fun separator h => ?_⟩
  · rw [beq_iff_eq.2 hkind]
    rfl
  · have hlt := Nat.lt_of_lt_of_le h.start_lt h.inside
    exact (stop_make (Int.natCast_nonneg rule.1.stop) σ).symm ▸ Int.ofNat_lt.2 hlt

/-- **Every label of a rule or a group lowers to a case of its own.** -/
theorem isCaseOf_switchMember (below : Below n) (inExpression : Bool) {member : Part n}
    (hkind : member.kind = .switchRule ∨ member.kind = .switchBlockStatementGroup) (σ : State) :
    ∀ p ∈ (labelsOf member).zip (switchMember below inExpression member σ).1,
      IsCaseOf member p.1 p.2 := by
  rcases hkind with hkind | hkind
  · have hmember : (switchMember below inExpression member σ).1 =
        [(ruleCase below inExpression member σ).1] := by
      rw [switchMember, hkind]
      rfl
    rw [hmember, labelsOf, if_pos hkind]
    intro p hp
    cases hlabel : member.parts.ofKind? .switchLabel with
    | none => simp [hlabel] at hp
    | some label =>
      obtain rfl : p = (label, _) := by simpa [hlabel] using hp
      exact isCaseOf_ruleCase below inExpression hkind hlabel σ
  · have hrule : member.kind ≠ .switchRule := by rw [hkind]; decide
    have hmember : switchMember below inExpression member = groupCases below member
        (member.parts.named.filter (fun c => c.kind != .switchLabel)) (labelsOf member) := by
      rw [switchMember, hkind, labelsOf, if_neg hrule]
    rw [hmember]
    rintro ⟨label, u⟩ hp
    refine List.forall₂_zip (isCaseOf_groupCases below hrule (fun c hc => ?_) _ σ) hp
    obtain ⟨hnamed, hlabel⟩ := List.mem_filter.1 hc
    exact ⟨hnamed, by simpa using hlabel⟩

end Lowering

/-! ## The end of the node of a case -/

theorem Span.stop_ofBounds {start stop : Int} (hstart : 0 ≤ start) (hle : start ≤ stop)
    (hstop : stop < 2147483648) : (Span.ofBounds start stop).stop = stop := by
  have hlength : wrap32 (stop - start) = stop - start :=
    wrap32_of_nonneg_of_lt (by omega) (by omega)
  rw [Span.ofBounds, if_neg (by omega), hlength]
  show wrap32 (start + (stop - start)) = stop
  rw [wrap32_of_nonneg_of_lt (by omega) (by omega)]
  omega

namespace Conversion

open Foreign (Tree Shape)
open Foreign.Tree (Part Parts Subtree)
open Unified (NodeId Arena)
open Lowering (labelsOf separatorOf Separates IsCaseOf)

/-- Where the labels of the tree of a case end. -/
def labelsStop (u : Tree) : Int :=
  match u.shape with
  | .switchCase labels _ _ _ => max ((labels.map Tree.stop).max?.getD u.start) u.start
  | _ => u.start

section

variable {t : Tree} {p : Part t} {labels statements : Parts t} {isDefault rule : Bool}

theorem shape_of_parts (h : p.parts = .switchCase labels isDefault rule statements) :
    p.1.shape = .switchCase (labels.map Subtype.val) isDefault rule
      (statements.map Subtype.val) := by
  rw [← Part.map_val_parts, h]
  rfl

theorem labelsEnd_eq (h : p.parts = .switchCase labels isDefault rule statements) :
    labelsEnd p labels = labelsStop p.1 := by
  rw [labelsStop, shape_of_parts h, labelsEnd]
  dsimp only
  rw [List.map_map]
  rfl

/-- The separator of a case as a token that is read behind its labels. -/
structure IsToken (s : Source) {n : Concrete.Node} (member separator : Concrete.Node.Part n)
    (u : Tree) (token : Lexical.Token) : Prop where
  mem : token ∈ Lexical.codeTokens s (labelsStop u)
  start : token.start = separator.start
  stop : token.stop = separator.stop
  spells : token.spells s (utf8 (separatorOf member).toList) = true

/-- A case ends with its separator exactly if no earlier token behind its
labels is spelled the same. -/
theorem stop_span_iff {below : Below t} {ctx : Context} {k : ℕ} {a : Arena}
    {b : NodeId × List NodeId} (hflat : Flattens below ctx k a p b) {n : Concrete.Node}
    {member label separator : Concrete.Node.Part n} (hcase : IsCaseOf member label p.1)
    (hseparates : Separates member label separator) {token : Lexical.Token}
    (htoken : IsToken ctx.source member separator p.1 token)
    (hsize : ctx.source.size < 2147483648) :
    (a.span b.1).stop = separator.stop ↔
      ∀ v ∈ Lexical.codeTokens ctx.source (labelsStop p.1),
        v.spells ctx.source (utf8 (separatorOf member).toList) = true →
          separator.start ≤ v.start := by
  obtain ⟨labels, isDefault, rule, statements, hparts, hnode, -⟩ := hflat
  obtain ⟨hstart, ⟨_, _, _, hshape⟩, hstop⟩ := hcase
  obtain ⟨hmem, htstart, htstop, hspells⟩ := htoken
  have hlimit := hstop separator hseparates
  have hrule : rule = (member.kind == .switchRule) := by
    have := (shape_of_parts hparts).symm.trans hshape
    cases this
    rfl
  have hword : (if rule then "->" else ":") = separatorOf member := by
    rw [hrule, separatorOf]
    by_cases hkind : member.kind = .switchRule <;> simp [hkind]
  have hin : (token.start : Int) < max p.1.stop (wrap32 (labelsStop p.1 + 1)) := by omega
  obtain ⟨u, hu, hfind, -, hiff⟩ := Lexical.findToken?_of_mem hmem hin hspells
  have hcaseStop : caseStop ctx.source p labels rule = u.stop := by
    rw [caseStop, labelsEnd_eq hparts, hword, hfind]
  -- the labels end in the source, for a token is read behind them
  have hlabels : p.1.start ≤ labelsStop p.1 := by
    rw [labelsStop, hshape]
    exact Int.le_max_right _ _
  obtain ⟨hle, hlt, hstops⟩ := Lexical.scans_codeTokens.ordered.1 u hu
  rw [hnode.span, hcaseStop, Span.stop_ofBounds hstart (by omega) (by omega)]
  rw [htstart, htstop] at hiff
  rw [← hiff]
  exact Int.ofNat_inj

end

/-- **Where the node of a case ends.** A label of a rule or a group lowers
to a case, and a switch with that case is converted. Then the node of the
case ends with the separator that follows the label exactly if no token
between the labels of the case and the separator is spelled the same. -/
theorem stop_span_case_iff {s : Source} {n : Concrete.Node}
    {member label separator : Concrete.Node.Part n}
    (hkind : member.kind = .switchRule ∨ member.kind = .switchBlockStatementGroup)
    (hseparates : Separates member label separator) {inExpression : Bool} {υ : Lowering.State}
    {u : Tree} (hu : (label, u) ∈ (labelsOf member).zip
      (Lowering.switchMember (fun q : Concrete.Node.Part n => Lowering.actions s q.1)
        inExpression member υ).1)
    {token : Lexical.Token} (htoken : IsToken s member separator u token)
    (hsize : s.size < 2147483648) {t : Tree} {ps : Parts t} (hps : ∀ p ∈ ps, Subtree p.1 t)
    {owner : NodeId} {ctx : Context} (hs : ctx.source = s) {σ σ' : State}
    (howner : owner < σ.arena.size)
    (hrun : addCases (fun q : Part t => actions q.1) owner ps ctx σ = .ok ((), σ')) :
    ∃ blocks, σ'.arena.list owner .statements = σ.arena.list owner .statements ++ nodesOf blocks ∧
      List.Forall₂ (fun p b => p.1 = u →
        ((σ'.arena.span b.1).stop = separator.stop ↔
          ∀ v ∈ Lexical.codeTokens s (labelsStop u),
            v.spells s (utf8 (separatorOf member).toList) = true → separator.start ≤ v.start))
        ps blocks := by
  obtain ⟨blocks, hhangs, hblocks⟩ := addCases_eq_ok (grounded_actions t) hps howner hrun
  have hcase : IsCaseOf member label u :=
    Lowering.isCaseOf_switchMember _ inExpression hkind υ _ hu
  refine ⟨blocks, hhangs.list_of_slot, hblocks.imp fun p b hb hp => ?_⟩
  subst hp hs
  exact stop_span_iff hb.1 hcase hseparates htoken hsize

/-- A switch with a lambda in the guard of its only label. -/
def guardedSource : Source :=
  .ofString
    "class A \x7b void m() \x7b switch (x) \x7b case B b when f(y -> y) -> g(); \x7d \x7d \x7d"

/-- The label with its guard. -/
def guardedLabel : Concrete.Node :=
  .mk .switchLabel none true false false 34 57 [
    .mk (.token "case") none false false false 34 38 [],
    .mk .pattern none true false false 39 42 [
      .mk .typePattern none true false false 39 42 [
        .mk .typeIdentifier none true false false 39 40 [],
        .mk .identifier none true false false 41 42 []]],
    .mk .guardClause none true false false 43 57 [
      .mk (.token "when") none false false false 43 47 [],
      .mk .methodInvocation none true false false 48 57 [
        .mk .identifier (some .name) true false false 48 49 [],
        .mk (.token "argument_list") (some .arguments) true false false 49 57 [
          .mk (.token "(") none false false false 49 50 [],
          .mk .lambdaExpression none true false false 50 56 [
            .mk .identifier (some .parameters) true false false 50 51 [],
            .mk (.token "->") none false false false 52 54 [],
            .mk .identifier (some .body) true false false 55 56 []],
          .mk (.token ")") none false false false 56 57 []]]]]

/-- The block of the switch. -/
def guardedBlock : Concrete.Node :=
  .mk (.token "switch_block") (some .body) true false false 32 67 [
    .mk (.token "\x7b") none false false false 32 33 [],
    .mk .switchRule none true false false 34 65 [
      guardedLabel,
      .mk (.token "->") none false false false 58 60 [],
      .mk .expressionStatement none true false false 61 65 [
        .mk .methodInvocation none true false false 61 64 [
          .mk .identifier (some .name) true false false 61 62 [],
          .mk (.token "argument_list") (some .arguments) true false false 62 64 [
            .mk (.token "(") none false false false 62 63 [],
            .mk (.token ")") none false false false 63 64 []]],
        .mk (.token ";") none false false false 64 65 []]],
    .mk (.token "\x7d") none false false false 66 67 []]

/-- The rule in the block. -/
def guardedRule : Concrete.Node.Part guardedBlock :=
  guardedBlock.parts[1]

/-- The case that the rule lowers to. -/
def guardedCase : Tree :=
  (Lowering.ruleCase (fun q : Concrete.Node.Part guardedBlock =>
    Lowering.actions guardedSource q.1) false guardedRule .initial).1

/-- The switch over the case. -/
def guardedSwitch : Tree :=
  .node 20 21 21 67 (.switch (.node 19 29 29 30 (.ident "x")) [guardedCase])

/-- The case as a part of the switch. -/
def guardedCases : Parts guardedSwitch :=
  match guardedSwitch.parts with
  | .switch _ cases => cases
  | _ => []

/-- The conversion of the case. -/
def guardedRun : Except Unsupported (Unit × State) :=
  addCases (fun q : Part guardedSwitch => actions q.1) 0 guardedCases
    ⟨guardedSource, .latest, ""⟩ nestedStart

/-- The node of the case ends with the arrow of the lambda at 52, and not
with that of the rule at 58. -/
theorem span_guarded :
    guardedRule.parts[1].kind = .token "->" ∧ guardedRule.parts[1].stop = 60 ∧
      guardedSource.textOf? ⟨58, 2⟩ = some "->" ∧
      (guardedRun.toOption.map fun r =>
        ((r.2.arena.list 0 .statements).filter (isCaseNode r.2.arena)).map r.2.arena.span) =
          some [⟨34, 20⟩] := by
  decide +kernel

theorem stop_span_case_guarded : ∃ σ', guardedRun = .ok ((), σ') ∧
    ∃ b : NodeId × List NodeId, σ'.arena.list 0 .statements = nodesOf [b] ∧
      (σ'.arena.span b.1).stop ≠ guardedRule.parts[1].stop := by
  have hsub : ∀ p ∈ guardedCases, Subtree p.1 guardedSwitch := fun p hp =>
    subtree_of_parts (s := .switch _ guardedCases) rfl (by simp [Shape.children, hp])
  have hseparates : Separates guardedRule guardedRule.parts[0] guardedRule.parts[1] :=
    ⟨rfl, by decide +kernel, by decide +kernel, by decide +kernel⟩
  have hzip : (labelsOf guardedRule).zip (Lowering.switchMember
      (fun q : Concrete.Node.Part guardedBlock => Lowering.actions guardedSource q.1) false
        guardedRule .initial).1 = [(guardedRule.parts[0], guardedCase)] := rfl
  have htoken : IsToken guardedSource guardedRule guardedRule.parts[1] guardedCase
      ⟨.operator, 58, 60⟩ :=
    ⟨by decide +kernel, by decide +kernel, by decide +kernel, by decide +kernel⟩
  have harrow :
      ⟨.operator, 52, 54⟩ ∈ Lexical.codeTokens guardedSource (labelsStop guardedCase) := by
    decide +kernel
  have hok : guardedRun.isOk = true := by decide +kernel
  cases hrun : guardedRun with
  | error e => rw [hrun] at hok; cases hok
  | ok r =>
    obtain ⟨u, σ'⟩ := r
    obtain ⟨blocks, hlist, hblocks⟩ := stop_span_case_iff (Or.inl (by decide +kernel)) hseparates
      (hzip ▸ List.mem_singleton_self _) htoken (by decide +kernel) hsub rfl (by decide) hrun
    have hnone : nestedStart.arena.list 0 .statements = [] := by decide +kernel
    rw [hnone, List.nil_append] at hlist
    obtain ⟨p, hp⟩ : ∃ p, guardedCases = [p] := ⟨_, rfl⟩
    have hcase : guardedCases.map Subtype.val = [guardedCase] := rfl
    rw [hp] at hblocks hcase
    obtain ⟨b, _, hb, hrest, rfl⟩ := List.forall₂_cons_left_iff.1 hblocks
    obtain rfl := List.forall₂_nil_left_iff.1 hrest
    refine ⟨σ', rfl, b, hlist, fun hstop => ?_⟩
    have hspelled := (hb (List.singleton_inj.1 hcase)).1 hstop _ harrow (by decide +kernel)
    exact absurd hspelled (by decide +kernel)

end Conversion

end TreeBridge
