import TreeBridge.Lowering.Unit
import TreeBridge.Proofs.Lowering.Bodies
/-!
# The owner of a report on modifiers

A report on modifiers waits until a declaration settles it. The
declaration that owns the modifiers gets it only if it is one that
settles, and if nothing settles while the rest of it is read: whatever is
declared inside a type or a method completes before the type or the
method does. Enum constants, resources and the variables of loops over
elements never get a report.
-/

namespace TreeBridge

namespace Lowering

open Foreign (Diagnostic)
open Concrete (Node Kind)
open Concrete.Node (Part Parts)

/-- **All ways to read a node are orderly.** -/
theorem steady_actions (s : Source) (n : Node) : (actions s n).Steady := by
  induction n using actions.induct with
  | case1 n ih =>
    have hb : ∀ p : Part n, (actions s p.1).Steady := ih
    rw [actions]
    exact ⟨orderly_expression hb, orderly_type hb, orderly_name hb, orderly_annotated hb,
      orderly_element hb, orderly_initial hb, orderly_pattern hb, orderly_statements hb,
      orderly_members hb, orderly_typeDeclaration hb, orderly_malformed hb⟩

variable {s : Source} {n : Node} {below : Below n}

/-! ## Declarations and their modifiers -/

/-- The declarations that the lowering reads below a node or at it: the
parts among which their modifiers stand, whether they settle, and the
reading of the rest. -/
inductive Declares (s : Source) (below : Below n) :
    Parts n → Bool → (Foreign.Modifiers Foreign.Tree → Build Foreign.Tree) → Prop
  | type : Declares s below n.parts true (typeAfter s below)
  | method : Declares s below n.parts true (methodAfter s below)
  | constructor : Declares s below n.parts true (constructorAfter s below)
  | declarator (stop : Int) (d : Part n) :
    Declares s below n.parts true (variableAfter s below stop d)
  | formal (p : Part n) : Declares s below p.parts true (formalAfter s below p)
  | spread (p : Part n) : Declares s below p.parts true (spreadAfter s below p)
  | caught (p : Part n) : Declares s below p.parts true (caughtAfter s below p)
  | enumConstant (enumName : String) (p : Part n) :
    Declares s below p.parts false (enumConstantAfter s below enumName p)
  | resource (p type : Part n) : Declares s below p.parts false (resourceAfter s below p type)
  | loopVariable : Declares s below n.parts false (loopVariableAfter s below)

theorem Declares.rest (hb : ∀ p, (below p).Steady) {ps : Parts n} {settles : Bool}
    {rest : Foreign.Modifiers Foreign.Tree → Build Foreign.Tree}
    (h : Declares s below ps settles rest) : Rest rest := by
  cases h with
  | type => exact rest_typeAfter hb
  | method => exact rest_methodAfter hb
  | constructor => exact rest_constructorAfter hb
  | declarator stop d => exact rest_variableAfter hb stop d
  | formal p => exact rest_formalAfter hb p
  | spread p => exact rest_spreadAfter hb p
  | caught p => exact rest_caughtAfter hb p
  | enumConstant enumName p => exact rest_enumConstantAfter hb enumName p
  | resource p type => exact rest_resourceAfter hb p type
  | loopVariable => exact rest_loopVariableAfter hb

/-- `Raises s below p σ d τ left`: reading the modifiers `p` from the state
`σ` comes to the state `τ`, where it raises the report `d`, and has `left`
still to read. -/
inductive Raises (s : Source) (below : Below n) (p : Part n) (σ : State) :
    Diagnostic → State → Build (Foreign.Modifiers Foreign.Tree) → Prop
  | repeated {before after : Parts n} {word : Part n} {flag : UInt64}
      {mods : Foreign.Modifiers Foreign.Tree} {τ : State}
      (hparts : p.parts = before ++ word :: after)
      (hread : before.foldlM (addModifier s below) (modifiersAt p) σ = (mods, τ))
      (hannotates : word.kind.annotates = false) (hcomment : word.kind.isComment = false)
      (hword : Foreign.Flag.ofKeyword? (word.text s) = some flag)
      (hagain : Foreign.Flag.isIn flag mods.flags = true) :
      Raises s below p σ (repeatedModifier word) τ
        (modifiersAfter s below p (mods.withFlags flag) after)
  | conflict {first second : String} {others : List String}
      {mods : Foreign.Modifiers Foreign.Tree} {τ : State}
      (hread : p.parts.foldlM (addModifier s below) (modifiersAt p) σ = (mods, τ))
      (hwords : Foreign.Flag.keywordsIn (mods.flags &&& Foreign.Flag.access) =
        first :: second :: others) :
      Raises s below p σ (accessConflict p first second) τ (pure mods)

namespace Raises

variable {p : Part n} {σ τ : State} {d : Diagnostic}
  {left : Build (Foreign.Modifiers Foreign.Tree)}

/-- A report on modifiers has no owner when it is raised. -/
theorem unowned (h : Raises s below p σ d τ left) : d.tree = none := by
  cases h <;> rfl

/-- The modifiers are read by raising the report and reading on. -/
theorem run (h : Raises s below p σ d τ left) :
    modifiersAfter s below p (modifiersAt p) p.parts σ = left (reportUnsettled d τ).2 := by
  cases h with
  | @repeated before after word flag mods _ hparts hread hannotates hcomment hword hagain =>
    have hstep : addModifier s below mods word =
        (reportUnsettled (repeatedModifier word) >>= fun _ => pure (mods.withFlags flag)) := by
      unfold addModifier
      simp [hannotates, hcomment, hword, hagain]
    have hsplit : modifiersAfter s below p (modifiersAt p) p.parts =
        (before.foldlM (addModifier s below) (modifiersAt p) >>= fun m =>
          addModifier s below m word >>= fun m => modifiersAfter s below p m after) := by
      unfold modifiersAfter
      rw [hparts, List.foldlM_append]
      simp only [List.foldlM_cons, bind_assoc]
    rw [hsplit]
    -- the first fold is run, so that `hread` can say what it comes to
    show (addModifier s below (before.foldlM (addModifier s below) (modifiersAt p) σ).1 word >>=
      fun m => modifiersAfter s below p m after)
        (before.foldlM (addModifier s below) (modifiersAt p) σ).2 = _
    rw [hread, hstep]
    rfl
  | @conflict first second others mods _ hread hwords =>
    have hreport : reportAccess p mods = reportUnsettled (accessConflict p first second) := by
      unfold reportAccess
      rw [hwords]
    show (reportAccess p (p.parts.foldlM (addModifier s below) (modifiersAt p) σ).1 >>=
      fun _ => pure (p.parts.foldlM (addModifier s below) (modifiersAt p) σ).1)
        (p.parts.foldlM (addModifier s below) (modifiersAt p) σ).2 = _
    rw [hread, hreport]
    rfl

/-- The state in which a report is raised is consistent. -/
theorem consistent (hb : ∀ p, (below p).Steady) (hσ : σ.Consistent)
    (h : Raises s below p σ d τ left) : τ.Consistent := by
  have hfold : ∀ ps : Parts n, ∀ mods, ps.foldlM (addModifier s below) (modifiersAt p) σ =
      (mods, τ) → τ.Consistent := by
    intro ps mods hread
    obtain ⟨_, hps⟩ := orderly_foldlM (fun q (_ : q ∈ ps) => orderly_addModifier (s := s) hb q)
    have hlater := hps (modifiersAt p) σ hσ
    rw [hread] at hlater
    exact hlater.consistent
  cases h with
  | repeated _ hread => exact hfold _ _ hread
  | conflict hread => exact hfold _ _ hread

/-- What is left of the modifiers is orderly. -/
theorem orderly (hb : ∀ p, (below p).Steady) (h : Raises s below p σ d τ left) :
    Orderly left := by
  cases h with
  | repeated =>
    obtain ⟨_, hleft⟩ := orderly_modifiersAfter hb (s := s) p _
    exact ⟨_, hleft _⟩
  | conflict => exact ⟨_, .pure _⟩

end Raises

/-! ## What settles before a type does -/

theorem settles_declaring (hb : ∀ p, (below p).Steady) (ps : Parts n)
    {rest : Foreign.Modifiers Foreign.Tree → Build Foreign.Tree} (hrest : Rest rest) :
    Settles (declaring s below ps true rest) := by
  obtain ⟨_, hrest⟩ := hrest
  have hreads := fun mods => (hrest mods).settled
  refine (settles_bind_iff (orderly_modifiersOf hb ps) ⟨true, hreads⟩ .empty).2 (.inr ?_)
  exact (hreads .empty).settles_iff.2 rfl

/-- A type with a member that settles settles before it is completed, so
that it never owns a report on its own modifiers. -/
theorem settles_typeAfter_of_member (hb : ∀ p, (below p).Steady) {body p : Part n}
    (hbody : n.parts.field? .body = some body) (hform : (typeForm n.kind).classKind ≠ .enumType)
    (hp : p ∈ body.parts.named) (hsettles : Settles (below p).members)
    (mods : Foreign.Modifiers Foreign.Tree) : Settles (typeAfter s below mods) := by
  have hmembers :
      Settles (typeBody s below (typeForm n.kind) (textOf s (n.parts.field? .name))) := by
    have hbodyOf : typeBody s below (typeForm n.kind) (textOf s (n.parts.field? .name)) =
        membersOf below body.parts := by
      unfold typeBody
      rw [hbody]
      split
      · next h => exact absurd h (by simp)
      · next hkind => exact absurd hkind hform
      · next h _ =>
        cases h
        rfl
    rw [hbodyOf]
    exact (settles_gather_iff fun q _ => (hb q).members).2 ⟨p, hp, hsettles⟩
  obtain ⟨b, hbodyReads⟩ := orderly_typeBody hb (s := s) (typeForm n.kind)
    (textOf s (n.parts.field? .name))
  obtain ⟨c, hmakes⟩ := makes_typeAfter hb hbodyReads
  rw [(hmakes mods).reads.settles_iff, hbodyReads.settles_iff.1 hmembers, Bool.or_true]

/-! ## Which tree a report ends up with -/

/-- A report that is settled, with a tree as its owner. -/
structure Owned (σ : State) (i : ℕ) (d : Diagnostic) (owner : ℕ) : Prop where
  lt_length : i < σ.reports.length
  settled : i ∉ σ.waiting
  report : σ.reports[i]? = some { d with tree := some owner }

theorem Owned.later {c : Bool} {σ ρ : State} {i owner : ℕ} {d : Diagnostic}
    (h : Owned σ i d owner) (hlater : Later c σ ρ) : Owned ρ i d owner := by
  obtain ⟨hnot, heq⟩ := hlater.settled i h.lt_length h.settled
  exact ⟨Nat.lt_of_lt_of_le h.lt_length hlater.length_le, hnot, heq.trans h.report⟩

section

variable {m : Build Foreign.Tree} {σ : State} {i : ℕ} {d : Diagnostic}

/-- A report that an earlier settlement takes belongs to an older tree,
and goes on belonging to it when the declaration is completed. -/
theorem owned_of_taken (hm : Makes true m) (hσ : σ.Consistent) (hi : i ∈ σ.waiting)
    (hd : σ.reports[i]? = some d) (settles : Bool) :
    ∃ owner < (m σ).1.id, Owned ((if settles then settled m else m) σ).2 i d owner := by
  obtain ⟨τ, hτ, hid, hrun⟩ := hm σ hσ
  obtain ⟨hiτ, owner, -, hlt, heq⟩ := hτ.taken rfl i hi
  have hlen : i < τ.reports.length := Nat.lt_of_lt_of_le (hσ i hi) hτ.length_le
  have hreport : τ.reports[i]? = some { d with tree := some owner } := by
    rw [heq, hd]
    rfl
  refine ⟨owner, hid ▸ hlt, ?_⟩
  -- the report waits no longer, so a settlement by the declaration passes it over
  cases settles with
  | true =>
    show Owned (settle (m σ).1.id (m σ).2).2 i d owner
    rw [hrun]
    refine ⟨?_, List.not_mem_nil, ?_⟩
    · rw [length_reports_settle]
      exact hlen
    · rw [reports_settle, if_neg hiτ]
      exact hreport
  | false =>
    show Owned (m σ).2 i d owner
    rw [hrun]
    exact ⟨hlen, hiτ, hreport⟩

/-- A report that nothing takes before belongs to the tree of a
declaration that settles. -/
theorem owned_of_kept (hm : Makes false m) (hσ : σ.Consistent) (hi : i ∈ σ.waiting)
    (hd : σ.reports[i]? = some d) : Owned (settled m σ).2 i d (m σ).1.id := by
  obtain ⟨τ, hτ, hid, hrun⟩ := hm σ hσ
  obtain ⟨hiτ, heq⟩ := hτ.kept rfl i hi
  show Owned (settle (m σ).1.id (m σ).2).2 i d (m σ).1.id
  rw [hrun]
  refine ⟨?_, List.not_mem_nil, ?_⟩
  · rw [length_reports_settle]
    exact Nat.lt_of_lt_of_le (hσ i hi) hτ.length_le
  · rw [reports_settle, if_pos hiτ]
    show τ.reports[i]?.map _ = _
    rw [heq, hd]
    rfl

/-- A report that still waits when a tree is made never belongs to that
tree: whatever settles later is newer. -/
theorem unowned_of_kept (hm : Makes false m) (hσ : σ.Consistent) (hi : i ∈ σ.waiting)
    (hd : σ.reports[i]? = some d) (hnone : d.tree = none) {c : Bool} {ρ : State}
    (hlater : Later c (m σ).2 ρ) :
    ∃ owner, ρ.reports[i]? = some { d with tree := owner } ∧ owner ≠ some (m σ).1.id := by
  obtain ⟨τ, hτ, hid, hrun⟩ := hm σ hσ
  obtain ⟨hiτ, heq⟩ := hτ.kept rfl i hi
  rw [hrun] at hlater
  have hreport : τ.reports[i]? = some d := heq.trans hd
  cases c with
  | true =>
    obtain ⟨-, owner, hle, -, heqρ⟩ := hlater.taken rfl i hiτ
    -- whatever takes the report later has a later id
    refine ⟨some owner, ?_, fun h => ?_⟩
    · rw [heqρ, hreport]
      rfl
    · have howner : owner = τ.next := (Option.some.inj h).trans hid
      have hnext : τ.next + 1 ≤ owner := hle
      omega
  | false =>
    obtain ⟨-, heqρ⟩ := hlater.kept rfl i hiτ
    refine ⟨d.tree, ?_, ?_⟩
    · rw [heqρ, hreport]
      cases d
      rfl
    · rw [hnone]
      exact Option.some_ne_none _ |>.symm

/-- A report that waits before a declaration is completed ends up with the
tree of that declaration exactly when the declaration settles and nothing
before that does. -/
theorem owner_of_makes {b c : Bool} (hm : Makes b m) (hσ : σ.Consistent) (hi : i ∈ σ.waiting)
    (hd : σ.reports[i]? = some d) (hnone : d.tree = none) {settles : Bool} {ρ : State}
    (hlater : Later c ((if settles then settled m else m) σ).2 ρ) :
    ∃ owner, ρ.reports[i]? = some { d with tree := owner } ∧
      (owner = some (m σ).1.id ↔ settles = true ∧ b = false) := by
  cases b with
  | true =>
    obtain ⟨owner, hlt, howned⟩ := owned_of_taken hm hσ hi hd settles
    refine ⟨some owner, (howned.later hlater).report, fun h => ?_, fun h => by cases h.2⟩
    exact absurd (Option.some.inj h) (Nat.ne_of_lt hlt)
  | false =>
    cases settles with
    | true =>
      have howned := (owned_of_kept hm hσ hi hd).later hlater
      exact ⟨some (m σ).1.id, howned.report, fun _ => ⟨rfl, rfl⟩, fun _ => rfl⟩
    | false =>
      obtain ⟨owner, hreport, hne⟩ := unowned_of_kept hm hσ hi hd hnone hlater
      exact ⟨owner, hreport, fun h => absurd h hne, fun h => by cases h.1⟩

end

/-- **The owner of a report on modifiers.** At any time after a
declaration is read, a report raised on its modifiers is about the tree
of the declaration exactly when the declaration settles and reading what
comes after the reported modifier settles nothing. -/
theorem owner_eq_self_iff {ps : Parts n} {settles : Bool}
    {rest : Foreign.Modifiers Foreign.Tree → Build Foreign.Tree}
    (hrest : Declares s (fun p : Part n => actions s p.1) ps settles rest)
    {p : Part n} (hp : ps.ofKind? .modifiers = some p) {σ : State} (hσ : σ.Consistent)
    {d : Diagnostic} {τ : State} {left : Build (Foreign.Modifiers Foreign.Tree)}
    (hraise : Raises s (fun p : Part n => actions s p.1) p σ d τ left) {c : Bool} {ρ : State}
    (hlater : Later c
      (declaring s (fun p : Part n => actions s p.1) ps settles rest σ).2 ρ) :
    ∃ owner, ρ.reports[τ.reports.length]? = some { d with tree := owner } ∧
      (owner = some (declaring s (fun p : Part n => actions s p.1) ps settles rest σ).1.id ↔
        settles = true ∧ ¬ Settles (left >>= rest)) := by
  have hb : ∀ p : Part n, (actions s p.1).Steady := fun p => steady_actions s p.1
  obtain ⟨_, hleft⟩ := hraise.orderly hb
  obtain ⟨_, hmakes⟩ := hrest.rest hb
  have hm := Makes.bind hleft hmakes
  have hτ := hraise.consistent hb hσ
  have hraised := reads_reportUnsettled d τ hτ
  have hrun : declaring s (fun p : Part n => actions s p.1) ps settles rest σ =
      (if settles then settled (left >>= rest) else left >>= rest) (reportUnsettled d τ).2 := by
    have hmods : modifiersOf s (fun p : Part n => actions s p.1) ps σ =
        left (reportUnsettled d τ).2 := by
      unfold modifiersOf modifiers
      rw [hp]
      exact hraise.run
    unfold declaring
    show (if settles then settled (rest (modifiersOf s _ ps σ).1) else
      rest (modifiersOf s _ ps σ).1) (modifiersOf s _ ps σ).2 = _
    rw [hmods]
    cases settles <;> rfl
  have hid : (declaring s (fun p : Part n => actions s p.1) ps settles rest σ).1.id =
      ((left >>= rest) (reportUnsettled d τ).2).1.id := by
    rw [hrun]
    cases settles <;> rfl
  have hwaits : τ.reports.length ∈ (reportUnsettled d τ).2.waiting :=
    List.mem_append_right _ (List.mem_singleton_self _)
  have hreport : (reportUnsettled d τ).2.reports[τ.reports.length]? = some d :=
    List.getElem?_concat_length
  rw [hrun] at hlater
  obtain ⟨owner, howner, hiff⟩ := owner_of_makes hm hraised.consistent hwaits hreport
    hraise.unowned hlater
  refine ⟨owner, howner, ?_⟩
  rw [hid, hiff, hm.reads.settles_iff, Bool.not_eq_true]

/-- A token of punctuation or a keyword. -/
def token (text : String) (start stop : ℕ) : Node :=
  .mk (.token text) none false false false start stop []

/-- The field `int f;` of a class. -/
def intField (start : ℕ) : Node :=
  .mk .fieldDeclaration none true false false start (start + 6) [
    .mk .integralType (some .type) true false false start (start + 3)
      [token "int" start (start + 3)],
    .mk .variableDeclarator (some .declarator) true false false (start + 4) (start + 5)
      [.mk .identifier (some .name) true false false (start + 4) (start + 5) []],
    token ";" (start + 5) (start + 6)]

/-- The concrete tree of `public public class A { int f; }`. -/
def publicTwice : Node :=
  .mk .classDeclaration none true false false 0 32 [
    .mk .modifiers none true false false 0 13 [token "public" 0 6, token "public" 7 13],
    token "class" 14 19,
    .mk .identifier (some .name) true false false 20 21 [],
    .mk .classBody (some .body) true false false 22 32
      [token "\x7b" 22 23, intField 24, token "\x7d" 31 32]]

/-- The source text of the class. -/
def publicTwiceSource : Source :=
  .ofString "public public class A \x7b int f; \x7d"

/-- The report on the modifiers of the class ends up with the field. -/
theorem publicTwice_owner :
    (lower publicTwiceSource
      (.mk (.token "program") none true false false 0 32 [publicTwice])).2.reports.map (·.tree) =
        [some 1] ∧
    (lower publicTwiceSource
      (.mk (.token "program") none true false false 0 32 [publicTwice])).1.children.map
        (fun t => (t.id, t.children.map (·.id))) = [(2, [1])] := by
  decide +kernel

/-- The modifiers of the class. -/
def publicTwiceModifiers : Part publicTwice :=
  publicTwice.parts[0]

/-- The second of the two modifiers of the class. -/
def publicAgain : Part publicTwice :=
  publicTwiceModifiers.parts[1]

/-- The modifiers of the class before the second is read. -/
def publicOnce : Foreign.Modifiers Foreign.Tree :=
  (modifiersAt publicTwiceModifiers).withFlags Foreign.Flag.publicAccess

theorem owner_publicTwice :
    ∃ owner, (typeDeclaration publicTwiceSource
        (fun p : Part publicTwice => actions publicTwiceSource p.1) .initial).2.reports[0]? =
          some { repeatedModifier publicAgain with tree := owner } ∧
      (owner = some (typeDeclaration publicTwiceSource
          (fun p : Part publicTwice => actions publicTwiceSource p.1) .initial).1.id ↔
        true = true ∧ ¬ Settles (modifiersAfter publicTwiceSource
          (fun p : Part publicTwice => actions publicTwiceSource p.1) publicTwiceModifiers
          (publicOnce.withFlags Foreign.Flag.publicAccess) [] >>=
            typeAfter publicTwiceSource
              (fun p : Part publicTwice => actions publicTwiceSource p.1))) := by
  have hb : ∀ p : Part publicTwice, (actions publicTwiceSource p.1).Steady :=
    fun p => steady_actions publicTwiceSource p.1
  obtain ⟨_, hreads⟩ := orderly_typeDeclaration (s := publicTwiceSource) hb
  have hlater := Later.refl (hreads .initial State.consistent_initial).consistent
  have hparts : publicTwiceModifiers.parts =
      [publicTwiceModifiers.parts[0]] ++ publicAgain :: [] := rfl
  have hread : [publicTwiceModifiers.parts[0]].foldlM (addModifier publicTwiceSource
      (fun p : Part publicTwice => actions publicTwiceSource p.1))
      (modifiersAt publicTwiceModifiers) .initial = (publicOnce, .initial) := rfl
  have hword : Foreign.Flag.ofKeyword? (publicAgain.text publicTwiceSource) =
      some Foreign.Flag.publicAccess := by decide +kernel
  have hagain : Foreign.Flag.isIn Foreign.Flag.publicAccess publicOnce.flags = true := by
    decide +kernel
  have hraise := Raises.repeated hparts hread rfl rfl hword hagain
  exact owner_eq_self_iff .type rfl State.consistent_initial hraise hlater

end Lowering

end TreeBridge
