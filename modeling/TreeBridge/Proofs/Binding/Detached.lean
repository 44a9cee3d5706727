import TreeBridge.Binding.Reference
import TreeBridge.Proofs.Binding.Walk
import TreeBridge.Proofs.Unified.Names
/-!
# Names that are no simple references

The name behind the dot of a selection, the name of a call on a receiver,
a label and the name of an annotation element mean nothing by themselves.
They have no key of their own, as only declarations and the names of
declarations have one. A search through the scopes around them is made
all the same, as for any simple name: it finds nothing exactly when no
scope that it comes to has an answer, and otherwise a declaration of the
unit that only shares its spelling with the name.
-/

namespace TreeBridge

namespace Binding

open Unified (Arena NodeId NodeKind Tree IsTree)

variable {a : Arena} {σ τ : Ledger}

/-! ## Nodes with a key -/

/-- A node is a declaration or the name of one. -/
def Declares (a : Arena) (i : NodeId) : Prop :=
  ∃ d, role (a.kind d) ≠ .other ∧ (i = d ∨ a.child? d .name = some i)

/-- Only declarations and their names have keys. -/
def Keyed (a : Arena) (σ : Ledger) : Prop :=
  ∀ i key, σ.key? i = some key → Declares a i

theorem keyed_empty (a : Arena) : Keyed a .empty := by
  intro i key h
  cases h

theorem Keyed.congr (h : Keyed a σ) (hkey : ∀ i, τ.key? i = σ.key? i) : Keyed a τ :=
  fun i key hi => h i key (hkey i ▸ hi)

theorem Ledger.declares_of_key?_declare {t : Tree} {key name k : String} {kind : BindingKind}
    {i : NodeId} (h : (σ.declare t key kind name).key? i = some k) :
    i = t.id ∨ (∃ n, t.child? .name = some n ∧ i = n.id) ∨ σ.key? i = some k := by
  by_cases hself : t.id = i
  · exact .inl hself.symm
  unfold declare at h
  dsimp only at h
  split at h
  · next n hn =>
    by_cases hname : n.id = i
    · exact .inr (.inl ⟨n, hn, hname.symm⟩)
    · rw [key?_enter, key?_assign, if_neg hname, key?_assign, if_neg hself] at h
      exact .inr (.inr h)
  · rw [key?_enter, key?_assign, if_neg hself] at h
    exact .inr (.inr h)

section Walk

variable {depth : ℕ} {i : NodeId}

theorem Keyed.declare {key name : String} {kind : BindingKind} (h : Keyed a σ)
    (hrole : role (a.kind i) ≠ .other) :
    Keyed a (σ.declare (a.treeWithin depth i) key kind name) := by
  intro j k hj
  rcases Ledger.declares_of_key?_declare hj with rfl | ⟨n, hn, rfl⟩ | hj
  · rw [Arena.id_treeWithin]
    exact ⟨i, hrole, .inl rfl⟩
  · exact ⟨i, hrole, .inr (Arena.child?_of_treeWithin hn)⟩
  · exact h j k hj

/-- The visit of a node gives keys to the node and its name at most. -/
theorem keyed_declareNode (h : Keyed a σ) (scope : Scope) (isField : Bool) :
    Keyed a (declareNode scope isField (a.treeWithin depth i) σ).2 := by
  obtain ⟨key, kind, name, heq⟩ := declareNode_eq scope isField (a.treeWithin depth i) σ
  rw [heq, Arena.kind_treeWithin]
  -- drawing a number changes no key
  have hdrawn {τ : Ledger} {o : Origin} (hτ : Drawn σ τ o) : Keyed a τ :=
    h.congr fun i => hτ.extend.key i List.not_mem_nil
  cases hrole : role (a.kind i) with
  | package | annotationMember | method | enumConstant => exact h.declare (by simp [hrole])
  | type => exact (hdrawn drawn_typeOrigin).declare (by simp [hrole])
  | anonymousType => exact Keyed.declare (h.congr fun _ => rfl) (by simp [hrole])
  | initializer => exact h.congr fun _ => rfl
  | var => exact (hdrawn drawn_variableOrigin).declare (by simp [hrole])
  | other => exact h

/-- The branches of a tree are trees of the same arena, one level less
deep. -/
theorem exists_eq_treeWithin_of_mem_branches {b : Bool × Tree}
    (hb : b ∈ branches (a.treeWithin depth i)) :
    ∃ below j, depth = below + 1 ∧ b.2 = a.treeWithin below j := by
  have hmem := mem_children_of_mem_branches hb
  cases depth with
  | zero => cases hmem
  | succ below =>
    obtain ⟨c, hc, hcb⟩ := List.mem_map.1 hmem
    obtain ⟨e, -, rfl⟩ := List.mem_map.1 hc
    exact ⟨below, e.node, rfl, hcb.symm⟩

/-- **The walk over a tree** gives keys to declarations and their names
only. -/
theorem keyed_declareTree (h : Keyed a σ) (scope : Scope) :
    Keyed a (declareTree a scope (a.treeWithin depth i) σ) := by
  induction depth using Nat.strongRecOn generalizing i scope σ with
  | _ depth ih =>
    have hnode := @keyed_declareNode a σ depth i h scope
      (isFieldPlace a (a.treeWithin depth i).id)
    cases hinner : (declareNode scope (isFieldPlace a (a.treeWithin depth i).id)
        (a.treeWithin depth i) σ).1 with
    | none => rwa [declareTree_of_none hinner]
    | some inner =>
      rw [declareTree_of_some hinner]
      refine List.foldlRecOn _ _ hnode fun τ hτ b hb => ?_
      obtain ⟨below, j, rfl, hbelow⟩ := exists_eq_treeWithin_of_mem_branches hb
      rw [hbelow]
      exact ih below (Nat.lt_succ_self below) hτ _

theorem keyed_ofRoot (a : Arena) (root : NodeId) : Keyed a (Ledger.ofRoot a root) :=
  keyed_declareTree (keyed_empty a) .top

end Walk

/-! ## A search through scopes -/

section Search

variable {name scope : NodeId} {s : String} {scopes : List NodeId}

/-- A search for a name comes to a scope around it: no type of that name
is nearer, unless the name is the one of a call. -/
def InReach (a : Arena) (name : NodeId) (s : String) (scope : NodeId) : Prop :=
  ∃ inner outer, a.ancestors name = inner ++ scope :: outer ∧
    ∀ t ∈ inner, namesItself a s (isInvoked a name) t = false

/-- What a scope has for a name: a declaration of the name that suits it
and, in a block or a switch, starts before it, or the declaration that
the scope is itself. -/
inductive Answers (σ : Ledger) (a : Arena) (name : NodeId) (s : String) (scope : NodeId) : Prop
  | declared {d : NodeId} {key : String} {b : TreeBridge.Binding}
      (hdeclared : d ∈ declaredIn a scope) (hname : nameOf? a d = some s)
      (hearlier : isOrdered (a.kind scope) = true → (a.span d).start < (a.span name).start)
      (hkey : σ.key? d = some key) (hbinding : σ.binding? key = some b)
      (hsuits : suits (isInvoked a name) b.kind = true)
  | itself {key : String} (hself : namesItself a s (isInvoked a name) scope = true)
      (hkey : σ.key? scope = some key)

theorem matched?_eq_some_iff {invoked : Bool} {offset : Int} {d : NodeId} {key : String} :
    matched? σ a s invoked offset scope d = some key ↔
      σ.key? d = some key ∧ (∃ b, σ.binding? key = some b ∧ suits invoked b.kind = true) ∧
        (isOrdered (a.kind scope) = true → (a.span d).start < offset) ∧
          nameOf? a d = some s := by
  unfold matched?
  cases σ.key? d with
  | none => simp
  | some k =>
    cases hordered : isOrdered (a.kind scope) <;>
      simp [Option.any_eq_true] <;> grind

/-- A search comes to nothing when no scope has an answer, up to the first
type of the name. -/
theorem search?_eq_none_iff {invoked : Bool} {offset : Int} :
    search? σ a s invoked offset scopes = none ↔
      ∀ inner scope outer, scopes = inner ++ scope :: outer →
        (∀ t ∈ inner, namesItself a s invoked t = false) →
          (∀ d ∈ declaredIn a scope, matched? σ a s invoked offset scope d = none) ∧
            (namesItself a s invoked scope = true → σ.key? scope = none) := by
  induction scopes with
  | nil => simp [search?]
  | cons first rest ih =>
    have hcons : search? σ a s invoked offset (first :: rest) = none ↔
        (∀ d ∈ declaredIn a first, matched? σ a s invoked offset first d = none) ∧
          (namesItself a s invoked first = true → σ.key? first = none) ∧
            (namesItself a s invoked first = false →
              search? σ a s invoked offset rest = none) := by
      rw [search?, ← List.findSome?_eq_none_iff]
      cases (declaredIn a first).findSome? (matched? σ a s invoked offset first) <;>
        cases namesItself a s invoked first <;> simp
    rw [hcons, ih]
    constructor
    · rintro ⟨hdeclared, hself, hrest⟩ inner scope outer heq hinner
      cases inner with
      | nil =>
        obtain ⟨rfl, rfl⟩ := List.cons.inj heq
        exact ⟨hdeclared, hself⟩
      | cons t inner =>
        obtain ⟨rfl, rfl⟩ := List.cons.inj heq
        obtain ⟨ht, hinner⟩ := List.forall_mem_cons.1 hinner
        exact hrest ht inner scope outer rfl hinner
    · intro h
      obtain ⟨hdeclared, hself⟩ := h [] first rest rfl (List.forall_mem_nil _)
      refine ⟨hdeclared, hself, fun hfirst inner scope outer heq hinner => ?_⟩
      exact h (first :: inner) scope outer (congrArg (first :: ·) heq)
        (List.forall_mem_cons.2 ⟨hfirst, hinner⟩)

theorem not_answers_iff : ¬ Answers σ a name s scope ↔
    (∀ d ∈ declaredIn a scope,
      matched? σ a s (isInvoked a name) (a.span name).start scope d = none) ∧
        (namesItself a s (isInvoked a name) scope = true → σ.key? scope = none) := by
  constructor
  · refine fun h => ⟨fun d hd => ?_, fun hself => ?_⟩
    · by_contra hmatched
      obtain ⟨key, hkey⟩ := Option.ne_none_iff_exists'.1 hmatched
      obtain ⟨hkey, ⟨b, hb, hsuits⟩, hearlier, hname⟩ := matched?_eq_some_iff.1 hkey
      exact h (.declared hd hname hearlier hkey hb hsuits)
    · by_contra hsome
      obtain ⟨key, hkey⟩ := Option.ne_none_iff_exists'.1 hsome
      exact h (.itself hself hkey)
  · rintro ⟨hdeclared, hitself⟩ (⟨hd, hname, hearlier, hkey, hb, hsuits⟩ | ⟨hself, hkey⟩)
    · have hmatched := matched?_eq_some_iff.2 ⟨hkey, ⟨_, hb, hsuits⟩, hearlier, hname⟩
      rw [hdeclared _ hd] at hmatched
      cases hmatched
    · rw [hitself hself] at hkey
      cases hkey

/-- **What a simple name refers to**: nothing exactly when no scope that
the search comes to has an answer. -/
theorem reference?_eq_none_iff : reference? σ a name s = none ↔
    ∀ scope, InReach a name s scope → ¬ Answers σ a name s scope := by
  simp only [reference?, search?_eq_none_iff, not_answers_iff, InReach]
  exact ⟨fun h scope ⟨inner, outer, heq, hinner⟩ => h inner scope outer heq hinner,
    fun h inner scope outer heq hinner => h scope ⟨inner, outer, heq, hinner⟩⟩

/-- A simple name that has no key refers to what the search finds. -/
theorem resolve?_of_key?_eq_none (hkind : a.kind name = .simpleName s)
    (hkey : σ.key? name = none) : σ.resolve? a name = reference? σ a name s := by
  rw [Ledger.resolve?, keyOf?, Arena.tree, Arena.id_treeWithin, Arena.kind_treeWithin, hkey, hkind]

end Search

/-! ## Detached names -/

/-- A name stands where no simple reference can stand. -/
inductive Detached (a : Arena) (name : NodeId) : Prop
  /-- The name behind a dot, or of an element of an annotation. -/
  | selected {p : NodeId} (hparent : a.parent name = some p)
      (hplace : a.location? name = some .name)
      (hkind : a.kind p ∈
        [NodeKind.qualifiedName, .fieldAccess, .superFieldAccess, .memberValuePair])
  /-- The name of a call on a receiver. -/
  | invoked {p : NodeId} (hparent : a.parent name = some p)
      (hplace : a.location? name = some .name) (hkind : a.kind p = .methodInvocation)
      (hreceiver : (a.child? p .expression).isSome = true)
  /-- The label of a statement, or of a jump. -/
  | label {p : NodeId} (hparent : a.parent name = some p)
      (hplace : a.location? name = some .label)
      (hkind : a.kind p ∈ [NodeKind.labeledStatement, .breakStatement, .continueStatement])

variable {root name : NodeId} {s : String}

/-- What a detached name hangs from declares nothing. -/
theorem Detached.exists_parent (h : Detached a name) :
    ∃ p, a.parent name = some p ∧ role (a.kind p) = .other := by
  have hrole {p : NodeId} {kinds : List NodeKind} (hkind : a.kind p ∈ kinds)
      (hkinds : ∀ kind ∈ kinds, role kind = .other) : role (a.kind p) = .other :=
    hkinds _ hkind
  cases h with
  | selected hparent _ hkind => exact ⟨_, hparent, hrole hkind (by decide)⟩
  | invoked hparent _ hkind => exact ⟨_, hparent, by rw [hkind]; rfl⟩
  | label hparent _ hkind => exact ⟨_, hparent, hrole hkind (by decide)⟩

/-- A detached name has no key of its own. -/
theorem Detached.key?_eq_none (htree : IsTree a root) (hkind : a.kind name = .simpleName s)
    (h : Detached a name) : (Ledger.ofRoot a root).key? name = none := by
  obtain ⟨p, hparent, hother⟩ := h.exists_parent
  by_contra hsome
  obtain ⟨key, hkey⟩ := Option.ne_none_iff_exists'.1 hsome
  obtain ⟨d, hrole, rfl | hname⟩ := keyed_ofRoot a root name key hkey
  · exact hrole (by rw [hkind]; rfl)
  · -- the name of a declaration hangs from the declaration
    have hd : a.parent name = some d := htree.parent_of_mem (Arena.mem_children_of_child? hname)
    rw [hparent, Option.some.injEq] at hd
    exact hrole (hd ▸ hother)

/-- **A detached name resolves to nothing exactly when no scope that a
search for a simple reference comes to has an answer**: that it is none
makes no difference. -/
theorem resolve?_detached_eq_none_iff (htree : IsTree a root)
    (hkind : a.kind name = .simpleName s) (h : Detached a name) :
    (Ledger.ofRoot a root).resolve? a name = none ↔
      ∀ scope, InReach a name s scope → ¬ Answers (Ledger.ofRoot a root) a name s scope := by
  rw [resolve?_of_key?_eq_none hkind (h.key?_eq_none htree hkind), reference?_eq_none_iff]

/-- The nodes of `class A { int x; Object f = a.x; }`: node 6 is the
field `x`, node 12 the name behind the dot and node 11 the one before
it. -/
def selectedField : Arena where
  nodes := #[
    ⟨.compilationUnit, ⟨0, 34⟩, 2, none, [⟨.types, 1⟩]⟩,
    ⟨.typeDeclaration false, ⟨0, 34⟩, 2, some 0,
      [⟨.name, 2⟩, ⟨.bodyDeclarations, 3⟩, ⟨.bodyDeclarations, 7⟩]⟩,
    ⟨.simpleName "A", ⟨6, 1⟩, 2, some 1, []⟩,
    ⟨.fieldDeclaration, ⟨10, 6⟩, 2, some 1, [⟨.type, 4⟩, ⟨.fragments, 6⟩]⟩,
    ⟨.primitiveType .int, ⟨10, 3⟩, 2, some 3, []⟩,
    ⟨.simpleName "x", ⟨14, 1⟩, 2, some 6, []⟩,
    ⟨.variableDeclarationFragment 0, ⟨14, 1⟩, 2, some 3, [⟨.name, 5⟩]⟩,
    ⟨.fieldDeclaration, ⟨17, 15⟩, 2, some 1, [⟨.type, 9⟩, ⟨.fragments, 14⟩]⟩,
    ⟨.simpleName "Object", ⟨17, 6⟩, 2, some 9, []⟩,
    ⟨.simpleType, ⟨17, 6⟩, 2, some 7, [⟨.name, 8⟩]⟩,
    ⟨.simpleName "f", ⟨24, 1⟩, 2, some 14, []⟩,
    ⟨.simpleName "a", ⟨28, 1⟩, 2, some 13, []⟩,
    ⟨.simpleName "x", ⟨30, 1⟩, 2, some 13, []⟩,
    ⟨.qualifiedName, ⟨28, 3⟩, 2, some 14, [⟨.qualifier, 11⟩, ⟨.name, 12⟩]⟩,
    ⟨.variableDeclarationFragment 0, ⟨24, 7⟩, 2, some 7, [⟨.name, 10⟩, ⟨.initializer, 13⟩]⟩]
  defaultFlags := 2

/-- The name behind the dot has an answer in reach. -/
theorem exists_answers_selectedField :
    IsTree selectedField 0 ∧ selectedField.kind 12 = .simpleName "x" ∧
      Detached selectedField 12 ∧
        ∃ scope, InReach selectedField 12 "x" scope ∧
          Answers (Ledger.ofRoot selectedField 0) selectedField 12 "x" scope := by
  have htree : IsTree selectedField 0 := by decide +kernel
  have hdetached : Detached selectedField 12 :=
    .selected (p := 13) (by decide) (by decide) (by decide)
  have hresolve : (Ledger.ofRoot selectedField 0).resolve? selectedField 12 ≠ none := by
    decide +kernel
  have hanswers := mt (resolve?_detached_eq_none_iff htree rfl hdetached).2 hresolve
  push Not at hanswers
  exact ⟨htree, rfl, hdetached, hanswers⟩

/-- The name behind the dot resolves to a field that shares its spelling,
while nothing is known of what stands before the dot. -/
theorem resolve?_selectedField :
    IsTree selectedField 0 ∧ selectedField.kind 12 = .simpleName "x" ∧
      Detached selectedField 12 ∧
        (Ledger.ofRoot selectedField 0).resolve? selectedField 11 = none ∧
          (Ledger.ofRoot selectedField 0).resolve? selectedField 12 = some "LA;.x" ∧
            (Ledger.ofRoot selectedField 0).key? 6 = some "LA;.x" :=
  ⟨by decide +kernel, rfl, .selected (p := 13) (by decide) (by decide) (by decide),
    by decide +kernel, by decide +kernel, by decide +kernel⟩

end Binding

end TreeBridge
