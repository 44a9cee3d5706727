import TreeBridge.Unified.Name
/-!
# Declarations of a unit

Every declaration of a unit has a binding with a key: `Lp/A;` for a type,
`Lp/A;.m(I)V` for a method, `Lp/A;.f` for a field, `Lp/A;.m(I)V#x` for a
local variable and `p` for a package. Class types in signatures are
written `Qname;`, since nothing outside the unit is known. The key of a
declaration is also the key of its name.
-/

namespace TreeBridge

/-- What a binding binds. -/
inductive BindingKind
  | type
  | method
  | var
  | package
  deriving DecidableEq, Repr

/-- The name of a kind of binding. -/
def BindingKind.name : BindingKind → String
  | type => "Type"
  | method => "Method"
  | var => "Variable"
  | package => "Package"

/-- A declared entity. -/
structure Binding where
  key : String
  kind : BindingKind
  name : String
  deriving DecidableEq, Repr

namespace Binding

open Unified (Arena NodeId Tree)

/-- The declarations found so far, the latest first: the keys of nodes,
the bindings of keys, and how often a key was numbered. -/
structure Ledger where
  keys : List (NodeId × String)
  bindings : List Binding
  counts : List (String × Nat)

namespace Ledger

/-- The ledger without declarations. -/
def empty : Ledger := ⟨[], [], []⟩

/-- The key of a declaration or of its name. -/
def key? (σ : Ledger) (id : NodeId) : Option String :=
  (σ.keys.find? (fun k => k.1 == id)).map (·.2)

/-- The binding with a key. -/
def binding? (σ : Ledger) (key : String) : Option Binding :=
  σ.bindings.find? (fun b => b.key == key)

/-- Enters a binding; it replaces one with the same key. -/
def enter (σ : Ledger) (b : Binding) : Ledger :=
  { σ with bindings := b :: σ.bindings.filter (fun other => other.key != b.key) }

/-- Gives a node a key. -/
def assign (σ : Ledger) (id : NodeId) (key : String) : Ledger :=
  { σ with keys := (id, key) :: σ.keys }

/-- Counts a use of a key, the first as one. -/
def count (σ : Ledger) (key : String) : Nat × Ledger :=
  let used := ((σ.counts.find? (fun c => c.1 == key)).map (·.2)).getD 0 + 1
  (used, { σ with counts := (key, used) :: σ.counts })

/-- Declares a node and its name under a key. -/
def declare (σ : Ledger) (t : Tree) (key : String) (kind : BindingKind) (name : String) :
    Ledger :=
  let σ := σ.assign t.id key
  let σ := match t.child? .name with
    | some n => σ.assign n.id key
    | none => σ
  σ.enter ⟨key, kind, name⟩

end Ledger

/-! ## Keys -/

/-- Where a declaration stands: the package as a path, the binary name of
the type around it, and the key of the member around it. -/
structure Scope where
  package : String
  owner : Option String
  member : Option String
  deriving DecidableEq, Repr

/-- The scope of a whole unit. -/
def Scope.top : Scope := ⟨"", none, none⟩

/-- The binary name of the type around, empty if there is none. -/
def Scope.ownerName (scope : Scope) : String :=
  scope.owner.getD ""

/-- The scope inside a type. -/
def Scope.inside (scope : Scope) (binary : String) : Scope :=
  { scope with owner := some binary, member := none }

/-- The scope inside a member. -/
def Scope.within (scope : Scope) (key : String) : Scope :=
  { scope with member := some key }

/-- The key of a type. -/
def typeKey (binary : String) : String :=
  "L" ++ binary ++ ";"

/-- The key of a member of a type. -/
def memberKey (owner : String) (selector : String) : String :=
  typeKey owner ++ "." ++ selector

/-- A dotted name as a path. -/
def pathOf (dotted : String) : String :=
  dotted.map (fun c => if c = '.' then '/' else c)

/-- The identifier of the name of a declaration, empty if it has none. -/
def declaredName (t : Tree) : String :=
  ((t.child? .name).bind Tree.identifier?).getD ""

/-- The dotted name of a package clause, empty if it has none. -/
def packageName (t : Tree) : String :=
  ((t.child? .name).bind Tree.nameText?).getD ""

/-- The binary name of a type. A local type is numbered within the type
around it. -/
def binaryName (scope : Scope) (name : String) (σ : Ledger) : String × Ledger :=
  match scope.owner, scope.member with
  | some outer, some _ =>
    let (n, σ) := σ.count outer
    (outer ++ "$" ++ toString n ++ name, σ)
  | some outer, none => (outer ++ "$" ++ name, σ)
  | none, _ => (if scope.package.isEmpty then name else scope.package ++ "/" ++ name, σ)

/-- The erased signature of a parameter. -/
def parameterSignature? (t : Tree) : Option String :=
  match t.kind with
  | .singleVariableDeclaration varargs extraDimensions =>
    (t.child? .type).map (fun type =>
      Unified.brackets (extraDimensions + varargs.toNat) ++ type.signature)
  | _ => none

/-- The selector of a method: its name, which a constructor leaves out,
the signatures of its parameters and of its result. -/
def methodSelector (t : Tree) (isConstructor : Bool) (name : String) : String :=
  (if isConstructor then "" else name) ++ "(" ++
    String.join ((t.list .parameters).filterMap parameterSignature?) ++ ")" ++
    ((t.child? .returnType).map Tree.signature).getD "V"

/-- The key of a variable. A local variable with the key of an earlier
one is numbered. -/
def variableKey (scope : Scope) (isField : Bool) (name : String) (σ : Ledger) :
    String × Ledger :=
  match scope.member, isField, scope.owner with
  | some member, false, _ =>
    let base := member ++ "#" ++ name
    if (σ.binding? base).isSome then
      let (n, σ) := σ.count base
      (base ++ "#" ++ toString n, σ)
    else (base, σ)
  | _, _, some owner => (memberKey owner name, σ)
  | _, _, none => (name, σ)

/-! ## The walk -/

/-- Declares a type under a binary name. -/
def declareType (scope : Scope) (t : Tree) (binary name : String) (σ : Ledger) :
    Option Scope × Ledger :=
  (some (scope.inside binary), σ.declare t (typeKey binary) .type name)

/-- Declares a package. -/
def declarePackage (t : Tree) (σ : Ledger) : Ledger :=
  let package := packageName t
  σ.declare t (pathOf package) .package package

/-- Declares one node, and gives the scope inside it; `none` for a node
below which nothing is declared. -/
def declareNode (scope : Scope) (isField : Bool) (t : Tree) (σ : Ledger) :
    Option Scope × Ledger :=
  let name := declaredName t
  match t.kind with
  | .packageDeclaration => (none, declarePackage t σ)
  | .typeDeclaration _ | .enumDeclaration | .recordDeclaration | .annotationTypeDeclaration =>
    let (binary, σ) := binaryName scope name σ
    declareType scope t binary name σ
  | .anonymousClassDeclaration =>
    let (n, σ) := σ.count scope.ownerName
    declareType scope t (scope.ownerName ++ "$" ++ toString n) "" σ
  | .methodDeclaration isConstructor _ =>
    let key := memberKey scope.ownerName (methodSelector t isConstructor name)
    (some (scope.within key), σ.declare t key .method name)
  | .annotationTypeMemberDeclaration =>
    let result := ((t.child? .type).map Tree.signature).getD ""
    (none, σ.declare t (memberKey scope.ownerName (name ++ "()" ++ result)) .method name)
  | .initializer =>
    let (n, σ) := σ.count (scope.ownerName ++ "#init")
    (some (scope.within (memberKey scope.ownerName ("\x7b" ++ toString n ++ "\x7d"))), σ)
  | .enumConstantDeclaration =>
    (some scope, σ.declare t (memberKey scope.ownerName name) .var name)
  | .variableDeclarationFragment _ | .singleVariableDeclaration _ _ =>
    let (key, σ) := variableKey scope isField name σ
    (some scope, σ.declare t key .var name)
  | _ => (some scope, σ)

/-- The scope inside a node that declares nothing itself: a unit with a
package clause opens its package. -/
def packageScope (scope : Scope) (t : Tree) : Scope :=
  match t.kind, t.child? .package with
  | .compilationUnit, some clause => { scope with package := pathOf (packageName clause) }
  | _, _ => scope

/-- Whether a node is a field by the place it was given last: a part of a
field declaration or a component of a record. -/
def isFieldPlace (a : Arena) (id : NodeId) : Bool :=
  match a.parent id with
  | none => false
  | some parent =>
    a.kind parent == .fieldDeclaration || a.location? id == some .recordComponents

/-- The package clause of a unit, which is visited before its other
children. -/
def leading? (t : Tree) : Option Tree :=
  match t.kind with
  | .compilationUnit => t.child? .package
  | _ => none

theorem sizeOf_lt_of_leading? {t u : Tree} (h : leading? t = some u) : sizeOf u < sizeOf t := by
  unfold leading? at h
  split at h
  · exact Tree.sizeOf_lt_of_child? h
  · cases h

/-- **Declares everything in a tree** of an arena, a node before the nodes
below it. -/
def declareTree (a : Arena) (scope : Scope) (t : Tree) (σ : Ledger) : Ledger :=
  match declareNode scope (isFieldPlace a t.id) t σ with
  | (none, σ) => σ
  | (some inner, σ) =>
    match _h : leading? t with
    | some clause =>
      let σ := declareTree a scope clause σ
      t.children.attach.foldl
        (fun σ c =>
          if c.1.2.id == clause.id then σ
          else declareTree a (packageScope inner t) c.1.2 σ) σ
    | none => t.children.attach.foldl (fun σ c => declareTree a inner c.1.2 σ) σ
termination_by sizeOf t
decreasing_by
  · exact sizeOf_lt_of_leading? _h
  · exact Tree.sizeOf_lt_of_mem c.2
  · exact Tree.sizeOf_lt_of_mem c.2

/-- The declarations below a node of an arena. -/
def Ledger.ofRoot (a : Arena) (root : NodeId) : Ledger :=
  declareTree a .top (a.tree root) .empty

/-- The number of bindings. -/
def Ledger.size (σ : Ledger) : Nat :=
  σ.bindings.length

end Binding

end TreeBridge
