import TreeBridge.Binding.Declaration
/-!
# References to declarations

A simple name refers to the nearest declaration of its identifier in the
scopes around it. The name of a call refers to a method, any other name
to a variable or a type; in a block and in a switch only declarations
before the name count.
-/

namespace TreeBridge

namespace Binding

open Unified (NodeId NodeKind Arena Tree)

/-- The declarations that a child brings into the scope it stands in. -/
def introduced (a : Arena) (child : NodeId) : List NodeId :=
  match a.kind child with
  | .fieldDeclaration | .variableDeclarationStatement | .variableDeclarationExpression =>
    a.list child .fragments
  | .typeDeclarationStatement => (a.child? child .declaration).toList
  | .singleVariableDeclaration _ _ | .variableDeclarationFragment _ => [child]
  | kind => if kind.isBodyDeclaration then [child] else []

/-- The declarations that a scope introduces, in order. -/
def declaredIn (a : Arena) (scope : NodeId) : List NodeId :=
  (a.children scope).flatMap (introduced a)

/-- Whether only the declarations before a name count in a scope. -/
def isOrdered : NodeKind → Bool
  | .block | .switchStatement | .switchExpression => true
  | _ => false

/-- Whether a node is the name of a call. -/
def isInvoked (a : Arena) (name : NodeId) : Bool :=
  match a.parent name with
  | none => false
  | some parent =>
    (a.kind parent == .methodInvocation || a.kind parent == .superMethodInvocation) &&
      a.location? name == some .name

/-- The identifier of the name of a declaration. -/
def nameOf? (a : Arena) (declaration : NodeId) : Option String :=
  (a.child? declaration .name).bind a.identifier?

/-- Whether a name in a certain role can refer to a kind of binding. -/
def suits (invoked : Bool) : BindingKind → Bool
  | .method => invoked
  | .var | .type => !invoked
  | .package => false

/-- The key of a candidate, if the name of an identifier at an offset
refers to it. -/
def matched? (σ : Ledger) (a : Arena) (identifier : String) (invoked : Bool) (offset : Int)
    (scope candidate : NodeId) : Option String :=
  match σ.key? candidate with
  | none => none
  | some key =>
    if (σ.binding? key).any (fun b => suits invoked b.kind) &&
        (!isOrdered (a.kind scope) || decide ((a.span candidate).start < offset)) &&
        nameOf? a candidate == some identifier then
      some key
    else none

/-- Whether a scope is a type with an identifier as its name. -/
def namesItself (a : Arena) (identifier : String) (invoked : Bool) (scope : NodeId) : Bool :=
  (a.kind scope).isTypeDeclaration && !invoked && nameOf? a scope == some identifier

/-- The key that a search through scopes finds, the nearest scope first.
The search ends at a type that has the identifier itself. -/
def search? (σ : Ledger) (a : Arena) (identifier : String) (invoked : Bool) (offset : Int) :
    List NodeId → Option String
  | [] => none
  | scope :: scopes =>
    match (declaredIn a scope).findSome? (matched? σ a identifier invoked offset scope) with
    | some key => some key
    | none =>
      if namesItself a identifier invoked scope then σ.key? scope
      else search? σ a identifier invoked offset scopes

/-- The key that a simple name refers to. -/
def reference? (σ : Ledger) (a : Arena) (name : NodeId) (identifier : String) :
    Option String :=
  search? σ a identifier (isInvoked a name) (a.span name).start (a.ancestors name)

/-- The key of the binding of a tree: that of its own declaration, or the
one that its name refers to. -/
def keyOf? (σ : Ledger) (a : Arena) (t : Tree) : Option String :=
  match σ.key? t.id with
  | some key => some key
  | none =>
    match t.kind with
    | .simpleName identifier => reference? σ a t.id identifier
    | .simpleType | .methodInvocation =>
      match _h : t.child? .name with
      | some name => keyOf? σ a name
      | none => none
    | _ => none
termination_by sizeOf t
decreasing_by exact Tree.sizeOf_lt_of_child? _h

/-- **The key of the binding of a node.** -/
def Ledger.resolve? (σ : Ledger) (a : Arena) (id : NodeId) : Option String :=
  keyOf? σ a (a.tree id)

end Binding

end TreeBridge
