import TreeBridge.Unified.Name
/-!
# The view from before generics

Clients of the oldest API level see modifiers as one word of flags and
supertypes as plain names. These are readings of the same tree.
-/

namespace TreeBridge

namespace Unified

/-- The flag of a modifier keyword; annotations have none. -/
def NodeKind.modifierFlag : NodeKind → UInt32
  | .modifier keyword => keyword.flag
  | _ => 0

namespace Tree

/-- The flags of the modifier keywords of a declaration. -/
def modifierFlags (t : Tree) : UInt32 :=
  (t.list .modifiers).foldl (fun word m => word ||| m.kind.modifierFlag) 0

/-- The name of the superclass of a type. -/
def superclassName? (t : Tree) : Option String :=
  (t.child? .superclassType).bind typeName?

/-- The names of the interfaces of a type; one without a name is left
out. -/
def superInterfaceNames (t : Tree) : List String :=
  (t.list .superInterfaceTypes).filterMap typeName?

/-- The return type of a method; a constructor has none. -/
def returnType? (t : Tree) : Option NodeId :=
  match t.kind with
  | .methodDeclaration false _ => (t.child? .returnType).map id
  | _ => none

end Tree

end Unified

end TreeBridge
