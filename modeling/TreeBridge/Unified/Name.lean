import TreeBridge.Unified.Tree
/-!
# Names and erased types

The dotted text of a name, the erased name of a class type and the erased
signature of any type.
-/

namespace TreeBridge

namespace Unified

namespace Tree

/-- The dotted text of a simple or qualified name. -/
def nameText? (t : Tree) : Option String :=
  match t.kind with
  | .simpleName identifier => some identifier
  | .qualifiedName =>
    match _hq : t.child? .qualifier, _hn : t.child? .name with
    | some qualifier, some name =>
      match nameText? qualifier, nameText? name with
      | some q, some n => some (q ++ "." ++ n)
      | _, _ => none
    | _, _ => none
  | _ => none
termination_by sizeOf t
decreasing_by
  · exact sizeOf_lt_of_child? _hq
  · exact sizeOf_lt_of_child? _hn

/-- The dotted name of a class type, type arguments dropped. -/
def typeName? (t : Tree) : Option String :=
  match t.kind with
  | .simpleType => (t.child? .name).bind nameText?
  | .qualifiedType =>
    match _hq : t.child? .qualifier with
    | some qualifier =>
      match typeName? qualifier, (t.child? .name).bind identifier? with
      | some q, some n => some (q ++ "." ++ n)
      | _, _ => none
    | none => none
  | .parameterizedType =>
    match _ht : t.child? .type with
    | some base => typeName? base
    | none => none
  | _ => none
termination_by sizeOf t
decreasing_by
  · exact sizeOf_lt_of_child? _hq
  · exact sizeOf_lt_of_child? _ht

end Tree

/-- The letter of a primitive type in signatures. -/
def PrimitiveCode.letter : PrimitiveCode → String
  | byte => "B"
  | short => "S"
  | char => "C"
  | int => "I"
  | long => "J"
  | float => "F"
  | double => "D"
  | boolean => "Z"
  | void => "V"

/-- As many opening brackets as an array type has dimensions. -/
def brackets (count : Nat) : String :=
  String.ofList (List.replicate count '[')

namespace Tree

/-- The erased signature of a type. A type without a dotted name erases
to the root class. -/
def signature (t : Tree) : String :=
  match t.kind with
  | .primitiveType code => code.letter
  | .arrayType =>
    brackets (max (t.list .dimensions).length 1) ++
      match _he : t.child? .elementType with
      | some element => signature element
      | none => ""
  | .parameterizedType =>
    match _ht : t.child? .type with
    | some base => signature base
    | none => ""
  | _ =>
    match typeName? t with
    | some name => "Q" ++ name ++ ";"
    | none => "Qjava.lang.Object;"
termination_by sizeOf t
decreasing_by
  · exact sizeOf_lt_of_child? _he
  · exact sizeOf_lt_of_child? _ht

end Tree

end Unified

end TreeBridge
