/-!
# Tags of foreign trees

A tag names the form of a foreign tree; a tree of an operator has the
operator itself as its tag. Beside the tags stand the small vocabularies
that foreign trees carry: primitive and literal types, the kinds of
classes, of wildcard bounds and of method references.
-/

namespace TreeBridge

namespace Foreign

/-- The forms of foreign trees, with the unary, binary and assigning
operators among them. -/
inductive Tag
  | unit
  | package
  | importing
  | classDef
  | methodDef
  | varDef
  | skip
  | block
  | doLoop
  | whileLoop
  | forLoop
  | foreachLoop
  | labelled
  | switch
  | switchCase
  | switchExpression
  | synchronized
  | tryBlock
  | catcher
  | conditional
  | branch
  | execute
  | breakTo
  | yieldValue
  | continueTo
  | returnValue
  | throwing
  | assertion
  | call
  | newClass
  | newArray
  | lambda
  | parens
  | assign
  | typeCast
  | typeTest
  | bindingPattern
  | recordPattern
  | anyPattern
  | indexed
  | select
  | reference
  | ident
  | literal
  | typeIdent
  | typeArray
  | typeApply
  | typeUnion
  | typeIntersection
  | typeParameter
  | wildcard
  | annotationUse
  | annotatedType
  | erroneous
  | unaryPlus
  | unaryMinus
  | logicalNot
  | complement
  | preIncrement
  | preDecrement
  | postIncrement
  | postDecrement
  | logicalOr
  | logicalAnd
  | bitOr
  | bitXor
  | bitAnd
  | equal
  | notEqual
  | less
  | greater
  | lessEqual
  | greaterEqual
  | shiftLeft
  | shiftRight
  | shiftRightUnsigned
  | add
  | subtract
  | multiply
  | divide
  | remainder
  | assignBitOr
  | assignBitXor
  | assignBitAnd
  | assignShiftLeft
  | assignShiftRight
  | assignShiftRightUnsigned
  | assignAdd
  | assignSubtract
  | assignMultiply
  | assignDivide
  | assignRemainder
  deriving DecidableEq, Repr

/-- The name of a tag. -/
def Tag.name : Tag → String
  | unit => "TopLevel"
  | package => "PackageDef"
  | importing => "Import"
  | classDef => "ClassDef"
  | methodDef => "MethodDef"
  | varDef => "VarDef"
  | skip => "Skip"
  | block => "Block"
  | doLoop => "DoLoop"
  | whileLoop => "WhileLoop"
  | forLoop => "ForLoop"
  | foreachLoop => "ForeachLoop"
  | labelled => "Labelled"
  | switch => "Switch"
  | switchCase => "Case"
  | switchExpression => "SwitchExpression"
  | synchronized => "Synchronized"
  | tryBlock => "Try"
  | catcher => "Catch"
  | conditional => "Conditional"
  | branch => "If"
  | execute => "Exec"
  | breakTo => "Break"
  | yieldValue => "Yield"
  | continueTo => "Continue"
  | returnValue => "Return"
  | throwing => "Throw"
  | assertion => "Assert"
  | call => "Apply"
  | newClass => "NewClass"
  | newArray => "NewArray"
  | lambda => "Lambda"
  | parens => "Parens"
  | assign => "Assign"
  | typeCast => "TypeCast"
  | typeTest => "TypeTest"
  | bindingPattern => "BindingPattern"
  | recordPattern => "RecordPattern"
  | anyPattern => "AnyPattern"
  | indexed => "Indexed"
  | select => "Select"
  | reference => "Reference"
  | ident => "Ident"
  | literal => "Literal"
  | typeIdent => "TypeIdent"
  | typeArray => "TypeArray"
  | typeApply => "TypeApply"
  | typeUnion => "TypeUnion"
  | typeIntersection => "TypeIntersection"
  | typeParameter => "TypeParameter"
  | wildcard => "Wildcard"
  | annotationUse => "Annotation"
  | annotatedType => "AnnotatedType"
  | erroneous => "Erroneous"
  | unaryPlus => "Pos"
  | unaryMinus => "Neg"
  | logicalNot => "Not"
  | complement => "Compl"
  | preIncrement => "PreInc"
  | preDecrement => "PreDec"
  | postIncrement => "PostInc"
  | postDecrement => "PostDec"
  | logicalOr => "Or"
  | logicalAnd => "And"
  | bitOr => "BitOr"
  | bitXor => "BitXor"
  | bitAnd => "BitAnd"
  | equal => "Eq"
  | notEqual => "Ne"
  | less => "Lt"
  | greater => "Gt"
  | lessEqual => "Le"
  | greaterEqual => "Ge"
  | shiftLeft => "Sl"
  | shiftRight => "Sr"
  | shiftRightUnsigned => "Usr"
  | add => "Plus"
  | subtract => "Minus"
  | multiply => "Mul"
  | divide => "Div"
  | remainder => "Mod"
  | assignBitOr => "BitOrAsg"
  | assignBitXor => "BitXorAsg"
  | assignBitAnd => "BitAndAsg"
  | assignShiftLeft => "SlAsg"
  | assignShiftRight => "SrAsg"
  | assignShiftRightUnsigned => "UsrAsg"
  | assignAdd => "PlusAsg"
  | assignSubtract => "MinusAsg"
  | assignMultiply => "MulAsg"
  | assignDivide => "DivAsg"
  | assignRemainder => "ModAsg"

/-- All tags. -/
def Tag.all : List Tag :=
  [.unit, .package, .importing, .classDef, .methodDef, .varDef, .skip, .block, .doLoop,
    .whileLoop, .forLoop, .foreachLoop, .labelled, .switch, .switchCase, .switchExpression,
    .synchronized, .tryBlock, .catcher, .conditional, .branch, .execute, .breakTo, .yieldValue,
    .continueTo, .returnValue, .throwing, .assertion, .call, .newClass, .newArray, .lambda,
    .parens, .assign, .typeCast, .typeTest, .bindingPattern, .recordPattern, .anyPattern,
    .indexed, .select, .reference, .ident, .literal, .typeIdent, .typeArray, .typeApply,
    .typeUnion, .typeIntersection, .typeParameter, .wildcard, .annotationUse, .annotatedType,
    .erroneous, .unaryPlus, .unaryMinus, .logicalNot, .complement, .preIncrement,
    .preDecrement, .postIncrement, .postDecrement, .logicalOr, .logicalAnd, .bitOr, .bitXor,
    .bitAnd, .equal, .notEqual, .less, .greater, .lessEqual, .greaterEqual, .shiftLeft,
    .shiftRight, .shiftRightUnsigned, .add, .subtract, .multiply, .divide, .remainder,
    .assignBitOr, .assignBitXor, .assignBitAnd, .assignShiftLeft, .assignShiftRight,
    .assignShiftRightUnsigned, .assignAdd, .assignSubtract, .assignMultiply, .assignDivide,
    .assignRemainder]

/-- The tag of a binary operator. -/
def Tag.binary? (text : String) : Option Tag :=
  match text with
  | "||" => some .logicalOr
  | "&&" => some .logicalAnd
  | "|" => some .bitOr
  | "^" => some .bitXor
  | "&" => some .bitAnd
  | "==" => some .equal
  | "!=" => some .notEqual
  | "<" => some .less
  | ">" => some .greater
  | "<=" => some .lessEqual
  | ">=" => some .greaterEqual
  | "<<" => some .shiftLeft
  | ">>" => some .shiftRight
  | ">>>" => some .shiftRightUnsigned
  | "+" => some .add
  | "-" => some .subtract
  | "*" => some .multiply
  | "/" => some .divide
  | "%" => some .remainder
  | _ => none

/-- The tag of an operator that combines with an assignment. -/
def Tag.assignment? (text : String) : Option Tag :=
  match text with
  | "|=" => some .assignBitOr
  | "^=" => some .assignBitXor
  | "&=" => some .assignBitAnd
  | "<<=" => some .assignShiftLeft
  | ">>=" => some .assignShiftRight
  | ">>>=" => some .assignShiftRightUnsigned
  | "+=" => some .assignAdd
  | "-=" => some .assignSubtract
  | "*=" => some .assignMultiply
  | "/=" => some .assignDivide
  | "%=" => some .assignRemainder
  | _ => none

/-- The types of primitive values, of `void`, and of the literals that
are references. -/
inductive TypeTag
  | byte
  | char
  | short
  | int
  | long
  | float
  | double
  | boolean
  | void
  | reference
  | nullReference
  deriving DecidableEq, Repr

/-- The name of a type tag. -/
def TypeTag.name : TypeTag → String
  | byte => "Byte"
  | char => "Char"
  | short => "Short"
  | int => "Int"
  | long => "Long"
  | float => "Float"
  | double => "Double"
  | boolean => "Boolean"
  | void => "Void"
  | reference => "Class"
  | nullReference => "Bot"

/-- All type tags. -/
def TypeTag.all : List TypeTag :=
  [.byte, .char, .short, .int, .long, .float, .double, .boolean, .void, .reference,
    .nullReference]

/-- The type that a keyword spells. -/
def TypeTag.ofKeyword? (text : String) : Option TypeTag :=
  match text with
  | "byte" => some .byte
  | "char" => some .char
  | "short" => some .short
  | "int" => some .int
  | "long" => some .long
  | "float" => some .float
  | "double" => some .double
  | "boolean" => some .boolean
  | "void" => some .void
  | _ => none

/-- The kinds of classes. -/
inductive ClassKind
  | classType
  | interfaceType
  | enumType
  | recordType
  | annotationType
  deriving DecidableEq, Repr

/-- The bounds of a wildcard. -/
inductive BoundKind
  | unbound
  | upper
  | lower
  deriving DecidableEq, Repr

/-- Whether a method reference names a method or a constructor. -/
inductive ReferenceMode
  | invoke
  | create
  deriving DecidableEq, Repr

end Foreign

end TreeBridge
