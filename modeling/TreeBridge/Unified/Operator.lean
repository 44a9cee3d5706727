/-!
# Operators and keywords

The operators, modifier keywords and primitive types that a node of the
unified tree carries, each with its name and its spelling in source.
-/

namespace TreeBridge

namespace Unified

/-- The operators between two or more operands. -/
inductive InfixOperator
  | times
  | divide
  | remainder
  | plus
  | minus
  | leftShift
  | rightShiftSigned
  | rightShiftUnsigned
  | less
  | greater
  | lessEquals
  | greaterEquals
  | equals
  | notEquals
  | xor
  | and
  | or
  | conditionalAnd
  | conditionalOr
  deriving DecidableEq, Repr

/-- The name of an operator. -/
def InfixOperator.name : InfixOperator → String
  | times => "Times"
  | divide => "Divide"
  | remainder => "Remainder"
  | plus => "Plus"
  | minus => "Minus"
  | leftShift => "LeftShift"
  | rightShiftSigned => "RightShiftSigned"
  | rightShiftUnsigned => "RightShiftUnsigned"
  | less => "Less"
  | greater => "Greater"
  | lessEquals => "LessEquals"
  | greaterEquals => "GreaterEquals"
  | equals => "Equals"
  | notEquals => "NotEquals"
  | xor => "Xor"
  | and => "And"
  | or => "Or"
  | conditionalAnd => "ConditionalAnd"
  | conditionalOr => "ConditionalOr"

/-- The spelling of an operator. -/
def InfixOperator.symbol : InfixOperator → String
  | times => "*"
  | divide => "/"
  | remainder => "%"
  | plus => "+"
  | minus => "-"
  | leftShift => "<<"
  | rightShiftSigned => ">>"
  | rightShiftUnsigned => ">>>"
  | less => "<"
  | greater => ">"
  | lessEquals => "<="
  | greaterEquals => ">="
  | equals => "=="
  | notEquals => "!="
  | xor => "^"
  | and => "&"
  | or => "|"
  | conditionalAnd => "&&"
  | conditionalOr => "||"

/-- All infix operators. -/
def InfixOperator.all : List InfixOperator :=
  [.times, .divide, .remainder, .plus, .minus, .leftShift, .rightShiftSigned,
    .rightShiftUnsigned, .less, .greater, .lessEquals, .greaterEquals, .equals, .notEquals, .xor,
    .and, .or, .conditionalAnd, .conditionalOr]

/-- The operators before their operand. -/
inductive PrefixOperator
  | increment
  | decrement
  | plus
  | minus
  | complement
  | not
  deriving DecidableEq, Repr

/-- The name of an operator. -/
def PrefixOperator.name : PrefixOperator → String
  | increment => "Increment"
  | decrement => "Decrement"
  | plus => "Plus"
  | minus => "Minus"
  | complement => "Complement"
  | not => "Not"

/-- The spelling of an operator. -/
def PrefixOperator.symbol : PrefixOperator → String
  | increment => "++"
  | decrement => "--"
  | plus => "+"
  | minus => "-"
  | complement => "~"
  | not => "!"

/-- All prefix operators. -/
def PrefixOperator.all : List PrefixOperator :=
  [.increment, .decrement, .plus, .minus, .complement, .not]

/-- The operators after their operand. -/
inductive PostfixOperator
  | increment
  | decrement
  deriving DecidableEq, Repr

/-- The name of an operator. -/
def PostfixOperator.name : PostfixOperator → String
  | increment => "Increment"
  | decrement => "Decrement"

/-- The spelling of an operator. -/
def PostfixOperator.symbol : PostfixOperator → String
  | increment => "++"
  | decrement => "--"

/-- All postfix operators. -/
def PostfixOperator.all : List PostfixOperator :=
  [.increment, .decrement]

/-- The operators of assignments. -/
inductive AssignmentOperator
  | assign
  | plusAssign
  | minusAssign
  | timesAssign
  | divideAssign
  | remainderAssign
  | bitAndAssign
  | bitOrAssign
  | bitXorAssign
  | leftShiftAssign
  | rightShiftSignedAssign
  | rightShiftUnsignedAssign
  deriving DecidableEq, Repr

/-- The name of an operator. -/
def AssignmentOperator.name : AssignmentOperator → String
  | assign => "Assign"
  | plusAssign => "PlusAssign"
  | minusAssign => "MinusAssign"
  | timesAssign => "TimesAssign"
  | divideAssign => "DivideAssign"
  | remainderAssign => "RemainderAssign"
  | bitAndAssign => "BitAndAssign"
  | bitOrAssign => "BitOrAssign"
  | bitXorAssign => "BitXorAssign"
  | leftShiftAssign => "LeftShiftAssign"
  | rightShiftSignedAssign => "RightShiftSignedAssign"
  | rightShiftUnsignedAssign => "RightShiftUnsignedAssign"

/-- The spelling of an operator. -/
def AssignmentOperator.symbol : AssignmentOperator → String
  | assign => "="
  | plusAssign => "+="
  | minusAssign => "-="
  | timesAssign => "*="
  | divideAssign => "/="
  | remainderAssign => "%="
  | bitAndAssign => "&="
  | bitOrAssign => "|="
  | bitXorAssign => "^="
  | leftShiftAssign => "<<="
  | rightShiftSignedAssign => ">>="
  | rightShiftUnsignedAssign => ">>>="

/-- All assignment operators. -/
def AssignmentOperator.all : List AssignmentOperator :=
  [.assign, .plusAssign, .minusAssign, .timesAssign, .divideAssign, .remainderAssign,
    .bitAndAssign, .bitOrAssign, .bitXorAssign, .leftShiftAssign, .rightShiftSignedAssign,
    .rightShiftUnsignedAssign]

/-- The primitive types, `void` among them. -/
inductive PrimitiveCode
  | byte
  | short
  | char
  | int
  | long
  | float
  | double
  | boolean
  | void
  deriving DecidableEq, Repr

/-- The name of a primitive type. -/
def PrimitiveCode.name : PrimitiveCode → String
  | byte => "Byte"
  | short => "Short"
  | char => "Char"
  | int => "Int"
  | long => "Long"
  | float => "Float"
  | double => "Double"
  | boolean => "Boolean"
  | void => "Void"

/-- The keyword of a primitive type. -/
def PrimitiveCode.keyword : PrimitiveCode → String
  | byte => "byte"
  | short => "short"
  | char => "char"
  | int => "int"
  | long => "long"
  | float => "float"
  | double => "double"
  | boolean => "boolean"
  | void => "void"

/-- All primitive types. -/
def PrimitiveCode.all : List PrimitiveCode :=
  [.byte, .short, .char, .int, .long, .float, .double, .boolean, .void]

/-- The modifier keywords. -/
inductive Keyword
  | publicAccess
  | protectedAccess
  | privateAccess
  | static
  | abstract
  | final
  | native
  | synchronized
  | transient
  | volatile
  | strictfp
  | default
  | sealed
  | nonSealed
  deriving DecidableEq, Repr

/-- The name of a modifier keyword. -/
def Keyword.name : Keyword → String
  | publicAccess => "Public"
  | protectedAccess => "Protected"
  | privateAccess => "Private"
  | static => "Static"
  | abstract => "Abstract"
  | final => "Final"
  | native => "Native"
  | synchronized => "Synchronized"
  | transient => "Transient"
  | volatile => "Volatile"
  | strictfp => "Strictfp"
  | default => "Default"
  | sealed => "Sealed"
  | nonSealed => "NonSealed"

/-- The spelling of a modifier keyword. -/
def Keyword.text : Keyword → String
  | publicAccess => "public"
  | protectedAccess => "protected"
  | privateAccess => "private"
  | static => "static"
  | abstract => "abstract"
  | final => "final"
  | native => "native"
  | synchronized => "synchronized"
  | transient => "transient"
  | volatile => "volatile"
  | strictfp => "strictfp"
  | default => "default"
  | sealed => "sealed"
  | nonSealed => "non-sealed"

/-- The bit of a keyword in a word of modifier flags. -/
def Keyword.flag : Keyword → UInt32
  | publicAccess => 0x0001
  | privateAccess => 0x0002
  | protectedAccess => 0x0004
  | static => 0x0008
  | final => 0x0010
  | synchronized => 0x0020
  | volatile => 0x0040
  | transient => 0x0080
  | native => 0x0100
  | sealed => 0x0200
  | abstract => 0x0400
  | strictfp => 0x0800
  | nonSealed => 0x1000
  | default => 0x10000

/-- Every modifier keyword, in the order in which they are customarily
written. -/
def Keyword.all : List Keyword :=
  [.publicAccess, .protectedAccess, .privateAccess, .abstract, .default, .static, .sealed,
    .nonSealed, .final, .transient, .volatile, .synchronized, .native, .strictfp]

/-- The keyword with a spelling. -/
def Keyword.ofText? (text : String) : Option Keyword :=
  all.find? (fun k => k.text == text)

end Unified

end TreeBridge
