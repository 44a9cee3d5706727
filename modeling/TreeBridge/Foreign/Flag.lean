/-!
# Flags of foreign declarations

A foreign declaration keeps its modifiers as one word of flags. Fourteen
flags are spelled by keywords; the others say what form the declaration
has.
-/

namespace TreeBridge

namespace Foreign

namespace Flag

def publicAccess : UInt64 := 0x1
def privateAccess : UInt64 := 0x2
def protectedAccess : UInt64 := 0x4
def static : UInt64 := 0x8
def final : UInt64 := 0x10
def synchronized : UInt64 := 0x20
def volatile : UInt64 := 0x40
def transient : UInt64 := 0x80
def native : UInt64 := 0x100
def interfaceType : UInt64 := 0x200
def abstract : UInt64 := 0x400
def strictfp : UInt64 := 0x800
def annotationType : UInt64 := 0x2000
def enumType : UInt64 := 0x4000
def varargs : UInt64 := 0x400000000
def generatedConstructor : UInt64 := 0x1000000000
def default : UInt64 := 0x80000000000
def sealed : UInt64 := 0x1000000000000
def nonSealed : UInt64 := 0x2000000000000
def compactConstructor : UInt64 := 0x8000000000000
def recordType : UInt64 := 0x2000000000000000

/-- The flags that a keyword spells, in the order in which the keywords
are customarily written. -/
def keywords : List (UInt64 × String) :=
  [(publicAccess, "public"), (protectedAccess, "protected"), (privateAccess, "private"),
    (abstract, "abstract"), (default, "default"), (static, "static"), (sealed, "sealed"),
    (nonSealed, "non-sealed"), (final, "final"), (transient, "transient"),
    (volatile, "volatile"), (synchronized, "synchronized"), (native, "native"),
    (strictfp, "strictfp")]

/-- The flag that a keyword spells. -/
def ofKeyword? (text : String) : Option UInt64 :=
  (keywords.find? (fun k => k.2 == text)).map (·.1)

/-- The three flags of access. -/
def access : UInt64 :=
  publicAccess ||| protectedAccess ||| privateAccess

/-- Whether a word has a flag set. -/
def isIn (flag word : UInt64) : Bool :=
  word &&& flag != 0

/-- The keywords of the flags set in a word. -/
def keywordsIn (word : UInt64) : List String :=
  (keywords.filter (fun k => isIn k.1 word)).map (·.2)

end Flag

end Foreign

end TreeBridge
