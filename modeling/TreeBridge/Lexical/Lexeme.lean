import TreeBridge.Lexical.Token
import TreeBridge.Text.Word
/-!
# Lexemes

How far a token reaches, as a function of the bytes that follow its first
one. `lexeme` names the kind of the token that starts at a byte and counts
the further bytes that belong to it, so every token has at least one byte.
-/

namespace TreeBridge

namespace Byte

/-- The bytes of ASCII punctuation that the lexer tells apart. -/
def slash : UInt8 := 0x2f
def star : UInt8 := 0x2a
def backslash : UInt8 := 0x5c
def doubleQuote : UInt8 := 0x22
def singleQuote : UInt8 := 0x27
def dot : UInt8 := 0x2e

/-- ASCII white space: space, tab, line feed, form feed and carriage
return. -/
def isSpace (b : UInt8) : Bool :=
  b == 0x20 || b == 0x09 || b == 0x0a || b == 0x0c || b == 0x0d

/-- The plus and minus signs. -/
def isSign (b : UInt8) : Bool :=
  b == 0x2b || b == 0x2d

end Byte

namespace Lexical

/-- The reserved words of the language. -/
def keywords : List (List UInt8) :=
  ["abstract", "assert", "boolean", "break", "byte", "case", "catch", "char", "class", "const",
    "continue", "default", "do", "double", "else", "enum", "extends", "false", "final", "finally",
    "float", "for", "goto", "if", "implements", "import", "instanceof", "int", "interface", "long",
    "native", "new", "null", "package", "private", "protected", "public", "return", "short",
    "static", "strictfp", "super", "switch", "synchronized", "this", "throw", "throws",
    "transient", "true", "try", "void", "volatile", "while"].map (fun w => utf8 w.toList)

/-- The operators of more than one byte, longest first. -/
def longOperators : List (List UInt8) :=
  [">>>=", "<<=", ">>=", ">>>", "...", "->", "::", "++", "--", "&&", "||", "==", "!=", "<=",
    ">=", "+=", "-=", "*=", "/=", "&=", "|=", "^=", "%=", "<<", ">>"].map (fun w => utf8 w.toList)

/-- The bytes that start an operator. -/
def operatorStarts : List UInt8 :=
  utf8 "+-*/%=<>!~?:&|^.".toList

/-- The bytes through the next end of a block comment, or all of them. -/
def blockLength : List UInt8 → Nat
  | [] => 0
  | b :: rest =>
    if b == Byte.star && rest.head? == some Byte.slash then 2 else blockLength rest + 1

/-- The bytes through the closing quote of a literal; an open literal
stops before a line break. A backslash takes the byte after it along. -/
def quotedLength (quote : UInt8) : List UInt8 → Nat
  | [] => 0
  | [b] => if Byte.isLineBreak b then 0 else 1
  | b :: c :: rest =>
    if b == Byte.backslash then quotedLength quote rest + 2
    else if Byte.isLineBreak b then 0
    else if b == quote then 1
    else quotedLength quote (c :: rest) + 1

/-- The bytes through the three quotes that close a text block, or all of
them. A backslash takes the byte after it along. -/
def textBlockLength : List UInt8 → Nat
  | [] => 0
  | [_] => 1
  | b :: c :: rest =>
    if b == Byte.backslash then textBlockLength rest + 2
    else if b == Byte.doubleQuote && c == Byte.doubleQuote &&
        rest.head? == some Byte.doubleQuote then 3
    else textBlockLength (c :: rest) + 1

/-- The bytes that continue a number: letters, digits, the underscore and
the dot. -/
def isNumberByte (b : UInt8) : Bool :=
  Byte.isLetter b || Byte.isDigit b || b == 0x5f || b == Byte.dot

/-- The letter before an exponent: `p` in a hexadecimal number, `e` in any
other. -/
def isExponent (hex : Bool) (b : UInt8) : Bool :=
  if hex then b == 0x70 || b == 0x50 else b == 0x65 || b == 0x45

/-- The bytes that continue a number; the sign of an exponent is one of
them. -/
def numberLength (hex : Bool) : List UInt8 → Nat
  | [] => 0
  | [b] => if isNumberByte b then 1 else 0
  | b :: c :: rest =>
    if isExponent hex b && Byte.isSign c then numberLength hex rest + 2
    else if isNumberByte b then numberLength hex (c :: rest) + 1
    else 0

/-- Whether a number that starts with `b` and goes on with `rest` is
hexadecimal. -/
def isHex (b : UInt8) (rest : List UInt8) : Bool :=
  b == 0x30 && (rest.head? == some 0x78 || rest.head? == some 0x58)

/-- The length of the operator at the head of `bytes`. -/
def operatorLength (bytes : List UInt8) : Nat :=
  match longOperators.find? (fun op => op.isPrefixOf bytes) with
  | some op => op.length
  | none => 1

/-- The kind of a one-byte separator. -/
def separator? (b : UInt8) : Option TokenKind :=
  if b == 0x28 then some .leftParen
  else if b == 0x29 then some .rightParen
  else if b == 0x7b then some .leftBrace
  else if b == 0x7d then some .rightBrace
  else if b == 0x5b then some .leftBracket
  else if b == 0x5d then some .rightBracket
  else if b == 0x3b then some .semicolon
  else if b == 0x2c then some .comma
  else if b == 0x40 then some .at
  else none

/-- A block comment is a doc comment when its third byte is a star and
its fourth is no slash. `rest` starts at the second byte. -/
def blockKind (rest : List UInt8) : CommentKind :=
  if rest[1]? == some Byte.star && rest[2]? != some Byte.slash then .doc else .block

/-- **The token that starts at a byte**: its kind, and how many of the
bytes that follow belong to it. -/
def lexeme (b : UInt8) (rest : List UInt8) : TokenKind × Nat :=
  if b == Byte.slash && rest.head? == some Byte.slash then
    (.comment .line, (rest.takeWhile (fun c => !Byte.isLineBreak c)).length)
  else if b == Byte.slash && rest.head? == some Byte.star then
    (.comment (blockKind rest), blockLength (rest.drop 1) + 1)
  else if b == Byte.doubleQuote && [Byte.doubleQuote, Byte.doubleQuote].isPrefixOf rest then
    (.textBlock, textBlockLength (rest.drop 2) + 2)
  else if b == Byte.doubleQuote then (.string, quotedLength Byte.doubleQuote rest)
  else if b == Byte.singleQuote then (.char, quotedLength Byte.singleQuote rest)
  else if Byte.isDigit b then (.number, numberLength (isHex b rest) rest)
  else if b == Byte.dot && (rest.head?).any Byte.isDigit then (.number, numberLength false rest)
  else if b == Byte.dot && !([Byte.dot, Byte.dot].isPrefixOf rest) then (.dot, 0)
  else
    match separator? b with
    | some kind => (kind, 0)
    | none =>
      if Byte.isIdentifier b then
        let tail := rest.takeWhile Byte.isIdentifier
        (if keywords.contains (b :: tail) then .keyword else .identifier, tail.length)
      else if operatorStarts.contains b then (.operator, operatorLength (b :: rest) - 1)
      else (.unknown, 0)

end Lexical

end TreeBridge
