import TreeBridge.Text.Source
/-!
# Tokens

The kinds of tokens of a Java source, and a token as a kind with the
offsets of its first byte and of the byte past its last.
-/

namespace TreeBridge

/-- The three kinds of comments. -/
inductive CommentKind
  | line
  | block
  | doc
  deriving DecidableEq, Repr

namespace Lexical

/-- The kinds of tokens. -/
inductive TokenKind
  | identifier
  | keyword
  | number
  | string
  | textBlock
  | char
  | operator
  | leftParen
  | rightParen
  | leftBrace
  | rightBrace
  | leftBracket
  | rightBracket
  | semicolon
  | comma
  | dot
  | at
  | comment (kind : CommentKind)
  | unknown
  deriving DecidableEq, Repr

/-- Parentheses, braces and square brackets. -/
def TokenKind.isBracket : TokenKind → Bool
  | leftParen | rightParen | leftBrace | rightBrace | leftBracket | rightBracket => true
  | _ => false

/-- The kind of comment a token is, if it is one. -/
def TokenKind.comment? : TokenKind → Option CommentKind
  | comment kind => some kind
  | _ => none

/-- A token of a source. -/
structure Token where
  kind : TokenKind
  start : Nat
  stop : Nat
  deriving DecidableEq, Repr

/-- The text of a token, empty when a bound is no character boundary. -/
def Token.text (t : Token) (s : Source) : String :=
  (s.slice? t.start t.stop).getD ""

/-- Whether a token is spelled by the given bytes. -/
def Token.spells (t : Token) (s : Source) (word : List UInt8) : Bool :=
  s.bytesBetween t.start t.stop == word

end Lexical

end TreeBridge
