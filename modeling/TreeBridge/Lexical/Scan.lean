import TreeBridge.Lexical.Lexeme
/-!
# Scanning

The tokens of a source, from any offset to its end, and the comments
among them.
-/

namespace TreeBridge

/-- A comment of a source. -/
structure Comment where
  kind : CommentKind
  span : Span
  deriving DecidableEq, Repr

/-- Doc comments document the declaration that follows them. -/
def Comment.isDoc (c : Comment) : Bool :=
  c.kind == .doc

namespace Lexical

/-- The tokens of `bytes`, whose first byte is at offset `start`; the
first `skip` bytes belong to the token before. -/
def tokensFrom (start skip : Nat) : List UInt8 → List Token
  | [] => []
  | b :: rest =>
    match skip with
    | skip + 1 => tokensFrom (start + 1) skip rest
    | 0 =>
      if Byte.isSpace b then tokensFrom (start + 1) 0 rest
      else
        let (kind, further) := lexeme b rest
        ⟨kind, start, start + further + 1⟩ :: tokensFrom (start + 1) further rest

/-- The tokens of a source from an offset on, comments included. A
negative offset counts as the start of the text. -/
def tokens (s : Source) (start : Int) : List Token :=
  let start := min start.toNat s.size
  tokensFrom start 0 (s.bytes.drop start)

/-- The tokens of a source from an offset on, comments left out. -/
def codeTokens (s : Source) (start : Int) : List Token :=
  (tokens s start).filter (fun t => t.kind.comment?.isNone)

/-- The code tokens that start in the window from `start` up to `stop`. -/
def codeTokensBetween (s : Source) (start stop : Int) : List Token :=
  (codeTokens s start).takeWhile (fun t => decide ((t.start : Int) < stop))

/-- The first code token in the window that is spelled `word`. -/
def findToken? (s : Source) (word : String) (start stop : Int) : Option Token :=
  (codeTokensBetween s start stop).find? (fun t => t.spells s (utf8 word.toList))

/-- The comments of a source, in order. -/
def comments (s : Source) : List Comment :=
  (tokens s 0).filterMap (fun t =>
    t.kind.comment?.map (fun kind => ⟨kind, Span.ofBounds t.start t.stop⟩))

end Lexical

end TreeBridge
