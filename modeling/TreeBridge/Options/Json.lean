import TreeBridge.Json.Value
import TreeBridge.Options.Table
/-!
# Options as a JSON document

Options are written as one object of texts, in their order. Reading
accepts any object whose values are all texts; of a key that occurs twice
the last value counts.
-/

namespace TreeBridge

namespace Options

/-- The tokens of a document of texts. -/
inductive JsonToken
  | leftBrace
  | rightBrace
  | colon
  | comma
  | text (value : String)
  deriving DecidableEq, Repr

/-- Where the reading of tokens stands: between tokens, or inside a text,
with the characters of it so far, the last one first, and whether the
last one was a backslash that escapes the next. -/
inductive JsonMode
  | between
  | inside (body : List Char) (escaping : Bool)

/-- The white space of the format. -/
def isJsonSpace (c : Char) : Bool :=
  c == ' ' || c == '\t' || c == '\n' || c == '\r'

/-- The token that a character is. -/
def jsonToken? (c : Char) : Option JsonToken :=
  match c with
  | '\x7b' => some .leftBrace
  | '\x7d' => some .rightBrace
  | ':' => some .colon
  | ',' => some .comma
  | _ => none

/-- The tokens of a document; `none` where something else stands. -/
def jsonTokens? : JsonMode → List Char → Option (List JsonToken)
  | .between, [] => some []
  | .inside _ _, [] => none
  | .between, c :: rest =>
    if isJsonSpace c then jsonTokens? .between rest
    else if c = '"' then jsonTokens? (.inside [] false) rest
    else
      match jsonToken? c, jsonTokens? .between rest with
      | some token, some tokens => some (token :: tokens)
      | _, _ => none
  | .inside body true, c :: rest => jsonTokens? (.inside (c :: body) false) rest
  | .inside body false, c :: rest =>
    if c = '"' then
      match Json.unquoted? body.reverse, jsonTokens? .between rest with
      | some text, some tokens => some (.text text :: tokens)
      | _, _ => none
    else jsonTokens? (.inside (c :: body) (c == '\\')) rest

/-- The pairs after the first one of an object. -/
def morePairs? : List JsonToken → Option (List (String × String))
  | [.rightBrace] => some []
  | .comma :: .text key :: .colon :: .text value :: rest =>
    (morePairs? rest).map ((key, value) :: ·)
  | _ => none

/-- The pairs of an object. -/
def pairs? : List JsonToken → Option (List (String × String))
  | [.leftBrace, .rightBrace] => some []
  | .leftBrace :: .text key :: .colon :: .text value :: rest =>
    (morePairs? rest).map ((key, value) :: ·)
  | _ => none

/-- **Reads options from a document.** -/
def ofJson? (text : String) : Option Options :=
  ((jsonTokens? .between text.toList).bind pairs?).map ofPairs

/-- Options as a document. -/
def toJson (o : Options) : Json :=
  .object (o.entries.map (fun e => (e.1, .text e.2)))

end Options

end TreeBridge
