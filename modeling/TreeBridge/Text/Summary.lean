import TreeBridge.Text.Hidden
/-!
# Text in summaries

The quoted form of a text in a one-line summary: quotes, backslashes and
characters without an image are escaped.
-/

namespace TreeBridge

namespace Text

/-- The form of one character in a summary. -/
def summaryForm (c : Char) : List Char :=
  if c = '"' then ['\\', '"']
  else if c = '\\' then ['\\', '\\']
  else if c.toNat = 0x00 then ['\\', '0']
  else if c.toNat = 0x09 then ['\\', 't']
  else if c.toNat = 0x0a then ['\\', 'n']
  else if c.toNat = 0x0d then ['\\', 'r']
  else if isHidden c then '\\' :: 'u' :: '\x7b' :: Nat.toDigits 16 c.toNat ++ ['\x7d']
  else [c]

/-- The quoted form of a text in a summary. -/
def inSummary (text : String) : String :=
  String.ofList ('"' :: text.toList.flatMap summaryForm ++ ['"'])

end Text

end TreeBridge
