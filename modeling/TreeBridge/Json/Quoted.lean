/-!
# Quoted text

The quoted form of a text in a JSON document. Writing escapes quotes,
backslashes and control characters; reading accepts every escape of the
format, and two escapes for the halves of one character beyond the first
plane.
-/

namespace TreeBridge

namespace Json

/-! ## Writing -/

/-- A hexadecimal digit in lower case. -/
def hexDigit (n : Nat) : Char :=
  if n < 10 then Char.ofNat (0x30 + n) else Char.ofNat (0x57 + n)

/-- The written form of one character. -/
def escaped (c : Char) : List Char :=
  if c = '"' then ['\\', '"']
  else if c = '\\' then ['\\', '\\']
  else if c.toNat = 0x08 then ['\\', 'b']
  else if c.toNat = 0x09 then ['\\', 't']
  else if c.toNat = 0x0a then ['\\', 'n']
  else if c.toNat = 0x0c then ['\\', 'f']
  else if c.toNat = 0x0d then ['\\', 'r']
  else if c.toNat < 0x20 then
    ['\\', 'u', '0', '0', hexDigit (c.toNat / 16), hexDigit (c.toNat % 16)]
  else [c]

/-- The quoted form of a text. -/
def quote (text : String) : String :=
  String.ofList ('"' :: text.toList.flatMap escaped ++ ['"'])

/-! ## Reading -/

/-- A part of a quoted text: a character, or a 16-bit unit from an
escape. -/
inductive Piece
  | char (c : Char)
  | unit (n : Nat)
  deriving DecidableEq, Repr

/-- The value of a hexadecimal digit. -/
def hexValue? (c : Char) : Option Nat :=
  if '0' ≤ c ∧ c ≤ '9' then some (c.toNat - 0x30)
  else if 'a' ≤ c ∧ c ≤ 'f' then some (c.toNat - 0x57)
  else if 'A' ≤ c ∧ c ≤ 'F' then some (c.toNat - 0x37)
  else none

/-- The unit that four hexadecimal digits spell. -/
def unitOf? (a b c d : Char) : Option Nat := do
  let high := (← hexValue? a) * 16 + (← hexValue? b)
  let low := (← hexValue? c) * 16 + (← hexValue? d)
  pure (high * 256 + low)

/-- The character that a letter after a backslash stands for. -/
def unescaped? : Char → Option Char
  | '"' => some '"'
  | '\\' => some '\\'
  | '/' => some '/'
  | 'b' => some (Char.ofNat 0x08)
  | 'f' => some (Char.ofNat 0x0c)
  | 'n' => some (Char.ofNat 0x0a)
  | 'r' => some (Char.ofNat 0x0d)
  | 't' => some (Char.ofNat 0x09)
  | _ => none

/-- The parts of the text between two quotes. A control character must be
escaped. -/
def pieces? : List Char → Option (List Piece)
  | [] => some []
  | '\\' :: 'u' :: a :: b :: c :: d :: rest =>
    match unitOf? a b c d, pieces? rest with
    | some n, some ps => some (.unit n :: ps)
    | _, _ => none
  | '\\' :: c :: rest =>
    match unescaped? c, pieces? rest with
    | some c, some ps => some (.char c :: ps)
    | _, _ => none
  | c :: rest =>
    if c = '\\' ∨ c.toNat < 0x20 then none
    else (pieces? rest).map (.char c :: ·)

/-- The first half of a character beyond the first plane. -/
def isHighHalf (n : Nat) : Bool :=
  0xd800 ≤ n && n < 0xdc00

/-- The second half of a character beyond the first plane. -/
def isLowHalf (n : Nat) : Bool :=
  0xdc00 ≤ n && n < 0xe000

/-- Joins parts to characters; a half without the other is malformed. -/
def joined? : List Piece → Option (List Char)
  | [] => some []
  | .char c :: rest => (joined? rest).map (c :: ·)
  | .unit high :: .unit low :: rest =>
    if isHighHalf high then
      if isLowHalf low then
        (joined? rest).map
          (Char.ofNat (0x10000 + (high - 0xd800) * 0x400 + (low - 0xdc00)) :: ·)
      else none
    else if isLowHalf high then none
    else (joined? (.unit low :: rest)).map (Char.ofNat high :: ·)
  | .unit n :: rest =>
    if isHighHalf n || isLowHalf n then none
    else (joined? rest).map (Char.ofNat n :: ·)

/-- The text that characters between two quotes stand for. -/
def unquoted? (body : List Char) : Option String :=
  ((pieces? body).bind joined?).map String.ofList

end Json

end TreeBridge
