/-!
# Numbers as text

Decimal and hexadecimal digits, and the reading of a decimal number.
-/

namespace TreeBridge

namespace Text

/-- An integer in decimal. -/
def decimal (n : Int) : String :=
  match n with
  | .ofNat m => String.ofList (Nat.toDigits 10 m)
  | .negSucc m => "-" ++ String.ofList (Nat.toDigits 10 (m + 1))

/-- A natural number in hexadecimal, after `0x`. -/
def hexadecimal (n : Nat) : String :=
  "0x" ++ String.ofList (Nat.toDigits 16 n)

/-- The value of an ASCII digit. -/
def digit? (c : Char) : Option Nat :=
  if '0' ≤ c ∧ c ≤ '9' then some (c.toNat - '0'.toNat) else none

/-- The value of a run of ASCII digits after the value `acc`. -/
def digitsFrom? (acc : Nat) : List Char → Option Nat
  | [] => some acc
  | c :: rest =>
    match digit? c with
    | some d => digitsFrom? (acc * 10 + d) rest
    | none => none

/-- Reads an unsigned number below `2 ^ 32`: one optional plus sign, then
ASCII digits, at least one. -/
def readNumber? (cs : List Char) : Option Nat :=
  let digits := if cs.head? == some '+' then cs.drop 1 else cs
  if digits.isEmpty then none
  else (digitsFrom? 0 digits).filter (fun n => decide (n < 4294967296))

end Text

end TreeBridge
