import TreeBridge.Json.Value
/-!
# Reading documents

Reading is forgiving: what is missing or of another form reads as zero,
as false, as the empty text or as the empty list.
-/

namespace TreeBridge

namespace Json

/-- The value of a field of an object, null if there is none. -/
def field (j : Json) (key : String) : Json :=
  match j with
  | object fields => ((fields.find? (fun f => f.1 == key)).map (·.2)).getD null
  | _ => null

/-- An integer. -/
def asInt : Json → Int
  | number value => value
  | _ => 0

/-- A natural number. -/
def asNat (j : Json) : Nat :=
  j.asInt.toNat

/-- A text. -/
def asText : Json → String
  | text value => value
  | _ => ""

/-- A text, if there is one. -/
def asText? : Json → Option String
  | text value => some value
  | _ => none

/-- A truth value. -/
def asBool : Json → Bool
  | bool value => value
  | _ => false

/-- A list. -/
def asList : Json → List Json
  | array elements => elements
  | _ => []

/-- A value, unless it is null. -/
def asOption : Json → Option Json
  | null => none
  | j => some j

/-- The thing that a name names among several, the first of them if none
has it. -/
def asNamed {α : Type} (first : α) (others : List α) (name : α → String) (j : Json) : α :=
  ((first :: others).find? (fun a => name a == j.asText)).getD first

end Json

end TreeBridge
