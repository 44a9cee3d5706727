import TreeBridge.Json.Quoted
import TreeBridge.Text.Decimal
/-!
# JSON documents

A document is a value whose objects keep the order of their fields. It is
printed with one field or element on a line, indented by two spaces for
every level.
-/

namespace TreeBridge

/-- A JSON value without fractions. -/
inductive Json where
  | null
  | bool (value : Bool)
  | number (value : Int)
  | text (value : String)
  | array (elements : List Json)
  | object (fields : List (String × Json))

namespace Json

/-- The value of an optional value. -/
def ofOption {α : Type} (f : α → Json) : Option α → Json
  | some a => f a
  | none => null

/-- The array of a list. -/
def ofList {α : Type} (f : α → Json) (l : List α) : Json :=
  array (l.map f)

/-- A new line at a level of indentation. -/
def newline (level : Nat) : String :=
  String.ofList ('\n' :: List.replicate (2 * level) ' ')

/-- Items between two brackets, each on a line of its own; without items
the brackets stand together. -/
def enclose (level : Nat) (left right : String) (items : List String) : String :=
  if items.isEmpty then left ++ right
  else
    left ++ newline (level + 1) ++ String.intercalate ("," ++ newline (level + 1)) items ++
      newline level ++ right

/-- The text of a value at a level of indentation. -/
def render (level : Nat) : Json → String
  | null => "null"
  | bool value => if value then "true" else "false"
  | number value => Text.decimal value
  | text value => quote value
  | array elements =>
    enclose level "[" "]" (elements.attach.map (fun e => render (level + 1) e.1))
  | object fields =>
    enclose level "\x7b" "\x7d"
      (fields.attach.map (fun f => quote f.1.1 ++ ": " ++ render (level + 1) f.1.2))
termination_by j => sizeOf j
decreasing_by
  · have := List.sizeOf_lt_of_mem e.2; simp; omega
  · have := List.sizeOf_lt_of_mem f.2
    obtain ⟨⟨k, v⟩, h⟩ := f
    simp at this ⊢
    omega

/-- **The text of a document.** -/
def pretty (value : Json) : String :=
  render 0 value

end Json

end TreeBridge
