import TreeBridge.Text.Blank
import TreeBridge.Text.Decimal
/-!
# Language releases

A release of the language is a number from 1 to 21. Releases before 9 are
also spelled with a leading `1.`.
-/

namespace TreeBridge

/-- A release of the language. -/
structure Release where
  number : Nat
  deriving DecidableEq, Repr

namespace Release

/-- The newest release. -/
def latest : Release := ⟨21⟩

/-- A text without a leading `1.`. -/
def withoutOne : List Char → List Char
  | '1' :: '.' :: rest => rest
  | cs => cs

/-- The release that a text spells. -/
def ofText? (text : String) : Option Release :=
  match Text.readNumber? (withoutOne (Text.trim text.toList)) with
  | some n => if 1 ≤ n ∧ n ≤ 21 then some ⟨n⟩ else none
  | none => none

/-- The spelling of a release. -/
def text (release : Release) : String :=
  if release.number < 9 then "1." ++ Text.decimal release.number
  else Text.decimal release.number

end Release

end TreeBridge
