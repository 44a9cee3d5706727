import TreeBridge.Text.Blank
/-!
# Severities

How grave a problem is. A user may set the severity of some problems by a
word.
-/

namespace TreeBridge

namespace Problem

/-- The severity of a problem. An ignored problem is not reported. -/
inductive Severity
  | error
  | warning
  | info
  | ignore
  deriving DecidableEq, Repr

namespace Severity

/-- The word for a severity. -/
def text : Severity → String
  | error => "error"
  | warning => "warning"
  | info => "info"
  | ignore => "ignore"

/-- All severities. -/
def all : List Severity :=
  [error, warning, info, ignore]

/-- The severity that a word spells, white space around it left out. -/
def ofText? (word : String) : Option Severity :=
  let trimmed := String.ofList (Text.trim word.toList)
  all.find? (fun severity => severity.text == trimmed)

end Severity

end Problem

end TreeBridge
