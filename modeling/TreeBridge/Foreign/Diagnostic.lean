import TreeBridge.Text.Decimal
/-!
# Foreign diagnostics

A diagnostic as the foreign front end reports it: a dotted code, a kind, a
message, offsets, a line and a column, arguments and the id of the tree
it is about. An argument may be a diagnostic itself, so one report can
hold the cause of another.
-/

namespace TreeBridge

namespace Foreign

/-- How grave a diagnostic is. -/
inductive DiagnosticKind
  | error
  | warning
  | mandatoryWarning
  | note
  | other
  deriving DecidableEq, Repr

/-- The word for a kind of declaration in an argument. -/
inductive KindName
  | classKind
  | interfaceKind
  | enumKind
  | recordKind
  | methodKind
  | constructorKind
  | variableKind
  | packageKind
  | otherKind
  deriving DecidableEq, Repr

/-- What a symbol in an argument names. -/
inductive SymbolKind
  | type (isInterface : Bool)
  | method (isConstructor : Bool)
  | var
  | package
  deriving DecidableEq, Repr

/-- A type in an argument. -/
structure TypeArgument where
  name : String
  isArray : Bool
  isVoid : Bool
  deriving DecidableEq, Repr

/-- An argument of a diagnostic, open in what a diagnostic is. -/
inductive Argument (δ : Type) where
  | text (text : String)
  | kindName (kind : KindName)
  | symbol (kind : SymbolKind) (name : String)
  | type (type : TypeArgument)
  | diagnostic (diagnostic : δ)

/-- A diagnostic. The line and the column count from one; offsets of `-1`
are unknown. -/
structure Diagnostic where
  code : String
  kind : DiagnosticKind
  message : String
  position : Int
  start : Int
  stop : Int
  line : Int
  column : Int
  arguments : List (Argument Diagnostic)
  tree : Option Nat
  multiline : Bool
  subdiagnostics : List Diagnostic

/-- The word for a kind of declaration. -/
def KindName.text : KindName → String
  | classKind => "class"
  | interfaceKind => "interface"
  | enumKind => "enum"
  | recordKind => "record"
  | methodKind => "method"
  | constructorKind => "constructor"
  | variableKind => "variable"
  | packageKind => "package"
  | otherKind => "kindname"

namespace Diagnostic

/-- An error between two offsets that points at the first of them. -/
def errorAt (code message : String) (start stop : Int) : Diagnostic :=
  ⟨code, .error, message, start, start, stop, 0, 0, [], none, false, []⟩

/-- The text of an argument. -/
def argumentText : Argument Diagnostic → String
  | .text text => text
  | .kindName kind => kind.text
  | .symbol _ name => name
  | .type type => type.name
  | .diagnostic d => d.message

/-- The first kind of declaration among the arguments. -/
def kindName? (d : Diagnostic) : Option KindName :=
  d.arguments.findSome? (fun a =>
    match a with
    | .kindName kind => some kind
    | _ => none)

/-- The diagnostic in an argument. -/
def ofArgument? : Argument Diagnostic → Option Diagnostic
  | .diagnostic d => some d
  | _ => none

/-- The first diagnostic among the arguments. -/
def nested? (d : Diagnostic) : Option Diagnostic :=
  d.arguments.findSome? ofArgument?

/-- A nested diagnostic is smaller. -/
theorem sizeOf_lt_of_nested? {d c : Diagnostic} (h : d.nested? = some c) :
    sizeOf c < sizeOf d := by
  obtain ⟨a, ha, hc⟩ := List.exists_of_findSome?_eq_some h
  have hm := List.sizeOf_lt_of_mem ha
  cases a <;> simp only [ofArgument?, Option.some.injEq, reduceCtorEq] at hc
  subst hc
  cases d
  simp at hm ⊢
  omega

/-- The diagnostic reached by following first nested diagnostics. -/
def innermost (d : Diagnostic) : Diagnostic :=
  match _h : d.nested? with
  | some c => innermost c
  | none => d
termination_by sizeOf d
decreasing_by exact sizeOf_lt_of_nested? _h

/-- The innermost nested diagnostic, if any is nested. -/
def rootCause? (d : Diagnostic) : Option Diagnostic :=
  d.nested?.map innermost

/-- The line, column, message and code of a diagnostic. -/
def text (d : Diagnostic) : String :=
  Text.decimal d.line ++ ":" ++ Text.decimal d.column ++ ": " ++ d.message ++ " (" ++ d.code ++
    ")"

/-- The same diagnostic about a tree. -/
def aboutTree (d : Diagnostic) (tree : Nat) : Diagnostic :=
  { d with tree := some tree }

end Diagnostic

end Foreign

end TreeBridge
