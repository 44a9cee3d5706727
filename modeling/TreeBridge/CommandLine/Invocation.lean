import TreeBridge.Text.Decimal
/-!
# Invocations

The words of a command line as the action they ask for. Options may stand
anywhere, with their value in the next word or after an equals sign; after
two dashes every word is an operand.
-/

namespace TreeBridge

namespace CommandLine

/-- What a command line asks for. -/
inductive Action
  | parse (file : String) (asJson : Bool)
  | compare (left right : String)
  | check (files : List String)
  deriving DecidableEq, Repr

/-- An action and how to resolve units for it: at a level, with the
options of a preferences file. -/
structure Invocation where
  action : Action
  level : Option Nat
  preferences : Option String
  deriving DecidableEq, Repr

/-- The words of a command line, sorted: operands, and options with their
values. -/
structure Words where
  operands : List String
  asJson : Bool
  level : Option String
  preferences : Option String
  deriving DecidableEq, Repr

/-- No words. -/
def Words.none : Words := ⟨[], false, .none, .none⟩

/-- The options that take a value. -/
def valued : List String :=
  ["--log-dir", "--log-filter", "--api-level", "--options"]

/-- A word with a value after an equals sign as two words. -/
def expandWord (word : String) : List String :=
  let name := String.ofList (word.toList.takeWhile (fun c => c != '='))
  if name != word && valued.contains name then
    [name, String.ofList (word.toList.drop (name.length + 1))]
  else [word]

/-- The words of a command line, every option and its value apart. -/
def expand : List String → List String
  | [] => []
  | "--" :: rest => "--" :: rest
  | word :: rest => expandWord word ++ expand rest

/-- Sorts words; `none` if an option is unknown or has no value. -/
def sort? : List String → Option Words
  | [] => some .none
  | "--" :: rest => some { Words.none with operands := rest }
  | "--log-dir" :: _ :: rest => sort? rest
  | "--log-filter" :: _ :: rest => sort? rest
  | "--api-level" :: value :: rest => (sort? rest).map (fun w => { w with level := some value })
  | "--options" :: value :: rest =>
    (sort? rest).map (fun w => { w with preferences := some value })
  | word :: rest =>
    if word = "-v" ∨ word = "--verbose" then sort? rest
    else if word = "--json" then (sort? rest).map (fun w => { w with asJson := true })
    else if word.startsWith "-" && word != "-" then none
    else (sort? rest).map (fun w => { w with operands := word :: w.operands })

/-- The action that operands name. -/
def action? (asJson : Bool) : List String → Option Action
  | ["parse", file] => some (.parse file asJson)
  | ["compare", left, right] => if asJson then none else some (.compare left right)
  | "check" :: file :: files => if asJson then none else some (.check (file :: files))
  | _ => none

/-- The ordinal that a level option gives; a level that is no number is
malformed. -/
def ordinal? : Option String → Option (Option Nat)
  | none => some none
  | some text => (Text.readNumber? text.toList).map some

/-- **The invocation that the words of a command line ask for.** -/
def Invocation.ofWords? (args : List String) : Option Invocation := do
  let words ← sort? (expand args)
  let action ← action? words.asJson words.operands
  let level ← ordinal? words.level
  pure ⟨action, level, words.preferences⟩

/-- The sources that an action reads. -/
def Action.sources : Action → List String
  | parse file _ => [file]
  | compare left right => [left, right]
  | check files => files

end CommandLine

end TreeBridge
