import TreeBridge.CommandLine.Folder
import TreeBridge.CommandLine.Invocation
import TreeBridge.Comparison.Units
import TreeBridge.Output.Outline
import TreeBridge.Output.Snapshot
import TreeBridge.Output.Table
import TreeBridge.Resolution.Resolve
/-!
# Running invocations

What an invocation prints, and the code it exits with, as a function of
the files it reads. An error is told with the chain of its causes.
-/

namespace TreeBridge

namespace CommandLine

/-- What a run leaves: its exit code and what it printed. -/
structure Outcome where
  code : Nat
  output : String
  errors : String
  deriving DecidableEq, Repr

/-! ## Errors -/

/-- An error and its causes, each the cause of the one before. -/
structure Chain where
  message : String
  causes : List String
  deriving DecidableEq, Repr

/-- The chain of a failure. -/
def Chain.ofFailure (f : Failure) : Chain :=
  ⟨f.message, f.cause?.toList⟩

/-- The chain of an error that a failure caused. -/
def Chain.causedBy (message : String) (f : Failure) : Chain :=
  ⟨message, f.message :: f.cause?.toList⟩

/-- A line of a list of causes; several causes are numbered. -/
def causeLine (isNumbered : Bool) (cause : String × Nat) : String :=
  if isNumbered then
    let number := Text.decimal cause.2
    "\n" ++ String.ofList (List.replicate (5 - number.length) ' ') ++ number ++ ": " ++ cause.1
  else "\n    " ++ cause.1

/-- How an error is told. -/
def Chain.text (c : Chain) : String :=
  "Error: " ++ c.message ++
    (if c.causes.isEmpty then ""
     else
      "\n\nCaused by:" ++
        String.join (c.causes.zipIdx.map (causeLine (decide (1 < c.causes.length))))) ++ "\n"

/-- A run that succeeds. -/
def Outcome.success (output : String) : Outcome :=
  ⟨0, output, ""⟩

/-- A run that fails after it has printed something. -/
def Outcome.failure (output : String) (c : Chain) : Outcome :=
  ⟨1, output, c.text⟩

/-! ## Resolving files -/

/-- A file, or the failure to read it. -/
def Files.read (files : Files) (name : String) : Except Failure SourceFile :=
  (files.find name).mapError (fun obstacle => .unreadable obstacle.message)

/-- The options of a preferences file. -/
def Files.preferences (files : Files) : Option String → Except Chain Options
  | none => .ok .empty
  | some name =>
    match (files.read name).bind (fun file => optionsOf file.text) with
    | .ok options => .ok options
    | .error f => .error (.causedBy ("Failed to read options from " ++ name) f)

/-- How an invocation resolves units. The level is looked at before the
preferences. -/
def settings (files : Files) (i : Invocation) : Except Chain Settings := do
  let level ← match i.level with
    | none => .ok .latest
    | some ordinal => (levelOf ordinal).mapError .ofFailure
  let options ← files.preferences i.preferences
  pure ⟨level, options, true⟩

/-- A source to resolve. -/
def Files.input (files : Files) (name : String) : Except Failure Input :=
  (files.read name).map (fun file => ⟨name, .ofString file.text, file.tree⟩)

/-- Resolves a source. -/
def Files.resolve (files : Files) (settings : Settings) (name : String) :
    Except Chain CompilationUnit :=
  ((files.input name).bind (TreeBridge.resolve settings)).mapError .ofFailure

/-! ## Actions -/

/-- What is printed for a unit: its outline, and a table of its problems
if it has any. -/
def unitText (u : CompilationUnit) : String :=
  Output.outline u.arena u.root ++
    if u.problems.isEmpty then "" else "\n" ++ Output.problemTable u.problems ++ "\n"

/-- Prints a unit. -/
def parse (files : Files) (settings : Settings) (file : String) (asJson : Bool) : Outcome :=
  match files.resolve settings file with
  | .error c => .failure "" c
  | .ok u => .success (if asJson then (Output.snapshot u).pretty ++ "\n" else unitText u)

/-- Tells whether two units are equivalent. -/
def compareUnits (l r : CompilationUnit) : Outcome :=
  match Comparison.unitDivergence l r with
  | none => .success (l.file ++ " and " ++ r.file ++ " are equivalent\n")
  | some divergence =>
    .failure
      (if Comparison.unitsMatch l r then "Trees match structurally; positions diverge\n" else "")
      ⟨divergence.text, []⟩

/-- Compares two files. -/
def compare (files : Files) (settings : Settings) (left right : String) : Outcome :=
  match files.resolve settings left with
  | .error c => .failure "" c
  | .ok l =>
    match files.resolve settings right with
    | .error c => .failure "" c
    | .ok r => compareUnits l r

/-- A row of a table of checked files, and whether the file passed. -/
structure Checked where
  row : List String
  passed : Bool

/-- Checks what became of a unit. -/
def checkResult (file : String) : Except Failure CompilationUnit → Checked
  | .ok u =>
    let violations := (u.arena.violations u.root).length
    ⟨Output.checkRow u violations, violations == 0⟩
  | .error f => ⟨Output.failedRow file f.message, false⟩

/-- The files that cannot be read. -/
def unreadable (files : Files) (names : List String) : List Checked :=
  names.filterMap (fun name =>
    match files.input name with
    | .ok _ => none
    | .error f => some (checkResult name (.error f)))

/-- The files that can be read, resolved. -/
def resolved (files : Files) (settings : Settings) (names : List String) : List Checked :=
  let inputs := names.filterMap (fun name => (files.input name).toOption)
  (inputs.zip (resolveAll settings false inputs)).map (fun p => checkResult p.1.file p.2)

/-- Checks several files; those that cannot be read come first. -/
def check (files : Files) (settings : Settings) (names : List String) : Outcome :=
  let checked := unreadable files names ++ resolved files settings names
  let output := Output.table (Output.checkHead :: checked.map Checked.row) ++ "\n"
  let failures := (checked.filter (fun c => !c.passed)).length
  if failures = 0 then .success output
  else
    .failure output
      ⟨Text.decimal failures ++ " of " ++ Text.decimal names.length ++ " files failed the check",
        []⟩

/-- **The outcome of an invocation.** -/
def run (files : Files) (i : Invocation) : Outcome :=
  match settings files i with
  | .error c => .failure "" c
  | .ok settings =>
    match i.action with
    | .parse file asJson => parse files settings file asJson
    | .compare left right => compare files settings left right
    | .check names => check files settings names

/-- The outcome of a command line that asks for nothing known. -/
def misuse : Outcome :=
  ⟨2, "",
    "usage: parse FILE [--json] | compare LEFT RIGHT | check FILE... " ++
      "[--api-level N] [--options PREFS]\n"⟩

/-- **The outcome of a command line.** -/
def outcome (files : Files) (args : List String) : Outcome :=
  match Invocation.ofWords? args with
  | some i => run files i
  | none => misuse

end CommandLine

end TreeBridge
