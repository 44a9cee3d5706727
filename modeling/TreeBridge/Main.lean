import TreeBridge.CommandLine.Run
import TreeBridge.Concrete.Listing
/-!
# The program

Reads the files that the command line names, with the listing of the
concrete tree of each source beside it, and prints the outcome.
-/

namespace TreeBridge

namespace Program

/-- Whether a code of the system is that of an error, of either sign. -/
def isCode (code error : UInt32) : Bool :=
  code == error || code == 0 - error

/-- What keeps a file from being read. -/
def obstacle : IO.Error → CommandLine.Obstacle
  | .noFileOrDirectory .. => .missing
  | .inappropriateType _ code _ => if isCode code 21 then .isFolder else .notFolder
  | .invalidArgument _ code text =>
    if isCode code 36 then .nameTooLong else if isCode code 22 then .nullCharacter else .other text
  | .userError _ => .notText
  | e => .other (toString e)

/-- The text of a file, or what keeps it from being read. -/
def readText (name : String) : IO (Except CommandLine.Obstacle String) := do
  try
    pure (.ok (← IO.FS.readFile name))
  catch e => pure (.error (obstacle e))

/-- The concrete tree of a source, from the listing beside it. -/
def readTree (name : String) : IO Concrete.Node := do
  match ← readText (name ++ ".cst") with
  | .ok listing => pure ((Concrete.ofListing? listing).getD default)
  | .error _ => pure default

/-- A file with the listing beside it, or what keeps it from being read. -/
def readFile (name : String) : IO (Except CommandLine.Obstacle CommandLine.SourceFile) := do
  match ← readText name with
  | .ok text => pure (.ok ⟨text, ← readTree name⟩)
  | .error obstacle => pure (.error obstacle)

/-- The files that an invocation names, as far as they can be read. -/
def readFiles (i : CommandLine.Invocation) : IO CommandLine.Files := do
  let read ← (i.action.sources ++ i.preferences.toList).mapM (fun name => do
    pure (name, ← readFile name))
  pure ⟨fun name => ((read.find? (fun r => r.1 == name)).map (·.2)).getD (.error .missing)⟩

/-- Prints an outcome; its code is the exit code. -/
def tell (o : CommandLine.Outcome) : IO UInt32 := do
  IO.print o.output
  IO.eprint o.errors
  pure o.code.toUInt32

end Program

end TreeBridge

open TreeBridge in
/-- Runs a command line. -/
def main (args : List String) : IO UInt32 := do
  match CommandLine.Invocation.ofWords? args with
  | none => Program.tell CommandLine.misuse
  | some i => Program.tell (CommandLine.run (← Program.readFiles i) i)
