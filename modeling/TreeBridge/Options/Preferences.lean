import TreeBridge.Options.Table
/-!
# Preferences

A preferences file has an option on each line, a key and a value around
the first `=`. Lines that start with `#` are comments. White space at the
ends of lines, keys and values does not count.
-/

namespace TreeBridge

namespace Options

/-- The lines of a text. -/
def linesOf (cs : List Char) : List (List Char) :=
  cs.splitOn '\n'

/-- What one line of a preferences file says. -/
inductive Line
  | blank
  | option (key value : String)
  | malformed (line : String)
  deriving DecidableEq, Repr

/-- Reads one line. -/
def Line.read (line : List Char) : Line :=
  let line := Text.trim line
  if line.isEmpty || line.head? == some '#' then blank
  else
    let key := line.takeWhile (fun c => c != '=')
    match line.dropWhile (fun c => c != '=') with
    | [] => malformed (String.ofList line)
    | _ :: value =>
      option (String.ofList (Text.trim key)) (String.ofList (Text.trim value))

/-- Reads lines after others; the first malformed line is the error. -/
def readLines (o : Options) : List (List Char) → Except String Options
  | [] => .ok o
  | line :: rest =>
    match Line.read line with
    | .blank => readLines o rest
    | .option key value => readLines (o.set key value) rest
    | .malformed line => .error line

/-- **Reads a preferences file.** The error is the line that has no
`=`. -/
def ofPreferences (text : String) : Except String Options :=
  readLines empty (linesOf text.toList)

end Options

end TreeBridge
