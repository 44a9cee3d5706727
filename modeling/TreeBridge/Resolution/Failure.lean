import TreeBridge.Conversion.Build
import TreeBridge.Options.Preferences
/-!
# Failures

What can keep a unit from being resolved, and how it is told.
-/

namespace TreeBridge

/-- Why a unit could not be resolved. -/
inductive Failure
  | unsupported (what : Conversion.Unsupported)
  | invalidOption (key value : String)
  | cancelled
  | unreadable (reason : String)
  deriving DecidableEq, Repr

namespace Failure

/-- The message of a failure. -/
def message : Failure → String
  | unsupported what =>
    "Unsupported construct " ++ what.construct.name ++ " at offset " ++ Text.decimal what.offset
  | invalidOption key value => "Invalid option " ++ key ++ "=" ++ value
  | cancelled => "Conversion cancelled"
  | unreadable reason => "I/O error: " ++ reason

/-- What a failure was caused by, if it is more than the failure says of
itself. -/
def cause? : Failure → Option String
  | unreadable reason => some reason
  | _ => none

end Failure

/-- The level with an ordinal that a user gave. -/
def levelOf (ordinal : Nat) : Except Failure Unified.Level :=
  match Unified.Level.ofOrdinal? ordinal with
  | some level => .ok level
  | none => .error (.invalidOption "apiLevel" (Text.decimal ordinal))

/-- The options of a preferences file that a user gave. -/
def optionsOf (preferences : String) : Except Failure Options :=
  match Options.ofPreferences preferences with
  | .ok o => .ok o
  | .error line => .error (.invalidOption line "")

end TreeBridge
