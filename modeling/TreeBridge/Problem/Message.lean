import TreeBridge.Problem.Id
import TreeBridge.Text.Blank
import TreeBridge.Text.Digit
/-!
# Reading messages

Some problems are told apart only by the English message of a diagnostic.
Everything that depends on the wording is here.
-/

namespace TreeBridge

namespace Problem

namespace Message

/-- A text occurs in a message. -/
def mentions (message : List Char) (part : String) : Bool :=
  Text.hasInfix part.toList message

/-- The rest of a message after what it starts with. -/
def after? (start : String) (message : List Char) : Option (List Char) :=
  if start.toList.isPrefixOf message then some (message.drop start.length) else none

/-! ## Doc comments -/

/-- Whether a message says that a parameter is documented twice: one word
between a start and an end. -/
def isRepeatedParameter (message : List Char) : Bool :=
  match after? "@param " message with
  | none => false
  | some rest =>
    let word := rest.takeWhile (fun c => !Text.isBlank c)
    !word.isEmpty && rest.dropWhile (fun c => !Text.isBlank c) ==
      " has already been specified".toList

/-- The problem in a doc comment that a message is about. The case of
ASCII letters does not count. -/
def docProblem (message : String) : Id :=
  let message := message.toList.map Char.toLower
  if mentions message "no @param for" then .javadocMissingParamTag
  else if mentions message "no @return" then .javadocMissingReturnTag
  else if mentions message "@param name not found" then .javadocInvalidParamName
  else if mentions message "no @throws for " then .javadocMissingThrowsTag
  else if mentions message "invalid use of @return" then .javadocUnexpectedTag
  else if (after? "exception not thrown: " message).isSome then .javadocInvalidThrowsClassName
  else if isRepeatedParameter message then .javadocDuplicateParamName
  else .ignored

/-- The parameter that a message misses documentation of. -/
def undocumented? (message : String) : Option String :=
  match after? "no @param for " message.toList with
  | none => none
  | some rest =>
    let name := rest.takeWhile (fun c => !Text.isBlank c)
    if name.isEmpty then none else some (String.ofList name)

/-! ## Releases -/

/-- The source level that the text after `-source` in a message names,
at the first place where a digit follows. -/
def sourceLevelIn? : List Char → Option Nat
  | [] => none
  | c :: rest =>
    let level := ((after? "not supported in -source " (c :: rest)).getD []).takeWhile
      Text.isDigit
    if level.isEmpty then sourceLevelIn? rest else Text.readNumber? level

/-- The source level at which a message calls something unsupported. -/
def sourceLevel? (message : String) : Option Nat :=
  sourceLevelIn? message.toList

/-! ## Modifiers -/

/-- Whether a message is about a static method. -/
def isAboutStatic (message : String) : Bool :=
  mentions message.toList "static"

/-- The characters of the words in a message. -/
def isWordCharacter (c : Char) : Bool :=
  c.isAlphanum || c == '-'

/-- Whether a keyword is one of the words of a message. -/
def namesModifier (message keyword : String) : Bool :=
  (message.toList.splitOnP (fun c => !isWordCharacter c)).contains keyword.toList

end Message

end Problem

end TreeBridge
