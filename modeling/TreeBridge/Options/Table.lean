import TreeBridge.Options.Release
import TreeBridge.Problem.Id
import TreeBridge.Problem.Severity
/-!
# Compiler options

Options are pairs of texts in the order in which their keys were first
set. Some of them have a meaning here: the source release, the compliance
and the severities of the problems that a user may choose.
-/

namespace TreeBridge

/-- The options of a compiler. -/
structure Options where
  entries : List (String × String)
  deriving DecidableEq, Repr

namespace Options

/-- No options. -/
def empty : Options := ⟨[]⟩

instance : Inhabited Options := ⟨empty⟩

/-- Sets the value of a key: a new key comes last, a known key keeps its
place. -/
def setIn (key value : String) : List (String × String) → List (String × String)
  | [] => [(key, value)]
  | e :: rest => if e.1 = key then (key, value) :: rest else e :: setIn key value rest

/-- Sets an option. -/
def set (o : Options) (key value : String) : Options :=
  ⟨setIn key value o.entries⟩

/-- The options that pairs set, one after the other. -/
def ofPairs (pairs : List (String × String)) : Options :=
  pairs.foldl (fun o p => o.set p.1 p.2) empty

/-- The value of an option. -/
def get? (o : Options) (key : String) : Option String :=
  (o.entries.find? (fun e => e.1 == key)).map (·.2)

/-- The number of options. -/
def size (o : Options) : Nat :=
  o.entries.length

/-! ## Releases -/

/-- The key of the source release. -/
def sourceKey : String := "org.eclipse.jdt.core.compiler.source"

/-- The key of the compliance. -/
def complianceKey : String := "org.eclipse.jdt.core.compiler.compliance"

/-- What the keys of problems start with. -/
def problemKey : String := "org.eclipse.jdt.core.compiler.problem."

/-- The source release; the newest one unless a valid one is set. -/
def source (o : Options) : Release :=
  ((o.get? sourceKey).bind Release.ofText?).getD .latest

/-- The compliance; the source release unless a valid one is set. -/
def compliance (o : Options) : Release :=
  ((o.get? complianceKey).bind Release.ofText?).getD o.source

/-- Whether preview features are enabled. -/
def previewEnabled (o : Options) : Bool :=
  o.get? (problemKey ++ "enablePreviewFeatures") == some "enabled"

/-! ## Severities -/

/-- A choice of severity that an option makes, and what counts without
it. -/
structure Irritant where
  option : String
  fallback : Problem.Severity
  deriving DecidableEq, Repr

/-- The choice behind a known problem. -/
def irritantOf? : Problem.Id → Option Irritant
  | .rawTypeReference => some ⟨"rawTypeReference", .warning⟩
  | .unsafeRawMethodInvocation => some ⟨"uncheckedTypeOperation", .warning⟩
  | .missingSerialVersion => some ⟨"missingSerialVersion", .warning⟩
  | .unnecessaryCast => some ⟨"unnecessaryTypeCheck", .ignore⟩
  | .emptyControlFlowStatement => some ⟨"emptyStatement", .ignore⟩
  | .shouldImplementHashcode => some ⟨"missingHashCodeMethod", .ignore⟩
  | .typeMissingDeprecationMark | .fieldMissingDeprecationMark
  | .methodMissingDeprecationMark => some ⟨"missingDeprecatedAnnotation", .ignore⟩
  | .nonSerializableInstanceField => some ⟨"nonSerializableInstanceField", .ignore⟩
  | .javadocMissingParamTag | .javadocMissingReturnTag | .javadocMissingThrowsTag =>
    some ⟨"missingJavadocTags", .ignore⟩
  | _ => none

/-- The choice behind the number of a problem. All problems in doc
comments share one, save for those about missing tags. -/
def irritant? (code : Int) : Option Irritant :=
  match (Problem.Id.ofCode? code).bind irritantOf? with
  | some irritant => some irritant
  | none => if Problem.isJavadoc code then some ⟨"invalidJavadoc", .ignore⟩ else none

/-- The severity chosen for the number of a problem; `none` for a problem
whose severity nobody chooses. An invalid choice counts as none. -/
def severity? (o : Options) (code : Int) : Option Problem.Severity :=
  (irritant? code).map (fun irritant =>
    ((o.get? (problemKey ++ irritant.option)).bind Problem.Severity.ofText?).getD
      irritant.fallback)

end Options

end TreeBridge
