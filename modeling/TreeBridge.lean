import TreeBridge.Binding.Declaration
import TreeBridge.Binding.Reference
import TreeBridge.CommandLine.Folder
import TreeBridge.CommandLine.Invocation
import TreeBridge.CommandLine.Run
import TreeBridge.Comparison.Divergence
import TreeBridge.Comparison.Match
import TreeBridge.Comparison.Tolerance
import TreeBridge.Comparison.Units
import TreeBridge.Completion.Documentation
import TreeBridge.Completion.Position
import TreeBridge.Concrete.Kind
import TreeBridge.Concrete.Listing
import TreeBridge.Concrete.Node
import TreeBridge.Concrete.Preorder
import TreeBridge.Conversion.Build
import TreeBridge.Conversion.Expression
import TreeBridge.Conversion.Group
import TreeBridge.Conversion.Member
import TreeBridge.Conversion.Name
import TreeBridge.Conversion.Statement
import TreeBridge.Conversion.Type
import TreeBridge.Conversion.Unit
import TreeBridge.Conversion.Variable
import TreeBridge.Foreign.Diagnostic
import TreeBridge.Foreign.Flag
import TreeBridge.Foreign.Index
import TreeBridge.Foreign.Shape
import TreeBridge.Foreign.Tag
import TreeBridge.Foreign.Tree
import TreeBridge.Interchange.Kind
import TreeBridge.Interchange.Read
import TreeBridge.Interchange.Shape
import TreeBridge.Json.Quoted
import TreeBridge.Json.Value
import TreeBridge.Lexical.Lexeme
import TreeBridge.Lexical.Scan
import TreeBridge.Lexical.Token
import TreeBridge.Lowering.Build
import TreeBridge.Lowering.Declaration
import TreeBridge.Lowering.Expression
import TreeBridge.Lowering.Malformed
import TreeBridge.Lowering.Name
import TreeBridge.Lowering.Statement
import TreeBridge.Lowering.Switch
import TreeBridge.Lowering.Type
import TreeBridge.Lowering.Unit
import TreeBridge.Main
import TreeBridge.Options.Json
import TreeBridge.Options.Preferences
import TreeBridge.Options.Release
import TreeBridge.Options.Table
import TreeBridge.Output.Outline
import TreeBridge.Output.Snapshot
import TreeBridge.Output.Table
import TreeBridge.Problem.Classification
import TreeBridge.Problem.Highlight
import TreeBridge.Problem.Id
import TreeBridge.Problem.Message
import TreeBridge.Problem.Report
import TreeBridge.Problem.Scene
import TreeBridge.Problem.Severity
import TreeBridge.Proofs.Binding.Detached
import TreeBridge.Proofs.Binding.Ledger
import TreeBridge.Proofs.Binding.Origin
import TreeBridge.Proofs.Binding.Sharing
import TreeBridge.Proofs.Binding.Site
import TreeBridge.Proofs.Binding.Walk
import TreeBridge.Proofs.Comparison.Constants
import TreeBridge.Proofs.Comparison.Folding
import TreeBridge.Proofs.Comparison.Joints
import TreeBridge.Proofs.Comparison.LegacyView
import TreeBridge.Proofs.Comparison.LockStep
import TreeBridge.Proofs.Comparison.SameText
import TreeBridge.Proofs.Comparison.Symmetry
import TreeBridge.Proofs.Completion.Attachment
import TreeBridge.Proofs.Completion.Documentation
import TreeBridge.Proofs.Completion.Filling
import TreeBridge.Proofs.Completion.Growth
import TreeBridge.Proofs.Completion.Passes
import TreeBridge.Proofs.Completion.Precedence
import TreeBridge.Proofs.Completion.Room
import TreeBridge.Proofs.Completion.Search
import TreeBridge.Proofs.Conversion.ArrayBrackets
import TreeBridge.Proofs.Conversion.Bodies
import TreeBridge.Proofs.Conversion.Cases
import TreeBridge.Proofs.Conversion.Constructors
import TreeBridge.Proofs.Conversion.Declarations
import TreeBridge.Proofs.Conversion.Fragments
import TreeBridge.Proofs.Conversion.Grouping
import TreeBridge.Proofs.Conversion.Keywords
import TreeBridge.Proofs.Conversion.Levels
import TreeBridge.Proofs.Conversion.Members
import TreeBridge.Proofs.Conversion.Modifiers
import TreeBridge.Proofs.Conversion.Operands
import TreeBridge.Proofs.Conversion.Outcome
import TreeBridge.Proofs.Conversion.Refusal
import TreeBridge.Proofs.Conversion.Regions
import TreeBridge.Proofs.Conversion.Results
import TreeBridge.Proofs.Conversion.Roots
import TreeBridge.Proofs.Conversion.Stopping
import TreeBridge.Proofs.Conversion.TypeNames
import TreeBridge.Proofs.Conversion.WholeArena
import TreeBridge.Proofs.Coupling.Bodies
import TreeBridge.Proofs.Coupling.Declarations
import TreeBridge.Proofs.Coupling.Hiding
import TreeBridge.Proofs.Coupling.Runs
import TreeBridge.Proofs.Foreign.Ids
import TreeBridge.Proofs.Foreign.Index
import TreeBridge.Proofs.Foreign.Subtree
import TreeBridge.Proofs.Lexical.Automaton
import TreeBridge.Proofs.Lexical.Harvest
import TreeBridge.Proofs.Lexical.Literal
import TreeBridge.Proofs.Lexical.Nesting
import TreeBridge.Proofs.Lexical.Tiling
import TreeBridge.Proofs.Lowering.Bodies
import TreeBridge.Proofs.Lowering.Composition.Bodies
import TreeBridge.Proofs.Lowering.Composition.Declarations
import TreeBridge.Proofs.Lowering.Composition.Steps
import TreeBridge.Proofs.Lowering.Composition.Unit
import TreeBridge.Proofs.Lowering.Declarations
import TreeBridge.Proofs.Lowering.Distinct
import TreeBridge.Proofs.Lowering.Layout
import TreeBridge.Proofs.Lowering.Malformed
import TreeBridge.Proofs.Lowering.Modifiers
import TreeBridge.Proofs.Lowering.Owners
import TreeBridge.Proofs.Lowering.ReportOwners
import TreeBridge.Proofs.Lowering.Reports
import TreeBridge.Proofs.Lowering.SwitchGroups
import TreeBridge.Proofs.Problem.DefaultConstructor
import TreeBridge.Proofs.Problem.InFile
import TreeBridge.Proofs.Problem.MemberHighlight
import TreeBridge.Proofs.Problem.MissingReturn
import TreeBridge.Proofs.Problem.NameHighlight
import TreeBridge.Proofs.Problem.ParserError
import TreeBridge.Proofs.Problem.ShownTree
import TreeBridge.Proofs.Resolution.CaseEnds
import TreeBridge.Proofs.Resolution.Containment
import TreeBridge.Proofs.Resolution.Fragments
import TreeBridge.Proofs.Resolution.Modifiers
import TreeBridge.Proofs.Text.Encoding
import TreeBridge.Proofs.Text.Lines
import TreeBridge.Proofs.Text.Partition
import TreeBridge.Proofs.Text.Place
import TreeBridge.Proofs.Text.WholeWord
import TreeBridge.Proofs.Text.Word
import TreeBridge.Proofs.Unified.Ancestry
import TreeBridge.Proofs.Unified.Arena
import TreeBridge.Proofs.Unified.Checking
import TreeBridge.Proofs.Unified.Constructors
import TreeBridge.Proofs.Unified.Editing
import TreeBridge.Proofs.Unified.Enlarging
import TreeBridge.Proofs.Unified.Footprint
import TreeBridge.Proofs.Unified.Forest
import TreeBridge.Proofs.Unified.Hanging
import TreeBridge.Proofs.Unified.Names
import TreeBridge.Proofs.Unified.Placement
import TreeBridge.Proofs.Unified.Separation
import TreeBridge.Proofs.Unified.Unfolding
import TreeBridge.Proofs.Unified.Unnumbered
import TreeBridge.Resolution.Failure
import TreeBridge.Resolution.Resolve
import TreeBridge.Resolution.Unit
import TreeBridge.Text.Blank
import TreeBridge.Text.Decimal
import TreeBridge.Text.Digit
import TreeBridge.Text.Emoji
import TreeBridge.Text.Hidden
import TreeBridge.Text.Lines
import TreeBridge.Text.Runs
import TreeBridge.Text.Sequence
import TreeBridge.Text.Source
import TreeBridge.Text.Span
import TreeBridge.Text.Summary
import TreeBridge.Text.Width
import TreeBridge.Text.Word
import TreeBridge.Unified.Arena
import TreeBridge.Unified.Containment
import TreeBridge.Unified.Kind
import TreeBridge.Unified.Legacy
import TreeBridge.Unified.Level
import TreeBridge.Unified.Name
import TreeBridge.Unified.Operator
import TreeBridge.Unified.Render
import TreeBridge.Unified.Tree
