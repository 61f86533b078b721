import Collation.App
import Collation.Collator
import Collation.Command
import Collation.Config.Fault
import Collation.Config.File
import Collation.Config.Format
import Collation.Config.Values
import Collation.Failure.Basic
import Collation.Failure.Family
import Collation.Failure.Handler
import Collation.File.Tree
import Collation.Host.Basic
import Collation.Host.Machine
import Collation.Key.Basic
import Collation.Key.Written
import Collation.Literal.Expression
import Collation.Literal.Function
import Collation.Literal.Line
import Collation.Literal.Node
import Collation.Literal.Numeral
import Collation.Literal.Part
import Collation.Literal.Quoted
import Collation.Literal.Reading
import Collation.Literal.Setting
import Collation.Literal.Template
import Collation.Literal.Token
import Collation.Log.Logger
import Collation.Main
import Collation.Mode
import Collation.Number.Binary64
import Collation.Number.Numeral
import Collation.Number.Power
import Collation.Number.Shortest
import Collation.Option.Arguments
import Collation.Option.Help
import Collation.Option.Kind
import Collation.Option.Standard
import Collation.Option.Store
import Collation.Order
import Collation.Package
import Collation.Path
import Collation.Rule.Error
import Collation.Rule.File
import Collation.Rule.French
import Collation.Rule.Parser
import Collation.Rule.Record
import Collation.Rule.Statement
import Collation.Rule.Token
import Collation.Scheme
import Collation.Setting
import Collation.Sort
import Collation.Strength
import Collation.Table.Basic
import Collation.Table.Segment
import Collation.Table.Window
import Collation.Text
import Collation.Text.Quoted
import Collation.Text.Utf8
import Collation.Unicode.CanonicalDecomposition
import Collation.Unicode.CombiningClass
import Collation.Unicode.CompatibilityDecomposition
import Collation.Unicode.Composition
import Collation.Unicode.Digit
import Collation.Unicode.Hangul
import Collation.Unicode.Identifier
import Collation.Unicode.LowerCase
import Collation.Unicode.Name
import Collation.Unicode.Normalization
import Collation.Unicode.Packed
import Collation.Unicode.Printable
import Collation.Value.Arithmetic
import Collation.Value.Basic
import Collation.Value.Function
import Collation.Value.Order
import Collation.Value.Written
import Collation.Weight
import Collation.Workers
import Collation.Proofs.FinerStrength
import Collation.Proofs.JoinedRules
import Collation.Proofs.Order
import Collation.Proofs.Rule.Acceptance
import Collation.Proofs.Rule.Grammar
import Collation.Proofs.Rule.Join
import Collation.Proofs.Rule.Parser
import Collation.Proofs.Rule.Place
import Collation.Proofs.Rule.Position
import Collation.Proofs.Rule.Refusal
import Collation.Proofs.Rule.Space
import Collation.Proofs.Rule.Written
import Collation.Proofs.Sort
import Collation.Proofs.SortedKeys
import Collation.Proofs.Table.Build
import Collation.Proofs.Table.Division
import Collation.Proofs.Table.Groups
import Collation.Proofs.Table.Ranks
import Collation.Proofs.Table.Segment
import Collation.Proofs.DeclaredOrder
import Collation.Proofs.DeclaredWeights
import Collation.Proofs.Scheme
import Collation.Proofs.ComposedSorts
import Collation.Proofs.KeyOrder
import Collation.Proofs.Rule.File
import Collation.Proofs.Text.Lines
import Collation.Proofs.Run.Outcome
import Collation.Proofs.Run.Careful
import Collation.Proofs.Run.Told
import Collation.Proofs.Run.Stream
import Collation.Proofs.Run.Log
import Collation.Proofs.Run.Options
import Collation.Proofs.Run.Steps
import Collation.Proofs.Run.Body
import Collation.Proofs.ExpectedFailure
import Collation.Proofs.Option.Values
import Collation.Proofs.Option.Calls
import Collation.Proofs.Run.Setup
import Collation.Proofs.Option.Standard
import Collation.Proofs.Result
import Collation.Proofs.GivenRuleFile
import Collation.Proofs.Config.Reading
import Collation.Proofs.Lookup
import Collation.Proofs.Config.Setting
import Collation.Proofs.Literal.Plain
import Collation.Proofs.Literal.Relation
import Collation.Proofs.Literal.Sign
import Collation.Proofs.Literal.Quoted
import Collation.Proofs.Config.Meaning
import Collation.Proofs.File.Growth
import Collation.Proofs.File.Way
import Collation.Proofs.Run.Local
import Collation.Proofs.ConfiguredRules
import Collation.Proofs.Text.Utf8
import Collation.Proofs.Run.LogFile
import Collation.Proofs.Run.Parts
import Collation.Proofs.Run.Inputs
import Collation.Proofs.Run.Ending
import Collation.Proofs.Run.Sources
import Collation.Proofs.Run.Sort
import Collation.Proofs.SortedOutput
import Collation.Proofs.Rule.Sign
import Collation.Proofs.Rule.Fault
import Collation.Proofs.Rule.FirstFault
import Collation.Proofs.Normalization
import Collation.Proofs.CodePointOrder
import Collation.Proofs.Table.Boundary
import Collation.Proofs.CommonBeginning
import Collation.Proofs.Option.Help
import Collation.Proofs.RecoveredRules
import Collation.Proofs.Option.Action
import Collation.Proofs.Config.Section
import Collation.Proofs.Path.Normal
import Collation.Proofs.Path.PrefixRules
import Collation.Proofs.Log.Repeats
import Collation.Proofs.Option.Request
import Collation.Proofs.HelpRequest
import Collation.Proofs.Option.Arguments
import Collation.Proofs.Mode
import Collation.Proofs.Workers
import Collation.Proofs.Rule.Decoded
import Collation.Proofs.Loop
import Collation.Proofs.Rule.Enclosed
import Collation.Proofs.Table.Weighing
import Collation.Proofs.KeyProgress
import Collation.Proofs.Log.Standing
import Collation.Proofs.Log.Calls
import Collation.Proofs.Log.Arrivals
import Collation.Proofs.Log.Independence
