import ObjectAssembly.Application
import ObjectAssembly.Binder
import ObjectAssembly.Catalog
import ObjectAssembly.CommandLine.Arguments
import ObjectAssembly.CommandLine.HelpText
import ObjectAssembly.CommandLine.Program
import ObjectAssembly.CommandLine.Terminal
import ObjectAssembly.Configuration
import ObjectAssembly.Declaration.Attribute
import ObjectAssembly.Declaration.AttributeText
import ObjectAssembly.Declaration.Expression
import ObjectAssembly.Declaration.Fields
import ObjectAssembly.Declaration.Generics
import ObjectAssembly.Declaration.Grammar
import ObjectAssembly.Declaration.Items
import ObjectAssembly.Declaration.Lookahead
import ObjectAssembly.Declaration.Numeral
import ObjectAssembly.Declaration.Paths
import ObjectAssembly.Declaration.Patterns
import ObjectAssembly.Declaration.Quotation
import ObjectAssembly.Declaration.Reading
import ObjectAssembly.Declaration.Rule
import ObjectAssembly.Declaration.Source
import ObjectAssembly.Declaration.Statements
import ObjectAssembly.Declaration.Struct
import ObjectAssembly.Declaration.Token
import ObjectAssembly.Declaration.Types
import ObjectAssembly.Declaration.Whole
import ObjectAssembly.Declaration.WrittenAttribute
import ObjectAssembly.Definition
import ObjectAssembly.Demo
import ObjectAssembly.Error
import ObjectAssembly.Help
import ObjectAssembly.Level
import ObjectAssembly.Log
import ObjectAssembly.Main
import ObjectAssembly.Manifest
import ObjectAssembly.Manifest.Reader
import ObjectAssembly.Manifest.Scalar
import ObjectAssembly.Manifest.Table
import ObjectAssembly.Materialize
import ObjectAssembly.Number.Binary
import ObjectAssembly.Number.Integer
import ObjectAssembly.Object
import ObjectAssembly.Plugin.Basic
import ObjectAssembly.Plugin.Order
import ObjectAssembly.Plugin.Server
import ObjectAssembly.Proofs.AssignmentTexts
import ObjectAssembly.Proofs.Binding
import ObjectAssembly.Proofs.CatalogKeys
import ObjectAssembly.Proofs.Cells
import ObjectAssembly.Proofs.Consumption
import ObjectAssembly.Proofs.Copying
import ObjectAssembly.Proofs.DerivedSetting
import ObjectAssembly.Proofs.Description
import ObjectAssembly.Proofs.DocumentedHelp
import ObjectAssembly.Proofs.EditsInPlace
import ObjectAssembly.Proofs.ErrorChains
import ObjectAssembly.Proofs.Extension
import ObjectAssembly.Proofs.FailedBinding
import ObjectAssembly.Proofs.FieldReplay
import ObjectAssembly.Proofs.HelpLayout
import ObjectAssembly.Proofs.IntegerTexts
import ObjectAssembly.Proofs.Lending
import ObjectAssembly.Proofs.LentValues
import ObjectAssembly.Proofs.Lines
import ObjectAssembly.Proofs.LoggedSteps
import ObjectAssembly.Proofs.Materialization
import ObjectAssembly.Proofs.OptionArguments
import ObjectAssembly.Proofs.OptionNames
import ObjectAssembly.Proofs.Plugin.Accounting
import ObjectAssembly.Proofs.Plugin.Acyclic
import ObjectAssembly.Proofs.Plugin.Additions
import ObjectAssembly.Proofs.Plugin.BuildOrder
import ObjectAssembly.Proofs.Plugin.Callbacks
import ObjectAssembly.Proofs.Plugin.Counting
import ObjectAssembly.Proofs.Plugin.Cycles
import ObjectAssembly.Proofs.Plugin.Dependencies
import ObjectAssembly.Proofs.Plugin.DependencyGraph
import ObjectAssembly.Proofs.Plugin.Finish
import ObjectAssembly.Proofs.Plugin.Instances
import ObjectAssembly.Proofs.Plugin.Lifecycle
import ObjectAssembly.Proofs.Plugin.Naming
import ObjectAssembly.Proofs.Plugin.Nesting
import ObjectAssembly.Proofs.Plugin.Placement
import ObjectAssembly.Proofs.Plugin.Recursion
import ObjectAssembly.Proofs.Plugin.Sorting
import ObjectAssembly.Proofs.Plugin.Stability
import ObjectAssembly.Proofs.Plugin.Termination
import ObjectAssembly.Proofs.Printing
import ObjectAssembly.Proofs.Publication
import ObjectAssembly.Proofs.Registrars
import ObjectAssembly.Proofs.Registration
import ObjectAssembly.Proofs.UsageText
import ObjectAssembly.Registry
import ObjectAssembly.Resources
import ObjectAssembly.Sink
import ObjectAssembly.Slots
import ObjectAssembly.Text.Alphanumeric
import ObjectAssembly.Text.Blank
import ObjectAssembly.Text.Cut
import ObjectAssembly.Text.Hexadecimal
import ObjectAssembly.Text.Hidden
import ObjectAssembly.Text.Identifier
import ObjectAssembly.Text.Quoted
import ObjectAssembly.Text.Ranges
import ObjectAssembly.Text.Similarity
import ObjectAssembly.Tracing.Directive
import ObjectAssembly.Tracing.Pattern
import ObjectAssembly.Tracing.Settings
import ObjectAssembly.Usage
import ObjectAssembly.Value
