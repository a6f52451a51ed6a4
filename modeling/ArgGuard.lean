import ArgGuard.Backend.Basic
import ArgGuard.Backend.Caching
import ArgGuard.Backend.Options
import ArgGuard.Backend.Validator
import ArgGuard.Command.File
import ArgGuard.Command.FileTree
import ArgGuard.Command.Invocation
import ArgGuard.Command.Run
import ArgGuard.Command.Settings
import ArgGuard.Decimal.Binary64
import ArgGuard.Decimal.Layout
import ArgGuard.Decimal.Scan
import ArgGuard.Decimal.Shortest
import ArgGuard.Graph.Basic
import ArgGuard.Graph.Coordinate
import ArgGuard.Graph.Definition
import ArgGuard.Graph.Position
import ArgGuard.Interception.Failure
import ArgGuard.Interception.Gateway
import ArgGuard.Interception.Guard
import ArgGuard.Interception.Resolver
import ArgGuard.Interception.ResolverMap
import ArgGuard.Internet.Address
import ArgGuard.Internet.DomainName
import ArgGuard.Internet.Identifier
import ArgGuard.Internet.Mailbox
import ArgGuard.Internet.NameMapping
import ArgGuard.Internet.Punycode
import ArgGuard.Internet.Resolution
import ArgGuard.Json.Basic
import ArgGuard.Json.Conversion
import ArgGuard.Json.Decoding
import ArgGuard.Json.Members
import ArgGuard.Json.Parser
import ArgGuard.Json.Pointer
import ArgGuard.Json.Printer
import ArgGuard.JsonSchema.Assertion
import ArgGuard.JsonSchema.Coercion
import ArgGuard.JsonSchema.Draft
import ArgGuard.JsonSchema.Engine
import ArgGuard.JsonSchema.Format
import ArgGuard.JsonSchema.Library
import ArgGuard.JsonSchema.MetaSchema.Early
import ArgGuard.JsonSchema.MetaSchema.Library
import ArgGuard.JsonSchema.MetaSchema.Recent
import ArgGuard.JsonSchema.MetaSchema.Terms
import ArgGuard.JsonSchema.Moment
import ArgGuard.JsonSchema.Reading
import ArgGuard.JsonSchema.Reference
import ArgGuard.JsonSchema.Schema
import ArgGuard.JsonSchema.ScriptPattern
import ArgGuard.JsonSchema.Subschema
import ArgGuard.JsonSchema.Validation
import ArgGuard.JsonSchema.Value
import ArgGuard.JsonSchema.WellFormed
import ArgGuard.Main
import ArgGuard.Override.Basic
import ArgGuard.Override.Directive
import ArgGuard.Override.Function
import ArgGuard.Override.Store
import ArgGuard.Pattern.Basic
import ArgGuard.Pattern.Expression
import ArgGuard.Pattern.Lookaround
import ArgGuard.Pattern.Machine
import ArgGuard.Pattern.Meaning
import ArgGuard.Pattern.Parser
import ArgGuard.Pattern.Search
import ArgGuard.Proofs.Backend.Caching
import ArgGuard.Proofs.Backend.History
import ArgGuard.Proofs.Backend.Objects
import ArgGuard.Proofs.Backend.Skeleton
import ArgGuard.Proofs.Backend.Termination
import ArgGuard.Proofs.Graph.Classification
import ArgGuard.Proofs.Graph.Folding
import ArgGuard.Proofs.Interception.Integrity
import ArgGuard.Proofs.Interception.Presence
import ArgGuard.Proofs.Interception.Runs
import ArgGuard.Proofs.Interception.Separation
import ArgGuard.Proofs.Interception.Verdict
import ArgGuard.Proofs.Interception.Views
import ArgGuard.Proofs.Json.Pointer
import ArgGuard.Proofs.Json.Structure
import ArgGuard.Proofs.JsonSchema.Coercion
import ArgGuard.Proofs.JsonSchema.Definitions
import ArgGuard.Proofs.JsonSchema.DraftSeven
import ArgGuard.Proofs.JsonSchema.Engine
import ArgGuard.Proofs.JsonSchema.Evaluation
import ArgGuard.Proofs.JsonSchema.Fits
import ArgGuard.Proofs.JsonSchema.Linking
import ArgGuard.Proofs.JsonSchema.Reading
import ArgGuard.Proofs.JsonSchema.Satisfaction
import ArgGuard.Proofs.Members
import ArgGuard.Proofs.Override.Directive
import ArgGuard.Proofs.Override.Effective
import ArgGuard.Proofs.Override.Fits
import ArgGuard.Proofs.Override.Lookup
import ArgGuard.Proofs.Override.Replay
import ArgGuard.Proofs.Override.Store
import ArgGuard.Proofs.Registry.Agreement
import ArgGuard.Proofs.Registry.Coercion
import ArgGuard.Proofs.Registry.Compilability
import ArgGuard.Proofs.Registry.Compiled
import ArgGuard.Proofs.Registry.Conformance
import ArgGuard.Proofs.Registry.Coverage
import ArgGuard.Proofs.Registry.Failures
import ArgGuard.Proofs.Registry.Functions
import ArgGuard.Proofs.Registry.Linked
import ArgGuard.Proofs.Registry.Misfits
import ArgGuard.Proofs.Registry.Order
import ArgGuard.Proofs.Registry.Plain
import ArgGuard.Proofs.Registry.PlainDocument
import ArgGuard.Proofs.Registry.Plans
import ArgGuard.Proofs.Registry.References
import ArgGuard.Proofs.Registry.Required
import ArgGuard.Proofs.Registry.Restriction
import ArgGuard.Proofs.Registry.Slots
import ArgGuard.Proofs.Registry.StandardEngine
import ArgGuard.Proofs.Registry.Success
import ArgGuard.Proofs.Registry.Units
import ArgGuard.Proofs.Schema.Bare
import ArgGuard.Proofs.Schema.Fits
import ArgGuard.Proofs.Schema.Leaves
import ArgGuard.Proofs.Schema.Levels
import ArgGuard.Proofs.Schema.Mentions
import ArgGuard.Proofs.Schema.Misfits
import ArgGuard.Proofs.Schema.Overlay
import ArgGuard.Proofs.Schema.Positions
import ArgGuard.Proofs.Schema.Restriction
import ArgGuard.Proofs.Sdl.Names
import ArgGuard.Proofs.Sequencing
import ArgGuard.Proofs.Shape.Alike
import ArgGuard.Proofs.Shape.Conformance
import ArgGuard.Proofs.Shape.Conservation
import ArgGuard.Proofs.Shape.Evaluation
import ArgGuard.Proofs.Shape.Fits
import ArgGuard.Proofs.Shape.KeyOrder
import ArgGuard.Proofs.Shape.Parts
import ArgGuard.Proofs.Shape.Places
import ArgGuard.Proofs.Shape.Reading
import ArgGuard.Proofs.Shape.Rechecking
import ArgGuard.Proofs.Shape.References
import ArgGuard.Proofs.Shape.Reordering
import ArgGuard.Proofs.Shape.Restriction
import ArgGuard.Proofs.Shape.Traversal
import ArgGuard.Registry.Basic
import ArgGuard.Registry.Blueprint
import ArgGuard.Schema.Dialect
import ArgGuard.Schema.Inference
import ArgGuard.Schema.Synthesis
import ArgGuard.Sdl.Constant
import ArgGuard.Sdl.Document
import ArgGuard.Sdl.Lexical
import ArgGuard.Shape.Basic
import ArgGuard.Shape.Checker
import ArgGuard.Shape.Format
import ArgGuard.Shape.Parser
import ArgGuard.Text.Base64
import ArgGuard.Text.Blank
import ArgGuard.Text.Fields
import ArgGuard.Text.Reader
import ArgGuard.Text.Utf8
import ArgGuard.Toml.Document
import ArgGuard.Toml.Lexical
import ArgGuard.Toml.Table
import ArgGuard.Toml.Value
import ArgGuard.Unicode.Age
import ArgGuard.Unicode.CaseFold
import ArgGuard.Unicode.Category
import ArgGuard.Unicode.CharSet
import ArgGuard.Unicode.Combining
import ArgGuard.Unicode.Composition
import ArgGuard.Unicode.Direction
import ArgGuard.Unicode.Encoding
import ArgGuard.Unicode.Joining
import ArgGuard.Unicode.NormalForm
import ArgGuard.Unicode.Property
import ArgGuard.Unicode.PropertyName
import ArgGuard.Unicode.PropertyTable
import ArgGuard.Unicode.Ranges
import ArgGuard.Unicode.Script
import ArgGuard.Unicode.Segmentation
