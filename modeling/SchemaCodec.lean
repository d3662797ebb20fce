import SchemaCodec.BaseSystem
import SchemaCodec.Codec.Basic
import SchemaCodec.Codec.Binding
import SchemaCodec.Codec.Reader
import SchemaCodec.Codec.Writer
import SchemaCodec.CommandLine.Arguments
import SchemaCodec.CommandLine.Invocation
import SchemaCodec.CommandLine.PlanReport
import SchemaCodec.CommandLine.Run
import SchemaCodec.CommandLine.Similar
import SchemaCodec.Console
import SchemaCodec.Console.CellWidth
import SchemaCodec.Console.Cluster
import SchemaCodec.Console.ColorTable
import SchemaCodec.Console.Layout
import SchemaCodec.Console.Literal
import SchemaCodec.Console.Markup
import SchemaCodec.Console.Picture
import SchemaCodec.Console.PictureTable
import SchemaCodec.Console.Style
import SchemaCodec.Console.Table
import SchemaCodec.Decimal.Binary64
import SchemaCodec.Decimal.Shortest
import SchemaCodec.Dependency.Cycle
import SchemaCodec.Dependency.Order
import SchemaCodec.Dependency.Plan
import SchemaCodec.Descriptor.Basic
import SchemaCodec.Descriptor.Convert
import SchemaCodec.DirectoryPath
import SchemaCodec.Document.Read
import SchemaCodec.Document.Shape
import SchemaCodec.Document.Write
import SchemaCodec.FileTree
import SchemaCodec.Formatter
import SchemaCodec.Generate
import SchemaCodec.Grammar.Literal
import SchemaCodec.Grammar.Read
import SchemaCodec.Grammar.State
import SchemaCodec.Grammar.Token
import SchemaCodec.Grammar.Tree
import SchemaCodec.Identifier
import SchemaCodec.Json.Basic
import SchemaCodec.Json.Display
import SchemaCodec.Json.Print
import SchemaCodec.Json.Read
import SchemaCodec.Kind
import SchemaCodec.Main
import SchemaCodec.Plugin.Answer
import SchemaCodec.Plugin.Parameter
import SchemaCodec.Plugin.Run
import SchemaCodec.Proofs.CaseForms
import SchemaCodec.Proofs.Codec.Bindings
import SchemaCodec.Proofs.Codec.DecodedLines
import SchemaCodec.Proofs.Codec.EncodedLines
import SchemaCodec.Proofs.Codec.LoopVariables
import SchemaCodec.Proofs.Codec.Mentions
import SchemaCodec.Proofs.Codec.Mirror
import SchemaCodec.Proofs.Codec.Vocabulary
import SchemaCodec.Proofs.Codec.WireStep
import SchemaCodec.Proofs.CommandLine.Generating
import SchemaCodec.Proofs.CommandLine.Loading
import SchemaCodec.Proofs.Dependency.Cycle
import SchemaCodec.Proofs.Dependency.Imports
import SchemaCodec.Proofs.Dependency.Order
import SchemaCodec.Proofs.Dependency.Plan
import SchemaCodec.Proofs.Dependency.Priority
import SchemaCodec.Proofs.Dependency.Reachability
import SchemaCodec.Proofs.Descriptor.Conversion
import SchemaCodec.Proofs.Distinct
import SchemaCodec.Proofs.Document.RoundTrip
import SchemaCodec.Proofs.FileTree
import SchemaCodec.Proofs.Generation
import SchemaCodec.Proofs.Grammar.Acceptance
import SchemaCodec.Proofs.Grammar.Consumption
import SchemaCodec.Proofs.Grammar.Derivations
import SchemaCodec.Proofs.Grammar.Lines
import SchemaCodec.Proofs.Grammar.Numbers
import SchemaCodec.Proofs.Grammar.Pieces
import SchemaCodec.Proofs.Grammar.Places
import SchemaCodec.Proofs.Grammar.Reading
import SchemaCodec.Proofs.Grammar.Recognition
import SchemaCodec.Proofs.Grammar.Rules
import SchemaCodec.Proofs.Grammar.Spelling
import SchemaCodec.Proofs.Grammar.Viability
import SchemaCodec.Proofs.Identifier
import SchemaCodec.Proofs.Json.ReadPrint
import SchemaCodec.Proofs.Kind
import SchemaCodec.Proofs.Outcome
import SchemaCodec.Proofs.Plugin.Answers
import SchemaCodec.Proofs.Plugin.Parameters
import SchemaCodec.Proofs.Rendering.Agreement
import SchemaCodec.Proofs.Rendering.Blocks
import SchemaCodec.Proofs.Rendering.Brackets
import SchemaCodec.Proofs.Rendering.CaptureFree
import SchemaCodec.Proofs.Rendering.CodeLines
import SchemaCodec.Proofs.Rendering.Comments
import SchemaCodec.Proofs.Rendering.Containment
import SchemaCodec.Proofs.Rendering.DistinctNames
import SchemaCodec.Proofs.Rendering.DocLines
import SchemaCodec.Proofs.Rendering.EnumCode
import SchemaCodec.Proofs.Rendering.EnumLayout
import SchemaCodec.Proofs.Rendering.Faults
import SchemaCodec.Proofs.Rendering.FieldNames
import SchemaCodec.Proofs.Rendering.KnownTypes
import SchemaCodec.Proofs.Rendering.LegalIdentifiers
import SchemaCodec.Proofs.Rendering.LegalNames
import SchemaCodec.Proofs.Rendering.Locality
import SchemaCodec.Proofs.Rendering.Lookups
import SchemaCodec.Proofs.Rendering.MapUses
import SchemaCodec.Proofs.Rendering.MethodBodies
import SchemaCodec.Proofs.Rendering.MethodLines
import SchemaCodec.Proofs.Rendering.ScopeNames
import SchemaCodec.Proofs.Rendering.TableFaults
import SchemaCodec.Proofs.Rendering.TypeMentions
import SchemaCodec.Proofs.Rendering.Uncommented
import SchemaCodec.Proofs.RoundTrip.Carries
import SchemaCodec.Proofs.RoundTrip.Codable
import SchemaCodec.Proofs.RoundTrip.Fields
import SchemaCodec.Proofs.RoundTrip.Generated
import SchemaCodec.Proofs.RoundTrip.Messages
import SchemaCodec.Proofs.RoundTrip.PlainStarts
import SchemaCodec.Proofs.RoundTrip.Values
import SchemaCodec.Proofs.Schema.AddedFiles
import SchemaCodec.Proofs.Schema.Build
import SchemaCodec.Proofs.Schema.CommentBlocks
import SchemaCodec.Proofs.Schema.DeclarationLines
import SchemaCodec.Proofs.Schema.Declarations
import SchemaCodec.Proofs.Schema.FieldOrder
import SchemaCodec.Proofs.Schema.Imports
import SchemaCodec.Proofs.Schema.Index
import SchemaCodec.Proofs.Schema.InnermostScope
import SchemaCodec.Proofs.Schema.InputNames
import SchemaCodec.Proofs.Schema.InputOrder
import SchemaCodec.Proofs.Schema.Inputs
import SchemaCodec.Proofs.Schema.LineComments
import SchemaCodec.Proofs.Schema.Literals
import SchemaCodec.Proofs.Schema.Loading
import SchemaCodec.Proofs.Schema.Names
import SchemaCodec.Proofs.Schema.Reports
import SchemaCodec.Proofs.Schema.RequestOrder
import SchemaCodec.Proofs.Schema.ReservedNumbers
import SchemaCodec.Proofs.Schema.Resolution
import SchemaCodec.Proofs.Schema.SyntaxFaults
import SchemaCodec.Proofs.Schema.Uncommented
import SchemaCodec.Proofs.Schema.Validation
import SchemaCodec.Proofs.Schema.Written
import SchemaCodec.Proofs.Semantics.ByKind
import SchemaCodec.Proofs.Semantics.Decoding
import SchemaCodec.Proofs.Semantics.Encoding
import SchemaCodec.Proofs.Semantics.Methods
import SchemaCodec.Proofs.Semantics.Parts
import SchemaCodec.Proofs.Semantics.Runs
import SchemaCodec.Proofs.Semantics.Typing
import SchemaCodec.Proofs.Semantics.Value
import SchemaCodec.Proofs.Semantics.VisitOrder
import SchemaCodec.Proofs.Sorting
import SchemaCodec.Proofs.Text.Radix
import SchemaCodec.Proofs.Text.TrailingComment
import SchemaCodec.Proofs.Text.Utf8
import SchemaCodec.Proofs.TreeWrites
import SchemaCodec.Rendering.Block
import SchemaCodec.Rendering.EnumLayout
import SchemaCodec.Rendering.Source
import SchemaCodec.Rendering.Type
import SchemaCodec.Schema.Basic
import SchemaCodec.Schema.Build
import SchemaCodec.Schema.Draft
import SchemaCodec.Schema.Error
import SchemaCodec.Schema.Index
import SchemaCodec.Schema.Load
import SchemaCodec.Schema.Path
import SchemaCodec.Schema.Resolve
import SchemaCodec.Text.Alphanumeric
import SchemaCodec.Text.Blank
import SchemaCodec.Text.Case
import SchemaCodec.Text.CaseTable
import SchemaCodec.Text.CharacterName
import SchemaCodec.Text.CharacterName.Alias
import SchemaCodec.Text.CharacterName.Alphabets
import SchemaCodec.Text.CharacterName.Ancient
import SchemaCodec.Text.CharacterName.Notation
import SchemaCodec.Text.CharacterName.Syllabaries
import SchemaCodec.Text.CharacterName.Symbols
import SchemaCodec.Text.CodePoints
import SchemaCodec.Text.Comment
import SchemaCodec.Text.ControlSequence
import SchemaCodec.Text.Digit
import SchemaCodec.Text.Escape
import SchemaCodec.Text.Line
import SchemaCodec.Text.Printable
import SchemaCodec.Text.Quoted
import SchemaCodec.Text.Radix
import SchemaCodec.Text.Split
import SchemaCodec.Text.Utf8
import SchemaCodec.Wire.Record
import SchemaCodec.Wire.Request
