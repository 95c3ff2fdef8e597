import ClassScribe.CommandLine.Arguments
import ClassScribe.CommandLine.Formats
import ClassScribe.CommandLine.Run
import ClassScribe.Emission.ClassText
import ClassScribe.Emission.Context
import ClassScribe.Emission.Emitter
import ClassScribe.Emission.Outlines
import ClassScribe.Emission.Shipped
import ClassScribe.Expr.Basic
import ClassScribe.Expr.Eval
import ClassScribe.Expr.Filter
import ClassScribe.Expr.Parser
import ClassScribe.Expr.Pattern
import ClassScribe.Expr.Source
import ClassScribe.Expr.Token
import ClassScribe.Files.Path
import ClassScribe.Files.Listing
import ClassScribe.Files.System
import ClassScribe.Files.Tree
import ClassScribe.Ini.Document
import ClassScribe.Json.Codec
import ClassScribe.Json.Document
import ClassScribe.Json.NumberLiteral
import ClassScribe.Json.Parser
import ClassScribe.Json.Text
import ClassScribe.Json5.Document
import ClassScribe.Json5.Scalar
import ClassScribe.Json5.Text
import ClassScribe.Number.Basic
import ClassScribe.Number.Binary64
import ClassScribe.Number.Extended
import ClassScribe.Number.Layout
import ClassScribe.Number.Numeral
import ClassScribe.Number.Shortest
import ClassScribe.Ron.Document
import ClassScribe.Ron.Text
import ClassScribe.Schema.Accessor
import ClassScribe.Schema.ClassSpec
import ClassScribe.Schema.Decoding
import ClassScribe.Schema.EnumTable
import ClassScribe.Schema.JsonFormat
import ClassScribe.Schema.Naming
import ClassScribe.Schema.ParamValue
import ClassScribe.Schema.SchemaFile
import ClassScribe.Schema.ValueType
import ClassScribe.Schema.YamlFormat
import ClassScribe.Settings.Configuration
import ClassScribe.Settings.Formats
import ClassScribe.Settings.KeyPath
import ClassScribe.Settings.Setting
import ClassScribe.Settings.Source
import ClassScribe.Template.Basic
import ClassScribe.Template.Chain
import ClassScribe.Template.Composition
import ClassScribe.Template.Directory
import ClassScribe.Template.Error
import ClassScribe.Template.Grammar
import ClassScribe.Template.Inheritance
import ClassScribe.Template.Library
import ClassScribe.Template.Listing
import ClassScribe.Template.Outline
import ClassScribe.Template.Parser
import ClassScribe.Template.Piece
import ClassScribe.Template.Rendering
import ClassScribe.Template.Slots
import ClassScribe.Template.Source
import ClassScribe.Template.Spacing
import ClassScribe.Template.Validation
import ClassScribe.Text.Blank
import ClassScribe.Text.CharRange
import ClassScribe.Text.Fill
import ClassScribe.Text.Letter
import ClassScribe.Text.LetterCase
import ClassScribe.Text.Margin
import ClassScribe.Text.Part
import ClassScribe.Text.Quoted
import ClassScribe.Text.WordCase
import ClassScribe.Toml.Document
import ClassScribe.Toml.Item
import ClassScribe.Toml.Quoted
import ClassScribe.Toml.Scalar
import ClassScribe.Toml.Statement
import ClassScribe.Toml.Text
import ClassScribe.Toml.Value
import ClassScribe.Value
import ClassScribe.Yaml.Atom
import ClassScribe.Yaml.Cursor
import ClassScribe.Yaml.Document
import ClassScribe.Yaml.Node
import ClassScribe.Yaml.Property
import ClassScribe.Yaml.Scalar
import ClassScribe.Yaml.Token
import ClassScribe.Main
import ClassScribe.Proofs.Outcome
import ClassScribe.Proofs.Text.Splitting
import ClassScribe.Proofs.Expr.Spelling
import ClassScribe.Proofs.Expr.Grammar
import ClassScribe.Proofs.Expr.RoundTrip
import ClassScribe.Proofs.Expr.Trimming
import ClassScribe.Proofs.Expr.Evaluation
import ClassScribe.Proofs.Template.Memory
import ClassScribe.Proofs.Template.Composition
import ClassScribe.Proofs.Template.Rendering
import ClassScribe.Proofs.Template.Statement
import ClassScribe.Proofs.Template.Grammar
import ClassScribe.Proofs.Template.Reading
import ClassScribe.Proofs.Template.Acceptance
import ClassScribe.Proofs.Template.Lineage
import ClassScribe.Proofs.Template.Failures
import ClassScribe.Proofs.Template.Lexing
import ClassScribe.Proofs.Template.Phrasing
import ClassScribe.Proofs.Template.Inlining
import ClassScribe.Proofs.Template.RoundTrip
import ClassScribe.Proofs.Emission.Shipped
import ClassScribe.Proofs.Emission.Pieces
import ClassScribe.Proofs.Emission.Accessors
import ClassScribe.Proofs.Emission.Enumeration
import ClassScribe.Proofs.Template.Course
import ClassScribe.Proofs.Expr.Faults
import ClassScribe.Proofs.Template.Checked
import ClassScribe.Proofs.Template.Rewording
import ClassScribe.Proofs.Template.Likeness
import ClassScribe.Proofs.Template.Spacing
import ClassScribe.Template.Layering
import ClassScribe.Proofs.Template.Layering
import ClassScribe.Proofs.Template.Ancestry
import ClassScribe.Proofs.Template.Forest
import ClassScribe.Emission.EmittedMap
import ClassScribe.Proofs.Number.Digits
import ClassScribe.Proofs.Number.Whole
import ClassScribe.Proofs.Number.Shortest
import ClassScribe.Proofs.Emission.EmittedMap
import ClassScribe.Json.Rereading
import ClassScribe.Schema.Written
import ClassScribe.Proofs.Json.Literals
import ClassScribe.Proofs.Json.Reading
import ClassScribe.Proofs.Schema.TypeTag
import ClassScribe.Proofs.Schema.Decoding
import ClassScribe.Proofs.Schema.Written
import ClassScribe.Proofs.Template.Variables
import ClassScribe.CommandLine.Effect
import ClassScribe.Proofs.CommandLine.Writing
import ClassScribe.Proofs.Emission.Overriding
import ClassScribe.Proofs.Template.Stacks
import ClassScribe.Proofs.Template.Rounds
import ClassScribe.Proofs.Expr.Indexing
import ClassScribe.Proofs.Template.Relating
import ClassScribe.Proofs.Template.Division
import ClassScribe.Proofs.Template.Junction
import ClassScribe.Proofs.Template.Indentation
import ClassScribe.Template.CommentLine
import ClassScribe.Proofs.Template.CommentLine
import ClassScribe.Template.RawSection
import ClassScribe.Proofs.Template.RawSection
import ClassScribe.Proofs.Text.Words
import ClassScribe.Proofs.Text.Filling
import ClassScribe.Proofs.Schema.Description
import ClassScribe.Template.Nesting
import ClassScribe.Proofs.Template.Nesting
import ClassScribe.Template.Opening
import ClassScribe.Proofs.Template.Openings
import ClassScribe.Proofs.Template.Lines
import ClassScribe.Text.Unquoted
import ClassScribe.Template.Respacing
import ClassScribe.Proofs.Expr.Separation
import ClassScribe.Proofs.Template.Interchange
import ClassScribe.Proofs.Template.Respacing
import ClassScribe.Proofs.Text.Casing
import ClassScribe.Proofs.Schema.ConstantKey
import ClassScribe.Proofs.Schema.ArgumentName
import ClassScribe.Proofs.Schema.Cleaning
import ClassScribe.Proofs.Schema.Rewrapping
import ClassScribe.Proofs.Schema.BetweenNotes
import ClassScribe.Proofs.Schema.NormalForm
import ClassScribe.Proofs.Text.Margin
import ClassScribe.Proofs.Emission.Scripts
import ClassScribe.Emission.TextLiteral
import ClassScribe.Proofs.Emission.TextLiteral
import ClassScribe.Proofs.Schema.TagGrammar
import ClassScribe.Proofs.Schema.EnumTable
import ClassScribe.Proofs.Expr.Operators
import ClassScribe.Proofs.Expr.Formatting
import ClassScribe.Proofs.Lookup
import ClassScribe.Proofs.Expr.Equality
import ClassScribe.Proofs.Number.Nearest
import ClassScribe.Proofs.Expr.Integers
import ClassScribe.Proofs.Files.Listing
import ClassScribe.Proofs.Template.Directory
