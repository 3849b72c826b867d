import ToolSchema.Number.Numeral
import ToolSchema.Text.Blank
import ToolSchema.Json.Printer
import ToolSchema.Json.Reader
import ToolSchema.Moment.Printer
import ToolSchema.Moment.Reader
import ToolSchema.Issue
import ToolSchema.Field
import ToolSchema.Unicode.Printable
import ToolSchema.Json.Decode
import ToolSchema.Unicode.Word
import ToolSchema.Unicode.CaseFolding
import ToolSchema.Unicode.Category
import ToolSchema.Unicode.Script
import ToolSchema.Unicode.Property
import ToolSchema.Field.Decode
import ToolSchema.Field.Encode
import ToolSchema.Field.Defaults
import ToolSchema.Flat
import ToolSchema.Flat.Decode
import ToolSchema.Flat.Encode
import ToolSchema.Pattern.Expr
import ToolSchema.Pattern.Brackets
import ToolSchema.Table
import ToolSchema.Pattern.Reader
import ToolSchema.Pattern.Places
import ToolSchema.Pattern.Backtrack
import ToolSchema.Pattern
import ToolSchema.Predicate
import ToolSchema.Coercion
import ToolSchema.Validator
import ToolSchema.Validator.Run
import ToolSchema.Options
import ToolSchema.Compile
import ToolSchema.Introspect
import ToolSchema.Declaration
import ToolSchema.Emit
import ToolSchema.Tool
import ToolSchema.Tool.Record
import ToolSchema.Tool.Set
import ToolSchema.Tool.Document
import ToolSchema.Json.Pointer
import ToolSchema.Command.Arguments
import ToolSchema.Command.Files
import ToolSchema.Command.Glob
import ToolSchema.Command.Run
import ToolSchema.Main
import ToolSchema.Proofs.Table
import ToolSchema.Proofs.Verdict
import ToolSchema.Proofs.Locality
import ToolSchema.Proofs.Reports
import ToolSchema.Proofs.Compiled
import ToolSchema.Proofs.Assembly
import ToolSchema.Proofs.FieldTree
import ToolSchema.Proofs.Reading
import ToolSchema.Proofs.Acceptance
import ToolSchema.Proofs.SchemaValidity
import ToolSchema.Proofs.DeclaredFields
import ToolSchema.Proofs.Conformance
import ToolSchema.Proofs.Calls
import ToolSchema.Proofs.StrictCompilers
import ToolSchema.Proofs.Completeness
import ToolSchema.Proofs.Strictness
import ToolSchema.Proofs.LenientCompilers
import ToolSchema.Proofs.ReadBack
import ToolSchema.Proofs.Recoverable
import ToolSchema.Proofs.RoundTrip
import ToolSchema.Proofs.FixedPoint
import ToolSchema.Proofs.Loosening
import ToolSchema.Proofs.FlatReading
import ToolSchema.Proofs.Documents
import ToolSchema.Proofs.Records
import ToolSchema.Proofs.FieldEncoding
import ToolSchema.Proofs.FlatEncoding
import ToolSchema.Proofs.Reloading
import ToolSchema.Proofs.Storing
import ToolSchema.Proofs.ToolSets
import ToolSchema.Proofs.RequiredKeys
import ToolSchema.Proofs.Defaults
import ToolSchema.Proofs.IssuePaths
import ToolSchema.Proofs.Stability
import ToolSchema.Proofs.Rounding
import ToolSchema.Proofs.Numerals
import ToolSchema.Proofs.Calendar
import ToolSchema.Proofs.Instants
import ToolSchema.Proofs.Dates
import ToolSchema.Proofs.Literals
import ToolSchema.Proofs.Modifiers
import ToolSchema.Proofs.Expressions
import ToolSchema.Proofs.Members
import ToolSchema.Proofs.Relaxing
import ToolSchema.Proofs.Reordering
import ToolSchema.Proofs.Introspection
import ToolSchema.Proofs.Preservation
import ToolSchema.Proofs.FlatPatterns
import ToolSchema.Proofs.ResolvedDefaults
import ToolSchema.Proofs.RecordLoading
import ToolSchema.Proofs.ValidationGate
import ToolSchema.Proofs.StringLiterals
import ToolSchema.Proofs.PatternLiterals
import ToolSchema.Proofs.DeclaredNames
