import Accessors.Text.Unicode
import Accessors.Sorting
import Accessors.Text.Basic
import Accessors.Text.Quote
import Accessors.Number.Decimal
import Accessors.Json.Basic
import Accessors.Declared.Basic
import Accessors.Declared.Expr
import Accessors.Error.Basic
import Accessors.Tag.Basic
import Accessors.Tag.FieldList
import Accessors.Tag.Doc
import Accessors.Cache
import Accessors.Tag.Provider
import Accessors.Error.Describe
import Accessors.Codec.Tag
import Accessors.Source.Token
import Accessors.Source.Scanner
import Accessors.Source.Ast
import Accessors.Source.Parse.State
import Accessors.Source.Parse.Types
import Accessors.Source.Parse.Exprs
import Accessors.Source.Parse.Stmts
import Accessors.Source.Parse.File
import Accessors.Source.Package
import Accessors.Codec.Package
import Accessors.Spec.Basic
import Accessors.Spec.Synthesis
import Accessors.Codec.Spec
import Accessors.Value.Type
import Accessors.Value.Time
import Accessors.Value.Basic
import Accessors.Value.Format
import Accessors.Value.Equal
import Accessors.Value.Convert
import Accessors.Value.Check
import Accessors.Registry
import Accessors.Instance
import Accessors.Codec.Value
import Accessors.ClassMap.Version
import Accessors.Disk
import Accessors.Yaml.Scanner
import Accessors.Yaml.Compose
import Accessors.Yaml.Resolve
import Accessors.Yaml.Bind
import Accessors.Yaml.Emit
import Accessors.ClassMap.Store
import Accessors.ClassMap.Table
import Accessors.Cli.Command
import Accessors.Cli.Parse
import Accessors.Module.ImportPath
import Accessors.Config
import Accessors.Error.Report
import Accessors.Diagnostics
import Accessors.Generation.Summary
import Accessors.Module.Locate
import Accessors.Source.Directory
import Accessors.PackageDirs
import Accessors.Render.Imports
import Accessors.Render.Templates
import Accessors.Source.Print.Comment
import Accessors.Source.Span
import Accessors.Text.Columns
import Accessors.Source.Print.State
import Accessors.Source.ImportFix
import Accessors.Source.Print.Tree
import Accessors.Source.Format
import Accessors.Template.Datum
import Accessors.Template.Builtins
import Accessors.Template.Lex
import Accessors.Template.Tree
import Accessors.Template.Parse
import Accessors.Template.Exec
import Accessors.Render.File
import Accessors.Generation.Run
import Accessors.Generation.Clean
import Accessors.Cli.Execute
import Accessors.Main
import Accessors.Proofs.Cache
import Accessors.Proofs.Synthesis.Steps
import Accessors.Proofs.Synthesis.WellFormed
import Accessors.Proofs.Synthesis.Enumeration
import Accessors.Proofs.Dispatch
import Accessors.Proofs.Representation
import Accessors.Proofs.Binding
import Accessors.Proofs.Conversion
import Accessors.Proofs.Generated
import Accessors.Proofs.Disk.Frame
import Accessors.Proofs.ClassMap.Updates
import Accessors.Proofs.ClassMap.YamlStore
import Accessors.Proofs.Generation.Step
import Accessors.Proofs.Generation.Isolation
import Accessors.Proofs.Generation.Accounting
import Accessors.Proofs.ClassMap.Session
import Accessors.Proofs.Render.Checkers
import Accessors.Proofs.Generation.Rereading
import Accessors.Proofs.Generation.Repetition
import Accessors.Proofs.AccessorLaws
import Accessors.Proofs.Declared.Grammar
import Accessors.Proofs.Tag.Occurrences
import Accessors.Proofs.IntegerConversion
import Accessors.Proofs.Synthesis.Transparency
import Accessors.Proofs.Text.Quoting
import Accessors.Proofs.Text.Lines
import Accessors.Proofs.Tag.FieldTokens
import Accessors.Proofs.Tag.WrittenLists
import Accessors.Proofs.Render.Rejection
import Accessors.Proofs.Equality
import Accessors.Proofs.Render.ImportTable
import Accessors.Proofs.Render.PackageNames
import Accessors.Proofs.PackageDirs
import Accessors.Proofs.Source.Nilable
import Accessors.Proofs.Error.Codes
import Accessors.Proofs.Disk.Paths
import Accessors.Proofs.Generation.Removal
import Accessors.Proofs.Generation.Pruning
import Accessors.Proofs.Generation.Cleaning
