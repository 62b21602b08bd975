import TechniquePages.Binary64
import TechniquePages.Binary64.Shortest
import TechniquePages.CommandLine
import TechniquePages.CommandLine.Invocation
import TechniquePages.CommandLine.Usage
import TechniquePages.Conversion
import TechniquePages.Corpus
import TechniquePages.Files.Action
import TechniquePages.Files.Path
import TechniquePages.Files.Tree
import TechniquePages.Format
import TechniquePages.Html.NamedReference
import TechniquePages.Html.Reference
import TechniquePages.Json.Fault
import TechniquePages.Json.Number
import TechniquePages.Json.Quoted
import TechniquePages.Json.Reading
import TechniquePages.Json.Source
import TechniquePages.Json.Value
import TechniquePages.Log
import TechniquePages.Main
import TechniquePages.Page.DependencyBlock
import TechniquePages.Page.ExecutorBlock
import TechniquePages.Page.InputsTable
import TechniquePages.Page.Line
import TechniquePages.Page.Marker
import TechniquePages.Page.Platform
import TechniquePages.Page.Reading
import TechniquePages.Page.Scan
import TechniquePages.Page.Writing
import TechniquePages.Proofs.Corpus.Beside
import TechniquePages.Proofs.Corpus.Discovery
import TechniquePages.Proofs.Corpus.Footprint
import TechniquePages.Proofs.Corpus.Isolation
import TechniquePages.Proofs.Corpus.Names
import TechniquePages.Proofs.Corpus.Outputs
import TechniquePages.Proofs.Corpus.Runs
import TechniquePages.Proofs.Files.Folders
import TechniquePages.Proofs.Files.Growth
import TechniquePages.Proofs.Files.Locating
import TechniquePages.Proofs.Files.Making
import TechniquePages.Proofs.Files.Order
import TechniquePages.Proofs.Files.Parents
import TechniquePages.Proofs.Files.Pieces
import TechniquePages.Proofs.Html.Decoding
import TechniquePages.Proofs.Html.Escaping
import TechniquePages.Proofs.Html.Ink
import TechniquePages.Proofs.Json.Canonical
import TechniquePages.Proofs.Json.Escapes
import TechniquePages.Proofs.Json.Layout
import TechniquePages.Proofs.Json.Records
import TechniquePages.Proofs.Json.Reread
import TechniquePages.Proofs.Page.Acceptance
import TechniquePages.Proofs.Page.Blocks
import TechniquePages.Proofs.Page.DependencyChunks
import TechniquePages.Proofs.Page.DependencyTexts
import TechniquePages.Proofs.Page.FencedCode
import TechniquePages.Proofs.Page.Fences
import TechniquePages.Proofs.Page.FormOpenings
import TechniquePages.Proofs.Page.Independence
import TechniquePages.Proofs.Page.IndexAnchors
import TechniquePages.Proofs.Page.InertCode
import TechniquePages.Proofs.Page.InterpreterNames
import TechniquePages.Proofs.Page.LoneTest
import TechniquePages.Proofs.Page.Marking
import TechniquePages.Proofs.Page.NormalForm
import TechniquePages.Proofs.Page.OwnBlocks
import TechniquePages.Proofs.Page.PageLines
import TechniquePages.Proofs.Page.PageText
import TechniquePages.Proofs.Page.PlainTests
import TechniquePages.Proofs.Page.PlatformNames
import TechniquePages.Proofs.Page.Printable
import TechniquePages.Proofs.Page.ReadShape
import TechniquePages.Proofs.Page.Recoding
import TechniquePages.Proofs.Page.Recorded
import TechniquePages.Proofs.Page.Renumbering
import TechniquePages.Proofs.Page.Rewriting
import TechniquePages.Proofs.Page.RoundTrip
import TechniquePages.Proofs.Page.RowBorders
import TechniquePages.Proofs.Page.ScanForm
import TechniquePages.Proofs.Page.Scanning
import TechniquePages.Proofs.Page.Sections
import TechniquePages.Proofs.Page.ShellText
import TechniquePages.Proofs.Page.StrayLines
import TechniquePages.Proofs.Page.StrayProse
import TechniquePages.Proofs.Page.TableInk
import TechniquePages.Proofs.Page.TableRoundTrip
import TechniquePages.Proofs.Page.WrittenDependencies
import TechniquePages.Proofs.Page.WrittenExecutor
import TechniquePages.Proofs.Page.WrittenFront
import TechniquePages.Proofs.Page.WrittenLines
import TechniquePages.Proofs.Page.WrittenPage
import TechniquePages.Proofs.Page.WrittenSection
import TechniquePages.Proofs.Page.WrittenTable
import TechniquePages.Proofs.Technique.ArgumentRuns
import TechniquePages.Proofs.Technique.Arguments
import TechniquePages.Proofs.Technique.CheckedRecord
import TechniquePages.Proofs.Technique.RecordRoundTrip
import TechniquePages.Proofs.Technique.RepeatedNames
import TechniquePages.Proofs.Technique.Representable
import TechniquePages.Proofs.Technique.Reshaping
import TechniquePages.Proofs.Text.Lines
import TechniquePages.Proofs.Text.Trim
import TechniquePages.Proofs.Unicode.Lower
import TechniquePages.Schema
import TechniquePages.Schema.Check
import TechniquePages.Schema.Form
import TechniquePages.Schema.Numeric
import TechniquePages.Schema.Pattern
import TechniquePages.Schema.Violation
import TechniquePages.Settings
import TechniquePages.Settings.Merge
import TechniquePages.Settings.Setting
import TechniquePages.Technique
import TechniquePages.Technique.Record
import TechniquePages.Technique.Record.Reading
import TechniquePages.Text
import TechniquePages.Text.Bytes
import TechniquePages.Text.Quotation
import TechniquePages.Toml
import TechniquePages.Toml.Moment
import TechniquePages.Toml.Reading
import TechniquePages.Toml.Token
import TechniquePages.Unicode.Case
import TechniquePages.Unicode.CharacterClass
