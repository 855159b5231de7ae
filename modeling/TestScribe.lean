import TestScribe.Action.Value
import TestScribe.Main
import TestScribe.Proofs.Disk.Writing
import TestScribe.Proofs.Generate.OutputPath
import TestScribe.Proofs.Generate.Isolation
import TestScribe.Proofs.Generate.Outputs
import TestScribe.Proofs.Action.Literal
import TestScribe.Proofs.Markup.References
import TestScribe.Proofs.Markup.Tags
import TestScribe.Proofs.Text.Replacing
import TestScribe.Proofs.Markup.Forest
import TestScribe.Proofs.Markup.Growth
import TestScribe.Proofs.Markup.Spelling
import TestScribe.Proofs.Markup.WrittenForm
import TestScribe.Proofs.Recording.Breaks
import TestScribe.Proofs.Recording.Recorded
import TestScribe.Proofs.Recording.Rounds
import TestScribe.Proofs.Recording.Cells
import TestScribe.Proofs.Recording.Document
import TestScribe.Proofs.Recording.RoundTrip
import TestScribe.Proofs.Action.Locator
import TestScribe.Proofs.Recording.Navigation
import TestScribe.Proofs.Disk.Files
import TestScribe.Proofs.Disk.Directories
import TestScribe.Proofs.Disk.Patterns
import TestScribe.Proofs.Generate.Plans
import TestScribe.Proofs.Generate.Independence
import TestScribe.Proofs.Generate.Rerun
import TestScribe.Proofs.Generate.FirstFailure
import TestScribe.Proofs.Action.Counting
import TestScribe.Proofs.Action.Notices
import TestScribe.Proofs.Generate.Outcome
import TestScribe.Proofs.Generate.SafeNames
import TestScribe.Proofs.Recording.Places
import TestScribe.Proofs.Recording.Survival
import TestScribe.Proofs.Table.Columns
import TestScribe.Proofs.Table.Reading
import TestScribe.Proofs.Table.Records
import TestScribe.Proofs.Table.Written
import TestScribe.Proofs.Markup.Closing
import TestScribe.Proofs.Markup.Scanning
import TestScribe.Proofs.Markup.Lexing
import TestScribe.Proofs.Markup.Grown
import TestScribe.Proofs.Markup.ReadingOrder
import TestScribe.Proofs.Markup.Rereading
import TestScribe.Proofs.Recording.LineBreaks
import TestScribe.Proofs.Settings.Commuting
import TestScribe.Proofs.Settings.Kinds
import TestScribe.Proofs.Settings.Calls
import TestScribe.Proofs.CommandLine.Accounting
import TestScribe.Proofs.CommandLine.FailureNames
import TestScribe.Proofs.Text.Pieces
import TestScribe.Proofs.TestClass.Rendering
import TestScribe.Proofs.Outline.Depicting
import TestScribe.Proofs.Recording.CellMarkup
import TestScribe.Proofs.Generate.ExactScan
import TestScribe.Proofs.Recording.AsciiForm
import TestScribe.Proofs.Generate.Precedence
import TestScribe.Proofs.Json.Printing
import TestScribe.Proofs.CommandLine.PrintedTable
import TestScribe.Proofs.Table.BlankLines
import TestScribe.Proofs.TestClass.WordBreaks
import TestScribe.Proofs.Settings.ProjectSearch
