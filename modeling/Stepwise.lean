import Stepwise.Delivery.Dispatcher
import Stepwise.Delivery.Shared
import Stepwise.Delivery.Subscription
import Stepwise.Log
import Stepwise.Pattern.Basic
import Stepwise.Pattern.Delimited
import Stepwise.Pattern.Matcher
import Stepwise.Pattern.Registry
import Stepwise.Pattern.Replacement
import Stepwise.Pattern.Turnip
import Stepwise.Pattern.Unescape
import Stepwise.Regex
import Stepwise.Regex.Blank
import Stepwise.Regex.BracketReader
import Stepwise.Regex.CharSet
import Stepwise.Regex.Draft
import Stepwise.Regex.Escape
import Stepwise.Regex.Expression
import Stepwise.Regex.Fault
import Stepwise.Regex.Footprint
import Stepwise.Regex.Lexeme
import Stepwise.Regex.Look
import Stepwise.Regex.OctetRanges
import Stepwise.Regex.Parse
import Stepwise.Regex.Program
import Stepwise.Regex.Resolve
import Stepwise.Regex.Search
import Stepwise.Regex.SetDraft
import Stepwise.Regex.Tree
import Stepwise.Regex.WordTree
import Stepwise.Report.Catalogue
import Stepwise.Report.Options
import Stepwise.Report.Progress
import Stepwise.Report.Records
import Stepwise.Report.Sections
import Stepwise.Report.Sink
import Stepwise.Report.Statistics
import Stepwise.Report.Stopwatch
import Stepwise.Report.Style
import Stepwise.Run.Event
import Stepwise.Run.Location
import Stepwise.Run.Outcome
import Stepwise.Run.StepError
import Stepwise.Step.Name
import Stepwise.Step.Romanization
import Stepwise.Step.Token
import Stepwise.Text.Buffer
import Stepwise.Text.Lines
import Stepwise.Text.Quoted
import Stepwise.Text.Utf8
import Stepwise.Unicode.Age
import Stepwise.Unicode.Alphabetic
import Stepwise.Unicode.Binary
import Stepwise.Unicode.CaseChange
import Stepwise.Unicode.CaseFold
import Stepwise.Unicode.Category
import Stepwise.Unicode.Later
import Stepwise.Unicode.Property
import Stepwise.Unicode.Ranges
import Stepwise.Unicode.Script
import Stepwise.Unicode.ScriptExtension
import Stepwise.Unicode.Segmentation
import Stepwise.Unicode.Space
import Stepwise.Unicode.Word
import Stepwise.Proofs.Report.CurrentRun
import Stepwise.Proofs.Report.FailurePairing
import Stepwise.Proofs.Regex.Compilation
import Stepwise.Proofs.Regex.Acceptance
import Stepwise.Proofs.Regex.Footprints
import Stepwise.Proofs.Regex.Weights
import Stepwise.Proofs.Turnip.Items
import Stepwise.Proofs.Turnip.Passes
import Stepwise.Proofs.Turnip.Sizes
import Stepwise.Proofs.Turnip.Reading
import Stepwise.Proofs.Delimited.Generation
import Stepwise.Proofs.Turnip.Generation
import Stepwise.Proofs.Pattern.Caching
import Stepwise.Proofs.Delivery.Reentry
import Stepwise.Proofs.Report.Isolation
import Stepwise.Proofs.Step.Recognition
import Stepwise.Proofs.Turnip.Degradation
import Stepwise.Proofs.Pattern.Precedence
import Stepwise.Proofs.Report.Uncoloring
import Stepwise.Proofs.Report.Coloring
import Stepwise.Proofs.Turnip.Rendering
import Stepwise.Proofs.Report.GlyphLines
import Stepwise.Proofs.Report.FailingOutput
import Stepwise.Proofs.Step.Uniqueness
import Stepwise.Proofs.Step.Exchange
import Stepwise.Proofs.Pattern.Revaluation
import Stepwise.Proofs.Delivery.Order
import Stepwise.Proofs.Step.Alternation
import Stepwise.Proofs.Pattern.Units
import Stepwise.Proofs.Delimited.Grammar
import Stepwise.Proofs.Unicode.Names
import Stepwise.Proofs.Regex.Blanks
import Stepwise.Proofs.Regex.Progress
import Stepwise.Proofs.Regex.Properties
import Stepwise.Proofs.Regex.ClassContent
import Stepwise.Proofs.Regex.Unescaping.Blanks
import Stepwise.Proofs.Regex.Unescaping.Escapes
import Stepwise.Proofs.Regex.Unescaping.Groups
import Stepwise.Proofs.Regex.Unescaping.Items
import Stepwise.Proofs.Regex.Unescaping.Classes
import Stepwise.Proofs.Regex.Unescaping.Lexemes
import Stepwise.Proofs.Delimited.Unescaping
import Stepwise.Proofs.Step.Naming
import Stepwise.Proofs.Turnip.Numbering
import Stepwise.Proofs.Turnip.OptionalWords
import Stepwise.Proofs.Report.TallyLines
import Stepwise.Proofs.Text.Encoding
import Stepwise.Proofs.Text.Chunks
import Stepwise.Proofs.Pattern.Edits
import Stepwise.Proofs.Turnip.Insertions
