import LicenseHeaders.Text.CodeRanges
import LicenseHeaders.Text.Blank
import LicenseHeaders.Text.Alphanumeric
import LicenseHeaders.Text.Printable
import LicenseHeaders.Text.DecimalDigit
import LicenseHeaders.Text.Identifier
import LicenseHeaders.Text.LetterCase
import LicenseHeaders.Text.CaseEquivalence
import LicenseHeaders.Text.Quoted
import LicenseHeaders.Text.Lines
import LicenseHeaders.Text.Utf8
import LicenseHeaders.Text.WholeNumber
import LicenseHeaders.Verdict
import LicenseHeaders.Regex.Pattern
import LicenseHeaders.Regex.Match
import LicenseHeaders.Text.CharacterName
import LicenseHeaders.Regex.Parser
import LicenseHeaders.Decimal.Double
import LicenseHeaders.Decimal.Shortest
import LicenseHeaders.Fault
import LicenseHeaders.Matcher.Phrase
import LicenseHeaders.Matcher.Copyright
import LicenseHeaders.Matcher.Spdx
import LicenseHeaders.Matcher.Basic
import LicenseHeaders.Toml.Parser
import LicenseHeaders.Xml.Element
import LicenseHeaders.Document.Basic
import LicenseHeaders.Document.Tables
import LicenseHeaders.Xml.Parser
import LicenseHeaders.Document.Elements
import LicenseHeaders.Document.Parse
import LicenseHeaders.Builder.Kind
import LicenseHeaders.Builder.Basic
import LicenseHeaders.Builder.Identifiers
import LicenseHeaders.Event
import LicenseHeaders.Builder.Catalogue
import LicenseHeaders.License
import LicenseHeaders.Policy
import LicenseHeaders.Reader
import LicenseHeaders.Text.Separated
import LicenseHeaders.Path
import LicenseHeaders.FileTree
import LicenseHeaders.Address.Numeric
import LicenseHeaders.Address.Basic
import LicenseHeaders.Address.File
import LicenseHeaders.Document.Load
import LicenseHeaders.DefaultRules
import LicenseHeaders.Analysis
import LicenseHeaders.Text.Occurrence
import LicenseHeaders.Settings.Basic
import LicenseHeaders.Settings.Find
import LicenseHeaders.Engine
import LicenseHeaders.Text.DisplayWidth
import LicenseHeaders.Report.Record
import LicenseHeaders.Report.Table
import LicenseHeaders.Report.Results
import LicenseHeaders.Command.Word
import LicenseHeaders.Command.Arguments
import LicenseHeaders.Command.Run
import LicenseHeaders.Main
import LicenseHeaders.Proofs.Builder.Workbench
import LicenseHeaders.Proofs.Reader.Meaning
import LicenseHeaders.Proofs.Reader.Order
import LicenseHeaders.Proofs.Reader.Retry
import LicenseHeaders.Proofs.Analysis.Reuse
import LicenseHeaders.Proofs.Reader.Session
import LicenseHeaders.Proofs.Reader.Blame
import LicenseHeaders.Proofs.Reader.Forms
import LicenseHeaders.Proofs.Reader.Image
import LicenseHeaders.Proofs.Reader.Extension
import LicenseHeaders.Proofs.Command.Arguments
import LicenseHeaders.Proofs.Command.Settings
import LicenseHeaders.Proofs.Reader.Frozen
import LicenseHeaders.Proofs.Command.Checking
import LicenseHeaders.Proofs.Matcher.Window
import LicenseHeaders.Proofs.Matcher.Layout
import LicenseHeaders.Proofs.Regex.Spelling
import LicenseHeaders.Proofs.Regex.Numbering
import LicenseHeaders.Proofs.Regex.Relating
import LicenseHeaders.Proofs.Regex.Reading
import LicenseHeaders.Proofs.Regex.Fragment
import LicenseHeaders.Proofs.Regex.Sequences
import LicenseHeaders.Proofs.Regex.Splicing
import LicenseHeaders.Proofs.Text.Caseless
import LicenseHeaders.Proofs.Text.Trimming
import LicenseHeaders.Proofs.Regex.Literal
import LicenseHeaders.Proofs.Matcher.Sign
import LicenseHeaders.Proofs.Regex.Composing
import LicenseHeaders.Proofs.Matcher.NoticePatterns
import LicenseHeaders.Proofs.Matcher.Grammar
import LicenseHeaders.Proofs.Matcher.Owner
import LicenseHeaders.Proofs.Text.BasicLatin
import LicenseHeaders.Proofs.Matcher.Tag
import LicenseHeaders.Proofs.Matcher.Expression
import LicenseHeaders.Proofs.Matcher.LicenseName
import LicenseHeaders.Proofs.Text.Utf8
import LicenseHeaders.Proofs.Text.Lines
import LicenseHeaders.Proofs.Analysis.Sources
import LicenseHeaders.Proofs.Regex.Mirroring
import LicenseHeaders.Proofs.Regex.Refusing
import LicenseHeaders.Proofs.Matcher.InvalidOwner
import LicenseHeaders.Proofs.Matcher.LifeCycle
import LicenseHeaders.Proofs.Reader.Registration
import LicenseHeaders.Proofs.Reader.Steps
import LicenseHeaders.Proofs.Reader.Batch
import LicenseHeaders.Proofs.Reader.Alias
import LicenseHeaders.Proofs.Refusal
import LicenseHeaders.Proofs.Toml.Numbers
import LicenseHeaders.Proofs.Settings.Loading
import LicenseHeaders.Proofs.Settings.Finding
import LicenseHeaders.Proofs.Settings.Nearest
import LicenseHeaders.Proofs.Settings.Faults
import LicenseHeaders.Proofs.Document.Refusing
import LicenseHeaders.Proofs.Command.Rules
import LicenseHeaders.Proofs.Command.Window
