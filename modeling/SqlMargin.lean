import SqlMargin.Buffer.Basic
import SqlMargin.Buffer.Lexer
import SqlMargin.Command.Help
import SqlMargin.Command.Options
import SqlMargin.Command.Run
import SqlMargin.Command.Toolkit
import SqlMargin.Decimal.Arithmetic
import SqlMargin.Decimal.Binary64
import SqlMargin.Diagnostic
import SqlMargin.Document.Basic
import SqlMargin.Document.Change
import SqlMargin.Document.Columns
import SqlMargin.Document.Margin
import SqlMargin.Fault
import SqlMargin.Files.Disk
import SqlMargin.Files.Fault
import SqlMargin.Files.Guard
import SqlMargin.Files.Indented
import SqlMargin.Files.Mode
import SqlMargin.Files.Path
import SqlMargin.Files.Replacement
import SqlMargin.Files.Resolve
import SqlMargin.Indent.Keyword
import SqlMargin.Indent.Level
import SqlMargin.Indent.Line
import SqlMargin.Indent.Pass
import SqlMargin.Indent.Reading
import SqlMargin.Lexical.Classifier
import SqlMargin.Lexical.Scan
import SqlMargin.Lexical.State
import SqlMargin.Main
import SqlMargin.Moment
import SqlMargin.Nesting
import SqlMargin.Proofs.Buffer.History
import SqlMargin.Proofs.Buffer.Perform
import SqlMargin.Proofs.Buffer.Questions
import SqlMargin.Proofs.Buffer.Roster
import SqlMargin.Proofs.Buffer.Sound
import SqlMargin.Proofs.Command.Convergence
import SqlMargin.Proofs.Command.Inspection
import SqlMargin.Proofs.Command.Modes
import SqlMargin.Proofs.Command.Updates
import SqlMargin.Proofs.Command.Words
import SqlMargin.Proofs.Document.Flat
import SqlMargin.Proofs.Files.Alike
import SqlMargin.Proofs.Files.Clear
import SqlMargin.Proofs.Files.Disk
import SqlMargin.Proofs.Files.Refusal
import SqlMargin.Proofs.Files.Removal
import SqlMargin.Proofs.Files.Replacement
import SqlMargin.Proofs.Files.Safety
import SqlMargin.Proofs.Files.Written
import SqlMargin.Proofs.Indent.Agreement
import SqlMargin.Proofs.Indent.Anchoring
import SqlMargin.Proofs.Indent.BlankLines
import SqlMargin.Proofs.Indent.Blindness
import SqlMargin.Proofs.Indent.Bounds
import SqlMargin.Proofs.Indent.Carry
import SqlMargin.Proofs.Indent.Causality
import SqlMargin.Proofs.Indent.Columns
import SqlMargin.Proofs.Indent.Contents
import SqlMargin.Proofs.Indent.Continuation
import SqlMargin.Proofs.Indent.Endings
import SqlMargin.Proofs.Indent.Faults
import SqlMargin.Proofs.Indent.Hidden
import SqlMargin.Proofs.Indent.Keywords
import SqlMargin.Proofs.Indent.Layout
import SqlMargin.Proofs.Indent.Level
import SqlMargin.Proofs.Indent.Outline
import SqlMargin.Proofs.Indent.Page
import SqlMargin.Proofs.Indent.Pass
import SqlMargin.Proofs.Indent.Records
import SqlMargin.Proofs.Indent.Repetition
import SqlMargin.Proofs.Indent.Scaling
import SqlMargin.Proofs.Indent.Stability
import SqlMargin.Proofs.Indent.Steadiness
import SqlMargin.Proofs.Indent.Totality
import SqlMargin.Proofs.Lexical.Coherence
import SqlMargin.Proofs.Lexical.Depth
import SqlMargin.Proofs.Lexical.Hidden
import SqlMargin.Proofs.Lexical.LineStates
import SqlMargin.Proofs.Lexical.Pieces
import SqlMargin.Proofs.Lexical.Tokenization
import SqlMargin.Proofs.Outcome
import SqlMargin.Proofs.Session.Interleaving
import SqlMargin.Proofs.Session.TabStop
import SqlMargin.Proofs.Settings.Check
import SqlMargin.Proofs.Settings.Discovery
import SqlMargin.Proofs.Settings.Layers
import SqlMargin.Proofs.Settings.Malformed
import SqlMargin.Proofs.Settings.Margins
import SqlMargin.Proofs.Settings.Normalization
import SqlMargin.Proofs.Settings.Search
import SqlMargin.Proofs.Text.Lowering
import SqlMargin.Proofs.Text.Normal
import SqlMargin.Proofs.Text.Offsets
import SqlMargin.Proofs.Text.Unindent
import SqlMargin.Proofs.Text.Utf8
import SqlMargin.Proofs.Text.Words
import SqlMargin.Proofs.Toml.Keys
import SqlMargin.Proofs.Toml.Margins
import SqlMargin.Proofs.Toml.Strings
import SqlMargin.Proofs.Toml.Tables
import SqlMargin.Proofs.Value
import SqlMargin.Session.Basic
import SqlMargin.Settings.Basic
import SqlMargin.Settings.Discovery
import SqlMargin.Settings.Keywords
import SqlMargin.Settings.Override
import SqlMargin.Settings.Problem
import SqlMargin.Settings.SizeLimit
import SqlMargin.Settings.Style
import SqlMargin.Text.Alphanumeric
import SqlMargin.Text.Blank
import SqlMargin.Text.Cased
import SqlMargin.Text.ControlSequence
import SqlMargin.Text.Digit
import SqlMargin.Text.Likeness
import SqlMargin.Text.Lines
import SqlMargin.Text.Lowercase
import SqlMargin.Text.Numeral
import SqlMargin.Text.Printable
import SqlMargin.Text.Quoted
import SqlMargin.Text.Ranges
import SqlMargin.Text.Utf8
import SqlMargin.Toml.Fault
import SqlMargin.Toml.Parser
import SqlMargin.Toml.Scalar
import SqlMargin.Toml.Tables
import SqlMargin.Toml.Text
import SqlMargin.Value
