import NoteForms.Answer.Basic
import NoteForms.Answer.Encoding
import NoteForms.Answer.Frontmatter
import NoteForms.Answer.Reader
import NoteForms.CommandLine.Argument
import NoteForms.CommandLine.Command
import NoteForms.CommandLine.Fault
import NoteForms.CommandLine.Reach
import NoteForms.CommandLine.Run
import NoteForms.CommandLine.Usage
import NoteForms.Condition.Basic
import NoteForms.Condition.Encoding
import NoteForms.Condition.Validation
import NoteForms.Console.Message
import NoteForms.Field.Basic
import NoteForms.Field.Encoding
import NoteForms.Field.Validation
import NoteForms.Form.Basic
import NoteForms.Form.Encoding
import NoteForms.Form.Entry
import NoteForms.Form.Example
import NoteForms.Form.Validation
import NoteForms.Input.Basic
import NoteForms.Input.Encoding
import NoteForms.Input.Typed
import NoteForms.Input.Validation
import NoteForms.Interview.Basic
import NoteForms.Interview.Run
import NoteForms.Interview.Transcript
import NoteForms.Json.Basic
import NoteForms.Json.Decode
import NoteForms.Json.Fault
import NoteForms.Json.Printer
import NoteForms.Json.Reader
import NoteForms.Main
import NoteForms.Number.Binary64
import NoteForms.Number.Bound
import NoteForms.Number.Layout
import NoteForms.Number.Shortest
import NoteForms.Number.Typed
import NoteForms.Outcome.Basic
import NoteForms.Outcome.Format
import NoteForms.Pattern.Basic
import NoteForms.Pattern.Check
import NoteForms.Pattern.Class
import NoteForms.Pattern.Cursor
import NoteForms.Pattern.Escape
import NoteForms.Pattern.Fault
import NoteForms.Pattern.Property
import NoteForms.Pattern.Reader
import NoteForms.Pattern.Size
import NoteForms.Pattern.Validity
import NoteForms.Proofs.Backups
import NoteForms.Proofs.Basics
import NoteForms.Proofs.Blanks
import NoteForms.Proofs.Bystanders
import NoteForms.Proofs.Calendar
import NoteForms.Proofs.Canonical
import NoteForms.Proofs.Checks
import NoteForms.Proofs.Choices
import NoteForms.Proofs.Closing
import NoteForms.Proofs.Convergence
import NoteForms.Proofs.Decoding
import NoteForms.Proofs.Delimiters
import NoteForms.Proofs.Deliveries
import NoteForms.Proofs.Destinations
import NoteForms.Proofs.Directories
import NoteForms.Proofs.Distinct
import NoteForms.Proofs.Ending
import NoteForms.Proofs.EntryLines
import NoteForms.Proofs.Errands
import NoteForms.Proofs.Exchanges
import NoteForms.Proofs.Filing
import NoteForms.Proofs.Filling
import NoteForms.Proofs.FirstFault
import NoteForms.Proofs.Fitting
import NoteForms.Proofs.Flattening
import NoteForms.Proofs.Footprints
import NoteForms.Proofs.FormsByName
import NoteForms.Proofs.Grammar
import NoteForms.Proofs.InTurn
import NoteForms.Proofs.Issues
import NoteForms.Proofs.ItemByItem
import NoteForms.Proofs.Lasting
import NoteForms.Proofs.Listing
import NoteForms.Proofs.Migration
import NoteForms.Proofs.Mishaps
import NoteForms.Proofs.Moments
import NoteForms.Proofs.NamesUsed
import NoteForms.Proofs.NewestFirst
import NoteForms.Proofs.NumbersKept
import NoteForms.Proofs.Ordered
import NoteForms.Proofs.Outcomes
import NoteForms.Proofs.Parts
import NoteForms.Proofs.Pieces
import NoteForms.Proofs.Places
import NoteForms.Proofs.Quiet
import NoteForms.Proofs.Quoting
import NoteForms.Proofs.Reactions
import NoteForms.Proofs.ReadBack
import NoteForms.Proofs.Refusals
import NoteForms.Proofs.Reload
import NoteForms.Proofs.Relocation
import NoteForms.Proofs.Retyping
import NoteForms.Proofs.RoundTrip
import NoteForms.Proofs.Rounding
import NoteForms.Proofs.Rounds
import NoteForms.Proofs.Saving
import NoteForms.Proofs.Scalars
import NoteForms.Proofs.Seams
import NoteForms.Proofs.Separated
import NoteForms.Proofs.Shapes
import NoteForms.Proofs.Showing
import NoteForms.Proofs.Sifting
import NoteForms.Proofs.Spending
import NoteForms.Proofs.StampedNames
import NoteForms.Proofs.Stopping
import NoteForms.Proofs.Submission
import NoteForms.Proofs.Turns
import NoteForms.Proofs.Unfolding
import NoteForms.Proofs.Unwatched
import NoteForms.Proofs.Upkeep
import NoteForms.Proofs.Upserting
import NoteForms.Proofs.Visibility
import NoteForms.Proofs.Watchers
import NoteForms.Proofs.WellFormed
import NoteForms.Proofs.WrittenNumber
import NoteForms.Session.Action
import NoteForms.Session.Run
import NoteForms.Session.State
import NoteForms.Settings.Basic
import NoteForms.Storage.FileSystem
import NoteForms.Storage.Path
import NoteForms.Storage.SettingsFile
import NoteForms.Storage.Stamp
import NoteForms.Table
import NoteForms.Template.Basic
import NoteForms.Template.Encoding
import NoteForms.Template.Fault
import NoteForms.Template.Reader
import NoteForms.Template.Render
import NoteForms.Template.Source
import NoteForms.Text.Alphanumeric
import NoteForms.Text.Ascii
import NoteForms.Text.Blank
import NoteForms.Text.Case
import NoteForms.Text.CaseTable
import NoteForms.Text.Lines
import NoteForms.Text.Position
import NoteForms.Text.Printable
import NoteForms.Text.Quoted
import NoteForms.Text.Ranges
import NoteForms.Text.Search
import NoteForms.Validation.Issue
import NoteForms.Validation.Members
import NoteForms.Validation.Validated
import NoteForms.Yaml.Scalar
