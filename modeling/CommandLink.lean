import CommandLink.Text.Basic
import CommandLink.Text.Category
import CommandLink.Text.LetterCase
import CommandLink.Text.Utf8
import CommandLink.Number.Double
import CommandLink.Number.Decimal
import CommandLink.Number.Shortest
import CommandLink.Value.Basic
import CommandLink.Value.Printer
import CommandLink.Value.Order
import CommandLink.Value.Document
import CommandLink.Value.Numeral
import CommandLink.Value.Reader
import CommandLink.Line.Arguments
import CommandLink.Line.Basic
import CommandLink.Kind.Basic
import CommandLink.Kind.Conversion
import CommandLink.Guard.Condition
import CommandLink.Guard.Basic
import CommandLink.Suggestion.EditDistance
import CommandLink.Suggestion.Rank
import CommandLink.Component.Basic
import CommandLink.Component.Cell
import CommandLink.Text.Visible
import CommandLink.Component.SharedList
import CommandLink.Component.Walk
import CommandLink.Interpreter.Resolution
import CommandLink.Interpreter.Outcome
import CommandLink.Interpreter.Basic
import CommandLink.Interpreter.Listing
import CommandLink.Interpreter.Dispatch
import CommandLink.Interpreter.Session
import CommandLink.Settings.Path
import CommandLink.Settings.Tree
import CommandLink.Settings.Store
import CommandLink.Settings.File
import CommandLink.Alias.Table
import CommandLink.Alias.Manager
import CommandLink.Pattern.CharacterSet
import CommandLink.Pattern.Basic
import CommandLink.Pattern.Program
import CommandLink.Pattern.Search
import CommandLink.Pattern.Script
import CommandLink.Pattern.Property
import CommandLink.Pattern.Reader
import CommandLink.Framing.Config
import CommandLink.Framing.Buffer
import CommandLink.Framing.Timed
import CommandLink.Configuration.Basic
import CommandLink.Configuration.Reader
import CommandLink.Server.Basic
import CommandLink.Server.Stream
import CommandLink.Demo.Camera
import CommandLink.Demo.AliasCommands
import CommandLink.Simulation.World
import CommandLink.Simulation.Script
import CommandLink.Simulation.Session
import CommandLink.Demo.Studio
import CommandLink.Options
import CommandLink.Main
import CommandLink.Proofs.Text.Trimming
import CommandLink.Proofs.Text.Characters
import CommandLink.Proofs.Text.Decoding
import CommandLink.Proofs.Value.Fields
import CommandLink.Proofs.Dispatch.Candidates
import CommandLink.Proofs.Dispatch.Cancellation
import CommandLink.Proofs.Framing.Pieces
import CommandLink.Proofs.Framing.Completion
import CommandLink.Proofs.Framing.Timers
import CommandLink.Proofs.Server.Messages
import CommandLink.Proofs.Server.Outlook
import CommandLink.Proofs.Server.Streams
import CommandLink.Proofs.Settings.Paths
import CommandLink.Proofs.Settings.Tree
import CommandLink.Proofs.Alias.Table
import CommandLink.Proofs.Alias.Mirror
import CommandLink.Proofs.Alias.Restoration
import CommandLink.Proofs.Alias.Steps
import CommandLink.Proofs.Alias.Administration
import CommandLink.Proofs.Alias.Requests
import CommandLink.Proofs.Value.Strings
import CommandLink.Proofs.Settings.Documents
import CommandLink.Proofs.Settings.Files
import CommandLink.Proofs.Alias.WellFormed
import CommandLink.Proofs.Dispatch.Runs
import CommandLink.Proofs.Component.Walk
import CommandLink.Proofs.Dispatch.Calls
import CommandLink.Proofs.Dispatch.Outcomes
import CommandLink.Proofs.Dispatch.Repetition
import CommandLink.Proofs.Framing.Events
import CommandLink.Proofs.Framing.Arrivals
import CommandLink.Proofs.Framing.Conservation
import CommandLink.Proofs.Framing.Deadlines
import CommandLink.Proofs.Kind.Admission
import CommandLink.Proofs.Dispatch.Arguments
import CommandLink.Proofs.Value.Numbers
import CommandLink.Proofs.Line.Values
import CommandLink.Proofs.Dispatch.RoundTrip
import CommandLink.Proofs.Framing.Requests
import CommandLink.Proofs.Framing.Supervision
import CommandLink.Proofs.Line.Scanning
import CommandLink.Proofs.Line.Documents
import CommandLink.Proofs.Line.Sections
import CommandLink.Proofs.Line.Joining
import CommandLink.Proofs.Line.Printing
import CommandLink.Proofs.Text.ByteOrder
import CommandLink.Proofs.Settings.Listing
import CommandLink.Proofs.Settings.Maps
import CommandLink.Proofs.Settings.Reopening
import CommandLink.Proofs.Alias.Precedence
import CommandLink.Proofs.Dispatch.Effects
import CommandLink.Proofs.Demo.Camera
import CommandLink.Proofs.Server.Commands
import CommandLink.Proofs.Server.Terminators
import CommandLink.Proofs.Framing.Cuts
import CommandLink.Proofs.Dispatch.Dumps
import CommandLink.Proofs.Server.Replies
import CommandLink.Proofs.Settings.Failures
import CommandLink.Proofs.Alias.Failures
import CommandLink.Proofs.Dispatch.Spellings
import CommandLink.Proofs.Line.Blanks
import CommandLink.Proofs.Text.Chunks
import CommandLink.Proofs.Alias.Rewriting
import CommandLink.Proofs.Dispatch.Directory
import CommandLink.Proofs.Guard.Conditions
import CommandLink.Proofs.Dispatch.Readings
import CommandLink.Proofs.Component.SharedLists
import CommandLink.Proofs.Dispatch.Lists
import CommandLink.Proofs.Dispatch.Additions
import CommandLink.Proofs.Guard.Integers
import CommandLink.Proofs.Kind.Integers
import CommandLink.Proofs.Dispatch.ListedPaths
import CommandLink.Proofs.Pattern.Search
import CommandLink.Proofs.Pattern.Looks
import CommandLink.Proofs.Framing.Matches
import CommandLink.Proofs.Suggestion.Rank
import CommandLink.Proofs.Component.Traversal
import CommandLink.Proofs.Value.Numerals
