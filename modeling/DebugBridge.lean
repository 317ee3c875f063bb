import DebugBridge.Adapter.Command
import DebugBridge.Adapter.Framing
import DebugBridge.Adapter.Loop
import DebugBridge.Adapter.Message
import DebugBridge.Adapter.Move
import DebugBridge.Adapter.Server
import DebugBridge.Adapter.Strand
import DebugBridge.Assoc
import DebugBridge.CommandLine
import DebugBridge.Connection.Basic
import DebugBridge.Connection.Error
import DebugBridge.Connection.Inbox
import DebugBridge.Connection.Reply
import DebugBridge.Debugger.Breakpoints
import DebugBridge.Debugger.Exchange
import DebugBridge.Debugger.Expression
import DebugBridge.Debugger.Handles
import DebugBridge.Debugger.Move
import DebugBridge.Debugger.Operation
import DebugBridge.Debugger.Session
import DebugBridge.Debugger.State
import DebugBridge.Debugger.Stop
import DebugBridge.Debugger.View
import DebugBridge.Json.Parser
import DebugBridge.Json.Printer
import DebugBridge.Json.Schema
import DebugBridge.Json.Value
import DebugBridge.Launch
import DebugBridge.Log.Filter
import DebugBridge.Log.Record
import DebugBridge.Main
import DebugBridge.Rehearsal.CannedServer
import DebugBridge.Rehearsal.Dialogue
import DebugBridge.Rehearsal.Offline
import DebugBridge.Rehearsal.Script
import DebugBridge.Rehearsal.World
import DebugBridge.Settings
import DebugBridge.Text.Blank
import DebugBridge.Text.Decimal
import DebugBridge.Text.Invisible
import DebugBridge.Text.Quoted
import DebugBridge.Text.Split
import DebugBridge.Text.Utf8
import DebugBridge.Text.Word
import DebugBridge.Toml.Document
import DebugBridge.Toml.Scalar
import DebugBridge.Wire.Field
import DebugBridge.Wire.Frame
import DebugBridge.Wire.Message
import DebugBridge.Wire.Varint
import DebugBridge.Workspace.FileTree
import DebugBridge.Workspace.Path
import DebugBridge.Workspace.Source
import DebugBridge.Proofs.Adapter.Answers
import DebugBridge.Proofs.Adapter.Bookings
import DebugBridge.Proofs.Adapter.Duties
import DebugBridge.Proofs.Adapter.Ending
import DebugBridge.Proofs.Adapter.Errands
import DebugBridge.Proofs.Adapter.Faithful
import DebugBridge.Proofs.Adapter.Forwarding
import DebugBridge.Proofs.Adapter.Framed
import DebugBridge.Proofs.Adapter.Grammar
import DebugBridge.Proofs.Adapter.Images
import DebugBridge.Proofs.Adapter.Launches
import DebugBridge.Proofs.Adapter.Lines
import DebugBridge.Proofs.Adapter.Live
import DebugBridge.Proofs.Adapter.Passing
import DebugBridge.Proofs.Adapter.Pieces
import DebugBridge.Proofs.Adapter.Relaying
import DebugBridge.Proofs.Adapter.Requests
import DebugBridge.Proofs.Adapter.Saying
import DebugBridge.Proofs.Adapter.Seen
import DebugBridge.Proofs.Adapter.Sent
import DebugBridge.Proofs.Adapter.Sessions
import DebugBridge.Proofs.Adapter.Slot
import DebugBridge.Proofs.Adapter.Standing
import DebugBridge.Proofs.Adapter.Strands
import DebugBridge.Proofs.Adapter.Termination
import DebugBridge.Proofs.Connection.Alongside
import DebugBridge.Proofs.Connection.Calls
import DebugBridge.Proofs.Connection.Closing
import DebugBridge.Proofs.Connection.Dials
import DebugBridge.Proofs.Connection.History
import DebugBridge.Proofs.Connection.Ledger
import DebugBridge.Proofs.Connection.Line
import DebugBridge.Proofs.Connection.Loss
import DebugBridge.Proofs.Connection.News
import DebugBridge.Proofs.Connection.Notices
import DebugBridge.Proofs.Connection.Oversized
import DebugBridge.Proofs.Connection.Posted
import DebugBridge.Proofs.Connection.Renumbering
import DebugBridge.Proofs.Connection.Replied
import DebugBridge.Proofs.Connection.Shutdown
import DebugBridge.Proofs.Connection.Sifted
import DebugBridge.Proofs.Connection.States
import DebugBridge.Proofs.Connection.Steps
import DebugBridge.Proofs.Connection.Dialling
import DebugBridge.Proofs.Connection.StreamEnd
import DebugBridge.Proofs.Connection.Streams
import DebugBridge.Proofs.Connection.Writers
import DebugBridge.Proofs.Debugger.Accounts
import DebugBridge.Proofs.Debugger.Attended
import DebugBridge.Proofs.Debugger.BreakpointSets
import DebugBridge.Proofs.Debugger.BreakpointLists
import DebugBridge.Proofs.Debugger.Breakpoints
import DebugBridge.Proofs.Debugger.Charts
import DebugBridge.Proofs.Debugger.Entries
import DebugBridge.Proofs.Debugger.Failures
import DebugBridge.Proofs.Debugger.Fallbacks
import DebugBridge.Proofs.Debugger.Handouts
import DebugBridge.Proofs.Debugger.Hovers
import DebugBridge.Proofs.Debugger.Moves
import DebugBridge.Proofs.Debugger.Numbering
import DebugBridge.Proofs.Debugger.Observer
import DebugBridge.Proofs.Debugger.Pause
import DebugBridge.Proofs.Debugger.Provenance
import DebugBridge.Proofs.Debugger.Quotes
import DebugBridge.Proofs.Debugger.References
import DebugBridge.Proofs.Debugger.Registering
import DebugBridge.Proofs.Debugger.Sending
import DebugBridge.Proofs.Debugger.Tables
import DebugBridge.Proofs.Debugger.Threads
import DebugBridge.Proofs.Debugger.Turns
import DebugBridge.Proofs.Debugger.Views
import DebugBridge.Proofs.Debugger.Waits
import DebugBridge.Proofs.Debugger.Walks
import DebugBridge.Proofs.Json.Numbers
import DebugBridge.Proofs.Json.Records
import DebugBridge.Proofs.Json.RoundTrip
import DebugBridge.Proofs.Json.Shape
import DebugBridge.Proofs.Json.Strings
import DebugBridge.Proofs.Log.Merging
import DebugBridge.Proofs.Rehearsal.CannedServer
import DebugBridge.Proofs.Rehearsal.Results
import DebugBridge.Proofs.Rehearsal.Dialogue
import DebugBridge.Proofs.Rehearsal.Retrying
import DebugBridge.Proofs.Settings.Loading
import DebugBridge.Proofs.Text.Ascii
import DebugBridge.Proofs.Text.ByteOrder
import DebugBridge.Proofs.Text.Decimal
import DebugBridge.Proofs.Text.Trimming
import DebugBridge.Proofs.Toml.Notations
import DebugBridge.Proofs.Toml.Tables
import DebugBridge.Proofs.Toml.Values
import DebugBridge.Proofs.Wire.Chunking
import DebugBridge.Proofs.Wire.Field
import DebugBridge.Proofs.Wire.Frames
import DebugBridge.Proofs.Wire.LengthScan
import DebugBridge.Proofs.Wire.LongestPrefix
import DebugBridge.Proofs.Wire.Message
import DebugBridge.Proofs.Wire.RoundTrip
import DebugBridge.Proofs.Wire.Spelling
import DebugBridge.Proofs.Wire.Undeclared
import DebugBridge.Proofs.Wire.Varint
import DebugBridge.Proofs.Wire.Verdicts
