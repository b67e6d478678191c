import BlockWire.Bytes
import BlockWire.Client.Basic
import BlockWire.Client.Call
import BlockWire.Client.Scope
import BlockWire.Client.Step
import BlockWire.CommandLine.Argument
import BlockWire.CommandLine.Grammar
import BlockWire.CommandLine.Panic
import BlockWire.CommandLine.Run
import BlockWire.Deadline
import BlockWire.Endpoint
import BlockWire.Failure
import BlockWire.Link
import BlockWire.Log.Directive
import BlockWire.Log.Escape
import BlockWire.Log.Filter
import BlockWire.Log.Level
import BlockWire.Main
import BlockWire.Network.Basic
import BlockWire.Network.Hosted
import BlockWire.Network.Record
import BlockWire.Network.Replayed
import BlockWire.Network.Routed
import BlockWire.Network.Scripted
import BlockWire.Pattern.Atom
import BlockWire.Pattern.Bracket
import BlockWire.Pattern.Mode
import BlockWire.Pattern.Nesting
import BlockWire.Pattern.Opening
import BlockWire.Pattern.WellFormed
import BlockWire.Proofs.Acting
import BlockWire.Proofs.AdmittedTimeouts
import BlockWire.Proofs.AtMostOnce
import BlockWire.Proofs.BlockEffects
import BlockWire.Proofs.Books
import BlockWire.Proofs.ConnectDeadline
import BlockWire.Proofs.Conversation
import BlockWire.Proofs.Dialogues
import BlockWire.Proofs.Exchange
import BlockWire.Proofs.Execution
import BlockWire.Proofs.FaultReports
import BlockWire.Proofs.FrameBytes
import BlockWire.Proofs.Freshness
import BlockWire.Proofs.Handling
import BlockWire.Proofs.InStep
import BlockWire.Proofs.Independence
import BlockWire.Proofs.InputLines
import BlockWire.Proofs.InstructionGrammar
import BlockWire.Proofs.JoinedLines
import BlockWire.Proofs.Lane
import BlockWire.Proofs.LastWrite
import BlockWire.Proofs.Lifecycle
import BlockWire.Proofs.LossyText
import BlockWire.Proofs.MessageStream
import BlockWire.Proofs.NetworkView
import BlockWire.Proofs.Orderly
import BlockWire.Proofs.Passage
import BlockWire.Proofs.PayloadFields
import BlockWire.Proofs.Progress
import BlockWire.Proofs.RawPayloads
import BlockWire.Proofs.Reading
import BlockWire.Proofs.Renderings
import BlockWire.Proofs.ScopedSession
import BlockWire.Proofs.Serving
import BlockWire.Proofs.Shares
import BlockWire.Proofs.SingleInstructions
import BlockWire.Proofs.Smooth
import BlockWire.Proofs.Sound
import BlockWire.Proofs.Spelling
import BlockWire.Proofs.StatusReports
import BlockWire.Proofs.Stop
import BlockWire.Proofs.StoreRuns
import BlockWire.Proofs.Teardown
import BlockWire.Proofs.TextOrder
import BlockWire.Proofs.Traffic
import BlockWire.Proofs.Transparency
import BlockWire.Proofs.Truncation
import BlockWire.Proofs.Unissued
import BlockWire.Proofs.Unpaused
import BlockWire.Proofs.Watched
import BlockWire.Proofs.WellFormedText
import BlockWire.Proofs.WordRuns
import BlockWire.Proofs.WriteFaults
import BlockWire.Proofs.Writing
import BlockWire.Server.Handle
import BlockWire.Server.Serve
import BlockWire.Server.Store
import BlockWire.Shell.Dialogue
import BlockWire.Shell.Instruction
import BlockWire.Shell.Run
import BlockWire.Shell.Words
import BlockWire.Stream.Fault
import BlockWire.Stream.Sink
import BlockWire.Stream.Source
import BlockWire.Text.Alphanumeric
import BlockWire.Text.Blank
import BlockWire.Text.Decimal
import BlockWire.Text.LetterCase
import BlockWire.Text.Lines
import BlockWire.Text.Lowercase
import BlockWire.Text.Numeral
import BlockWire.Text.Range
import BlockWire.Text.Utf8
import BlockWire.Wire.Code
import BlockWire.Wire.Fault
import BlockWire.Wire.Frame
import BlockWire.Wire.Message
import BlockWire.Wire.Payload
import BlockWire.Wire.Transfer
