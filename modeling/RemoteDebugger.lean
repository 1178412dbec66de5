import RemoteDebugger.Text.Blank
import RemoteDebugger.Text.Numeral
import RemoteDebugger.Text.Utf8
import RemoteDebugger.Instruction.Listing
import RemoteDebugger.Assembly.Encoding
import RemoteDebugger.Memory.Address
import RemoteDebugger.Memory.Window
import RemoteDebugger.Monitor.Command
import RemoteDebugger.Monitor.ValueLine
import RemoteDebugger.Link.Range
import RemoteDebugger.Transport.Script
import RemoteDebugger.Transport.Simulator
import RemoteDebugger.Transport.Stream
import RemoteDebugger.Session.Code
import RemoteDebugger.Session.Stepping
import RemoteDebugger.Session.Checked
import RemoteDebugger.Toml.Files
import RemoteDebugger.Config.File
import RemoteDebugger.Symbols.Basic
import RemoteDebugger.CommandLine.Arguments
import RemoteDebugger.CommandLine.Number
import RemoteDebugger.CommandLine.Request
import RemoteDebugger.CommandLine.Execution
import RemoteDebugger.Main
import RemoteDebugger.Proofs.Text.Hexadecimal
import RemoteDebugger.Proofs.Text.Numeral
import RemoteDebugger.Proofs.Text.Words
import RemoteDebugger.Proofs.Text.Utf8
import RemoteDebugger.Proofs.Instruction.Table
import RemoteDebugger.Proofs.Instruction.Bytes
import RemoteDebugger.Proofs.Instruction.Decoding
import RemoteDebugger.Proofs.Instruction.Disassembly
import RemoteDebugger.Proofs.Assembly.Grammar
import RemoteDebugger.Proofs.Assembly.Notation
import RemoteDebugger.Proofs.Assembly.Forms
import RemoteDebugger.Proofs.Assembly.RoundTrip
import RemoteDebugger.Proofs.Assembly.Relocation
import RemoteDebugger.Proofs.Assembly.Program
import RemoteDebugger.Proofs.Monitor.Command
import RemoteDebugger.Proofs.Monitor.Acceptance
import RemoteDebugger.Proofs.Monitor.Damage
import RemoteDebugger.Proofs.Monitor.Layout
import RemoteDebugger.Proofs.Monitor.ValueLine
import RemoteDebugger.Proofs.Link.Exchange
import RemoteDebugger.Proofs.Link.Hearing
import RemoteDebugger.Proofs.Link.Budget
import RemoteDebugger.Proofs.Transport.Simulator
import RemoteDebugger.Proofs.Machine.Memory
import RemoteDebugger.Proofs.Machine.Execution
import RemoteDebugger.Proofs.Machine.Patch
import RemoteDebugger.Proofs.Machine.Physical
import RemoteDebugger.Proofs.Session.Action
import RemoteDebugger.Proofs.Session.Transcript
import RemoteDebugger.Proofs.Session.Breakpoint
import RemoteDebugger.Proofs.Session.Waiting
import RemoteDebugger.Proofs.Session.Footprint
import RemoteDebugger.Proofs.Session.Transparency
import RemoteDebugger.Proofs.Session.Start
import RemoteDebugger.Proofs.Session.Removal
import RemoteDebugger.Proofs.Session.Stall
import RemoteDebugger.Proofs.Session.Obedience
import RemoteDebugger.Proofs.Session.Rearming
import RemoteDebugger.Proofs.Session.Continue
import RemoteDebugger.Proofs.CommandLine.Resume
import RemoteDebugger.Proofs.Session.Restoration
import RemoteDebugger.Proofs.Machine.Rounds
import RemoteDebugger.Proofs.Session.Stepping
import RemoteDebugger.Proofs.Session.StepOver
import RemoteDebugger.Session.Operation
import RemoteDebugger.Proofs.Link.Preservation
import RemoteDebugger.Proofs.Session.Preservation
import RemoteDebugger.Proofs.Session.RunMode
import RemoteDebugger.Proofs.Session.Frames
import RemoteDebugger.Proofs.Session.Listing
import RemoteDebugger.Proofs.Session.OneShot
import RemoteDebugger.Proofs.Session.Execution
import RemoteDebugger.Proofs.Session.Usage
import RemoteDebugger.Proofs.Memory.Address
import RemoteDebugger.Proofs.Session.Lockstep
import RemoteDebugger.Proofs.Transport.Range
import RemoteDebugger.Proofs.Transport.Wraparound
import RemoteDebugger.Proofs.Transport.Copy
import RemoteDebugger.Proofs.Transport.Search
import RemoteDebugger.Proofs.Machine.Stack
import RemoteDebugger.Proofs.Session.Backtrace
import RemoteDebugger.Proofs.Session.Locals
import RemoteDebugger.Proofs.Transport.Stream
import RemoteDebugger.Proofs.Transport.Silence
import RemoteDebugger.Proofs.Transport.Noise
import RemoteDebugger.Proofs.Session.InPlace
import RemoteDebugger.Proofs.Symbols.Lookup
import RemoteDebugger.Proofs.Transport.Lines
import RemoteDebugger.Proofs.Session.Overflow
