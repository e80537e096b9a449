import Teletype.Text.Width
import Teletype.Text.Blank
import Teletype.Text.Utf8
import Teletype.Text.Base64
import Teletype.Text.Quoted
import Teletype.Color.Spec
import Teletype.Palette
import Teletype.Screen.Resize
import Teletype.Snapshot
import Teletype.Emulator
import Teletype.Json.Reading
import Teletype.Json.Writer
import Teletype.Cell.Json
import Teletype.Cursor.Json
import Teletype.Sequence.Json
import Teletype.Snapshot.Json
import Teletype.KeyInput
import Teletype.WindowSize
import Teletype.ByteQueue
import Teletype.Config.Json
import Teletype.Directory
import Teletype.Host
import Teletype.CommandLine
import Teletype.Main
import Teletype.Proofs.Access
import Teletype.Proofs.Screen.WellFormed
import Teletype.Proofs.Row.Checked
import Teletype.Proofs.Reflow.Checked
import Teletype.Proofs.Screen.Checked
import Teletype.Proofs.Emulator.Operations
import Teletype.Proofs.Emulator.Run
import Teletype.Proofs.Emulator.Chunks
import Teletype.Proofs.Row.Opened
import Teletype.Proofs.Reflow.Paired
import Teletype.Proofs.Screen.Rows
import Teletype.Proofs.Screen.Paired
import Teletype.Proofs.Screen.Whole
import Teletype.Proofs.Screen.Rewrap
import Teletype.Proofs.Screen.Resumed
import Teletype.Proofs.Screen.RoundTrip
import Teletype.Proofs.Screen.Covered
import Teletype.Proofs.Emulator.Alternate
import Teletype.Proofs.Parser.Plain
import Teletype.Proofs.Session.ExitText
import Teletype.Proofs.Emulator.Reset
import Teletype.Proofs.Parser.Characters
import Teletype.Proofs.Parser.Grammar
import Teletype.Proofs.Parser.CommandText
import Teletype.Proofs.Parser.Command
import Teletype.ByteQueue.Channel
import Teletype.Proofs.ByteQueue.Turns
import Teletype.Proofs.ByteQueue.Channel
import Teletype.Parser.Registers
import Teletype.Proofs.Parser.Registers
import Teletype.Proofs.Session.Delivery
import Teletype.Proofs.Session.Alone
import Teletype.Proofs.Session.Lifecycle
import Teletype.Proofs.Screen.Moved
import Teletype.Proofs.Screen.Transcript
import Teletype.Proofs.Reflow.Kept
import Teletype.Proofs.Session.Waiting
import Teletype.Proofs.Emulator.Trace
import Teletype.Proofs.Screen.LastColumn
import Teletype.Proofs.Emulator.LastColumn
import Teletype.Proofs.Screen.Marks
import Teletype.Proofs.Row.Contents
import Teletype.Proofs.Screen.Contents
import Teletype.Proofs.Emulator.Contents
import Teletype.Proofs.Emulator.Report
import Teletype.Proofs.Row.Wiped
import Teletype.Proofs.Screen.Erased
import Teletype.Proofs.Screen.Shifted
import Teletype.Proofs.Screen.History
import Teletype.Proofs.Pen.Selected
import Teletype.Proofs.Emulator.Rendition
import Teletype.Proofs.Emulator.Colors
import Teletype.Proofs.Parser.Formed
import Teletype.Proofs.Parser.Checked
import Teletype.Proofs.Emulator.Events
import Teletype.Proofs.Color.Names
import Teletype.Proofs.Session.Handled
import Teletype.Proofs.Session.Dialogue
import Teletype.Proofs.Session.Order
import Teletype.Proofs.ByteQueue.Checked
import Teletype.Proofs.Json.Tokens
import Teletype.Proofs.Json.Spelled
import Teletype.Proofs.Json.Fields
import Teletype.Proofs.Json.ReadBack
import Teletype.Proofs.Snapshot.Rows
