import InputBridge.Bridge.Basic
import InputBridge.Bridge.Error
import InputBridge.Bridge.Rig
import InputBridge.Bridge.Scripted
import InputBridge.Capture
import InputBridge.CommandLine.Basic
import InputBridge.CommandLine.Help
import InputBridge.CommandLine.Parameter
import InputBridge.CommandLine.Parser
import InputBridge.Console
import InputBridge.Device.Choice
import InputBridge.Device.Descriptor
import InputBridge.Device.Kind
import InputBridge.Device.Selection
import InputBridge.Environment
import InputBridge.Event.Basic
import InputBridge.Event.Code
import InputBridge.File.Path
import InputBridge.File.Tree
import InputBridge.Frame.Basic
import InputBridge.Frame.Encoding
import InputBridge.InputState
import InputBridge.Key.Name
import InputBridge.Intake
import InputBridge.Keymap.Basic
import InputBridge.Keymap.File
import InputBridge.Keymap.Parser
import InputBridge.LogFilter
import InputBridge.LogFilter.Directive
import InputBridge.LogLevel
import InputBridge.Machine.Adapter
import InputBridge.Machine.Basic
import InputBridge.Machine.Discovery
import InputBridge.Machine.EventDevices
import InputBridge.Machine.InputNode
import InputBridge.Machine.Reactor
import InputBridge.Main
import InputBridge.Notice
import InputBridge.Pattern.Basic
import InputBridge.Pattern.Check
import InputBridge.Pattern.Class
import InputBridge.Pattern.Cursor
import InputBridge.Pattern.Escape
import InputBridge.Pattern.Fault
import InputBridge.Pattern.Parser
import InputBridge.Pattern.Place
import InputBridge.Pointer
import InputBridge.Program.Failure
import InputBridge.Program.Host
import InputBridge.Program.Run
import InputBridge.Program.Start
import InputBridge.Program.Transcript
import InputBridge.Screen
import InputBridge.Settings.Basic
import InputBridge.Settings.Document
import InputBridge.Settings.Load
import InputBridge.SystemError
import InputBridge.Text.Alphabetic
import InputBridge.Text.Alphanumeric
import InputBridge.Text.Blank
import InputBridge.Text.Encoded
import InputBridge.Text.Number
import InputBridge.Text.Numeric
import InputBridge.Text.Quoted
import InputBridge.Text.Terminal
import InputBridge.Text.Unprintable
import InputBridge.Toml.Character
import InputBridge.Toml.Date
import InputBridge.Toml.Format
import InputBridge.Toml.Number
import InputBridge.Toml.Parser
import InputBridge.Toml.Printer
import InputBridge.Toml.Quotation
import InputBridge.Toml.Tree
import InputBridge.Toml.Value
import InputBridge.Proofs.Acceptance
import InputBridge.Proofs.CaptureHistory
import InputBridge.Proofs.BatchSteps
import InputBridge.Proofs.Routine
import InputBridge.Proofs.BridgeJournal
import InputBridge.Proofs.CapturesUnseen
import InputBridge.Proofs.ExitRelease
import InputBridge.Proofs.ScriptedBatch
import InputBridge.Proofs.ReportedFrames
import InputBridge.Proofs.KeymapScancodes
import InputBridge.Proofs.PointerRange
import InputBridge.Proofs.WireRange
import InputBridge.Proofs.BatchMeaning
import InputBridge.Proofs.HotkeyEdges
import InputBridge.Proofs.HotkeyStretches
import InputBridge.Proofs.WordsAndLines
import InputBridge.Proofs.KeymapGrammar
import InputBridge.Proofs.KeyByte
import InputBridge.Proofs.FrameReading
import InputBridge.Proofs.BatchParts
import InputBridge.Proofs.DeviceOrder
import InputBridge.Proofs.FrameRecord
import InputBridge.Proofs.LastingState
import InputBridge.Proofs.AdapterInStep
import InputBridge.Proofs.WillingAdapter
import InputBridge.Proofs.NoStaleReport
import InputBridge.Proofs.SharedReading
import InputBridge.Proofs.ReportingLoop
import InputBridge.Proofs.CapturingLoop
import InputBridge.Proofs.CaptureApart
import InputBridge.Proofs.DeviceGrabs
import InputBridge.Proofs.GrabsFollow
import InputBridge.Proofs.HexScancodes
import InputBridge.Proofs.DeviceSelection
import InputBridge.Proofs.SettingPlaces
import InputBridge.Proofs.SettingLayers
import InputBridge.Proofs.QuotedText
import InputBridge.Proofs.WrittenText
import InputBridge.Proofs.WrittenNumber
import InputBridge.Proofs.DependableFormat
import InputBridge.Proofs.WrittenDocument
import InputBridge.Proofs.SettingsRoundTrip
import InputBridge.Proofs.KeyTable
import InputBridge.Proofs.ScreenEdges
import InputBridge.Proofs.MappedKeys
import InputBridge.Proofs.DeliveryLog
import InputBridge.Proofs.EventDelivery
import InputBridge.Proofs.MachineDevices
import InputBridge.Proofs.PromptDialogue
import InputBridge.Proofs.WrittenThreshold
import InputBridge.Proofs.CheckedSettings
import InputBridge.Proofs.ScriptedAccount
