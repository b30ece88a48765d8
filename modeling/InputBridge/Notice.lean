import InputBridge.Bridge.Error
import InputBridge.Event.Basic
import InputBridge.Frame.Encoding
import InputBridge.Keymap.Parser
/-!
# What the program reports while it runs

A notice is one thing worth reporting. Each has a level, an origin by which log
filters select it, and a wording; all three are functions of the notice, so the
program's parts only say what happened. Rejected events become notices too,
except the reports that close packets: they arrive with every packet and say
nothing.
-/
namespace InputBridge

/-- How important a notice is, the most important first. -/
inductive LogLevel where
  | error
  | warn
  | info
  | debug
  | trace
deriving DecidableEq, Repr, Inhabited

namespace LogLevel

/-- The label of a level. -/
def label : LogLevel → String
  | error => "ERROR"
  | warn => "WARN"
  | info => "INFO"
  | debug => "DEBUG"
  | trace => "TRACE"

/-- How much has to be enabled for a level to show: one for errors, five for
traces. -/
def detail : LogLevel → Nat
  | error => 1
  | warn => 2
  | info => 3
  | debug => 4
  | trace => 5

end LogLevel

/-- The part of the program that a notice comes from. -/
inductive Origin where
  | program
  | bridge
  | selection
  | inputDevices
  | bus
  | keymapFile
  | keymap
  | intake
  | capture
deriving DecidableEq, Repr

/-- The name of an origin in log filters. -/
def Origin.target : Origin → String
  | program => "famikb_host"
  | bridge => "famikb_host::application::bridge_input"
  | selection => "famikb_host::application::select_devices"
  | inputDevices => "famikb_host::infrastructure::input_devices::evdev"
  | bus => "famikb_host::infrastructure::bus::i2c"
  | keymapFile => "famikb_host::infrastructure::storage::keymap_file"
  | keymap => "famikb_core::keymap"
  | intake => "famikb_core::domain::translate"
  | capture => "famikb_core::domain::capture"

/-- One thing worth reporting. -/
inductive Notice where
  /-- The program starts, in the given version. -/
  | starting (version : String)
  /-- A device was chosen. -/
  | active (kind : DeviceKind) (name path : String)
  /-- The bus is about to be opened. -/
  | connecting (bus : Nat)
  /-- Everything is set up. -/
  | ready
  /-- The program ends after so many frames. -/
  | stopped (frames : Nat)
  /-- The frame that opens the connection is about to be written. -/
  | greeting (frame : Frame)
  /-- The adapter took the frame that opens the connection. -/
  | connected
  /-- A device's events were read. -/
  | drained (device : DeviceKind) (count : Nat)
  /-- Capture could not be toggled. -/
  | toggleFailed (error : CaptureError)
  /-- A frame is about to be written. -/
  | sending (frame : Frame)
  /-- The user asked the program to end. -/
  | shutdownRequested (frames : Nat)
  /-- The devices could not be handed back at the end. -/
  | releaseFailed (error : CaptureError)
  /-- The bridge ends on a failure. -/
  | failed (error : BridgeError)
  /-- The device named in the settings is used. -/
  | preferredUsed (kind : DeviceKind) (path : String)
  /-- There is no device of a kind. -/
  | noneAttached (kind : DeviceKind)
  /-- There are several devices of a kind. -/
  | severalDetected (kind : DeviceKind)
  /-- The user chose a number that is not on the list. -/
  | notListed (kind : DeviceKind) (index : Nat)
  /-- Input devices were looked for. -/
  | enumerated (count : Nat)
  /-- The registered devices were grabbed. -/
  | grabbed (count : Nat)
  /-- The bus was opened. -/
  | busOpened (path : String) (address : Nat)
  /-- A keymap file was read. -/
  | keymapLoaded (count : Nat) (path : String)
  /-- There is no keymap file to read. -/
  | keymapMissing
  /-- A keymap entry replaced an earlier one. -/
  | keymapRedefined (entry : Redefinition)
  /-- An event changed nothing. -/
  | eventSkipped (rejection : Rejection)
  /-- The devices changed hands. -/
  | ownerChanged (owner : Ownership)
deriving DecidableEq, Repr

namespace Notice

/-- The name that log filters have for the field of a notice. -/
def fieldName : String := "message"

/-- How important a notice is. -/
def level : Notice → LogLevel
  | .starting _ | .active .. | .connecting _ | .ready | .stopped _ => .info
  | .greeting _ => .debug
  | .connected => .info
  | .drained .. => .trace
  | .toggleFailed _ => .warn
  | .sending _ => .trace
  | .shutdownRequested _ => .info
  | .releaseFailed _ => .warn
  | .failed _ => .error
  | .preferredUsed .. | .noneAttached _ | .severalDetected _ => .info
  | .notListed .. => .warn
  | .enumerated _ => .debug
  | .grabbed _ => .info
  | .busOpened .. => .debug
  | .keymapLoaded .. => .info
  | .keymapMissing | .keymapRedefined _ => .warn
  | .eventSkipped (.unsupported ..) => .trace
  | .eventSkipped _ => .debug
  | .ownerChanged _ => .info

/-- The part of the program that gives a notice. -/
def origin : Notice → Origin
  | .starting _ | .active .. | .connecting _ | .ready | .stopped _ => .program
  | .greeting _ | .connected | .drained .. | .toggleFailed _ | .sending _
  | .shutdownRequested _ | .releaseFailed _ | .failed _ => .bridge
  | .preferredUsed .. | .noneAttached _ | .severalDetected _ | .notListed .. => .selection
  | .enumerated _ | .grabbed _ => .inputDevices
  | .busOpened .. => .bus
  | .keymapLoaded .. | .keymapMissing => .keymapFile
  | .keymapRedefined _ => .keymap
  | .eventSkipped _ => .intake
  | .ownerChanged _ => .capture

/-- The advice given when the adapter does not answer. -/
def adapterMissing : String := "pico-ps2famikb not found, check config and wiring"

/-- The wording of a notice. -/
def message : Notice → String
  | .starting version => s!"famikb-host {version} starting"
  | .active kind name path => s!"active {kind.word}: {name} ({path})"
  | .connecting bus => s!"initiating i2c connect on bus {bus}"
  | .ready => "press LeftShift+LeftCtrl+Esc to take control of the input devices"
  | .stopped frames => s!"famikb-host stopped after {frames} frames"
  | .greeting frame => s!"handshake {frame.text}"
  | .connected => "pico-ps2famikb connected"
  | .drained device count => s!"{device.word}: drained {count} events"
  | .toggleFailed error => s!"capture toggle failed: {error.message}"
  | .sending frame => s!"sending {frame.text}"
  | .shutdownRequested frames => s!"shutdown requested after {frames} frames"
  | .releaseFailed error => s!"could not release input devices: {error.message}"
  | .failed (.transport error) => s!"{adapterMissing}: {error.message}"
  | .failed (.source error) => s!"input device failure: {error.message}"
  | .preferredUsed kind path => s!"using configured {kind.word} {path}"
  | .noneAttached kind => s!"no {kind.word} attached"
  | .severalDetected kind => s!"multiple {kind.word}s detected"
  | .notListed kind index => s!"{index} is not a listed {kind.word}"
  | .enumerated count => s!"enumerated {count} input devices"
  | .grabbed count => s!"grabbed {count} input devices"
  | .busOpened path address => s!"opened {path} for address 0x{Text.hexPadded address}"
  | .keymapLoaded count path => s!"loaded {count} key mappings from {path}"
  | .keymapMissing => "no keymap configured; keyboard input will be ignored"
  | .keymapRedefined entry =>
    s!"keymap line {entry.line}: {entry.name} redefined " ++
      s!"(0x{Text.hexByte entry.previous} -> 0x{Text.hexByte entry.scancode})"
  | .eventSkipped rejection => s!"skipped event: {rejection.message}"
  | .ownerChanged .captured =>
    "input devices captured; press LeftShift+LeftCtrl+Esc to release"
  | .ownerChanged .released => "input devices released to the host"

/-- The notices for skipped events. The reports that close packets give none. -/
def ofRejections (rejections : List Rejection) : List Notice :=
  rejections.filterMap fun rejection =>
    match rejection with
    | .unsupported kind _ => if kind = EventType.sync then none else some (.eventSkipped rejection)
    | _ => some (.eventSkipped rejection)

/-- The notices for the end of a call to the devices, or of the decision to make
none: a change of hands is reported, a failure is for the caller to report. -/
def ofToggle : Except CaptureError (Option Ownership) → List Notice
  | .ok (some owner) => [.ownerChanged owner]
  | _ => []

end Notice

end InputBridge
