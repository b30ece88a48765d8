import InputBridge.Device.Kind
import InputBridge.Text.Number
/-!
# What ends the bridge

Two sides can fail for good: the input devices and the bus to the adapter. Each
failure is a cause with its circumstances; its wording is derived from them. A
failed read keeps the reason the system gave, which is also the failure's own
cause in a chain of causes.
-/
namespace InputBridge

/-- A failure of the input devices. -/
inductive SourceError where
  /-- A device could not be read, or could not be prepared for reading. -/
  | read (device : DeviceKind) (reason : String)
  /-- No such device is registered. -/
  | unregistered (device : DeviceKind)
  /-- No device at all is registered. -/
  | noSources
  /-- No more events will come. -/
  | closed
deriving DecidableEq, Repr

namespace SourceError

/-- The wording of a failure of the input devices. -/
def message : SourceError → String
  | .read device reason => s!"failed to read from {device.word} device: {reason}"
  | .unregistered device => s!"no {device.word} device is registered"
  | .noSources => "no input device registered"
  | .closed => "input event stream ended"

/-- What lies behind a failure, if the system gave a reason. -/
def cause? : SourceError → Option String
  | .read _ reason => some reason
  | _ => none

end SourceError

/-- A failure of the bus. -/
inductive TransportError where
  /-- The bus could not be opened. -/
  | busUnavailable (path reason : String)
  /-- The adapter did not take a frame. -/
  | peripheralNotFound (address : Nat) (reason : String)
deriving DecidableEq, Repr

namespace TransportError

/-- The wording of a failure of the bus. -/
def message : TransportError → String
  | .busUnavailable path reason => s!"cannot open I2C bus {path}: {reason}"
  | .peripheralNotFound address reason =>
    s!"peripheral not found at I2C address 0x{Text.hexPadded address}: {reason}"

end TransportError

/-- A failure that ends the bridge. -/
inductive BridgeError where
  | source (error : SourceError)
  | transport (error : TransportError)
deriving DecidableEq, Repr

namespace BridgeError

/-- The wording is that of the side that failed. -/
def message : BridgeError → String
  | .source error => error.message
  | .transport error => error.message

/-- What lies behind the failure, if the system gave a reason apart from the
wording. -/
def cause? : BridgeError → Option String
  | .source error => error.cause?
  | .transport _ => none

/-- The failure and what lies behind it, outermost first. -/
def chain (error : BridgeError) : List String :=
  error.message :: error.cause?.toList

end BridgeError

end InputBridge
