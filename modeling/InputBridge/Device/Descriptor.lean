import InputBridge.Device.Kind
import InputBridge.Event.Code
/-!
# Recognising keyboards and mice

What a device is follows from the keys it reports: one with a left and a right
button is a mouse, and otherwise one with backspace and enter is a keyboard.
Everything else, such as power buttons and remote controls, is neither. So a
device has at most one kind, and a keyboard with a built-in pointer counts as a
mouse.
-/
namespace InputBridge

/-- What is known of an input device before it is used. -/
structure Descriptor where
  path : String
  name : String := ""
  /-- The codes of the keys and buttons it reports. -/
  keys : List UInt16 := []
deriving DecidableEq, Repr, Inhabited

namespace Descriptor

/-- The device reports a key. -/
def hasKey (device : Descriptor) (code : UInt16) : Bool :=
  device.keys.contains code

/-- The kind of a device. The mouse is tried first. -/
def kind? (device : Descriptor) : Option DeviceKind :=
  if device.hasKey Button.left && device.hasKey Button.right then some .mouse
  else if device.hasKey Key.backspace && device.hasKey Key.enter then some .keyboard
  else none

/-- The places of the devices of a kind in a list, in order. -/
def indicesOf (kind : DeviceKind) (devices : List Descriptor) : List Nat :=
  (List.range devices.length).filter fun index =>
    (devices[index]?.bind kind?) == some kind

end Descriptor

end InputBridge
