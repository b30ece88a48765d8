import InputBridge.Capture
import InputBridge.Pointer
/-!
# What the bridge knows about the input devices

The state collects what the events of a batch said: where the pointer is, which
buttons are down, the key to report next, and the capture combination. A batch
ends by clearing what is reported only once: the key, the wheel and, in relative
mode, the distances. Buttons, the combination and an absolute position stay.
-/
namespace InputBridge

/-- The mouse buttons that are down. -/
structure Buttons where
  left : Bool := false
  middle : Bool := false
  right : Bool := false
deriving DecidableEq, Repr

/-- The key event that the next frame reports. -/
structure PendingKey where
  scancode : UInt8
  released : Bool
deriving DecidableEq, Repr

/-- The byte for a key event: the scancode, with the highest bit set for a
release. -/
def PendingKey.wireByte (key : PendingKey) : UInt8 :=
  if key.released then key.scancode ||| 0x80 else key.scancode

/-- All that the events of the input devices change. -/
structure InputState where
  pointer : Pointer
  buttons : Buttons := {}
  pendingKey : Option PendingKey := none
  combo : Combo := {}
deriving DecidableEq, Repr

namespace InputState

/-- The state before any event. -/
def initial (mode : PointerMode) (bounds : ScreenBounds) : InputState :=
  { pointer := { mode, bounds } }

/-- The state after a batch was reported, ready for the next one. -/
def finishBatch (state : InputState) : InputState :=
  { state with
    pendingKey := none
    pointer :=
      match state.pointer.mode with
      | .absolute => { state.pointer with wheel := 0 }
      | .relative => { state.pointer with wheel := 0, x := 0, y := 0 } }

end InputState

end InputBridge
