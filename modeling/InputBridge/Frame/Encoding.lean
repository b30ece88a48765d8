import InputBridge.Frame.Basic
import InputBridge.InputState
/-!
# What a frame says

```text
byte 0   release bit, then seven bits of scancode; zero if there is no key
byte 1   left, right, mouse present, keyboard present, relative, then 110
byte 2   x, a position or a signed distance
byte 3   y, likewise
byte 4   middle, four bits of wheel, then 000
```

A frame is a function of the state and of which devices are present. The frame
that opens a connection has the second byte of every later frame, buttons aside,
and is otherwise empty.
-/
namespace InputBridge

/-- Which devices the bridge reads from. -/
structure Presence where
  keyboard : Bool := false
  mouse : Bool := false
deriving DecidableEq, Repr

/-- At least one device is there. -/
def Presence.any (presence : Presence) : Bool :=
  presence.keyboard || presence.mouse

namespace Frame

/-- The low bits of the second byte by which the adapter knows this layout. -/
def tag : UInt8 := 0b110

/-- The address at which the adapter answers on its bus. -/
def adapterAddress : Nat := 0x17

/-- The register that takes frames. -/
def register : Nat := 0

/-- A bit of a byte, by its weight. -/
def bit (weight : UInt8) (on : Bool) : UInt8 :=
  if on then weight else 0

/-- A wheel value as four bits, negative values in two's complement. -/
def wheelBits (wheel : Int) : UInt8 :=
  UInt8.ofInt wheel &&& 0x0F

/-- The wheel value that the low four bits of a byte stand for. -/
def wheelOfBits (bits : UInt8) : Int :=
  let low := bits &&& 0x0F
  if low ≥ 8 then (low.toNat : Int) - 16 else low.toNat

/-- The second byte without the buttons: presence, mode and tag. -/
def baseFlags (presence : Presence) (mode : PointerMode) : UInt8 :=
  tag ||| bit 0x20 presence.mouse ||| bit 0x10 presence.keyboard |||
    bit 0x08 (mode == .relative)

/-- The frame that reports a state. Coordinates go out as the byte they are
congruent to, so a distance takes its two's complement. -/
def ofState (state : InputState) (presence : Presence) : Frame :=
  { key := (state.pendingKey.map PendingKey.wireByte).getD 0
    flags := baseFlags presence state.pointer.mode ||| bit 0x80 state.buttons.left |||
      bit 0x40 state.buttons.right
    x := UInt8.ofInt state.pointer.x
    y := UInt8.ofInt state.pointer.y
    extra := (wheelBits state.pointer.wheel <<< 3) ||| bit 0x80 state.buttons.middle }

/-- The frame that announces which devices are present. -/
def handshake (presence : Presence) (mode : PointerMode) : Frame :=
  { flags := baseFlags presence mode }

end Frame

end InputBridge
