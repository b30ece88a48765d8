/-!
# Numbers of the kernel's input events

Every input event carries a type and a code. The codes this bridge reacts to are
named here: three event types, three axes, the three buttons of a mouse, and the
keys with a fixed role. Two keys that every keyboard has, backspace and enter,
tell a keyboard from other devices; three others form the capture combination.
-/
namespace InputBridge

namespace EventType

/-- The report that closes a packet of events. -/
def sync : UInt16 := 0

/-- A key or button went down, went up or repeats. -/
def key : UInt16 := 1

/-- An axis moved by a distance. -/
def relative : UInt16 := 2

end EventType

namespace Axis

/-- Horizontal motion. -/
def x : UInt16 := 0

/-- Vertical motion. -/
def y : UInt16 := 1

/-- The wheel. -/
def wheel : UInt16 := 8

end Axis

namespace Button

/-- The left mouse button. -/
def left : UInt16 := 272

/-- The right mouse button. -/
def right : UInt16 := 273

/-- The middle mouse button. -/
def middle : UInt16 := 274

end Button

namespace Key

/-- First key of the capture combination. -/
def leftShift : UInt16 := 42

/-- Second key of the capture combination. -/
def leftCtrl : UInt16 := 29

/-- Third key of the capture combination. -/
def escape : UInt16 := 1

/-- One of the two keys by which a keyboard is known. -/
def backspace : UInt16 := 14

/-- The other key by which a keyboard is known. -/
def enter : UInt16 := 28

end Key

end InputBridge
