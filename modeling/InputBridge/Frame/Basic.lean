import InputBridge.Text.Number
/-!
# Frames

The adapter takes one frame of five bytes at a time. This module holds a frame
as its five named bytes, in the order in which they travel, and the text by which
a frame is shown in messages. What the bits of a frame mean is another module's
subject.
-/
namespace InputBridge

/-- A frame, byte by byte in the order on the wire. -/
structure Frame where
  /-- The key event, or zero. -/
  key : UInt8 := 0
  /-- Two buttons, presence, mode and tag. -/
  flags : UInt8 := 0
  /-- Position or distance to the right. -/
  x : UInt8 := 0
  /-- Position or distance downwards. -/
  y : UInt8 := 0
  /-- The middle button and the wheel. -/
  extra : UInt8 := 0
deriving DecidableEq, Repr

namespace Frame

/-- The number of bytes in a frame. -/
def length : Nat := 5

/-- The bytes of a frame in order. -/
def toList (frame : Frame) : List UInt8 :=
  [frame.key, frame.flags, frame.x, frame.y, frame.extra]

/-- The frame with the given bytes, if they are five. -/
def ofList? : List UInt8 → Option Frame
  | [key, flags, x, y, extra] => some { key, flags, x, y, extra }
  | _ => none

/-- A frame as messages show it: its bytes in base sixteen. -/
def text (frame : Frame) : String :=
  "Frame[" ++ " ".intercalate (frame.toList.map Text.hexByte) ++ "]"

end Frame

end InputBridge
