import InputBridge.Screen
/-!
# The pointer

In absolute mode motion moves a position that stays within the screen; in
relative mode the last distance replaces the one before it, cut to a signed
byte. Distances are signed thirty-two-bit numbers and sums are kept within that
range before they are cut further. The wheel adds up within a signed
half-byte in both modes.
-/
namespace InputBridge

/-- The value nearest to `value` between two limits. -/
def clamp (low high value : Int) : Int := max low (min high value)

/-- The value nearest to `value` that a signed thirty-two-bit number can hold. -/
def saturate (value : Int) : Int := clamp (-2147483648) 2147483647 value

/-- The least value of the wheel. -/
def wheelMin : Int := -8

/-- The greatest value of the wheel. -/
def wheelMax : Int := 7

/-- Position or last distance, and the wheel. -/
structure Pointer where
  x : Int := 0
  y : Int := 0
  wheel : Int := 0
  mode : PointerMode
  bounds : ScreenBounds
deriving DecidableEq, Repr

namespace Pointer

/-- A coordinate after motion: moved within the range from zero to `limit` in
absolute mode, replaced by the distance in relative mode. -/
def moved (mode : PointerMode) (limit position distance : Int) : Int :=
  match mode with
  | .absolute => clamp 0 limit (saturate (position + distance))
  | .relative => clamp (-128) 127 distance

/-- The pointer after horizontal motion. -/
def moveX (pointer : Pointer) (distance : Int) : Pointer :=
  { pointer with x := moved pointer.mode pointer.bounds.maxX pointer.x distance }

/-- The pointer after vertical motion. -/
def moveY (pointer : Pointer) (distance : Int) : Pointer :=
  { pointer with y := moved pointer.mode pointer.bounds.maxY pointer.y distance }

/-- The pointer after the wheel turned. -/
def scroll (pointer : Pointer) (distance : Int) : Pointer :=
  { pointer with wheel := clamp wheelMin wheelMax (saturate (pointer.wheel + distance)) }

end Pointer

end InputBridge
