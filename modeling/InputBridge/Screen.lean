/-!
# The screen the pointer moves on

The console shows 224 lines under NTSC and 240 under PAL. Positions travel as
one byte each, so a screen is never more than 256 pixels wide as far as the
pointer is concerned. Bounds may also be given outright; the largest position
they allow is never negative, however small they are.
-/
namespace InputBridge

/-- The video standard of the console. -/
inductive VideoStandard where
  | ntsc
  | pal
deriving DecidableEq, Repr, Inhabited

namespace VideoStandard

/-- Visible lines of a picture. -/
def height : VideoStandard → UInt16
  | ntsc => 224
  | pal => 240

/-- The word for a standard in settings and on the command line. -/
def word : VideoStandard → String
  | ntsc => "ntsc"
  | pal => "pal"

/-- The standard that a word stands for. -/
def ofWord? : String → Option VideoStandard
  | "ntsc" => some ntsc
  | "pal" => some pal
  | _ => none

end VideoStandard

/-- How pointer motion is reported. -/
inductive PointerMode where
  /-- Motion adds up to a position on the screen. -/
  | absolute
  /-- The last distance is passed on as it is. -/
  | relative
deriving DecidableEq, Repr, Inhabited

namespace PointerMode

/-- The word for a mode in settings and on the command line. -/
def word : PointerMode → String
  | absolute => "absolute"
  | relative => "relative"

/-- The mode that a word stands for. -/
def ofWord? : String → Option PointerMode
  | "absolute" => some absolute
  | "relative" => some relative
  | _ => none

end PointerMode

/-- The width that one byte of position covers, and the default. -/
def fullWidth : UInt16 := 256

/-- The size of the pointer's range in each direction. -/
structure ScreenBounds where
  width : UInt16
  height : UInt16
deriving DecidableEq, Repr

namespace ScreenBounds

/-- The bounds of a screen of the given width, cut to what a byte covers. -/
def ofScreen (width : UInt16) (standard : VideoStandard) : ScreenBounds :=
  { width := min width fullWidth, height := standard.height }

/-- The bounds of the default screen. -/
def standard : ScreenBounds := ofScreen fullWidth .ntsc

/-- The rightmost position. A width of zero counts as one, and one above 256 as
256. -/
def maxX (bounds : ScreenBounds) : Int :=
  ((max 1 (min bounds.width fullWidth)).toNat : Int) - 1

/-- The lowest position. A height of zero counts as one. -/
def maxY (bounds : ScreenBounds) : Int :=
  ((max 1 bounds.height).toNat : Int) - 1

end ScreenBounds

end InputBridge
