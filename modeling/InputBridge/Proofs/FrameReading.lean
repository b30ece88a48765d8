import InputBridge.Proofs.KeyByte
import InputBridge.Proofs.WireRange
/-!
# What the adapter reads off a frame

A receiver that knows the layout reads a frame bit by bit: presence, mode and two buttons
from the second byte, the coordinates as the mode says, the middle button and the wheel from
the last byte. No bit has two uses, so for a state that the bridge can reach the receiver has
everything back that a frame takes from the state, and two frames are the same only if what
they report is.
-/
namespace InputBridge

/-- What a frame reports. -/
structure Report where
  presence : Presence
  mode : PointerMode
  x : Int
  y : Int
  wheel : Int
  buttons : Buttons
  /-- The byte for the key, zero if there is none. -/
  key : UInt8
deriving DecidableEq, Repr

/-- What there is to report of a state. -/
def InputState.report (state : InputState) (presence : Presence) : Report :=
  { presence
    mode := state.pointer.mode
    x := state.pointer.x
    y := state.pointer.y
    wheel := state.pointer.wheel
    buttons := state.buttons
    key := state.keyByte }

namespace Frame

/-- A coordinate as a receiver takes it: a position is unsigned, a distance is in two's
complement. -/
def readCoordinate (mode : PointerMode) (byte : UInt8) : Int :=
  match mode with
  | .absolute => byte.toNat
  | .relative => byte.toInt8.toInt

/-- What a receiver reads off a frame. -/
def read (frame : Frame) : Report :=
  let mode := if hasBit frame.flags 0x08 then .relative else .absolute
  { presence := { keyboard := hasBit frame.flags 0x10, mouse := hasBit frame.flags 0x20 }
    mode
    x := readCoordinate mode frame.x
    y := readCoordinate mode frame.y
    wheel := wheelOfBits (frame.extra >>> 3)
    buttons :=
      { left := hasBit frame.flags 0x80
        middle := hasBit frame.extra 0x80
        right := hasBit frame.flags 0x40 }
    key := frame.key }

/-- Five flags and the tag share a byte, each with bits of its own. -/
theorem flag_bits (left right mouse keyboard relative : Bool) :
    let base := tag ||| bit 0x20 mouse ||| bit 0x10 keyboard ||| bit 0x08 relative
    let flags := base ||| bit 0x80 left ||| bit 0x40 right
    (hasBit flags 0x80 = left ∧ hasBit flags 0x40 = right) ∧
      (hasBit flags 0x20 = mouse ∧ hasBit flags 0x10 = keyboard) ∧
      hasBit flags 0x08 = relative ∧ flags &&& 0x07 = tag ∧ flags &&& 0x3F = base := by
  revert left right mouse keyboard relative
  decide

/-- The middle button and the wheel share a byte, each with bits of its own. -/
theorem extra_bits (middle : Bool) (wheel : Int) (low : wheelMin ≤ wheel)
    (high : wheel ≤ wheelMax) :
    let extra := (wheelBits wheel <<< 3) ||| bit 0x80 middle
    hasBit extra 0x80 = middle ∧ wheelOfBits (extra >>> 3) = wheel ∧ extra &&& 0x07 = 0 := by
  simp only [wheelMin, wheelMax] at low high
  have each : ∀ (middle : Bool) (step : Fin 16),
      let wheel : Int := step.val - 8
      let extra := (wheelBits wheel <<< 3) ||| bit 0x80 middle
      hasBit extra 0x80 = middle ∧ wheelOfBits (extra >>> 3) = wheel ∧ extra &&& 0x07 = 0 := by
    decide
  have same : ((wheel + 8).toNat : Int) - 8 = wheel := by omega
  rw [← same]
  exact each middle ⟨(wheel + 8).toNat, by omega⟩

/-- A coordinate in its range is read as what it is. -/
theorem read_coordinate_exact (mode : PointerMode) (limit coordinate : Int)
    (fits : Pointer.Fits mode limit coordinate) (byte : limit ≤ 255) :
    readCoordinate mode (UInt8.ofInt coordinate) = coordinate := by
  cases mode with
  | absolute => exact byte_of_position coordinate fits.1 (Int.le_trans fits.2 byte)
  | relative => exact byte_of_distance coordinate fits.1 fits.2

/-- A frame is made of what there is to report of the state, and of nothing else. -/
theorem of_state_congr (one other : InputState) (here there : Presence)
    (same : one.report here = other.report there) : ofState one here = ofState other there := by
  have packed (state : InputState) (presence : Presence) :
      let report := state.report presence
      ofState state presence =
        { key := report.key
          flags := baseFlags report.presence report.mode ||| bit 0x80 report.buttons.left |||
            bit 0x40 report.buttons.right
          x := UInt8.ofInt report.x
          y := UInt8.ofInt report.y
          extra := (wheelBits report.wheel <<< 3) ||| bit 0x80 report.buttons.middle } := rfl
  rw [packed one here, packed other there, same]

end Frame

namespace InputState

/-- What a frame takes from the state is in the range of some mode and screen. -/
def Reportable (state : InputState) : Prop :=
  ∃ mode width standard, InRange mode (.ofScreen width standard) state

/-- A receiver has back what there was to report. -/
theorem read_of_state (state : InputState) (presence : Presence)
    (reportable : state.Reportable) :
    (Frame.ofState state presence).read = state.report presence := by
  obtain ⟨mode, width, standard, inRange⟩ := reportable
  obtain ⟨rfl, sameBounds, x, y, wheel, _⟩ := inRange
  obtain ⟨⟨left, right⟩, ⟨mouse, keyboard⟩, relative, _⟩ := Frame.flag_bits state.buttons.left
    state.buttons.right presence.mouse presence.keyboard (state.pointer.mode == .relative)
  obtain ⟨middle, turned, _⟩ := Frame.extra_bits state.buttons.middle state.pointer.wheel
    wheel.1 wheel.2
  have mode : (if Frame.hasBit (Frame.ofState state presence).flags 0x08 then .relative
      else .absolute) = state.pointer.mode := by
    rw [Frame.ofState, Frame.baseFlags, relative]
    cases state.pointer.mode <;> rfl
  have columns := (ScreenBounds.ofScreen width standard).max_x_range
  have lines := ScreenBounds.max_y_range width standard
  have readX := Frame.read_coordinate_exact _ _ _ x columns.2
  have readY := Frame.read_coordinate_exact _ _ _ y (Int.le_trans lines.2 (by decide))
  simp only [Frame.read, mode]
  simp only [Frame.ofState, Frame.baseFlags, left, right, mouse, keyboard, middle, turned, readX,
    readY, report, keyByte]

/-- For states in the range of what the bridge can reach, a frame carries the whole report:

* two frames are the same exactly if presence, mode, coordinates, wheel, buttons and the key
  byte are;
* a receiver who knows the layout reads them all off the frame, coordinates in the sign of
  the mode and the wheel as a signed number;
* the pending key, if there is one, is read off the first byte with its release, and no two
  pending keys share a byte except none and the press of the scancode zero;
* the low three bits of the second byte are the tag, those of the last byte are clear. -/
theorem frame_carries_report (one other : InputState) (here there : Presence)
    (oneReportable : one.Reportable) (otherReportable : other.Reportable) :
    let frame := Frame.ofState one here
    (frame = Frame.ofState other there ↔
        here = there ∧ one.pointer.mode = other.pointer.mode ∧
          (one.pointer.x = other.pointer.x ∧ one.pointer.y = other.pointer.y) ∧
          one.pointer.wheel = other.pointer.wheel ∧
          (one.buttons.left = other.buttons.left ∧ one.buttons.middle = other.buttons.middle ∧
            one.buttons.right = other.buttons.right) ∧
          one.keyByte = other.keyByte) ∧
      frame.read = one.report here ∧
      (∀ key, one.pendingKey = some key → PendingKey.ofWireByte frame.key = key) ∧
      (one.keyByte = other.keyByte ↔
        one.pendingKey = other.pendingKey ∨
          (one.pendingKey = none ∧
            other.pendingKey = some { scancode := 0, released := false }) ∨
          (one.pendingKey = some { scancode := 0, released := false } ∧
            other.pendingKey = none)) ∧
      frame.flags &&& 0x07 = 0b110 ∧ frame.extra &&& 0x07 = 0 := by
  intro frame
  have read := read_of_state one here oneReportable
  have otherRead := read_of_state other there otherReportable
  obtain ⟨_, _, _, inRange⟩ := oneReportable
  obtain ⟨_, _, _, otherInRange⟩ := otherReportable
  refine ⟨⟨?_, ?_⟩, read, ?_, ?_, ?_, ?_⟩
  · intro same
    have reports : one.report here = other.report there := by
      rw [← read, ← otherRead]
      exact congrArg Frame.read same
    simp only [report, Report.mk.injEq] at reports
    obtain ⟨presence, mode, x, y, wheel, buttons, key⟩ := reports
    rw [buttons]
    exact ⟨presence, mode, ⟨x, y⟩, wheel, ⟨rfl, rfl, rfl⟩, key⟩
  · rintro ⟨rfl, mode, ⟨x, y⟩, wheel, ⟨left, middle, right⟩, key⟩
    have buttons : one.buttons = other.buttons := Buttons.mk.injEq .. ▸ ⟨left, middle, right⟩
    apply Frame.of_state_congr
    simp only [report, mode, x, y, wheel, buttons, key]
  · intro key pending
    have byte : frame.key = key.wireByte := by
      simp [frame, Frame.ofState, pending]
    rw [byte]
    exact PendingKey.of_wire_byte_exact key (inRange.scancode key pending)
  · exact key_byte_eq_iff one other inRange.scancode otherInRange.scancode
  · exact (Frame.flag_bits one.buttons.left one.buttons.right here.mouse here.keyboard
      (one.pointer.mode == .relative)).2.2.2.1
  · exact (Frame.extra_bits one.buttons.middle one.pointer.wheel inRange.wheel.1
      inRange.wheel.2).2.2

/-- Distances to the left and upwards, a turn of the wheel and a key let go of, against the
state before any event. The frames differ, and the first is read as what was reported. -/
theorem distances_read_back :
    let moved : InputState :=
      { pointer :=
          { x := -1, y := -128, wheel := -8, mode := .relative, bounds := .ofScreen 300 .pal }
        buttons := { middle := true }
        pendingKey := some { scancode := 0x1C, released := true } }
    let still : InputState := .initial .absolute (.ofScreen 256 .ntsc)
    let mouse : Presence := { mouse := true }
    moved.Reportable ∧ still.Reportable ∧
      Frame.ofState moved mouse ≠ Frame.ofState still mouse ∧
      (Frame.ofState moved mouse).read = moved.report mouse ∧
      PendingKey.ofWireByte (Frame.ofState moved mouse).key =
        { scancode := 0x1C, released := true } := by
  intro moved still mouse
  have range : moved.Reportable :=
    ⟨.relative, 300, .pal,
      { sameMode := rfl
        sameBounds := rfl
        x := (by decide : (-128 : Int) ≤ -1 ∧ (-1 : Int) ≤ 127)
        y := (by decide : (-128 : Int) ≤ -128 ∧ (-128 : Int) ≤ 127)
        wheel := (by decide : wheelMin ≤ -8 ∧ -8 ≤ wheelMax)
        scancode := fun key pending => by cases pending; decide }⟩
  have start : still.Reportable :=
    ⟨.absolute, 256, .ntsc, initial_in_range .absolute _ (ScreenBounds.max_y_range 256 .ntsc).1⟩
  obtain ⟨same, read, key, _⟩ := frame_carries_report moved still mouse mouse range start
  refine ⟨range, start, ?_, read, key _ rfl⟩
  intro equal
  exact absurd (same.mp equal).2.1 (by decide)

end InputState

end InputBridge
