import InputBridge.Event.Basic
import InputBridge.InputState
import InputBridge.Keymap.Basic
/-!
# From events to state

An event either changes the state or is rejected and changes nothing. A mouse
button is set or cleared. Any other key may play two parts: as a key of the
capture combination, and as a mapped key whose scancode becomes the pending key;
a key that plays neither is rejected. Motion goes to the pointer or the wheel.

A batch is the fold of its events over the state. It counts as an update if it
holds at least one event that was not rejected, even if that event left the state
as it was.
-/
namespace InputBridge

/-- The combination after a key went down or up, if the key belongs to it. -/
def Combo.track (combo : Combo) (code : UInt16) (pressed : Bool) : Option Combo :=
  if code = Key.leftShift then some { combo with leftShift := pressed }
  else if code = Key.leftCtrl then some { combo with leftCtrl := pressed }
  else if code = Key.escape then some { combo with escape := pressed }
  else none

/-- The buttons after a key event, if the key is a mouse button. -/
def Buttons.track (buttons : Buttons) (code : UInt16) (pressed : Bool) : Option Buttons :=
  if code = Button.left then some { buttons with left := pressed }
  else if code = Button.middle then some { buttons with middle := pressed }
  else if code = Button.right then some { buttons with right := pressed }
  else none

namespace InputState

/-- The state after a key event. -/
def applyKey (keymap : Keymap) (state : InputState) (code : UInt16) (pressed : Bool) :
    Except Rejection InputState :=
  match state.buttons.track code pressed with
  | some buttons => .ok { state with buttons }
  | none =>
    match state.combo.track code pressed, keymap.lookup code with
    | some combo, some scancode =>
      .ok { state with combo, pendingKey := some { scancode, released := !pressed } }
    | some combo, none => .ok { state with combo }
    | none, some scancode =>
      .ok { state with pendingKey := some { scancode, released := !pressed } }
    | none, none => .error (.ofKey code)

/-- The state after motion along an axis. -/
def applyMotion (state : InputState) (axis : UInt16) (distance : Int) :
    Except Rejection InputState :=
  if axis = Axis.x then .ok { state with pointer := state.pointer.moveX distance }
  else if axis = Axis.y then .ok { state with pointer := state.pointer.moveY distance }
  else if axis = Axis.wheel then .ok { state with pointer := state.pointer.scroll distance }
  else .error (.unknownAxis axis)

/-- The state after an event, or why the event changes nothing. -/
def apply (keymap : Keymap) (state : InputState) : InputEvent → Except Rejection InputState
  | .key code value => state.applyKey keymap code (value != 0)
  | .relative axis value => state.applyMotion axis value
  | .other kind code _ => .error (.unsupported kind code)

end InputState

/-- What a run of events amounts to. -/
structure Intake where
  /-- The state after the events so far. -/
  state : InputState
  /-- Some event was accepted. -/
  updated : Bool := false
  /-- Why the other events were skipped, in order. -/
  skipped : List Rejection := []
deriving DecidableEq, Repr

namespace Intake

/-- Takes one more event into account. -/
def step (keymap : Keymap) (intake : Intake) (event : InputEvent) : Intake :=
  match intake.state.apply keymap event with
  | .ok state => { intake with state, updated := true }
  | .error rejection => { intake with skipped := intake.skipped ++ [rejection] }

/-- Applies events in order, starting from a state. -/
def ofEvents (keymap : Keymap) (state : InputState) (events : List InputEvent) : Intake :=
  events.foldl (step keymap) { state }

end Intake

end InputBridge
