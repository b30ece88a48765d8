import InputBridge.Event.Code
import InputBridge.Key.Name
/-!
# Input events

An event as the kernel reports it is a type, a code and a value. Only keys and
relative motion matter to the bridge; everything else keeps its numbers for the
message that says it was skipped. A key's value is zero for a release and
anything else for a press or a repetition.
-/
namespace InputBridge

/-- An input event sorted by type. Values are signed thirty-two-bit numbers. -/
inductive InputEvent where
  /-- A key or button: released if the value is zero, else pressed or repeated. -/
  | key (code : UInt16) (value : Int)
  /-- Motion of an axis by a signed distance. -/
  | relative (axis : UInt16) (value : Int)
  /-- Any other type, such as the reports that close a packet. -/
  | other (kind code : UInt16) (value : Int)
deriving DecidableEq, Repr

namespace InputEvent

/-- The event that a type, a code and a value describe. -/
def ofParts (kind code : UInt16) (value : Int) : InputEvent :=
  if kind = EventType.key then .key code value
  else if kind = EventType.relative then .relative code value
  else .other kind code value

end InputEvent

/-- Why an event changed nothing. No rejection is fatal. -/
inductive Rejection where
  /-- The key has no scancode and no other role. -/
  | unmappedKey (code : UInt16) (name : String)
  /-- The axis is neither pointer axis nor wheel. -/
  | unknownAxis (axis : UInt16)
  /-- The event is neither a key nor motion. -/
  | unsupported (kind code : UInt16)
deriving DecidableEq, Repr

namespace Rejection

/-- The rejection of a key without scancode, under the key's own name. -/
def ofKey (code : UInt16) : Rejection :=
  .unmappedKey code ((Key.nameOf code).getD "<unnamed>")

/-- The wording of a rejection. -/
def message : Rejection → String
  | .unmappedKey code name => s!"key {name} (code {code}) has no keymap entry"
  | .unknownAxis axis => s!"unhandled relative axis {axis}"
  | .unsupported kind code => s!"unhandled event type {kind} (code {code})"

end Rejection

end InputBridge
