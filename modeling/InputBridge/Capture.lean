/-!
# Capture of the input devices

While the devices are captured their events reach the bridge alone; the host
sees nothing of them. Holding left shift, left control and escape together
toggles capture. The toggle happens once for a stretch of batches in which the
combination stays held: a toggle arms a cooldown, and only a batch at whose end
the combination is not fully held disarms it.

A toggle needs a call to the devices, which may fail. The cooldown is armed
before the call, so a failed call is not repeated while the combination stays
held; who owns the devices changes only after a call that succeeded.
-/
namespace InputBridge

/-- Who receives the events of the input devices. -/
inductive Ownership where
  /-- The host. -/
  | released
  /-- The bridge alone. -/
  | captured
deriving DecidableEq, Repr, Inhabited

/-- A call to the devices. -/
inductive CaptureCall where
  /-- Take the devices away from the host. -/
  | acquire
  /-- Hand them back. -/
  | release
deriving DecidableEq, Repr

/-- Who owns the devices after a call that succeeded. -/
def CaptureCall.owner : CaptureCall → Ownership
  | acquire => .captured
  | release => .released

/-- The call that changes an ownership to the other one. -/
def Ownership.toggle : Ownership → CaptureCall
  | released => .acquire
  | captured => .release

/-- A call to the devices that failed. -/
structure CaptureError where
  call : CaptureCall
  reason : String
deriving DecidableEq, Repr

/-- The wording of a failed call. -/
def CaptureError.message (error : CaptureError) : String :=
  match error.call with
  | .acquire => s!"failed to grab input devices: {error.reason}"
  | .release => s!"failed to release input devices: {error.reason}"

/-- Devices that can be captured, over the states `σ` they can be in: each call
either succeeds or fails for a reason, and leaves the devices in some state. -/
abbrev Capturing (σ : Type) := CaptureCall → σ → Option String × σ

/-- The three keys of the combination and what follows from them. -/
structure Combo where
  leftShift : Bool := false
  leftCtrl : Bool := false
  escape : Bool := false
  owner : Ownership := .released
  /-- A toggle was tried and the combination has stayed held since. -/
  cooldown : Bool := false
deriving DecidableEq, Repr

namespace Combo

/-- All three keys are down. -/
def allHeld (combo : Combo) : Bool :=
  combo.leftShift && combo.leftCtrl && combo.escape

/-- The devices belong to the bridge. -/
def isCaptured (combo : Combo) : Bool :=
  combo.owner == .captured

/-- The toggle that is due, if any: the combination is held and no toggle was
tried since it was last incomplete. -/
def due (combo : Combo) : Option CaptureCall :=
  if combo.allHeld && !combo.cooldown then some combo.owner.toggle else none

/-- At the end of a batch the cooldown says whether the combination is held. -/
def settle (combo : Combo) : Combo :=
  { combo with cooldown := combo.allHeld }

end Combo

/-- How a call, or the decision to make none, ended. -/
structure Toggled (σ : Type) where
  combo : Combo
  devices : σ
  /-- The new owner if a call succeeded, nothing if none was made, or the
  failure. -/
  result : Except CaptureError (Option Ownership)

/-- Makes a call. Ownership follows a success and ignores a failure. -/
def Capturing.perform {σ : Type} (capturing : Capturing σ) (call : CaptureCall) (combo : Combo)
    (devices : σ) : Toggled σ :=
  match capturing call devices with
  | (none, devices) =>
    { combo := { combo with owner := call.owner }, devices, result := .ok (some call.owner) }
  | (some reason, devices) =>
    { combo, devices, result := .error { call, reason } }

/-- Looks at the combination at the end of a batch and toggles capture if that
is due. -/
def Capturing.evaluate {σ : Type} (capturing : Capturing σ) (combo : Combo) (devices : σ) :
    Toggled σ :=
  match combo.due with
  | none => { combo := combo.settle, devices, result := .ok none }
  | some call => capturing.perform call combo.settle devices

/-- Hands captured devices back to the host; does nothing if they are not
captured. -/
def Capturing.releaseOnExit {σ : Type} (capturing : Capturing σ) (combo : Combo) (devices : σ) :
    Toggled σ :=
  if combo.isCaptured then capturing.perform .release combo devices
  else { combo, devices, result := .ok none }

end InputBridge
