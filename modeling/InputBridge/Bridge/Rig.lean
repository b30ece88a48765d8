import InputBridge.Notice
/-!
# What the bridge is connected to

The bridge waits for input, reads it, takes the devices away from the host and
back, writes frames, and reports what it does. A rig supplies these operations
over some type of states, so the same bridge runs on scripted devices and on a
machine's own. Every operation returns the state it leaves behind; none can be
undone by the bridge.

Waiting is the one operation that need not end. Instead of running for ever it
then says so, and the request to shut down, if one is to come, is asked for
separately.
-/
namespace InputBridge

/-- How a wait for input ends. -/
inductive Wakeup where
  /-- The devices listed have events, in no particular order. -/
  | ready (devices : List DeviceKind)
  /-- The input side failed. -/
  | failed (error : SourceError)
  /-- Nothing will ever happen. -/
  | never
deriving DecidableEq, Repr

/-- What reading a device gives. -/
inductive Drained where
  /-- The events that were pending, in order. -/
  | events (events : List InputEvent)
  /-- The device failed. -/
  | failed (error : SourceError)
  /-- The device has no event and never will. -/
  | never
deriving DecidableEq, Repr

/-- The operations of everything the bridge is connected to. -/
structure Rig (σ : Type) where
  /-- Waits until some device has events. -/
  wait : σ → Wakeup × σ
  /-- Reads all pending events of a device. -/
  drain : DeviceKind → σ → Drained × σ
  /-- Takes the devices away from the host or hands them back. -/
  capturing : Capturing σ
  /-- Writes a frame to the adapter. -/
  write : Frame → σ → Option TransportError × σ
  /-- Reports a notice. -/
  report : Notice → σ → σ
  /-- While nothing else will ever happen: whether a request to shut down
  comes. -/
  interrupt : σ → Option σ
  /-- A bound on how many more waits can find a device ready. -/
  backlog : σ → Nat

/-- Reports notices in order. -/
def Rig.reportAll {σ : Type} (rig : Rig σ) (notices : List Notice) (state : σ) : σ :=
  notices.foldl (fun state notice => rig.report notice state) state

end InputBridge
