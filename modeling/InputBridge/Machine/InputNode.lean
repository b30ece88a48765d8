import InputBridge.Capture
import InputBridge.Event.Basic
import InputBridge.Event.Code
import InputBridge.Machine.Reactor
import InputBridge.SystemError
/-!
# An input device of the machine

The machine keeps events for the reader of a device until they are read. They are
handed over in whole packets: a packet ends with a report, and what comes after the
last report stays until the report that completes it has arrived. A read that finds
no whole packet clears the mark that the device is ready, and no other read does; the
next event sets it again.

Nothing is lost: what is handed over, followed by what stays, is what was kept.

A device can be grabbed, so that its events go to its reader alone. Grabbing a
grabbed device, or letting go of one that is not grabbed, takes no call. A call
that fails leaves things as they were.

Devices are read and grabbed by way of a library, evdev. What is said here of
packets and of calls is what is assumed of it and of the machine below it.
-/
namespace InputBridge

/-- An input device. -/
structure InputNode where
  /-- The name of its file among those of the input devices. -/
  node : String
  /-- The name the device has for itself. -/
  name : Option String := none
  /-- The codes of the keys it reports, if it reports keys at all. -/
  keys : Option (List UInt16) := none
  /-- It cannot be opened, or not asked what it is. -/
  isHidden : Bool := false
  /-- It cannot be read without waiting for events. -/
  isBlocking : Bool := false
  /-- It cannot be waited for. -/
  isUnpollable : Bool := false
  /-- How the calls to grab it end that are still to come; all others succeed. -/
  grabFaults : List (Option SystemError) := []
  /-- How the calls to let go of it end that are still to come; all others
  succeed. -/
  ungrabFaults : List (Option SystemError) := []
  isGrabbed : Bool := false
  /-- The events that were not yet handed over. -/
  queue : List InputEvent := []
  /-- Something happened since a read last found nothing to hand over. -/
  isReady : Bool := false
  /-- Why reads of it fail, if they do. -/
  fault : Option SystemError := none
deriving DecidableEq, Repr

/-- The event closes a packet. -/
def InputEvent.closesPacket : InputEvent → Bool
  | .other kind code _ => kind == EventType.sync && code == 0
  | _ => false

/-- The whole packets at the front of some events, and the events of the packet
that is not yet complete. -/
def splitPackets : List InputEvent → List InputEvent × List InputEvent
  | [] => ([], [])
  | event :: rest =>
    match splitPackets rest with
    | ([], open_) => if event.closesPacket then ([event], open_) else ([], event :: open_)
    | (whole, open_) => (event :: whole, open_)

/-- Cutting events into packets loses none. -/
theorem split_packets_append (events : List InputEvent) :
    (splitPackets events).1 ++ (splitPackets events).2 = events := by
  fun_induction splitPackets events <;> simp_all

/-- What is left of a packet holds no event that would close it. -/
theorem closes_packet_split_packets {events : List InputEvent} {event : InputEvent}
    (left : event ∈ (splitPackets events).2) : event.closesPacket = false := by
  fun_induction splitPackets events <;> simp_all
  rcases left with rfl | earlier
  · assumption
  · simp_all

/-- How a call to grab a device or to let go of it ends. -/
inductive GrabAnswer where
  /-- The device is already as wanted; no call was made. -/
  | unneeded
  | done
  | refused (error : SystemError)
deriving DecidableEq, Repr

/-- Why the device was not brought into the wanted state, if it was not. -/
def GrabAnswer.fault? : GrabAnswer → Option SystemError
  | refused error => some error
  | _ => none

namespace InputNode

/-- Why the device cannot be prepared for reading, if it cannot. -/
def registrationFault (device : InputNode) : Option SystemError :=
  if device.isBlocking then some .noDevice
  else if device.isUnpollable then some .notPermitted
  else none

/-- Events happen on the device. -/
def receive (events : List InputEvent) (device : InputNode) : InputNode :=
  { device with
    queue := device.queue ++ events
    isReady := device.isReady || !events.isEmpty }

/-- Reads of the device fail from now on. -/
def fail (error : SystemError) (device : InputNode) : InputNode :=
  { device with fault := some error, isReady := true }

/-- Hands over the whole packets, if there are any. A failing read changes nothing. -/
def fetch (device : InputNode) : Fetched × InputNode :=
  match device.fault with
  | some error => (.failed error.message, device)
  | none =>
    match splitPackets device.queue with
    | ([], _) => (.wouldBlock, { device with isReady := false })
    | (whole, rest) => (.events whole, { device with queue := rest })

/-- Grabs the device or lets go of it. The library evdev is assumed to do this: to
remember whether it grabbed the device, to make a call only where that changes
it, and to take the change for made only once the call succeeded. -/
def perform (call : CaptureCall) (device : InputNode) : GrabAnswer × InputNode :=
  match call with
  | .acquire =>
    if device.isGrabbed then (.unneeded, device)
    else
      let called := { device with grabFaults := device.grabFaults.tail }
      match device.grabFaults.head?.join with
      | some error => (.refused error, called)
      | none => (.done, { called with isGrabbed := true })
  | .release =>
    if device.isGrabbed then
      let called := { device with ungrabFaults := device.ungrabFaults.tail }
      match device.ungrabFaults.head?.join with
      | some error => (.refused error, called)
      | none => (.done, { called with isGrabbed := false })
    else (.unneeded, device)

end InputNode

end InputBridge
