import InputBridge.Bridge.Rig
/-!
# Scripted devices

To try the bridge without hardware, its rig can be scripted. The sources follow a
list of arrivals: each wait takes the next one, which either fills the pending
events of some devices or fails. Reading a device hands out its pending events
and clears them, whether or not the last wait named the device. Calls to capture
the devices follow their own scripts, and a recorder takes the frames up to a
limit.

Nothing is lost on the way: what was handed out of a device, followed by what is
still pending, is what the arrivals so far held for it.
-/
namespace InputBridge

/-- What happens at a wait. -/
inductive Arrival where
  /-- Devices become ready, in this order and possibly more than once, each with
  events. A fault makes reads of one device fail while this arrival is the
  latest. -/
  | batch (entries : List (DeviceKind × List InputEvent)) (fault : Option (DeviceKind × String))
  /-- The wait fails. -/
  | failure (error : SourceError)
deriving DecidableEq, Repr

/-- Devices that follow a script. The counts have no upper limit; counters of
thirty-two bits agree with them as long as they do not overflow. -/
structure ScriptedSources where
  /-- The arrivals still to come. -/
  script : List Arrival := []
  /-- After the script, waits never end instead of failing. -/
  hang : Bool := false
  /-- The events that arrived and were not yet handed out. -/
  pending : PerDevice (List InputEvent) := { keyboard := [], mouse := [] }
  /-- The fault of the latest arrival. -/
  fault : Option (DeviceKind × String) := none
  /-- A device whose reads all fail. -/
  unplugged : Option DeviceKind := none
  /-- How many reads succeeded. -/
  drained : Nat := 0
  /-- The answers still to be given to calls that take the devices: a reason for
  a failure, or none to leave the answer to the devices. -/
  acquireAnswers : List (Option String) := []
  /-- The same for calls that hand the devices back. -/
  releaseAnswers : List (Option String) := []
  /-- The devices refuse to be taken. -/
  refuseGrabs : Bool := false
  /-- How many calls took the devices. -/
  grabs : Nat := 0
  /-- How many calls handed them back. -/
  ungrabs : Nat := 0
deriving DecidableEq, Repr

namespace ScriptedSources

/-- Adds an arrival's events to what is pending. -/
def receive (pending : PerDevice (List InputEvent))
    (entries : List (DeviceKind × List InputEvent)) : PerDevice (List InputEvent) :=
  entries.foldl (fun pending (device, events) => pending.modify device (· ++ events)) pending

/-- Waits for the next arrival. -/
def wait (sources : ScriptedSources) : Wakeup × ScriptedSources :=
  match sources.script with
  | [] => (if sources.hang then .never else .failed .closed, sources)
  | .failure error :: script => (.failed error, { sources with script, fault := none })
  | .batch entries fault :: script =>
    (.ready (entries.map Prod.fst),
      { sources with script, fault, pending := receive sources.pending entries })

/-- Why a read of a device fails now, if it does. The fault of the latest arrival
is looked at first. -/
def readFault (sources : ScriptedSources) (device : DeviceKind) : Option String :=
  match sources.fault.filter fun (faulty, _) => faulty == device with
  | some (_, reason) => some reason
  | none => if sources.unplugged = some device then some "No such device" else none

/-- Hands out the pending events of a device. A failing read leaves them. -/
def drain (device : DeviceKind) (sources : ScriptedSources) : Drained × ScriptedSources :=
  match sources.readFault device with
  | some reason => (.failed (.read device reason), sources)
  | none =>
    (.events (sources.pending.get device),
      { sources with
        pending := sources.pending.modify device fun _ => []
        drained := sources.drained + 1 })

/-- Answers a call to take the devices or hand them back. The script of answers
is asked first, then the devices. -/
def capturing : Capturing ScriptedSources
  | .acquire, sources =>
    let asked := { sources with acquireAnswers := sources.acquireAnswers.tail }
    match sources.acquireAnswers.head?.join with
    | some reason => (some reason, asked)
    | none =>
      if sources.refuseGrabs then (some "Device or resource busy", asked)
      else (none, { asked with grabs := sources.grabs + 1 })
  | .release, sources =>
    let asked := { sources with releaseAnswers := sources.releaseAnswers.tail }
    match sources.releaseAnswers.head?.join with
    | some reason => (some reason, asked)
    | none => (none, { asked with ungrabs := sources.ungrabs + 1 })

end ScriptedSources

/-- Devices that can be captured and remember the calls they get. -/
structure CaptureRecorder where
  /-- Why calls that take the devices fail, if they do. -/
  acquireFailure : Option String := none
  /-- Why calls that hand them back fail, if they do. -/
  releaseFailure : Option String := none
  /-- The calls so far, failed ones too. -/
  calls : List CaptureCall := []
deriving DecidableEq, Repr

/-- Remembers a call and answers it. -/
def CaptureRecorder.capturing : Capturing CaptureRecorder
  | .acquire, recorder =>
    (recorder.acquireFailure, { recorder with calls := recorder.calls ++ [.acquire] })
  | .release, recorder =>
    (recorder.releaseFailure, { recorder with calls := recorder.calls ++ [.release] })

/-- Takes frames up to a limit and remembers them. -/
structure FrameRecorder where
  frames : List Frame := []
  /-- How many frames are taken, if that is limited. -/
  limit : Option Nat := none
deriving DecidableEq, Repr

namespace FrameRecorder

/-- The limit is reached. -/
def isFull (recorder : FrameRecorder) : Bool :=
  match recorder.limit with
  | none => false
  | some limit => limit ≤ recorder.frames.length

/-- Takes a frame, or fails as an adapter that was unplugged. -/
def write (frame : Frame) (recorder : FrameRecorder) : Option TransportError × FrameRecorder :=
  if recorder.isFull then
    (some (.peripheralNotFound Frame.adapterAddress "Remote I/O error (os error 121)"), recorder)
  else
    (none, { recorder with frames := recorder.frames ++ [frame] })

end FrameRecorder

/-- Scripted sources, a recorder, and the notices reported so far. -/
structure Bench where
  sources : ScriptedSources := {}
  recorder : FrameRecorder := {}
  notices : List Notice := []
deriving DecidableEq, Repr

namespace Bench

/-- The rig of scripted devices. A request to shut down comes when the script is
used up, if waits hang then. -/
def rig : Rig Bench where
  wait bench :=
    let (wakeup, sources) := bench.sources.wait
    (wakeup, { bench with sources })
  drain device bench :=
    let (drained, sources) := bench.sources.drain device
    (drained, { bench with sources })
  capturing call bench :=
    let (failure, sources) := ScriptedSources.capturing call bench.sources
    (failure, { bench with sources })
  write frame bench :=
    let (failure, recorder) := bench.recorder.write frame
    (failure, { bench with recorder })
  report notice bench := { bench with notices := bench.notices ++ [notice] }
  interrupt bench := if bench.sources.hang then some bench else none
  backlog bench := bench.sources.script.length

end Bench

end InputBridge
