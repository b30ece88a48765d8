import InputBridge.Bridge.Rig
import InputBridge.Intake
/-!
# The bridge

The bridge turns what happens on the input devices into frames, one batch at a
time. A batch is what one wait for input finds: every ready device is drained and
its events are taken in, then the capture combination is looked at, and if some
event was accepted the state goes out as a frame. A frame that could not be
written ends the bridge, and so does a device that could not be read; a capture
call that failed is only reported.

However the bridge ends, captured devices are handed back to the host first, and
the outcome is what ended the loop, whether or not the devices could be handed
back.
-/
namespace InputBridge

/-- What a batch produced. -/
inductive BatchOutcome where
  /-- Some event was accepted; this frame was written. -/
  | sent (frame : Frame)
  /-- Nothing was to be reported. -/
  | idle
deriving DecidableEq, Repr

/-- Why a batch was not completed. -/
inductive Halt where
  /-- A failure that ends the bridge. -/
  | failed (error : BridgeError)
  /-- The bridge waits for something that will never happen. -/
  | never
deriving DecidableEq, Repr

/-- How a run of the bridge ends. -/
inductive Ending where
  /-- On request. -/
  | shutdown
  /-- On a failure. -/
  | failed (error : BridgeError)
  /-- Not at all: the bridge waits for ever. -/
  | never
deriving DecidableEq, Repr

/-- A bridge on a rig whose states are `σ`. -/
structure Bridge (σ : Type) where
  keymap : Keymap
  presence : Presence
  state : InputState
  /-- Frames written so far; the handshake does not count. The number has no upper
  limit; a counter of sixty-four bits agrees with it as long as it does not
  overflow. -/
  framesSent : Nat := 0
  /-- What the bridge is connected to. -/
  rigState : σ

namespace Bridge

variable {σ : Type}

/-- The bridge after a notice was reported. -/
def report (rig : Rig σ) (notice : Notice) (bridge : Bridge σ) : Bridge σ :=
  { bridge with rigState := rig.report notice bridge.rigState }

/-- The bridge after notices were reported in order. -/
def reportAll (rig : Rig σ) (notices : List Notice) (bridge : Bridge σ) : Bridge σ :=
  { bridge with rigState := rig.reportAll notices bridge.rigState }

/-- Writes a frame to the adapter. -/
def write (rig : Rig σ) (frame : Frame) (bridge : Bridge σ) :
    Except BridgeError Unit × Bridge σ :=
  match rig.write frame bridge.rigState with
  | (none, rigState) => (.ok (), { bridge with rigState })
  | (some error, rigState) => (.error (.transport error), { bridge with rigState })

/-- Announces to the adapter which devices are present. -/
def handshake (rig : Rig σ) (bridge : Bridge σ) : Except BridgeError Unit × Bridge σ :=
  let frame := Frame.handshake bridge.presence bridge.state.pointer.mode
  match (bridge.report rig (.greeting frame)).write rig frame with
  | (.ok (), bridge) => (.ok (), bridge.report rig .connected)
  | (.error error, bridge) => (.error error, bridge)

/-- Drains one device and takes its events in. The answer says whether some
event was accepted. -/
def drain (rig : Rig σ) (device : DeviceKind) (bridge : Bridge σ) :
    Except Halt Bool × Bridge σ :=
  match rig.drain device bridge.rigState with
  | (.never, rigState) => (.error .never, { bridge with rigState })
  | (.failed error, rigState) =>
    (.error (.failed (.source error)), { bridge with rigState })
  | (.events events, rigState) =>
    let intake := Intake.ofEvents bridge.keymap bridge.state events
    let bridge := { bridge with rigState, state := intake.state }
    (.ok intake.updated,
      bridge.reportAll rig
        (.drained device events.length :: Notice.ofRejections intake.skipped))

/-- Drains devices in order, up to the first that fails. The answer says whether
some event was accepted, `updated` whether that was so before. -/
def drainAll (rig : Rig σ) (updated : Bool) :
    List DeviceKind → Bridge σ → Except Halt Bool × Bridge σ
  | [], bridge => (.ok updated, bridge)
  | device :: rest, bridge =>
    match bridge.drain rig device with
    | (.error halt, bridge) => (.error halt, bridge)
    | (.ok accepted, bridge) => bridge.drainAll rig (updated || accepted) rest

/-- The bridge after a call to the devices, or the decision to make none. -/
def settle (rig : Rig σ) (toggled : Toggled σ) (bridge : Bridge σ) : Bridge σ :=
  { bridge with
    state := { bridge.state with combo := toggled.combo }
    rigState := rig.reportAll (Notice.ofToggle toggled.result) toggled.devices }

/-- Looks at the capture combination and toggles capture if that is due. A
failure is reported and goes no further. -/
def evaluateCapture (rig : Rig σ) (bridge : Bridge σ) : Bridge σ :=
  let toggled := rig.capturing.evaluate bridge.state.combo bridge.rigState
  let bridge := bridge.settle rig toggled
  match toggled.result with
  | .ok _ => bridge
  | .error error => bridge.report rig (.toggleFailed error)

/-- Writes the state as a frame. -/
def send (rig : Rig σ) (bridge : Bridge σ) : Except Halt BatchOutcome × Bridge σ :=
  let frame := Frame.ofState bridge.state bridge.presence
  match (bridge.report rig (.sending frame)).write rig frame with
  | (.ok (), bridge) =>
    (.ok (.sent frame), { bridge with framesSent := bridge.framesSent + 1 })
  | (.error error, bridge) => (.error (.failed error), bridge)

/-- Clears what the batch reported. -/
def finish (bridge : Bridge σ) : Bridge σ :=
  { bridge with state := bridge.state.finishBatch }

/-- The part of a batch that follows the draining: toggle, report, clear. -/
def conclude (rig : Rig σ) (updated : Bool) (bridge : Bridge σ) :
    Except Halt BatchOutcome × Bridge σ :=
  let bridge := bridge.evaluateCapture rig
  if updated then
    match bridge.send rig with
    | (.ok outcome, bridge) => (.ok outcome, bridge.finish)
    | (.error halt, bridge) => (.error halt, bridge)
  else
    (.ok .idle, bridge.finish)

/-- Processes one batch. -/
def processBatch (rig : Rig σ) (bridge : Bridge σ) : Except Halt BatchOutcome × Bridge σ :=
  match rig.wait bridge.rigState with
  | (.never, rigState) => (.error .never, { bridge with rigState })
  | (.failed error, rigState) =>
    (.error (.failed (.source error)), { bridge with rigState })
  | (.ready devices, rigState) =>
    match { bridge with rigState }.drainAll rig false devices with
    | (.error halt, bridge) => (.error halt, bridge)
    | (.ok updated, bridge) => bridge.conclude rig updated

/-- Hands captured devices back to the host. A failure is reported and goes no
further. -/
def releaseDevices (rig : Rig σ) (bridge : Bridge σ) : Bridge σ :=
  let toggled := rig.capturing.releaseOnExit bridge.state.combo bridge.rigState
  let bridge :=
    { bridge with
      state := { bridge.state with combo := toggled.combo }
      rigState := toggled.devices }
  match toggled.result with
  | .ok _ => bridge
  | .error error => bridge.report rig (.releaseFailed error)

/-- Ends a run whose last batch was not completed. -/
def stop (rig : Rig σ) (bridge : Bridge σ) : Halt → Ending × Bridge σ
  | .failed error =>
    (.failed error, (bridge.releaseDevices rig).report rig (.failed error))
  | .never =>
    match rig.interrupt bridge.rigState with
    | none => (.never, bridge)
    | some rigState =>
      let bridge := { bridge with rigState }.report rig (.shutdownRequested bridge.framesSent)
      (.shutdown, bridge.releaseDevices rig)

/-- Processes at most `limit` batches. -/
def runFor (rig : Rig σ) : Nat → Bridge σ → Ending × Bridge σ
  | 0, bridge => (.never, bridge)
  | limit + 1, bridge =>
    match bridge.processBatch rig with
    | (.ok _, bridge) => bridge.runFor rig limit
    | (.error halt, bridge) => bridge.stop rig halt

/-- Processes batches until the bridge is asked to shut down or fails. The limit
is one more than the waits that can still find a device ready, so it is never
what ends the run. -/
def run (rig : Rig σ) (bridge : Bridge σ) : Ending × Bridge σ :=
  bridge.runFor rig (rig.backlog bridge.rigState + 1)

end Bridge

end InputBridge
