import InputBridge.Proofs.CapturesUnseen
import InputBridge.Proofs.ScriptedEvents
/-!
# A batch of scripted devices

What becomes of a batch of devices that never fail depends on no more than the events it
hands out, the state and the recorder. The captures, their scripted answers, the counters
and the notices take no part, and neither do the owner of the devices and the cooldown.
A bridge is therefore looked at through the view that forgets them. A bridge that waits
for the rest of a script is, in that view, the same as any other that waits for it in
the same state, and each batch leaves it waiting for a shorter script.
-/
namespace InputBridge

/-- The sources without what belongs to the captures and the counting. -/
def ScriptedSources.plain (sources : ScriptedSources) : ScriptedSources :=
  { script := sources.script
    hang := sources.hang
    pending := sources.pending
    fault := sources.fault
    unplugged := sources.unplugged }

/-- The bench without what plays no part in the course of a run. -/
def Bench.plain (bench : Bench) : Bench :=
  { sources := bench.sources.plain, recorder := bench.recorder }

/-- A call to capture the devices plays no part. -/
theorem Bench.capturing_plain (call : CaptureCall) (bench : Bench) :
    (Bench.rig.capturing call bench).2.plain = bench.plain := by
  cases call with
  | acquire =>
    simp only [Bench.rig, ScriptedSources.capturing]
    split
    · rfl
    · split <;> rfl
  | release =>
    simp only [Bench.rig, ScriptedSources.capturing]
    split <;> rfl

namespace Bridge

/-- The bridge without what plays no part in the course of a run. -/
def plain (bridge : Bridge Bench) : Bridge Bench :=
  { bridge with state := bridge.state.uncaptured, rigState := bridge.rigState.plain }

/-- Reports leave nothing that plays a part. -/
theorem report_all_plain (notices : List Notice) (bridge : Bridge Bench) :
    (bridge.reportAll Bench.rig notices).plain = bridge.plain := by
  have unseen : (Bench.rig.reportAll notices bridge.rigState).plain = bridge.rigState.plain :=
    view_report_all Bench.rig.silent Bench.plain
      (Bench.rig.silent_undisturbed Bench.plain fun _ _ => rfl) notices bridge.rigState
  simp only [plain, reportAll, unseen]

/-- A look at the combination plays no part. -/
theorem evaluate_capture_plain (bridge : Bridge Bench) :
    (bridge.evaluateCapture Bench.rig).plain = bridge.plain :=
  evaluate_capture_reported Bench.rig Bench.plain (fun _ _ => rfl) Bench.capturing_plain bridge

/-- Neither does the way out, which ends a run as the batch was ended. -/
theorem stop_plain (halt : Halt) (bridge : Bridge Bench) :
    (bridge.stop Bench.rig halt).2.plain = bridge.plain ∧
      (bridge.stop Bench.rig halt).1 = match halt with
        | .failed error => .failed error
        | .never => if bridge.rigState.sources.hang then .shutdown else .never := by
  have released (bridge : Bridge Bench) :
      (bridge.releaseDevices Bench.rig).plain = bridge.plain :=
    release_devices_reported Bench.rig Bench.plain (fun _ _ => rfl) Bench.capturing_plain bridge
  cases halt with
  | failed error => exact ⟨released bridge, rfl⟩
  | never =>
    cases hang : bridge.rigState.sources.hang with
    | false => simp [stop, Bench.rig, hang]
    | true =>
      have asked : Bench.rig.interrupt bridge.rigState = some bridge.rigState := if_pos hang
      simp only [stop, asked, if_true, and_true]
      exact released _

/-- A bridge that waits for the rest of a script, with nothing pending and no device at
fault. -/
def awaiting (keymap : Keymap) (presence : Presence) (state : InputState) (framesSent : Nat)
    (script : List Entries) (hang : Bool) (recorder : FrameRecorder) : Bridge Bench :=
  { keymap, presence, framesSent
    state := state.uncaptured
    rigState :=
      { sources := { script := script.map fun entries => .batch entries none, hang }
        recorder } }

/-- The bridge once events were taken in and the sources have something else pending. -/
def fed (bridge : Bridge Bench) (events : List InputEvent)
    (pending : PerDevice (List InputEvent)) : Bridge Bench :=
  { bridge with
    state := bridge.state.absorbAll bridge.keymap events
    rigState := { bridge.rigState with sources := { bridge.rigState.sources with pending } } }

/-- A device that does not fail hands out what is pending for it. -/
theorem drain_plain (device : DeviceKind) (bridge : Bridge Bench)
    (sound : bridge.rigState.sources.fault = none)
    (plugged : bridge.rigState.sources.unplugged = none) :
    let pending := bridge.rigState.sources.pending
    (bridge.drain Bench.rig device).1 =
        .ok ((pending.get device).any (InputEvent.isAccepted bridge.keymap)) ∧
      (bridge.drain Bench.rig device).2.plain =
        bridge.plain.fed (pending.get device) (pending.modify device fun _ => []) := by
  have faultless : bridge.rigState.sources.readFault device = none := by
    simp [ScriptedSources.readFault, sound, plugged]
  simp only [drain, Bench.rig, ScriptedSources.drain, faultless]
  refine ⟨congrArg Except.ok (Intake.of_events_updated _ _ _), ?_⟩
  refine (report_all_plain _ _).trans ?_
  simp only [plain, fed, Intake.of_events_state, InputState.absorb_all_uncaptured]
  rfl

/-- Devices that do not fail hand out what is pending, and all of it is taken in. -/
theorem drain_all_plain (devices : List DeviceKind) (updated : Bool) (bridge : Bridge Bench)
    (sound : bridge.rigState.sources.fault = none)
    (plugged : bridge.rigState.sources.unplugged = none) :
    let pending := bridge.rigState.sources.pending
    let events := ScriptedSources.handedOut pending devices
    (bridge.drainAll Bench.rig updated devices).1 =
        .ok (updated || events.any (InputEvent.isAccepted bridge.keymap)) ∧
      (bridge.drainAll Bench.rig updated devices).2.plain =
        bridge.plain.fed events (ScriptedSources.leftOver pending devices) := by
  induction devices generalizing updated bridge with
  | nil => exact ⟨by simp [drainAll, ScriptedSources.handedOut], rfl⟩
  | cons device rest inductionHypothesis =>
    obtain ⟨accepted, left⟩ := drain_plain device bridge sound plugged
    rcases drained : bridge.drain Bench.rig device with ⟨result, next⟩
    rw [drained] at accepted left
    simp only at accepted left
    subst accepted
    have stillSound : next.rigState.sources.fault = none :=
      (congrArg (·.rigState.sources.fault) left).trans sound
    have stillPlugged : next.rigState.sources.unplugged = none :=
      (congrArg (·.rigState.sources.unplugged) left).trans plugged
    have sameKeymap : next.keymap = bridge.keymap := congrArg (·.keymap) left
    have nextPending : next.rigState.sources.pending =
        bridge.rigState.sources.pending.modify device fun _ => [] :=
      congrArg (·.rigState.sources.pending) left
    obtain ⟨answer, after⟩ := inductionHypothesis
      (updated || (bridge.rigState.sources.pending.get device).any
        (InputEvent.isAccepted bridge.keymap)) next stillSound stillPlugged
    simp only [drainAll, drained]
    rw [answer, after, nextPending, sameKeymap, left]
    refine ⟨?_, ?_⟩
    · rw [ScriptedSources.handedOut, List.any_append, Bool.or_assoc]
    · simp only [fed, ScriptedSources.handedOut, InputState.absorb_all_append]
      rfl

/-- A frame shows neither the owner of the devices nor the cooldown. -/
theorem frame_uncaptured (state : InputState) (presence : Presence) :
    Frame.ofState state.uncaptured presence = Frame.ofState state presence := rfl

section Awaiting

variable (keymap : Keymap) (presence : Presence) (state : InputState) (framesSent : Nat)
  (entries : Entries) (rest : List Entries) (hang : Bool) (recorder : FrameRecorder)
  (bridge : Bridge Bench)

/-- Nothing more arrives once the script is used up. Then the wait fails, or hangs. -/
theorem batch_exhausted
    (awaits : bridge.plain = awaiting keymap presence state framesSent [] hang recorder) :
    ∃ next : Bridge Bench,
      bridge.processBatch Bench.rig =
          (.error (if hang then .never else .failed (.source .closed)), next) ∧
        next.plain = awaiting keymap presence state framesSent [] hang recorder := by
  have script : bridge.rigState.sources.script = [] :=
    congrArg (·.rigState.sources.script) awaits
  have hangs : bridge.rigState.sources.hang = hang := congrArg (·.rigState.sources.hang) awaits
  refine ⟨bridge, ?_, awaits⟩
  cases hang <;> simp [processBatch, Bench.rig, ScriptedSources.wait, script, hangs]

/-- The next entries of the script arrive where nothing is pending. -/
theorem wait_plain
    (awaits : bridge.plain =
      awaiting keymap presence state framesSent (entries :: rest) hang recorder) :
    ∃ woken : Bench, Bench.rig.wait bridge.rigState = (.ready (entries.map Prod.fst), woken) ∧
      woken.plain =
        { sources :=
            { script := rest.map fun entries => .batch entries none
              hang
              pending := ScriptedSources.receive { keyboard := [], mouse := [] } entries }
          recorder } := by
  have bench := congrArg (·.rigState) awaits
  have script : bridge.rigState.sources.script =
      .batch entries none :: rest.map fun entries => .batch entries none :=
    congrArg (·.sources.script) bench
  have hangs : bridge.rigState.sources.hang = hang := congrArg (·.sources.hang) bench
  have nothing : bridge.rigState.sources.pending = { keyboard := [], mouse := [] } :=
    congrArg (·.sources.pending) bench
  have plugged : bridge.rigState.sources.unplugged = none :=
    congrArg (·.sources.unplugged) bench
  have records : bridge.rigState.recorder = recorder := congrArg (·.recorder) bench
  refine ⟨(Bench.rig.wait bridge.rigState).2, ?_, ?_⟩
  · simp only [Bench.rig, ScriptedSources.wait, script]
  · simp only [Bench.plain, Bench.rig, ScriptedSources.wait, script, ScriptedSources.plain,
      hangs, nothing, plugged, records]

/-- The draining takes in the events of the next entries and leaves the bridge waiting
for the rest of the script. -/
theorem batch_drained
    (awaits : bridge.plain =
      awaiting keymap presence state framesSent (entries :: rest) hang recorder) :
    ∃ drained : Bridge Bench,
      bridge.processBatch Bench.rig =
          drained.conclude Bench.rig (entries.events.any (InputEvent.isAccepted keymap)) ∧
        drained.plain = awaiting keymap presence (state.absorbAll keymap entries.events)
          framesSent rest hang recorder := by
  obtain ⟨woken, wakeup, seen⟩ :=
    wait_plain keymap presence state framesSent entries rest hang recorder bridge awaits
  have sameKeymap : bridge.keymap = keymap := congrArg (·.keymap) awaits
  have pending : woken.sources.pending =
      ScriptedSources.receive { keyboard := [], mouse := [] } entries :=
    congrArg (·.sources.pending) seen
  obtain ⟨answer, left⟩ := drain_all_plain (entries.map Prod.fst) false
    { bridge with rigState := woken } (congrArg (·.sources.fault) seen)
    (congrArg (·.sources.unplugged) seen)
  simp only [pending, ScriptedSources.handed_out_received, ScriptedSources.left_over_received,
    Bool.false_or, sameKeymap] at answer left
  rcases ends : drainAll Bench.rig false (entries.map Prod.fst)
      { bridge with rigState := woken } with ⟨result, drained⟩
  rw [sameKeymap] at ends
  rw [ends] at answer left
  refine ⟨drained, ?_, ?_⟩
  · simp only at answer
    simp only [processBatch, wakeup, sameKeymap, ends, answer]
  · have view : plain { bridge with keymap, rigState := woken } =
        { bridge.plain with keymap, rigState := woken.plain } := rfl
    refine Eq.trans left ?_
    rw [view, awaits, seen]
    simp only [awaiting, fed, InputState.absorb_all_uncaptured]

/-- A batch without an accepted event reports nothing. -/
theorem batch_idle
    (awaits : bridge.plain =
      awaiting keymap presence state framesSent (entries :: rest) hang recorder)
    (unaccepted : entries.events.any (InputEvent.isAccepted keymap) = false) :
    ∃ next : Bridge Bench, bridge.processBatch Bench.rig = (.ok .idle, next) ∧
      next.plain = awaiting keymap presence
        (state.absorbAll keymap entries.events).finishBatch framesSent rest hang recorder := by
  obtain ⟨drained, batch, seen⟩ :=
    batch_drained keymap presence state framesSent entries rest hang recorder bridge awaits
  have looked := (evaluate_capture_plain drained).trans seen
  refine ⟨(drained.evaluateCapture Bench.rig).finish, ?_, ?_⟩
  · rw [batch, unaccepted]
    rfl
  · have finished : (drained.evaluateCapture Bench.rig).finish.plain =
        (drained.evaluateCapture Bench.rig).plain.finish := rfl
    exact finished.trans (congrArg finish looked)

/-- What the send after the draining writes: the frame of the state with the events taken
in, to the recorder as it is. -/
theorem send_plain (drained : Bridge Bench)
    (seen : drained.plain = awaiting keymap presence state framesSent rest hang recorder) :
    let frame := Frame.ofState state presence
    let (refusal, filled) := recorder.write frame
    (drained.send Bench.rig).1 = (match refusal with
        | none => .ok (.sent frame)
        | some error => .error (.failed (.transport error))) ∧
      (drained.send Bench.rig).2.plain =
        awaiting keymap presence state (framesSent + if refusal.isNone then 1 else 0) rest hang
          filled := by
  have frame : Frame.ofState drained.state drained.presence = Frame.ofState state presence := by
    rw [← frame_uncaptured, ← frame_uncaptured state]
    exact congrArg (fun bridge => Frame.ofState bridge.state bridge.presence) seen
  have records : drained.rigState.recorder = recorder := congrArg (·.rigState.recorder) seen
  rcases answer : recorder.write (Frame.ofState state presence) with ⟨refusal, filled⟩
  have written (count : Nat) (notices : List Notice) :
      plain { drained with
          framesSent := drained.framesSent + count
          rigState := { drained.rigState with recorder := filled, notices } } =
        awaiting keymap presence state (framesSent + count) rest hang filled :=
    congrArg (fun bridge : Bridge Bench =>
      { bridge with
        framesSent := bridge.framesSent + count
        rigState := { bridge.rigState with recorder := filled } }) seen
  simp only [send, write, report, Bench.rig, frame, records, answer]
  cases refusal with
  | none => exact ⟨rfl, written 1 _⟩
  | some error => exact ⟨rfl, written 0 _⟩

/-- A batch with an accepted event is the send of the state with its events taken in. The
state is cleared only if the recorder took the frame. -/
theorem batch_reported
    (awaits : bridge.plain =
      awaiting keymap presence state framesSent (entries :: rest) hang recorder)
    (accepted : entries.events.any (InputEvent.isAccepted keymap) = true) :
    let after := state.absorbAll keymap entries.events
    let frame := Frame.ofState after presence
    let (refusal, filled) := recorder.write frame
    ∃ sent : Bridge Bench,
      sent.plain = awaiting keymap presence after
          (framesSent + if refusal.isNone then 1 else 0) rest hang filled ∧
        bridge.processBatch Bench.rig = match refusal with
          | none => (.ok (.sent frame), sent.finish)
          | some error => (.error (.failed (.transport error)), sent) := by
  obtain ⟨drained, batch, seen⟩ :=
    batch_drained keymap presence state framesSent entries rest hang recorder bridge awaits
  have sends := send_plain keymap presence (state.absorbAll keymap entries.events) framesSent
    rest hang recorder (drained.evaluateCapture Bench.rig)
    ((evaluate_capture_plain drained).trans seen)
  rcases ends : (drained.evaluateCapture Bench.rig).send Bench.rig with ⟨result, sent⟩
  rcases answer : recorder.write
    (Frame.ofState (state.absorbAll keymap entries.events) presence) with ⟨refusal, filled⟩
  simp only [answer, ends] at sends ⊢
  obtain ⟨rfl, left⟩ := sends
  refine ⟨sent, left, ?_⟩
  rw [batch, accepted]
  cases refusal <;> simp only [conclude, if_true, ends]

/-- If the recorder takes the frame, the batch is completed. -/
theorem batch_sent (filled : FrameRecorder)
    (awaits : bridge.plain =
      awaiting keymap presence state framesSent (entries :: rest) hang recorder)
    (accepted : entries.events.any (InputEvent.isAccepted keymap) = true)
    (taken : recorder.write (Frame.ofState (state.absorbAll keymap entries.events) presence) =
      (none, filled)) :
    ∃ next : Bridge Bench,
      bridge.processBatch Bench.rig =
          (.ok (.sent (Frame.ofState (state.absorbAll keymap entries.events) presence)), next) ∧
        next.plain = awaiting keymap presence
          (state.absorbAll keymap entries.events).finishBatch (framesSent + 1) rest hang
            filled := by
  have reported := batch_reported keymap presence state framesSent entries rest hang recorder
    bridge awaits accepted
  simp only [taken] at reported
  obtain ⟨sent, left, batch⟩ := reported
  exact ⟨sent.finish, batch, congrArg finish left⟩

/-- If the recorder refuses the frame, that ends the batch before the state is cleared. -/
theorem batch_refused (error : TransportError) (filled : FrameRecorder)
    (awaits : bridge.plain =
      awaiting keymap presence state framesSent (entries :: rest) hang recorder)
    (accepted : entries.events.any (InputEvent.isAccepted keymap) = true)
    (refused : recorder.write (Frame.ofState (state.absorbAll keymap entries.events) presence) =
      (some error, filled)) :
    ∃ next : Bridge Bench,
      bridge.processBatch Bench.rig = (.error (.failed (.transport error)), next) ∧
        next.plain = awaiting keymap presence (state.absorbAll keymap entries.events) framesSent
          rest hang filled := by
  have reported := batch_reported keymap presence state framesSent entries rest hang recorder
    bridge awaits accepted
  simp only [refused] at reported
  obtain ⟨sent, left, batch⟩ := reported
  exact ⟨sent, batch, left⟩

end Awaiting

end Bridge

end InputBridge
