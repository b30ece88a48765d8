import InputBridge.Proofs.FrameReading
import InputBridge.Proofs.FrameRecord
import InputBridge.Proofs.HotkeyEdges
import InputBridge.Proofs.LastingState
/-!
# The adapter stays in step

A batch without an accepted event sends nothing. That is sound only if nothing changed that
the adapter ought to know, in any such batch of any run. Between batches four things hold that
make it so: what is reported once was cleared, the cooldown is settled, what a frame takes from
the state is in range, and the frame written last shows the state as it is now.

A batch that sends makes them true again, since clearing touches neither buttons nor an
absolute position. A batch that does not send changes nothing at all: its events are refused,
with a settled cooldown no toggle is due, and there is nothing left to clear. The frame written
last therefore still shows the state.
-/
namespace InputBridge

/-- A frame shows the state as it is: the buttons and, in absolute mode, the position. It
announces presence and mode as the handshake did. -/
structure Frame.Shows (frame : Frame) (presence : Presence) (mode : PointerMode)
    (state : InputState) : Prop where
  buttons : frame.read.buttons = state.buttons
  position : mode = .absolute →
    (frame.x.toNat : Int) = state.pointer.x ∧ (frame.y.toNat : Int) = state.pointer.y
  announced : frame.flags &&& 0x3F = (Frame.handshake presence mode).flags

namespace InputState

/-- Which keys are mapped is nothing to the pointer, so with any keymap it stays in range. -/
theorem pointer_in_range (mode : PointerMode) (bounds : ScreenBounds) (lines : 0 ≤ bounds.maxY)
    (keymap : Keymap) (state : InputState) (events : List InputEvent)
    (inRange : InRange mode bounds state) :
    InRange mode bounds { state.absorbAll keymap events with pendingKey := none } := by
  have nothing : ({} : Keymap).LeavesReleaseBit := by
    intro code scancode found
    cases found
  have unmapped : InRange mode bounds (state.absorbAll {} events) :=
    absorb_all_in_range mode bounds lines {} nothing state events inRange
  have same : (state.absorbAll keymap events).pointer = (state.absorbAll {} events).pointer := by
    simp only [absorb_all_exact, accordingTo]
  obtain ⟨sameMode, sameBounds, x, y, wheel, _⟩ := unmapped
  rw [← same] at sameMode sameBounds x y wheel
  refine ⟨sameMode, sameBounds, x, y, wheel, ?_⟩
  intro key pending
  cases pending

end InputState

namespace Frame

/-- The frame of a state shows what is left of the state once it is cleared. -/
theorem of_state_shows (mode : PointerMode) (width : UInt16) (standard : VideoStandard)
    (state : InputState) (presence : Presence)
    (inRange : InputState.InRange mode (.ofScreen width standard)
      { state with pendingKey := none }) :
    (ofState state presence).Shows presence mode state.finishBatch := by
  have read := InputState.read_of_state { state with pendingKey := none } presence
    ⟨mode, width, standard, inRange⟩
  have columns := (ScreenBounds.ofScreen width standard).max_x_range
  have lines := ScreenBounds.max_y_range width standard
  obtain ⟨buttons, position⟩ := state.finish_batch_keeps
  obtain ⟨rfl, sameBounds, x, y, _, _⟩ := inRange
  have readX := read_coordinate_exact _ _ _ x columns.2
  have readY := read_coordinate_exact _ _ _ y (Int.le_trans lines.2 (by decide))
  refine ⟨?_, ?_, ?_⟩
  · rw [buttons]
    exact congrArg Report.buttons read
  · intro absolute
    obtain ⟨sameX, sameY⟩ := position absolute
    rw [absolute] at readX readY
    exact ⟨readX.trans sameX.symm, readY.trans sameY.symm⟩
  · exact (flag_bits state.buttons.left state.buttons.right presence.mouse presence.keyboard
      (state.pointer.mode == .relative)).2.2.2.2

/-- The frame of the state before any event is the handshake. -/
theorem of_state_initial (presence : Presence) (mode : PointerMode) (bounds : ScreenBounds) :
    ofState (.initial mode bounds) presence = handshake presence mode := by
  have origin : UInt8.ofInt 0 = 0 := rfl
  simp [ofState, handshake, InputState.initial, bit, wheelBits, origin]

end Frame

/-- With a settled cooldown no call is due, and a look at the combination changes nothing. -/
theorem Capturing.evaluate_settled {σ : Type} (capturing : Capturing σ) (combo : Combo)
    (devices : σ) (settled : combo.cooldown = combo.allHeld) :
    (capturing.evaluate combo devices).combo = combo := by
  have nothingDue : combo.due = none := by
    rw [Combo.due, settled, Bool.and_not_self]
    rfl
  simp only [evaluate, nothingDue, Combo.settle, ← settled]

namespace Bridge

variable {σ : Type}

/-- What a completed batch makes of the state: events are taken in, the combination is looked
at, and what was reported is cleared. The frame it sends is that of the state before clearing.
If it sends none, none of the events were accepted. -/
theorem completed_state (rig : Rig σ) (bridge next : Bridge σ) (outcome : BatchOutcome)
    (completed : bridge.processBatch rig = (.ok outcome, next)) :
    ∃ events devices,
      let reported := bridge.stateAfter rig events devices
      next.presence = bridge.presence ∧ next.state = reported.finishBatch ∧
        (outcome = .sent (.ofState reported bridge.presence) ∨
          outcome = .idle ∧ events.any (InputEvent.isAccepted bridge.keymap) = false) := by
  have run := process_batch_run rig _ rig.undisturbed_blind bridge
  rw [completed] at run
  cases run with
  | sent events devices rigState => exact ⟨events, devices, rfl, rfl, .inl rfl⟩
  | idle events devices rigState unaccepted =>
    exact ⟨events, devices, rfl, rfl, .inr ⟨rfl, unaccepted⟩⟩

/-- An idle batch leaves the state as it was, if there was nothing to clear and the cooldown
was settled. -/
theorem idle_keeps_state (rig : Rig σ) (bridge next : Bridge σ)
    (cleared : bridge.state.finishBatch = bridge.state) (settled : bridge.Settled)
    (idle : bridge.processBatch rig = (.ok .idle, next)) : next.state = bridge.state := by
  obtain ⟨events, devices, _, left, sent | ⟨_, unaccepted⟩⟩ :=
    completed_state rig bridge next .idle idle
  · cases sent
  · have untouched := InputState.absorb_all_unaccepted bridge.keymap bridge.state events unaccepted
    have looked := rig.capturing.evaluate_settled bridge.state.combo devices settled
    rw [left, stateAfter, toggledAfter, untouched, looked]
    exact cleared

/-- What holds of the bridge and its adapter between batches: nothing is left to clear, no call
is due, and the frame written last, which was taken, shows the state. -/
structure InStep (presence : Presence) (mode : PointerMode) (bounds : ScreenBounds)
    (bridge : Bridge (σ × List Written)) : Prop where
  samePresence : bridge.presence = presence
  settled : bridge.Settled
  cleared : bridge.state.finishBatch = bridge.state
  inRange : bridge.state.InRange mode bounds
  shown : ∃ frame, bridge.rigState.2.getLast? = some { frame, refusal := none } ∧
    frame.Shows presence mode bridge.state

/-- A completed batch keeps the adapter in step. -/
theorem completed_in_step (rig : Rig σ) (presence : Presence) (mode : PointerMode)
    (width : UInt16) (standard : VideoStandard) (bridge next : Bridge (σ × List Written))
    (outcome : BatchOutcome) (inStep : bridge.InStep presence mode (.ofScreen width standard))
    (completed : bridge.processBatch rig.recorded = (.ok outcome, next)) :
    next.InStep presence mode (.ofScreen width standard) := by
  obtain ⟨rfl, settled, cleared, inRange, frame, last, shows⟩ := inStep
  obtain ⟨_, _, _, nextSettled, _⟩ :=
    completed_journaled rig.recorded bridge next outcome completed []
  have written := completed_recorded rig bridge next outcome completed
  obtain ⟨events, devices, samePresence, left, ends⟩ :=
    completed_state rig.recorded bridge next outcome completed
  have reported : InputState.InRange mode (.ofScreen width standard)
      { bridge.stateAfter rig.recorded events devices with pendingKey := none } :=
    InputState.combo_in_range mode _ _ _ (InputState.pointer_in_range mode _
      (ScreenBounds.max_y_range width standard).1 bridge.keymap bridge.state events inRange)
  refine ⟨samePresence, nextSettled, ?_, ?_, ?_⟩
  · rw [left]
    exact InputState.finish_batch_idempotent _
  · rw [left]
    exact InputState.finish_in_range mode _
      { bridge.stateAfter rig.recorded events devices with pendingKey := none } reported
  · rcases ends with rfl | ⟨rfl, _⟩
    · refine ⟨_, ?_, left ▸ Frame.of_state_shows mode width standard _ _ reported⟩
      rw [written, BatchOutcome.written, List.getLast?_concat]
    · have kept := idle_keeps_state rig.recorded bridge next cleared settled completed
      rw [BatchOutcome.written, List.append_nil] at written
      exact ⟨frame, written ▸ last, kept ▸ shows⟩

/-- After the handshake the adapter is in step: what was announced is all there is to show. -/
theorem greeted_in_step (rig : Rig σ) (keymap : Keymap) (presence : Presence)
    (mode : PointerMode) (width : UInt16) (standard : VideoStandard) (rigState : σ)
    (ready : Bridge σ)
    (greeted : (fresh keymap presence mode (.ofScreen width standard) rigState).handshake rig =
      (.ok (), ready)) :
    let greeting : Written := { frame := Frame.handshake presence mode, refusal := none }
    (ready.withRecord [greeting]).InStep presence mode (.ofScreen width standard) := by
  let unmoved := InputState.initial mode (.ofScreen width standard)
  have inRange : unmoved.InRange mode (.ofScreen width standard) :=
    InputState.initial_in_range mode _ (ScreenBounds.max_y_range width standard).1
  have cleared : unmoved.finishBatch = unmoved := by
    cases mode <;> rfl
  have shows := Frame.of_state_shows mode width standard unmoved presence inRange
  rw [Frame.of_state_initial, cleared] at shows
  obtain ⟨_, _, rfl⟩ := handshake_taken rig _ ready greeted
  exact ⟨rfl, rfl, cleared, inRange, _, rfl, shows⟩

/-- For a fresh bridge on any rig, with any keymap and the bounds of a screen, after a handshake
that was sent and any number of completed batches, whatever they read and however capture
calls were answered:

* an adapter with a record got the handshake and then what the batches say they sent, and took
  it all; the bridge went through the same handshake and batches as without the record;
* the mode is the one it was started with, and the frame written last shows the state as it
  is: the buttons and, in absolute mode, the position; its second byte without the buttons is
  that of the handshake;
* if the next batch is idle, it leaves the whole state as it was and writes nothing. -/
theorem adapter_in_step (rig : Rig σ) (keymap : Keymap) (presence : Presence)
    (mode : PointerMode) (width : UInt16) (standard : VideoStandard) (rigState : σ)
    (ready last : Bridge σ) (outcomes : List BatchOutcome)
    (greeted : (fresh keymap presence mode (.ofScreen width standard) rigState).handshake rig =
      (.ok (), ready))
    (batches : Batches rig ready outcomes last) :
    let start := fresh keymap presence mode (.ofScreen width standard) rigState
    let greeting : Written := { frame := Frame.handshake presence mode, refusal := none }
    let record := greeting :: outcomes.flatMap BatchOutcome.written
    ((start.withRecord []).handshake rig.recorded = (.ok (), ready.withRecord [greeting]) ∧
        Batches rig.recorded (ready.withRecord [greeting]) outcomes (last.withRecord record)) ∧
      (last.state.pointer.mode = mode ∧
        ∃ frame, record.getLast? = some { frame, refusal := none } ∧
          frame.Shows presence mode last.state) ∧
      ∀ next, last.processBatch rig = (.ok .idle, next) →
        next.state = last.state ∧
          (last.withRecord record).processBatch rig.recorded =
            (.ok .idle, next.withRecord record) := by
  intro start greeting record
  have recordedHandshake := handshake_recorded rig start ready greeted []
  have recordedBatches := batches_recorded rig ready last outcomes batches [greeting]
  have initial := greeted_in_step rig keymap presence mode width standard rigState ready greeted
  have reached := batches_keep rig.recorded (InStep presence mode (.ofScreen width standard))
    (fun bridge outcome next inStep completed =>
      completed_in_step rig presence mode width standard bridge next outcome inStep completed)
    _ _ outcomes recordedBatches initial
  refine ⟨⟨recordedHandshake, recordedBatches⟩, ⟨reached.inRange.sameMode, reached.shown⟩, ?_⟩
  intro next idle
  refine ⟨idle_keeps_state rig last next reached.cleared reached.settled idle, ?_⟩
  have batch := process_batch_recorded rig last next .idle idle record
  rw [BatchOutcome.written, List.append_nil] at batch
  exact batch

/-- Devices that refuse to be taken. The combination is completed while a button is pressed and
the mouse moves, and then nothing of use happens. -/
def resting : Bench :=
  { sources :=
      { script :=
          [.batch
              [(.keyboard, [.key Key.leftShift 1, .key Key.leftCtrl 1, .key Key.escape 1]),
                (.mouse, [.key Button.left 1, .relative Axis.x 5])] none,
            .batch [(.keyboard, [.other EventType.sync 0 0])] none,
            .batch [(.mouse, [])] none]
        refuseGrabs := true } }

/-- After an idle batch the frame of the batch before still shows the button and the position,
and another idle batch leaves all as it is. -/
theorem resting_in_step :
    let both : Presence := { keyboard := true, mouse := true }
    let moved : Frame := { flags := 0xB6, x := 5 }
    ∃ ready last next,
      (fresh {} both .absolute (.ofScreen 256 .ntsc) resting).handshake Bench.rig =
          (.ok (), ready) ∧
        Batches Bench.rig ready [.sent moved, .idle] last ∧
        moved.Shows both .absolute last.state ∧
        last.processBatch Bench.rig = (.ok .idle, next) ∧ next.state = last.state := by
  intro both moved
  let start := fresh {} both .absolute (.ofScreen 256 .ntsc) resting
  let ready := (start.handshake Bench.rig).2
  let after (bridge : Bridge Bench) := (bridge.processBatch Bench.rig).2
  have greeted : start.handshake Bench.rig = (.ok (), ready) := Prod.ext rfl rfl
  have first := completed_of_outcome Bench.rig ready (.sent moved) (by decide +kernel)
  have second := completed_of_outcome Bench.rig (after ready) .idle (by decide +kernel)
  have third := completed_of_outcome Bench.rig (after (after ready)) .idle (by decide +kernel)
  have batches : Batches Bench.rig ready [.sent moved, .idle] (after (after ready)) :=
    .more _ _ _ _ _ first (.more _ _ _ _ _ second (.none _))
  obtain ⟨_, ⟨_, frame, written, shows⟩, idle⟩ := adapter_in_step Bench.rig {} both .absolute 256
    .ntsc resting ready _ _ greeted batches
  obtain ⟨rfl, _⟩ := Written.mk.inj (Option.some.inj written)
  exact ⟨ready, _, _, greeted, batches, shows, third, (idle _ third).1⟩

end Bridge

end InputBridge
