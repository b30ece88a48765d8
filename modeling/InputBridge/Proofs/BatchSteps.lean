import InputBridge.Bridge.Basic
import InputBridge.Proofs.Acceptance
/-!
# What a batch can come to

A batch ends in one of four ways. It is cut short while the devices are waited for
or drained; the events taken in so far stay in the state. Or its frame is refused,
after the combination was looked at. Or the frame is written. Or there was nothing
to report. Only in the last two ways is the state cleared for the next batch.

This is stated once, for every rig, as a relation between the bridge before and the
bridge after; what holds of a batch is then shown by going through the four cases.
Of the rig's state the relation says as little as possible: there may be something
about it that only calls to capture the devices change, and of that it says what
became of it.
-/
namespace InputBridge

/-- What `view` shows of the rig's state changes at no operation but a call to
capture the devices. -/
structure Rig.Undisturbed {σ τ : Type} (rig : Rig σ) (view : σ → τ) : Prop where
  wait : ∀ state, view (rig.wait state).2 = view state
  drain : ∀ device state, view (rig.drain device state).2 = view state
  write : ∀ frame state, view (rig.write frame state).2 = view state
  report : ∀ notice state, view (rig.report notice state) = view state
  interrupt : ∀ state after, rig.interrupt state = some after → view after = view state

/-- Every rig has a view that nothing disturbs: the one that shows nothing. -/
theorem Rig.undisturbed_blind {σ : Type} (rig : Rig σ) :
    rig.Undisturbed fun _ => () :=
  ⟨fun _ => rfl, fun _ _ => rfl, fun _ _ => rfl, fun _ _ => rfl, fun _ _ _ => rfl⟩

/-- Waiting and draining end a batch for ever or on a failure of the input devices;
the bus is not involved. -/
def Halt.OfInput : Halt → Prop
  | .failed (.source _) => True
  | .failed (.transport _) => False
  | .never => True

namespace Bridge

variable {σ : Type}

/-- What a look at the combination comes to once events were taken in and the rig was
left in some state. -/
def toggledAfter (rig : Rig σ) (bridge : Bridge σ) (events : List InputEvent) (devices : σ) :
    Toggled σ :=
  rig.capturing.evaluate (bridge.state.absorbAll bridge.keymap events).combo devices

/-- The state that a batch's frame reports: events taken in, combination looked at. -/
def stateAfter (rig : Rig σ) (bridge : Bridge σ) (events : List InputEvent) (devices : σ) :
    InputState :=
  { bridge.state.absorbAll bridge.keymap events with
    combo := (bridge.toggledAfter rig events devices).combo }

end Bridge

/-- The four ways a batch can end, with the bridge it leaves. `events` are those taken
in, `devices` is the rig's state when the combination was looked at. -/
inductive BatchRun {σ τ : Type} (rig : Rig σ) (view : σ → τ) (before : Bridge σ) :
    Except Halt BatchOutcome → Bridge σ → Prop where
  | interrupted (events : List InputEvent) (halt : Halt) (rigState : σ) (cause : halt.OfInput)
      (unseen : view rigState = view before.rigState) :
      BatchRun rig view before (.error halt)
        { before with state := before.state.absorbAll before.keymap events, rigState }
  | refused (events : List InputEvent) (devices rigState : σ) (error : TransportError)
      (accepted : events.any (InputEvent.isAccepted before.keymap) = true)
      (unseen : view devices = view before.rigState)
      (seen : view rigState = view (before.toggledAfter rig events devices).devices) :
      BatchRun rig view before (.error (.failed (.transport error)))
        { before with state := before.stateAfter rig events devices, rigState }
  | sent (events : List InputEvent) (devices rigState : σ)
      (accepted : events.any (InputEvent.isAccepted before.keymap) = true)
      (unseen : view devices = view before.rigState)
      (seen : view rigState = view (before.toggledAfter rig events devices).devices) :
      BatchRun rig view before
        (.ok (.sent (.ofState (before.stateAfter rig events devices) before.presence)))
        { before with
          state := (before.stateAfter rig events devices).finishBatch
          framesSent := before.framesSent + 1
          rigState }
  | idle (events : List InputEvent) (devices rigState : σ)
      (accepted : events.any (InputEvent.isAccepted before.keymap) = false)
      (unseen : view devices = view before.rigState)
      (seen : view rigState = view (before.toggledAfter rig events devices).devices) :
      BatchRun rig view before (.ok .idle)
        { before with state := (before.stateAfter rig events devices).finishBatch, rigState }

namespace Bridge

variable {σ τ : Type}

/-- Reports touch nothing but the rig's state, and of that nothing seen. -/
theorem view_report_all (rig : Rig σ) (view : σ → τ) (undisturbed : rig.Undisturbed view)
    (notices : List Notice) (state : σ) :
    view (rig.reportAll notices state) = view state := by
  induction notices generalizing state with
  | nil => rfl
  | cons notice rest inductionHypothesis =>
    exact (inductionHypothesis (rig.report notice state)).trans (undisturbed.report notice state)

/-- Draining a device fails without taking anything in, or takes its events in and
says whether one was accepted. -/
theorem drain_spec (rig : Rig σ) (view : σ → τ) (undisturbed : rig.Undisturbed view)
    (device : DeviceKind) (bridge : Bridge σ) :
    ∃ events rigState, view rigState = view bridge.rigState ∧
      (bridge.drain rig device).2 =
        { bridge with state := bridge.state.absorbAll bridge.keymap events, rigState } ∧
      ((∃ halt, halt.OfInput ∧ (bridge.drain rig device).1 = .error halt) ∨
        (bridge.drain rig device).1 =
          .ok (events.any (InputEvent.isAccepted bridge.keymap))) := by
  have unseen := undisturbed.drain device bridge.rigState
  rcases answer : rig.drain device bridge.rigState with ⟨drained, rigState⟩
  rw [answer] at unseen
  cases drained with
  | never =>
    simp only [drain, answer]
    exact ⟨[], rigState, unseen, rfl, .inl ⟨.never, trivial, rfl⟩⟩
  | failed error =>
    simp only [drain, answer]
    exact ⟨[], rigState, unseen, rfl, .inl ⟨.failed (.source error), trivial, rfl⟩⟩
  | events events =>
    simp only [drain, answer, Intake.of_events_state, Intake.of_events_updated]
    refine ⟨events, _, ?_, rfl, .inr rfl⟩
    exact (view_report_all rig view undisturbed _ rigState).trans unseen

/-- Draining devices in order takes in the events of those drained before one fails, if
one does. A failure leaves the events of the devices before it in the state. -/
theorem drain_all_spec (rig : Rig σ) (view : σ → τ) (undisturbed : rig.Undisturbed view)
    (devices : List DeviceKind) (updated : Bool) (bridge : Bridge σ) :
    ∃ events rigState, view rigState = view bridge.rigState ∧
      (bridge.drainAll rig updated devices).2 =
        { bridge with state := bridge.state.absorbAll bridge.keymap events, rigState } ∧
      ((∃ halt, halt.OfInput ∧ (bridge.drainAll rig updated devices).1 = .error halt) ∨
        (bridge.drainAll rig updated devices).1 =
          .ok (updated || events.any (InputEvent.isAccepted bridge.keymap))) := by
  induction devices generalizing updated bridge with
  | nil => exact ⟨[], bridge.rigState, rfl, rfl, .inr (by simp [drainAll])⟩
  | cons device rest inductionHypothesis =>
    obtain ⟨first, rigState, unseen, left, answer⟩ :=
      drain_spec rig view undisturbed device bridge
    rcases drained : bridge.drain rig device with ⟨result, after⟩
    rw [drained] at left answer
    simp only at left answer
    rcases answer with ⟨halt, cause, stopped⟩ | accepted
    · subst left stopped
      simp only [drainAll, drained]
      exact ⟨first, rigState, unseen, rfl, .inl ⟨halt, cause, rfl⟩⟩
    · subst left accepted
      obtain ⟨later, final, unseenLater, leftLater, answerLater⟩ :=
        inductionHypothesis (updated || first.any (InputEvent.isAccepted bridge.keymap))
          { bridge with state := bridge.state.absorbAll bridge.keymap first, rigState }
      simp only [drainAll, drained]
      refine ⟨first ++ later, final, unseenLater.trans unseen, ?_, ?_⟩
      · rw [leftLater, InputState.absorb_all_append]
      · rw [List.any_append, ← Bool.or_assoc]
        exact answerLater

/-- A look at the combination changes the combination and the rig's state, the latter
as the devices do. -/
theorem evaluate_capture_spec (rig : Rig σ) (view : σ → τ) (undisturbed : rig.Undisturbed view)
    (bridge : Bridge σ) :
    let toggled := rig.capturing.evaluate bridge.state.combo bridge.rigState
    ∃ rigState, view rigState = view toggled.devices ∧
      bridge.evaluateCapture rig =
        { bridge with state := { bridge.state with combo := toggled.combo }, rigState } := by
  intro toggled
  have settled := view_report_all rig view undisturbed (Notice.ofToggle toggled.result)
    toggled.devices
  cases result : toggled.result with
  | ok owner =>
    refine ⟨_, settled, ?_⟩
    simp only [evaluateCapture, settle, toggled] at result ⊢
    simp only [result]
  | error error =>
    refine ⟨rig.report (.toggleFailed error) _, (undisturbed.report _ _).trans settled, ?_⟩
    simp only [evaluateCapture, settle, report, toggled] at result ⊢
    simp only [result]

/-- Sending writes the frame of the state; it is counted if the adapter takes it. -/
theorem send_spec (rig : Rig σ) (view : σ → τ) (undisturbed : rig.Undisturbed view)
    (bridge : Bridge σ) :
    ∃ rigState, view rigState = view bridge.rigState ∧
      ((∃ error, bridge.send rig =
          (.error (.failed (.transport error)), { bridge with rigState })) ∨
        bridge.send rig = (.ok (.sent (.ofState bridge.state bridge.presence)),
          { bridge with framesSent := bridge.framesSent + 1, rigState })) := by
  have reported := undisturbed.report (.sending (.ofState bridge.state bridge.presence))
    bridge.rigState
  have written := undisturbed.write (.ofState bridge.state bridge.presence)
    (rig.report (.sending (.ofState bridge.state bridge.presence)) bridge.rigState)
  rcases answer : rig.write (.ofState bridge.state bridge.presence)
      (rig.report (.sending (.ofState bridge.state bridge.presence)) bridge.rigState) with
    ⟨failure, rigState⟩
  rw [answer] at written
  refine ⟨rigState, written.trans reported, ?_⟩
  cases failure with
  | none => exact .inr (by simp only [send, write, report, answer])
  | some error => exact .inl ⟨error, by simp only [send, write, report, answer]⟩

/-- Once its events are in, a batch is refused, sent or idle. -/
theorem conclude_run (rig : Rig σ) (view : σ → τ) (undisturbed : rig.Undisturbed view)
    (before : Bridge σ) (events : List InputEvent) (devices : σ)
    (unseen : view devices = view before.rigState) :
    let drained := { before with
      state := before.state.absorbAll before.keymap events, rigState := devices }
    let ends := drained.conclude rig (events.any (InputEvent.isAccepted before.keymap))
    BatchRun rig view before ends.1 ends.2 := by
  intro drained ends
  obtain ⟨settledState, seen, looked⟩ := evaluate_capture_spec rig view undisturbed drained
  have settled : drained.evaluateCapture rig =
      { before with state := before.stateAfter rig events devices, rigState := settledState } :=
    looked
  cases accepted : events.any (InputEvent.isAccepted before.keymap) with
  | false =>
    simp only [ends, accepted, conclude, settled]
    exact .idle events devices settledState accepted unseen seen
  | true =>
    obtain ⟨rigState, written, answer⟩ := send_spec rig view undisturbed
      { before with state := before.stateAfter rig events devices, rigState := settledState }
    have seenLater := written.trans seen
    rcases answer with ⟨error, refused⟩ | sent
    · simp only [ends, accepted, conclude, settled, if_true, refused]
      exact .refused events devices rigState error accepted unseen seenLater
    · simp only [ends, accepted, conclude, settled, if_true, sent, finish]
      exact .sent events devices rigState accepted unseen seenLater

/-- Every batch ends in one of the four ways. -/
theorem process_batch_run (rig : Rig σ) (view : σ → τ) (undisturbed : rig.Undisturbed view)
    (bridge : Bridge σ) :
    BatchRun rig view bridge (bridge.processBatch rig).1 (bridge.processBatch rig).2 := by
  have woken := undisturbed.wait bridge.rigState
  rcases answer : rig.wait bridge.rigState with ⟨wakeup, rigState⟩
  rw [answer] at woken
  cases wakeup with
  | never =>
    simp only [processBatch, answer]
    exact .interrupted [] .never rigState trivial woken
  | failed error =>
    simp only [processBatch, answer]
    exact .interrupted [] (.failed (.source error)) rigState trivial woken
  | ready devices =>
    obtain ⟨events, drainedState, unseen, left, drained⟩ :=
      drain_all_spec rig view undisturbed devices false { bridge with rigState }
    rcases ends : drainAll rig false devices { bridge with rigState } with ⟨result, after⟩
    rw [ends] at left drained
    simp only at left drained
    rcases drained with ⟨halt, cause, stopped⟩ | accepted
    · subst left stopped
      simp only [processBatch, answer, ends]
      exact .interrupted events halt drainedState cause (unseen.trans woken)
    · subst left accepted
      simp only [processBatch, answer, ends]
      exact conclude_run rig view undisturbed bridge events drainedState (unseen.trans woken)

/-- Handing the devices back changes the combination and the rig's state, the latter as
the devices do. -/
theorem release_devices_spec (rig : Rig σ) (view : σ → τ) (undisturbed : rig.Undisturbed view)
    (bridge : Bridge σ) :
    let toggled := rig.capturing.releaseOnExit bridge.state.combo bridge.rigState
    ∃ rigState, view rigState = view toggled.devices ∧
      bridge.releaseDevices rig =
        { bridge with state := { bridge.state with combo := toggled.combo }, rigState } := by
  intro toggled
  cases result : toggled.result with
  | ok owner =>
    refine ⟨toggled.devices, rfl, ?_⟩
    simp only [releaseDevices, toggled] at result ⊢
    simp only [result]
  | error error =>
    refine ⟨rig.report (.releaseFailed error) toggled.devices, undisturbed.report _ _, ?_⟩
    simp only [releaseDevices, report, toggled] at result ⊢
    simp only [result]

/-- A run that returns has handed the devices back once, and what it returns is why it
stopped, whatever became of the devices. -/
theorem stop_spec (rig : Rig σ) (view : σ → τ) (undisturbed : rig.Undisturbed view)
    (bridge : Bridge σ) (halt : Halt) (returned : (bridge.stop rig halt).1 ≠ .never) :
    ∃ devices rigState, view devices = view bridge.rigState ∧
      view rigState =
        view (rig.capturing.releaseOnExit bridge.state.combo devices).devices ∧
      (bridge.stop rig halt).2 =
        { bridge with
          state := { bridge.state with
            combo := (rig.capturing.releaseOnExit bridge.state.combo devices).combo }
          rigState } ∧
      ((∃ error, halt = .failed error ∧ (bridge.stop rig halt).1 = .failed error) ∨
        (halt = .never ∧ (bridge.stop rig halt).1 = .shutdown)) := by
  cases halt with
  | failed error =>
    obtain ⟨rigState, seen, released⟩ := release_devices_spec rig view undisturbed bridge
    refine ⟨bridge.rigState, rig.report (.failed error) rigState, rfl,
      (undisturbed.report _ _).trans seen, ?_, .inl ⟨error, rfl, rfl⟩⟩
    simp only [stop, released, report]
  | never =>
    cases asked : rig.interrupt bridge.rigState with
    | none => simp [stop, asked] at returned
    | some interrupted =>
      have unseen := undisturbed.interrupt bridge.rigState interrupted asked
      obtain ⟨rigState, seen, released⟩ := release_devices_spec rig view undisturbed
        (report rig (.shutdownRequested bridge.framesSent)
          { bridge with rigState := interrupted })
      refine ⟨_, rigState, (undisturbed.report _ _).trans unseen, seen, ?_, .inr ⟨rfl, ?_⟩⟩
      · simp only [stop, asked, released]
        rfl
      · simp only [stop, asked]

/-- A bridge on which nothing has happened yet. -/
def fresh (keymap : Keymap) (presence : Presence) (mode : PointerMode) (bounds : ScreenBounds)
    (rigState : σ) : Bridge σ :=
  { keymap, presence, state := .initial mode bounds, rigState }

/-- A batch whose answer is an outcome was completed with it. -/
theorem completed_of_outcome (rig : Rig σ) (bridge : Bridge σ) (outcome : BatchOutcome)
    (completed : (bridge.processBatch rig).1.toOption = some outcome) :
    bridge.processBatch rig = (.ok outcome, (bridge.processBatch rig).2) := by
  rcases batch : bridge.processBatch rig with ⟨result, next⟩
  rw [batch] at completed
  cases result with
  | error halt => cases completed
  | ok reported => rw [Option.some.inj completed]

/-- Batches that were all completed lead from one bridge to another. -/
inductive Batches (rig : Rig σ) : Bridge σ → List BatchOutcome → Bridge σ → Prop where
  | none (bridge : Bridge σ) : Batches rig bridge [] bridge
  | more (bridge next last : Bridge σ) (outcome : BatchOutcome) (outcomes : List BatchOutcome)
      (completed : bridge.processBatch rig = (.ok outcome, next))
      (rest : Batches rig next outcomes last) : Batches rig bridge (outcome :: outcomes) last

/-- A property that every completed batch keeps holds after any number of them. -/
theorem batches_keep (rig : Rig σ) (holds : Bridge σ → Prop)
    (kept : ∀ bridge outcome next, holds bridge →
      bridge.processBatch rig = (.ok outcome, next) → holds next)
    (bridge last : Bridge σ) (outcomes : List BatchOutcome)
    (batches : Batches rig bridge outcomes last) (initial : holds bridge) : holds last := by
  induction batches with
  | none bridge => exact initial
  | more bridge next last outcome outcomes completed rest inductionHypothesis =>
    exact inductionHypothesis (kept bridge outcome next initial completed)

/-- A run that returns is a number of completed batches, one that is not completed, and
the way out. -/
theorem run_for_ends (rig : Rig σ) (limit : Nat) (bridge : Bridge σ)
    (returned : (bridge.runFor rig limit).1 ≠ .never) :
    ∃ outcomes last halt ended, Batches rig bridge outcomes last ∧
      last.processBatch rig = (.error halt, ended) ∧
      bridge.runFor rig limit = ended.stop rig halt := by
  induction limit generalizing bridge with
  | zero => exact absurd rfl returned
  | succ limit inductionHypothesis =>
    rcases step : bridge.processBatch rig with ⟨result, next⟩
    simp only [runFor, step] at returned ⊢
    cases result with
    | error halt => exact ⟨[], bridge, halt, next, .none bridge, step, rfl⟩
    | ok outcome =>
      obtain ⟨outcomes, last, halt, ended, batches, stopped, same⟩ :=
        inductionHypothesis next returned
      exact ⟨outcome :: outcomes, last, halt, ended,
        .more bridge next last outcome outcomes step batches, stopped, same⟩

end Bridge

end InputBridge
