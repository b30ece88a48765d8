import InputBridge.Proofs.BatchParts
import InputBridge.Proofs.CapturesUnseen
/-!
# Rigs that are read alike

What a batch reads is a matter of the input devices and of the state that they share with the rest
of the rig. It can be told without the bridge: the wait names devices, and these are read one after
another until one of them fails. Rigs that answer alike when they are waited for and read, as far as
a view of their states shows, find the same events and end the reading alike, whatever else they are
connected to. A batch is such a reading and, unless it was cut short, the second part after it.
-/
namespace InputBridge

/-- What reading the devices comes to: the events handed out, why it was cut short, if it was,
and the state it leaves. -/
structure Reading (σ : Type) where
  events : List InputEvent
  halt : Option Halt
  state : σ

namespace Rig

variable {σ τ : Type}

/-- Reads devices in order, up to the first that fails. -/
def readAll (rig : Rig σ) : List DeviceKind → σ → Reading σ
  | [], state => { events := [], halt := none, state }
  | device :: rest, state =>
    match rig.drain device state with
    | (.never, state) => { events := [], halt := some .never, state }
    | (.failed error, state) => { events := [], halt := some (.failed (.source error)), state }
    | (.events events, state) =>
      let later := rig.readAll rest state
      { later with events := events ++ later.events }

/-- Waits for devices and reads those that are ready. -/
def read (rig : Rig σ) (state : σ) : Reading σ :=
  match rig.wait state with
  | (.never, state) => { events := [], halt := some .never, state }
  | (.failed error, state) => { events := [], halt := some (.failed (.source error)), state }
  | (.ready devices, state) => rig.readAll devices state

/-- As far as `view` shows, the devices of a rig are read as those of another, and asked as those
are whether a request to shut down comes. Notices leave no trace. -/
structure ReadsAs (rig : Rig σ) (view : σ → τ) (course : Rig τ) : Prop where
  wait : ∀ state, ((rig.wait state).1, view (rig.wait state).2) = course.wait (view state)
  drain : ∀ device state,
    ((rig.drain device state).1, view (rig.drain device state).2) =
      course.drain device (view state)
  report : ∀ notice state, view (rig.report notice state) = view state
  interrupt : ∀ state, (rig.interrupt state).map view = course.interrupt (view state)
  backlog : ∀ state, rig.backlog state = course.backlog (view state)

end Rig

namespace Bridge

variable {σ τ : Type}

section Reads

variable (rig : Rig σ) (view : σ → τ) (course : Rig τ) (reads : rig.ReadsAs view course)

include reads

/-- Draining devices takes in the events of a reading and ends as it ends. -/
theorem drain_all_reads (devices : List DeviceKind) (updated : Bool) (bridge : Bridge σ) :
    let reading := course.readAll devices (view bridge.rigState)
    ∃ rigState, view rigState = reading.state ∧
      bridge.drainAll rig updated devices =
        (match reading.halt with
          | some halt => .error halt
          | none => .ok (updated || reading.events.any (InputEvent.isAccepted bridge.keymap)),
        bridge.drained reading.events rigState) := by
  induction devices generalizing updated bridge with
  | nil => exact ⟨bridge.rigState, rfl, by simp [drainAll, Rig.readAll, drained]⟩
  | cons device rest inductionHypothesis =>
    have same := reads.drain device bridge.rigState
    rcases answer : rig.drain device bridge.rigState with ⟨handed, rigState⟩
    rw [answer] at same
    cases handed with
    | never =>
      simp only [drainAll, drain, answer, Rig.readAll, ← same]
      exact ⟨rigState, rfl, rfl⟩
    | failed error =>
      simp only [drainAll, drain, answer, Rig.readAll, ← same]
      exact ⟨rigState, rfl, rfl⟩
    | events events =>
      let reported := rig.reportAll (.drained device events.length ::
        Notice.ofRejections (Intake.ofEvents bridge.keymap bridge.state events).skipped) rigState
      have silent : view reported = view rigState :=
        view_report_all rig.silent view (rig.silent_undisturbed view reads.report) _ rigState
      have first : bridge.drain rig device =
          (.ok (events.any (InputEvent.isAccepted bridge.keymap)),
            bridge.drained events reported) := by
        simp only [drain, answer, Intake.of_events_state, Intake.of_events_updated, reportAll,
          drained, reported]
      obtain ⟨final, seen, later⟩ := inductionHypothesis
        (updated || events.any (InputEvent.isAccepted bridge.keymap))
        (bridge.drained events reported)
      have here : view (bridge.drained events reported).rigState = view rigState := silent
      rw [here] at seen later
      simp only [drainAll, first, Rig.readAll, ← same]
      refine ⟨final, seen, later.trans ?_⟩
      simp only [drained, List.any_append, Bool.or_assoc, InputState.absorb_all_append]

/-- A batch is a reading, and unless that was cut short the second part after it. -/
theorem process_batch_reads (bridge : Bridge σ) :
    let reading := course.read (view bridge.rigState)
    ∃ rigState, view rigState = reading.state ∧
      let after := bridge.drained reading.events rigState
      bridge.processBatch rig = match reading.halt with
        | some halt => (.error halt, after)
        | none =>
          after.conclude rig (reading.events.any (InputEvent.isAccepted bridge.keymap)) := by
  have same := reads.wait bridge.rigState
  rcases answer : rig.wait bridge.rigState with ⟨wakeup, rigState⟩
  rw [answer] at same
  cases wakeup with
  | never =>
    simp only [processBatch, answer, Rig.read, ← same]
    exact ⟨rigState, rfl, rfl⟩
  | failed error =>
    simp only [processBatch, answer, Rig.read, ← same]
    exact ⟨rigState, rfl, rfl⟩
  | ready devices =>
    obtain ⟨final, seen, left⟩ :=
      drain_all_reads rig view course reads devices false { bridge with rigState }
    simp only [processBatch, answer, Rig.read, ← same, left]
    refine ⟨final, seen, ?_⟩
    cases (course.readAll devices (view rigState)).halt <;> simp only [Bool.false_or] <;> rfl

end Reads

end Bridge

end InputBridge
