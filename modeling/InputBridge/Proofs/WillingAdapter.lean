import InputBridge.Bridge.Scripted
import InputBridge.Proofs.CapturesUnseen
/-!
# An adapter that takes every frame

Whether the adapter takes what is written is a matter of the rig's state. That it always does is
said of a state: there are states that nothing the bridge does leads out of, in none of them a
frame is refused, and this is one of them. Kept to those states the rig answers as before, so
what a bridge does from there never leaves them.

With such an adapter the second part of a batch is always completed. What it comes to is given
by the state alone, and what it leaves by the devices' answer, if they were called.
-/
namespace InputBridge

namespace Rig

variable {σ τ : Type}

/-- Nothing the bridge does leads out of the states where `willing` holds, and there the adapter
takes every frame. -/
structure TakesFrames (rig : Rig σ) (willing : σ → Prop) : Prop where
  wait : ∀ state, willing state → willing (rig.wait state).2
  drain : ∀ device state, willing state → willing (rig.drain device state).2
  capturing : ∀ call state, willing state → willing (rig.capturing call state).2
  write : ∀ frame state, willing state → willing (rig.write frame state).2
  report : ∀ notice state, willing state → willing (rig.report notice state)
  interrupt : ∀ state after, after ∈ rig.interrupt state → willing state → willing after
  taken : ∀ frame state, willing state → (rig.write frame state).1 = none

/-- From a state of the rig on, the adapter refuses no frame. -/
def NeverRefuses (rig : Rig σ) (state : σ) : Prop :=
  ∃ willing, rig.TakesFrames willing ∧ willing state

/-- The rig kept to the states where its adapter is willing. -/
def within (rig : Rig σ) (willing : σ → Prop) (takes : rig.TakesFrames willing) :
    Rig { state // willing state } where
  wait state := ((rig.wait state.1).1, ⟨(rig.wait state.1).2, takes.wait state.1 state.2⟩)
  drain device state :=
    ((rig.drain device state.1).1,
      ⟨(rig.drain device state.1).2, takes.drain device state.1 state.2⟩)
  capturing call state :=
    ((rig.capturing call state.1).1,
      ⟨(rig.capturing call state.1).2, takes.capturing call state.1 state.2⟩)
  write frame state :=
    ((rig.write frame state.1).1,
      ⟨(rig.write frame state.1).2, takes.write frame state.1 state.2⟩)
  report notice state := ⟨rig.report notice state.1, takes.report notice state.1 state.2⟩
  interrupt state :=
    (rig.interrupt state.1).pmap Subtype.mk fun after asked =>
      takes.interrupt state.1 after asked state.2
  backlog state := rig.backlog state.1

/-- Kept to those states the rig answers as before. -/
theorem within_mirrors (rig : Rig σ) (willing : σ → Prop) (takes : rig.TakesFrames willing) :
    (rig.within willing takes).Mirrors rig Subtype.val where
  wait _ := rfl
  drain _ _ := rfl
  capturing _ _ := rfl
  write _ _ := rfl
  report _ _ := rfl
  interrupt state := by
    simp only [within, Option.map_pmap, Option.pmap_eq_map, Option.map_id']
  backlog _ := rfl

end Rig

namespace Bench

/-- A recorder without a limit refuses no frame. -/
theorem never_refuses (bench : Bench) (unlimited : bench.recorder.limit = none) :
    rig.NeverRefuses bench := by
  refine ⟨fun bench => bench.recorder.limit = none, ?_, unlimited⟩
  constructor
  case wait => exact fun _ unlimited => unlimited
  case drain => exact fun _ _ unlimited => unlimited
  case capturing => exact fun _ _ unlimited => unlimited
  case report => exact fun _ _ unlimited => unlimited
  case write =>
    intro frame bench unlimited
    simp only [rig, FrameRecorder.write]
    split <;> exact unlimited
  case interrupt =>
    intro bench after asked unlimited
    simp only [rig, Option.mem_def, Option.ite_none_right_eq_some, Option.some.injEq] at asked
    exact asked.2 ▸ unlimited
  case taken =>
    intro frame bench unlimited
    have free : bench.recorder.isFull = false := by
      simp only [FrameRecorder.isFull, unlimited]
    simp only [rig, FrameRecorder.write, free, Bool.false_eq_true, if_false]

end Bench

namespace Bridge

variable {σ τ : Type}

/-- The bridge on a rig kept to the states where its adapter is willing. -/
def inside {willing : σ → Prop} (bridge : Bridge σ) (sound : willing bridge.rigState) :
    Bridge { state // willing state } :=
  { keymap := bridge.keymap
    presence := bridge.presence
    state := bridge.state
    framesSent := bridge.framesSent
    rigState := ⟨bridge.rigState, sound⟩ }

section Taken

variable (rig : Rig σ) (taken : ∀ frame state, (rig.write frame state).1 = none) (view : σ → τ)
  (write : ∀ frame state, view (rig.write frame state).2 = view state)
  (report : ∀ notice state, view (rig.report notice state) = view state)

include taken write report

/-- An adapter that takes every frame takes the one that a state is sent as. -/
theorem send_taken (bridge : Bridge σ) :
    ∃ rigState, view rigState = view bridge.rigState ∧
      bridge.send rig = (.ok (.sent (.ofState bridge.state bridge.presence)),
        { bridge with framesSent := bridge.framesSent + 1, rigState }) := by
  let frame := Frame.ofState bridge.state bridge.presence
  let reported := rig.report (.sending frame) bridge.rigState
  have unrefused : (rig.write frame reported).1 = none := taken frame reported
  have unseen : view (rig.write frame reported).2 = view bridge.rigState :=
    (write _ _).trans (report _ _)
  rcases answer : rig.write frame reported with ⟨refusal, rigState⟩
  rw [answer] at unrefused unseen
  obtain rfl : refusal = none := unrefused
  refine ⟨rigState, unseen, ?_⟩
  simp only [send, Bridge.write, Bridge.report, frame, reported] at answer ⊢
  simp only [answer]

/-- If the adapter takes every frame, the second part of a batch is completed. The frame, if one
is due, is that of the state before the combination was looked at; the state and what is seen of
the rig are as the look left them, but for what is cleared. -/
theorem conclude_taken (updated : Bool) (bridge : Bridge σ) :
    let toggled := rig.capturing.evaluate bridge.state.combo bridge.rigState
    let outcome :=
      if updated then .sent (.ofState bridge.state bridge.presence) else BatchOutcome.idle
    ∃ next, bridge.conclude rig updated = (.ok outcome, next) ∧
      next.state = { bridge.state with combo := toggled.combo }.finishBatch ∧
      view next.rigState = view toggled.devices := by
  intro toggled outcome
  obtain ⟨rigState, unseen, looked⟩ :=
    evaluate_capture_spec rig.silent view (rig.silent_undisturbed view report) bridge
  let settled : Bridge σ :=
    { bridge with state := { bridge.state with combo := toggled.combo }, rigState }
  have evaluated : bridge.evaluateCapture rig = settled := looked
  cases updated with
  | false =>
    refine ⟨settled.finish, ?_, rfl, unseen⟩
    simp only [conclude, evaluated, Bool.false_eq_true, if_false, outcome]
  | true =>
    obtain ⟨after, written, sent⟩ := send_taken rig taken view write report settled
    let counted : Bridge σ :=
      { settled with framesSent := settled.framesSent + 1, rigState := after }
    refine ⟨counted.finish, ?_, rfl, written.trans unseen⟩
    simp only [conclude, evaluated, if_true, sent, outcome, counted]
    rfl

end Taken

end Bridge

end InputBridge
