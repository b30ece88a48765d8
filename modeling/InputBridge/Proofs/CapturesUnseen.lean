import InputBridge.Proofs.BridgeJournal
/-!
# What captures leave alone

A look at the combination may change the owner of the devices and the cooldown, and a capture call
whatever the rig has to do for it. Handing the devices back does no more. To what a bridge reports
neither matters, so a bridge is looked at without owner and cooldown and through a view of the rig
that capture calls and notices do not disturb. Seen like that both leave it as it was.
-/
namespace InputBridge

namespace Capturing

variable {σ τ : Type}

/-- What no call to the devices changes is not changed by a look at the combination,
which itself touches no more than the owner and the cooldown. -/
theorem evaluate_plain (capturing : Capturing σ) (view : σ → τ)
    (unseen : ∀ call devices, view (capturing call devices).2 = view devices) (combo : Combo)
    (devices : σ) :
    view (capturing.evaluate combo devices).devices = view devices ∧
      (capturing.evaluate combo devices).combo.uncaptured = combo.uncaptured := by
  cases due : combo.due with
  | none => simp only [evaluate, due, Combo.settle, Combo.uncaptured, and_self]
  | some call =>
    have same := unseen call devices
    rcases answer : capturing call devices with ⟨failure, after⟩
    rw [answer] at same
    cases failure <;>
      simp only [evaluate, due, perform, answer, same, Combo.settle, Combo.uncaptured, and_self]

/-- The same holds of handing the devices back. -/
theorem release_plain (capturing : Capturing σ) (view : σ → τ)
    (unseen : ∀ call devices, view (capturing call devices).2 = view devices) (combo : Combo)
    (devices : σ) :
    view (capturing.releaseOnExit combo devices).devices = view devices ∧
      (capturing.releaseOnExit combo devices).combo.uncaptured = combo.uncaptured := by
  have same := unseen .release devices
  rcases answer : capturing .release devices with ⟨failure, after⟩
  rw [answer] at same
  cases captured : combo.isCaptured <;> cases failure <;>
    simp [releaseOnExit, captured, perform, answer, same, Combo.uncaptured]

end Capturing

namespace Rig

variable {σ τ : Type}

/-- The rig with devices that are never ready and an adapter that keeps nothing. -/
def silent (rig : Rig σ) : Rig σ :=
  { rig with
    wait := fun state => (.never, state)
    drain := fun _ state => (.never, state)
    write := fun _ state => (none, state)
    interrupt := fun _ => none }

/-- Besides capture calls only reports can disturb what is seen of such a rig. -/
theorem silent_undisturbed (rig : Rig σ) (view : σ → τ)
    (report : ∀ notice state, view (rig.report notice state) = view state) :
    rig.silent.Undisturbed view :=
  ⟨fun _ => rfl, fun _ _ => rfl, fun _ _ => rfl, report, fun _ _ asked => nomatch asked⟩

end Rig

namespace Bridge

variable {σ τ : Type}

/-- The bridge without owner and cooldown, and with part of the rig's state hidden. -/
def reported (view : σ → τ) (bridge : Bridge σ) : Bridge τ :=
  { bridge.hide view with state := bridge.state.uncaptured }

section Unseen

variable (rig : Rig σ) (view : σ → τ)
  (report : ∀ notice state, view (rig.report notice state) = view state)
  (capturing : ∀ call state, view (rig.capturing call state).2 = view state) (bridge : Bridge σ)

omit report capturing in
/-- Neither owner and cooldown nor what is hidden of the rig show in a report. -/
theorem reported_apart (combo : Combo) (rigState : σ)
    (sameKeys : combo.uncaptured = bridge.state.combo.uncaptured)
    (unseen : view rigState = view bridge.rigState) :
    reported view { bridge with state := { bridge.state with combo }, rigState } =
      bridge.reported view := by
  simp only [reported, hide, InputState.uncaptured, sameKeys, unseen]

include report capturing

/-- A look at the combination does not show in a report. -/
theorem evaluate_capture_reported :
    (bridge.evaluateCapture rig).reported view = bridge.reported view := by
  obtain ⟨rigState, seen, looked⟩ :=
    evaluate_capture_spec rig.silent view (rig.silent_undisturbed view report) bridge
  obtain ⟨unseen, sameKeys⟩ :=
    rig.capturing.evaluate_plain view capturing bridge.state.combo bridge.rigState
  have evaluated : bridge.evaluateCapture rig = bridge.evaluateCapture rig.silent := rfl
  rw [evaluated, looked]
  exact reported_apart view bridge _ rigState sameKeys (seen.trans unseen)

/-- Handing the devices back does not show either. -/
theorem release_devices_reported :
    (bridge.releaseDevices rig).reported view = bridge.reported view := by
  obtain ⟨rigState, seen, released⟩ :=
    release_devices_spec rig.silent view (rig.silent_undisturbed view report) bridge
  obtain ⟨unseen, sameKeys⟩ :=
    rig.capturing.release_plain view capturing bridge.state.combo bridge.rigState
  have handed : bridge.releaseDevices rig = bridge.releaseDevices rig.silent := rfl
  rw [handed, released]
  exact reported_apart view bridge _ rigState sameKeys (seen.trans unseen)

end Unseen

end Bridge

end InputBridge
