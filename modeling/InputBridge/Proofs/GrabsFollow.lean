import InputBridge.Proofs.CaptureHistory
import InputBridge.Proofs.CapturesUnseen
import InputBridge.Proofs.DeviceGrabs
/-!
# Grabs follow the owner on record

The bridge keeps who owns the devices; the machine keeps which devices are grabbed. The two are
brought together by capture calls that may fail halfway, and a release that failed leaves the bridge
on record as the owner of whatever is still grabbed.

While the host is on record nothing is grabbed. That is what every step keeps, whatever is held
and whichever calls fail, as long as an acquire that is refused can undo what it did. The devices
are captured from there by grabbing all of them, and however many releases have failed meanwhile,
one in which no device refuses frees them all.
-/
namespace InputBridge

/-- A call that is due changes the owner to the other one. -/
theorem Combo.due_toggles (combo : Combo) (call : CaptureCall) (due : combo.due = some call) :
    combo.settle.owner.toggle = call := by
  rw [Combo.due] at due
  split at due
  · exact Option.some.inj due
  · cases due

/-- A call succeeds, and the owner is the one it leads to, or it fails, and the owner stays. -/
theorem Capturing.perform_cases {σ : Type} (capturing : Capturing σ) (call : CaptureCall)
    (combo : Combo) (devices : σ) :
    let done := capturing.perform call combo devices
    done.devices = (capturing call devices).2 ∧
      ((capturing call devices).1 = none ∧ done.result = .ok (some call.owner) ∧
          done.combo.owner = call.owner ∨
        ∃ reason, (capturing call devices).1 = some reason ∧
          done.result = .error { call, reason } ∧ done.combo = combo) := by
  rcases answer : capturing call devices with ⟨_ | reason, after⟩ <;>
    simp [perform, answer]

/-- If a look has acquired the devices or has failed to, the host was on record and that call was
due. -/
theorem Capturing.acquire_was_due {σ : Type} (capturing : Capturing σ) (combo : Combo)
    (devices : σ)
    (tried : (capturing.evaluate combo devices).result = .ok (some .captured) ∨
      ∃ reason, (capturing.evaluate combo devices).result =
        .error { call := .acquire, reason }) :
    combo.owner = .released ∧
      capturing.evaluate combo devices = capturing.perform .acquire combo.settle devices := by
  cases due : combo.due with
  | none => simp [evaluate, due] at tried
  | some call =>
    have toggles : combo.owner.toggle = call := combo.due_toggles call due
    have looked : capturing.evaluate combo devices =
        capturing.perform call combo.settle devices := by
      simp only [evaluate, due]
    cases owned : combo.owner with
    | released =>
      obtain rfl : CaptureCall.acquire = call := by rw [← toggles, owned]; rfl
      exact ⟨rfl, looked⟩
    | captured =>
      obtain rfl : CaptureCall.release = call := by rw [← toggles, owned]; rfl
      rw [looked] at tried
      obtain ⟨_, ⟨_, done, _⟩ | ⟨_, _, failed, _⟩⟩ :=
        capturing.perform_cases .release combo.settle devices
      · simp [done, CaptureCall.owner] at tried
      · simp [failed] at tried

/-- What the bridge has on record and what the machine shows can come to, from nothing held and
nothing grabbed. In between the actions anything may happen to the devices that leaves those in
use as grabbed as they were, so any call may be refused. Only what a refused acquire has done can
always be undone. -/
inductive Reached : Combo → EventDevices → Prop where
  | start (inputs : EventDevices) (free : inputs.NoneGrabbed) : Reached {} inputs
  | act (combo : Combo) (inputs : EventDevices) (action : CaptureAction)
      (before : Reached combo inputs)
      (clean : action = .evaluate → combo.due = some .acquire → inputs.UndoesCleanly) :
      Reached (EventDevices.capturing.act combo inputs action).1
        (EventDevices.capturing.act combo inputs action).2
  | meanwhile (combo : Combo) (inputs next : EventDevices) (before : Reached combo inputs)
      (same : ∀ kind, next.grabState kind = inputs.grabState kind) : Reached combo next

namespace EventDevices

/-- A call that toggles the owner keeps the devices free while the host is on record. -/
theorem perform_follows (combo : Combo) (inputs : EventDevices)
    (free : combo.owner = .released → inputs.NoneGrabbed)
    (clean : combo.owner = .released → inputs.UndoesCleanly)
    (handed : (capturing.perform combo.owner.toggle combo inputs).combo.owner = .released) :
    (capturing.perform combo.owner.toggle combo inputs).devices.NoneGrabbed := by
  cases owned : combo.owner with
  | released =>
    rw [owned] at handed
    obtain ⟨devices, ⟨_, _, owner⟩ | ⟨reason, failed, _⟩⟩ :=
      capturing.perform_cases .acquire combo inputs
    · cases owner.symm.trans handed
    · have refused : (capturing .acquire inputs).1 ≠ none := failed ▸ Option.some_ne_none reason
      exact devices ▸ refused_acquire_undone inputs (free owned) (clean owned) refused
  | captured =>
    rw [owned] at handed
    obtain ⟨devices, ⟨succeeded, _⟩ | ⟨_, _, _, kept⟩⟩ :=
      capturing.perform_cases .release combo inputs
    · exact devices ▸ release_frees_all inputs succeeded
    · cases ((congrArg Combo.owner kept).trans owned).symm.trans handed

/-- Every action keeps the devices free while the host is on record. -/
theorem act_follows (combo : Combo) (inputs : EventDevices) (action : CaptureAction)
    (free : combo.owner = .released → inputs.NoneGrabbed)
    (clean : action = .evaluate → combo.due = some .acquire → inputs.UndoesCleanly) :
    let (after, devices) := capturing.act combo inputs action
    after.owner = .released → devices.NoneGrabbed := by
  cases action with
  | hold leftShift leftCtrl escape => exact free
  | evaluate =>
    cases due : combo.due with
    | none =>
      simp only [Capturing.act, Capturing.evaluate, due]
      exact free
    | some call =>
      have toggles := combo.due_toggles call due
      simp only [Capturing.act, Capturing.evaluate, due, ← toggles]
      have due (owned : combo.settle.owner = .released) : combo.due = some .acquire := by
        rw [due, ← toggles, owned]
        rfl
      exact fun handed =>
        perform_follows combo.settle inputs free (fun owned => clean rfl (due owned)) handed
  | releaseOnExit =>
    cases owned : combo.owner with
    | released =>
      have skipped : combo.isCaptured = false := by rw [Combo.isCaptured, owned]; rfl
      simp only [Capturing.act, Capturing.releaseOnExit, skipped, Bool.false_eq_true, if_false]
      exact free
    | captured =>
      have called : combo.isCaptured = true := by rw [Combo.isCaptured, owned]; rfl
      have toggles : combo.owner.toggle = .release := by rw [owned]; rfl
      simp only [Capturing.act, Capturing.releaseOnExit, called, if_true, ← toggles]
      refine fun handed => perform_follows combo inputs free (fun released => ?_) handed
      cases owned.symm.trans released

/-- While the host is on record no device is grabbed. -/
theorem reached_free (combo : Combo) (inputs : EventDevices) (reached : Reached combo inputs) :
    combo.owner = .released → inputs.NoneGrabbed := by
  induction reached with
  | start inputs free => exact fun _ => free
  | act combo inputs action before clean free => exact act_follows combo inputs action free clean
  | meanwhile combo inputs next before same free =>
    intro owned kind
    rw [same]
    exact free owned kind

/-- An acquire that succeeds leaves every device grabbed. One that is refused leaves none, if none
was and if it can undo what it did. -/
theorem perform_acquire (combo : Combo) (inputs : EventDevices) :
    let done := capturing.perform .acquire combo inputs
    (done.result = .ok (some .captured) →
        done.devices.AllGrabbed ∧ done.combo.owner = .captured) ∧
      ∀ reason, done.result = .error { call := .acquire, reason } →
        inputs.NoneGrabbed → inputs.UndoesCleanly →
          done.devices.NoneGrabbed ∧ done.combo.owner = combo.owner := by
  intro done
  obtain ⟨devices, ⟨succeeded, result, owner⟩ | ⟨reason, failed, result, kept⟩⟩ :=
    capturing.perform_cases .acquire combo inputs
  · refine ⟨fun _ => ⟨devices ▸ acquire_grabs_all inputs succeeded, owner⟩, ?_⟩
    intro reason refused
    cases result.symm.trans refused
  · refine ⟨fun captured => ?_, fun _ _ free clean => ⟨?_, congrArg Combo.owner kept⟩⟩
    · cases result.symm.trans captured
    · refine devices ▸ refused_acquire_undone inputs free clean ?_
      exact failed ▸ Option.some_ne_none reason

/-- If no device refuses to be let go of, a release succeeds and leaves none grabbed. -/
theorem perform_release (combo : Combo) (inputs : EventDevices) (yields : inputs.Yields) :
    let done := capturing.perform .release combo inputs
    done.result = .ok (some .released) ∧ done.devices.NoneGrabbed ∧
      done.combo.owner = .released := by
  intro done
  have yielded := release_yields inputs yields
  obtain ⟨devices, ⟨_, result, owner⟩ | ⟨_, failed, _⟩⟩ :=
    capturing.perform_cases .release combo inputs
  · exact ⟨result, devices ▸ release_frees_all inputs yielded, owner⟩
  · cases yielded.symm.trans failed

/-- However the combination was held, looked at and let go of since nothing was grabbed, however
often the devices were handed back and whichever calls were refused meanwhile, as long as refused
acquires could undo what they had done:

* while the host is on record no device in use is grabbed;
* a look that captures the devices leaves every device in use grabbed, and the bridge on record;
* a look whose acquire is refused leaves none grabbed, if it can undo what it did;
* if no device refuses to be let go of, then a look at which a release is due, and handing the
  devices back while the bridge is on record, both succeed, leave none grabbed, and put the host on
  record;
* the devices in use stay the same. -/
theorem grabs_follow_owner (combo : Combo) (inputs : EventDevices)
    (reached : Reached combo inputs) :
    let looked := capturing.evaluate combo inputs
    let left := capturing.releaseOnExit combo inputs
    (combo.owner = .released → inputs.NoneGrabbed) ∧
      (looked.result = .ok (some .captured) →
        looked.devices.AllGrabbed ∧ looked.combo.owner = .captured) ∧
      (∀ reason, looked.result = .error { call := .acquire, reason } → inputs.UndoesCleanly →
        looked.devices.NoneGrabbed ∧ looked.combo.owner = .released) ∧
      (inputs.Yields →
        (combo.due = some .release → looked.result = .ok (some .released) ∧
          looked.devices.NoneGrabbed ∧ looked.combo.owner = .released) ∧
        (combo.owner = .captured → left.result = .ok (some .released) ∧
          left.devices.NoneGrabbed ∧ left.combo.owner = .released)) ∧
      looked.devices.kinds = inputs.kinds ∧ left.devices.kinds = inputs.kinds := by
  intro looked left
  have free := reached_free combo inputs reached
  have sameLooked := (capturing.evaluate_plain kinds capturing_kinds combo inputs).1
  have sameLeft := (capturing.release_plain kinds capturing_kinds combo inputs).1
  refine ⟨free, ?_, ?_, fun yields => ⟨?_, ?_⟩, sameLooked, sameLeft⟩
  · intro captured
    obtain ⟨_, acquired⟩ := capturing.acquire_was_due combo inputs (.inl captured)
    simp only [looked, acquired] at captured ⊢
    exact (perform_acquire combo.settle inputs).1 captured
  · intro reason refused clean
    obtain ⟨owned, acquired⟩ := capturing.acquire_was_due combo inputs (.inr ⟨reason, refused⟩)
    simp only [looked, acquired] at refused ⊢
    obtain ⟨undone, kept⟩ :=
      (perform_acquire combo.settle inputs).2 reason refused (free owned) clean
    exact ⟨undone, kept.trans owned⟩
  · intro due
    simp only [looked, Capturing.evaluate, due]
    exact perform_release combo.settle inputs yields
  · intro owned
    have called : combo.isCaptured = true := by rw [Combo.isCaptured, owned]; rfl
    simp only [left, Capturing.releaseOnExit, called, if_true]
    exact perform_release combo inputs yields

/-- A keyboard, and a mouse that refuses to be grabbed once and to be let go of once. -/
def stubbornMouse : EventDevices :=
  { devices :=
      { keyboard := some { node := "event0" }
        mouse := some
          { node := "event1"
            grabFaults := [some .notPermitted]
            ungrabFaults := [some .noDevice] } } }

/-- The first acquire is undone and the second one grabs both devices. The first release leaves
the mouse grabbed; the second one frees it. -/
theorem stubborn_mouse_freed :
    let capture := [CaptureAction.hold true true true, .evaluate]
    let again := [CaptureAction.hold false false false, .evaluate, .hold true true true]
    let undone := capturing.actAll {} stubbornMouse capture
    let ready := capturing.actAll undone.1 undone.2 again
    let captured := capturing.evaluate ready.1 ready.2
    let half := capturing.act captured.combo captured.devices .releaseOnExit
    let left := capturing.releaseOnExit half.1 half.2
    (undone.1.owner = .released ∧ undone.2.NoneGrabbed) ∧ captured.devices.AllGrabbed ∧
      (half.1.owner = .captured ∧ half.2.grabState .mouse = some true) ∧
      left.result = .ok (some .released) ∧ left.devices.NoneGrabbed := by
  intro capture again undone ready captured half left
  have start : Reached {} stubbornMouse := .start _ fun kind => by cases kind <;> decide
  have reachedUndone : Reached undone.1 undone.2 :=
    .act _ _ .evaluate (.act _ _ (.hold true true true) start nofun)
      fun _ _ => by decide +kernel
  have reachedReady : Reached ready.1 ready.2 :=
    .act _ _ (.hold true true true)
      (.act _ _ .evaluate (.act _ _ (.hold false false false) reachedUndone nofun)
        fun _ _ => by decide +kernel) nofun
  have reachedCaptured : Reached captured.combo captured.devices :=
    .act _ _ .evaluate reachedReady fun _ _ => by decide +kernel
  have reachedHalf : Reached half.1 half.2 :=
    .act _ _ .releaseOnExit reachedCaptured nofun
  have yields : half.2.Yields := fun kind => by cases kind <;> decide +kernel
  obtain ⟨free, _⟩ := grabs_follow_owner undone.1 undone.2 reachedUndone
  obtain ⟨_, grabbed, _⟩ := grabs_follow_owner ready.1 ready.2 reachedReady
  obtain ⟨_, _, _, freed, _⟩ := grabs_follow_owner half.1 half.2 reachedHalf
  have onRecord : half.1.owner = .captured := by decide +kernel
  obtain ⟨result, none, _⟩ := (freed yields).2 onRecord
  have owner : undone.1.owner = .released := by decide +kernel
  exact ⟨⟨owner, free owner⟩, (grabbed rfl).1,
    ⟨onRecord, by decide +kernel⟩, result, none⟩

end EventDevices

end InputBridge
