import InputBridge.Proofs.BatchMeaning
import InputBridge.Proofs.HotkeyEdges
import InputBridge.Proofs.SharedReading
import InputBridge.Proofs.WillingAdapter
/-!
# The loop that only captures

What a bridge captures is a loop of its own on the combination: a batch reads, follows the keys of
the combination and looks at it. Keymap, mode, bounds and presence have no part in it, and neither
has the adapter as long as it takes every frame; a refused frame would end the loop. So the capture
calls of a run, the combination after each of its batches and how it ends are given by the
combination that it starts from.
-/
namespace InputBridge

/-- The combination after events, which it follows whatever else they mean. -/
def Combo.followed (combo : Combo) (events : List InputEvent) : Combo :=
  let lastPress := fun code => (events.filterMap (InputEvent.pressOf code)).getLast?
  { combo with
    leftShift := (lastPress Key.leftShift).getD combo.leftShift
    leftCtrl := (lastPress Key.leftCtrl).getD combo.leftCtrl
    escape := (lastPress Key.escape).getD combo.escape }

/-- Taking events in makes of the combination what it becomes by following them. -/
theorem InputState.absorb_all_followed (keymap : Keymap) (state : InputState)
    (events : List InputEvent) :
    (state.absorbAll keymap events).combo = state.combo.followed events := by
  rw [absorb_all_exact]
  rfl

namespace Rig

variable {σ τ : Type}

/-- As far as `view` shows, the rig is read and answers capture calls as another; frames leave no
trace. -/
structure CapturesAs (rig : Rig σ) (view : σ → τ) (course : Rig τ) : Prop
    extends rig.ReadsAs view course where
  capturing : rig.capturing.Mirrors course.capturing view
  write : ∀ frame state, view (rig.write frame state).2 = view state

/-- A journal of the capture calls only adds to what is seen. -/
theorem captures_journaled (rig : Rig σ) (view : σ → τ) (course : Rig τ)
    (captures : rig.CapturesAs view course) :
    rig.journaled.CapturesAs (fun state => (view state.1, state.2)) course.journaled where
  wait state := by simp only [journaled, ← captures.wait]
  drain device state := by simp only [journaled, ← captures.drain]
  report notice state := by simp only [journaled, captures.report]
  interrupt state := by
    simp only [journaled, ← captures.interrupt, Option.map_map]
    rfl
  backlog state := captures.backlog state.1
  capturing call state := by
    have same := captures.capturing call state.1
    simp only [journaled, Capturing.journaled, ← same]
  write frame state := by simp only [journaled, captures.write]

/-- Kept to states where its adapter is willing, a rig answers capture calls as before. -/
theorem captures_within (rig : Rig σ) (view : σ → τ) (course : Rig τ)
    (captures : rig.CapturesAs view course) (willing : σ → Prop)
    (takes : rig.TakesFrames willing) :
    (rig.within willing takes).CapturesAs (fun state => view state.1) course where
  wait state := captures.wait state.1
  drain device state := captures.drain device state.1
  report notice state := captures.report notice state.1
  interrupt state := by
    simp only [within, ← captures.interrupt, Option.map_pmap, Option.pmap_eq_map]
  backlog state := captures.backlog state.1
  capturing call state := captures.capturing call state.1
  write frame state := captures.write frame state.1

/-- With a journal of the capture calls the adapter refuses no frame either. -/
theorem never_refuses_journaled (rig : Rig σ) (state : σ) (willing : rig.NeverRefuses state)
    (journal : List Answer) : rig.journaled.NeverRefuses (state, journal) := by
  obtain ⟨willing, takes, sound⟩ := willing
  refine ⟨fun state => willing state.1, ?_, sound⟩
  constructor
  case wait => exact fun state => takes.wait state.1
  case drain => exact fun device state => takes.drain device state.1
  case capturing => exact fun call state => takes.capturing call state.1
  case write => exact fun frame state => takes.write frame state.1
  case report => exact fun notice state => takes.report notice state.1
  case interrupt =>
    intro state after asked
    obtain ⟨left, found, rfl⟩ := Option.map_eq_some_iff.mp asked
    exact takes.interrupt state.1 left found
  case taken => exact fun frame state => takes.taken frame state.1

end Rig

namespace Bridge

variable {σ τ : Type}

/-- What the capturing depends on: the combination and what is seen of the rig's state. -/
def captured (view : σ → τ) (bridge : Bridge σ) : Combo × τ :=
  (bridge.state.combo, view bridge.rigState)

/-- The loop that only captures. -/
def capturing (course : Rig τ) : Routine Unit (Combo × τ) where
  batch state :=
    let reading := course.read state.2
    let held := state.1.followed reading.events
    match reading.halt with
    | some halt => (.error halt, held, reading.state)
    | none =>
      let toggled := course.capturing.evaluate held reading.state
      (.ok (), toggled.combo, toggled.devices)
  stop halt state :=
    match halt with
    | .failed error =>
      let toggled := course.capturing.releaseOnExit state.1 state.2
      (.failed error, toggled.combo, toggled.devices)
    | .never =>
      match course.interrupt state.2 with
      | none => (.never, state)
      | some rigState =>
        let toggled := course.capturing.releaseOnExit state.1 rigState
        (.shutdown, toggled.combo, toggled.devices)

section Captures

variable (rig : Rig σ) (view : σ → τ) (course : Rig τ) (captures : rig.CapturesAs view course)

include captures

/-- The devices are handed back as far as capturing goes. -/
theorem release_devices_captured (bridge : Bridge σ) :
    let toggled := course.capturing.releaseOnExit bridge.state.combo (view bridge.rigState)
    (bridge.releaseDevices rig).captured view = (toggled.combo, toggled.devices) := by
  intro toggled
  obtain ⟨rigState, seen, released⟩ := release_devices_spec rig.silent view
    (rig.silent_undisturbed view captures.report) bridge
  have handed : bridge.releaseDevices rig = bridge.releaseDevices rig.silent := rfl
  have same : (rig.capturing.releaseOnExit bridge.state.combo bridge.rigState).hide view =
      toggled :=
    Capturing.release_mirrors _ _ _ captures.capturing bridge.state.combo bridge.rigState
  rw [handed, released, ← same]
  exact congrArg (Prod.mk _) seen

/-- What a bridge captures is the loop that only captures, if its adapter takes every frame. -/
theorem capturing_shadows (taken : ∀ frame state, (rig.write frame state).1 = none) :
    (capturing course).Shadows (routine rig) (fun _ => ()) (captured view) where
  batch bridge := by
    obtain ⟨rigState, seen, batch⟩ :=
      process_batch_reads rig view course captures.toReadsAs bridge
    let events := (course.read (view bridge.rigState)).events
    have held : (bridge.drained events rigState).state.combo =
        bridge.state.combo.followed events :=
      InputState.absorb_all_followed bridge.keymap bridge.state events
    simp only [routine, capturing, batch, captured]
    cases (course.read (view bridge.rigState)).halt with
    | some halt => exact congrArg (Prod.mk _) (Prod.ext held seen)
    | none =>
      obtain ⟨next, concluded, left, shown⟩ := conclude_taken rig taken view captures.write
        captures.report (events.any (InputEvent.isAccepted bridge.keymap))
        (bridge.drained events rigState)
      have same := Capturing.evaluate_mirrors _ _ _ captures.capturing
        (bridge.drained events rigState).state.combo rigState
      rw [held, seen] at same
      rw [held] at left shown
      have combo := congrArg (·.combo) left
      simp only [events] at concluded same combo shown
      simp only [concluded, ← same]
      exact congrArg (Prod.mk _) (Prod.ext combo shown)
  stop halt bridge := by
    have released := release_devices_captured rig view course captures
    have noted (notice : Notice) (bridge : Bridge σ) :
        (bridge.report rig notice).captured view = bridge.captured view :=
      congrArg (Prod.mk _) (captures.report notice bridge.rigState)
    cases halt with
    | failed error =>
      simp only [routine, capturing, stop, noted, released]
      rfl
    | never =>
      have same : course.interrupt (bridge.captured view).2 =
          (rig.interrupt bridge.rigState).map view := (captures.interrupt _).symm
      simp only [routine, capturing, stop, same]
      cases rig.interrupt bridge.rigState with
      | none => rfl
      | some rigState =>
        simp only [Option.map_some, released]
        simp only [report, captures.report]
        rfl

end Captures

section Runs

variable (rig : Rig σ) (limit : Nat) (bridge : Bridge σ)

/-- The combination after each batch of a run, with owner and cooldown. -/
def combos : List Combo :=
  ((routine rig).trail limit bridge).map fun batch => batch.2.state.combo

/-- The capture calls that a run made, in order, each with the reason if it failed. -/
def calls : List Answer :=
  ((bridge.withJournal []).runFor rig.journaled limit).2.rigState.2

variable (view : σ → τ) (course : Rig τ)

/-- If its adapter refuses no frame, what a run captures is given by the combination and what is
seen of the rig's state where it starts. -/
theorem run_for_captured (captures : rig.CapturesAs view course)
    (willing : rig.NeverRefuses bridge.rigState) :
    let start := bridge.captured view
    ((bridge.runFor rig limit).1, (bridge.runFor rig limit).2.captured view) =
        (capturing course).runFor limit start ∧
      bridge.combos rig limit =
        ((capturing course).trail limit start).map fun batch => batch.2.1 := by
  intro start
  obtain ⟨willing, takes, sound⟩ := willing
  let inside := bridge.inside sound
  have outside := routine_mirrors _ _ _ (rig.within_mirrors willing takes)
  have shadows := capturing_shadows _ _ _
    (rig.captures_within view course captures willing takes)
    fun frame state => takes.taken frame state.1 state.2
  have run : _ = (routine rig).runFor limit bridge := outside.run_alike limit inside
  have trail : _ = (routine rig).trail limit bridge := outside.trail_alike limit inside
  refine ⟨?_, ?_⟩
  · rw [run_for_routine, ← run]
    exact shadows.run_alike limit inside
  · have seen : _ = (capturing course).trail limit start := shadows.trail_alike limit inside
    rw [combos, ← trail, ← seen, List.map_map, List.map_map]
    rfl

/-- So are the calls it makes. -/
theorem calls_captured (captures : rig.CapturesAs view course)
    (willing : rig.NeverRefuses bridge.rigState) :
    let start := bridge.captured view
    bridge.calls rig limit =
      ((capturing course.journaled).runFor limit (start.1, start.2, [])).2.2.2 := by
  obtain ⟨run, _⟩ := run_for_captured rig.journaled limit (bridge.withJournal []) _ _
    (rig.captures_journaled view course captures)
    (rig.never_refuses_journaled bridge.rigState willing [])
  exact congrArg (·.2.2.2) run

end Runs

end Bridge

namespace Bench

/-- The bench without the recorder and the notices. -/
def withoutFrames (bench : Bench) : Bench := { sources := bench.sources }

/-- Scripted devices are read and answer capture calls alike whatever the recorder holds. -/
theorem captures_without_frames : rig.CapturesAs withoutFrames rig where
  wait _ := rfl
  drain _ _ := rfl
  report _ _ := rfl
  interrupt bench := by
    simp only [rig, withoutFrames]
    split <;> rfl
  backlog _ := rfl
  capturing _ _ := rfl
  write _ _ := rfl

end Bench

end InputBridge
