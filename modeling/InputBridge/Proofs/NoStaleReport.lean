import InputBridge.Proofs.AdapterInStep
import InputBridge.Proofs.BatchParts
import InputBridge.Proofs.WillingAdapter
/-!
# Nothing of an earlier batch is reported again

What a batch reports is meant to depend on its own events and on what lasts from before: which
buttons are down and, in absolute mode, where the pointer is. Keys, turns of the wheel and
distances are reported once. The capture combination is never reported, so neither what is held
of it nor what became of the devices may show.

Two bridges with histories of their own are compared after each has completed its last batch.
Every completed batch has cleared what is reported once, so if the states agree in what lasts
they differ in the combination alone. Events lead from there to states that again differ in the
combination alone, and a frame shows nothing of it.
-/
namespace InputBridge

namespace InputState

/-- The states agree in what lasts between batches and is reported. -/
structure Agrees (one other : InputState) : Prop where
  mode : one.pointer.mode = other.pointer.mode
  bounds : one.pointer.bounds = other.pointer.bounds
  buttons : one.buttons = other.buttons
  position : one.pointer.mode = .absolute →
    one.pointer.x = other.pointer.x ∧ one.pointer.y = other.pointer.y

/-- States with nothing to clear that agree in what lasts differ in the combination alone. -/
theorem eq_of_agrees (one other : InputState) (cleared : one.finishBatch = one)
    (otherCleared : other.finishBatch = other) (agree : one.Agrees other) :
    one = { other with combo := one.combo } := by
  obtain ⟨⟨_, _, _, mode, _⟩, _, _, _⟩ := one
  obtain ⟨⟨_, _, _, _, _⟩, _, _, _⟩ := other
  obtain ⟨rfl, rfl, rfl, position⟩ := agree
  cases mode with
  | absolute =>
    obtain ⟨rfl, rfl⟩ := position rfl
    simp only [finishBatch, mk.injEq, Pointer.mk.injEq, true_and, and_true] at *
    exact ⟨cleared.1.symm.trans otherCleared.1, cleared.2.symm.trans otherCleared.2⟩
  | relative =>
    simp only [finishBatch, mk.injEq, Pointer.mk.injEq, true_and, and_true] at *
    obtain ⟨⟨x, y, wheel⟩, pending⟩ := cleared
    obtain ⟨⟨otherX, otherY, otherWheel⟩, otherPending⟩ := otherCleared
    exact ⟨⟨x.symm.trans otherX, y.symm.trans otherY, wheel.symm.trans otherWheel⟩,
      pending.symm.trans otherPending⟩

/-- States that differ in the combination alone agree once they are cleared. -/
theorem agrees_cleared (state : InputState) (combo otherCombo : Combo) :
    { state with combo }.finishBatch.Agrees { state with combo := otherCombo }.finishBatch := by
  obtain ⟨⟨_, _, _, mode, _⟩, _, _, _⟩ := state
  cases mode <;> exact ⟨rfl, rfl, rfl, fun _ => ⟨rfl, rfl⟩⟩

/-- Events make of the other components what they make of them with any combination. -/
theorem absorb_all_combo (keymap : Keymap) (state : InputState) (combo : Combo)
    (events : List InputEvent) :
    { state with combo }.absorbAll keymap events =
      { state.absorbAll keymap events with
        combo := ({ state with combo }.absorbAll keymap events).combo } := by
  simp only [absorb_all_exact, accordingTo]

/-- What a batch of events comes to, from a state, if the adapter takes its frame. -/
def outcomeOf (keymap : Keymap) (presence : Presence) (events : List InputEvent)
    (state : InputState) : BatchOutcome :=
  if events.any (InputEvent.isAccepted keymap) then
    .sent (.ofState (state.absorbAll keymap events) presence)
  else .idle

/-- What a batch comes to does not depend on the combination. -/
theorem outcome_of_combo (keymap : Keymap) (presence : Presence) (events : List InputEvent)
    (state : InputState) (combo : Combo) :
    { state with combo }.outcomeOf keymap presence events =
      state.outcomeOf keymap presence events := by
  rw [outcomeOf, absorb_all_combo]
  rfl

end InputState

namespace Bridge

variable {σ τ : Type}

/-- From a bridge on which nothing had happened yet, any number of batches were completed, and none
was cut short or refused. -/
def BetweenBatches (rig : Rig σ) (keymap : Keymap) (presence : Presence) (bridge : Bridge σ) :
    Prop :=
  ∃ mode bounds rigState outcomes,
    Batches rig (fresh keymap presence mode bounds rigState) outcomes bridge

/-- Between batches keymap and presence are those of the start, and nothing is left to clear. -/
theorem between_batches_cleared (rig : Rig σ) (keymap : Keymap) (presence : Presence)
    (bridge : Bridge σ) (history : bridge.BetweenBatches rig keymap presence) :
    bridge.keymap = keymap ∧ bridge.presence = presence ∧
      bridge.state.finishBatch = bridge.state := by
  obtain ⟨mode, bounds, rigState, outcomes, batches⟩ := history
  refine batches_keep rig (fun bridge => bridge.keymap = keymap ∧ bridge.presence = presence ∧
    bridge.state.finishBatch = bridge.state) ?_ _ bridge outcomes batches ⟨rfl, rfl, ?_⟩
  · intro before outcome next kept completed
    obtain ⟨sameKeymap, samePresence, _⟩ := kept
    have run := process_batch_run rig _ rig.undisturbed_blind before
    rw [completed] at run
    cases run with
    | sent => exact ⟨sameKeymap, samePresence, InputState.finish_batch_idempotent _⟩
    | idle => exact ⟨sameKeymap, samePresence, InputState.finish_batch_idempotent _⟩
  · cases mode <;> rfl

/-- From a state of the rig where its adapter refuses no frame, a batch comes to what its events
come to. The state it leaves is that of its events, cleared, but for the combination. -/
theorem process_batch_outcome (rig : Rig σ) (bridge : Bridge σ)
    (willing : rig.NeverRefuses bridge.rigState) (entries : Entries)
    (finds : rig.Finds entries bridge.rigState) :
    let events := entries.flatMap Prod.snd
    ∃ next combo,
      bridge.processBatch rig =
          (.ok (bridge.state.outcomeOf bridge.keymap bridge.presence events), next) ∧
        next.state =
          { bridge.state.absorbAll bridge.keymap events with combo }.finishBatch := by
  intro events
  obtain ⟨willing, takes, sound⟩ := willing
  let kept := rig.within willing takes
  let inside := bridge.inside sound
  have mirrors := rig.within_mirrors willing takes
  have blind : kept.ReadsUnseen fun _ => () := ⟨fun _ => rfl, fun _ _ => rfl, fun _ _ => rfl⟩
  obtain ⟨devices, _, batch⟩ := process_batch_found kept _ blind entries inside
    (Rig.finds_mirrored kept rig _ mirrors entries inside.rigState finds)
  obtain ⟨next, concluded, left, _⟩ := conclude_taken kept
    (fun frame state => takes.taken frame state.1 state.2) (fun _ => ()) (fun _ _ => rfl)
    (fun _ _ => rfl) (events.any (InputEvent.isAccepted bridge.keymap))
    (inside.drained events devices)
  have same := process_batch_mirrors kept rig _ mirrors inside
  have completed := batch.trans concluded
  rw [completed] at same
  exact ⟨next.hide Subtype.val, _, same.symm, left⟩

/-- Two bridges on rigs of any kind, with the same keymap and the same devices present, have each
completed batches of their own since nothing had happened on them yet, and their adapters refuse
no frame. If their states agree in mode, bounds and buttons and, in absolute mode, in the
position, then whatever the next batches find, if it is the same events:

* both batches are completed and come to the same outcome, the same frame if one is sent, which
  is given by the state and the events alone;
* the states they leave agree again. -/
theorem no_stale_report (one : Rig σ) (other : Rig τ) (keymap : Keymap) (presence : Presence)
    (first : Bridge σ) (second : Bridge τ) (history : first.BetweenBatches one keymap presence)
    (otherHistory : second.BetweenBatches other keymap presence)
    (willing : one.NeverRefuses first.rigState)
    (otherWilling : other.NeverRefuses second.rigState) (agree : first.state.Agrees second.state)
    (entries otherEntries : Entries) (finds : one.Finds entries first.rigState)
    (otherFinds : other.Finds otherEntries second.rigState)
    (sameEvents : entries.flatMap Prod.snd = otherEntries.flatMap Prod.snd) :
    let outcome := first.state.outcomeOf keymap presence (entries.flatMap Prod.snd)
    ∃ next otherNext,
      first.processBatch one = (.ok outcome, next) ∧
        second.processBatch other = (.ok outcome, otherNext) ∧
        next.state.Agrees otherNext.state := by
  intro outcome
  obtain ⟨sameKeymap, samePresence, cleared⟩ :=
    between_batches_cleared one keymap presence first history
  obtain ⟨otherKeymap, otherPresence, otherCleared⟩ :=
    between_batches_cleared other keymap presence second otherHistory
  have apart := InputState.eq_of_agrees first.state second.state cleared otherCleared agree
  obtain ⟨next, combo, batch, left⟩ :=
    process_batch_outcome one first willing entries finds
  obtain ⟨otherNext, otherCombo, otherBatch, otherLeft⟩ :=
    process_batch_outcome other second otherWilling otherEntries otherFinds
  rw [sameKeymap, samePresence] at batch
  rw [otherKeymap, otherPresence, ← sameEvents] at otherBatch
  rw [sameKeymap] at left
  rw [otherKeymap, ← sameEvents] at otherLeft
  have sameOutcome : outcome =
      second.state.outcomeOf keymap presence (entries.flatMap Prod.snd) := by
    simp only [outcome]
    rw [apart, InputState.outcome_of_combo]
  refine ⟨next, otherNext, batch, sameOutcome ▸ otherBatch, ?_⟩
  rw [left, otherLeft, apart, InputState.absorb_all_combo]
  exact InputState.agrees_cleared _ combo otherCombo

/-- The mouse moves up a little. -/
def nudge : Entries := [(.mouse, [.relative Axis.y (-2)])]

/-- Devices on which, before the nudge, the combination is completed while a button is pressed,
the wheel is turned and the mouse moves. -/
def busy : Bench :=
  { sources :=
      { script :=
          [.batch
              [(.keyboard, [.key Key.leftShift 1, .key Key.leftCtrl 1, .key Key.escape 1]),
                (.mouse, [.key Button.left 1, .relative Axis.wheel 3, .relative Axis.x 5])] none,
            .batch nudge none] } }

/-- Devices on which only the button is pressed before the nudge. -/
def calm : Bench :=
  { sources := { script := [.batch [(.mouse, [.key Button.left 1])] none, .batch nudge none] } }

/-- One bridge has reported a key, the wheel and a distance and has captured the devices; the
other has only reported the button. In relative mode the nudge makes the same frame on both. -/
theorem nudge_after_busy :
    let keymap := Keymap.set {} Key.escape 0x29
    let both : Presence := { keyboard := true, mouse := true }
    let start := fun bench => fresh keymap both .relative .standard bench
    let first := ((start busy).processBatch Bench.rig).2
    let second := ((start calm).processBatch Bench.rig).2
    first.state.combo.owner = .captured ∧ second.state.combo.owner = .released ∧
      ∃ next otherNext,
        first.processBatch Bench.rig = (.ok (.sent { flags := 0xBE, y := 0xFE }), next) ∧
          second.processBatch Bench.rig = (.ok (.sent { flags := 0xBE, y := 0xFE }), otherNext) ∧
          next.state.Agrees otherNext.state := by
  intro keymap both start first second
  have history : first.BetweenBatches Bench.rig keymap both := by
    refine ⟨.relative, .standard, busy, _, .more _ _ _ (.sent
      { key := 0x29, flags := 0xBE, x := 5, extra := 0x18 }) _ ?_ (.none _)⟩
    exact completed_of_outcome Bench.rig (start busy) _ (by decide +kernel)
  have otherHistory : second.BetweenBatches Bench.rig keymap both := by
    refine ⟨.relative, .standard, calm, _, .more _ _ _ (.sent { flags := 0xBE }) _ ?_ (.none _)⟩
    exact completed_of_outcome Bench.rig (start calm) _ (by decide +kernel)
  have agree : first.state.Agrees second.state :=
    ⟨by decide +kernel, by decide +kernel, by decide +kernel, nofun⟩
  have finds : Bench.rig.Finds nudge first.rigState :=
    Bench.finds_batch first.rigState nudge [] (by decide) (by decide +kernel) (by decide +kernel)
      (by decide +kernel)
  have otherFinds : Bench.rig.Finds nudge second.rigState :=
    Bench.finds_batch second.rigState nudge [] (by decide) (by decide +kernel)
      (by decide +kernel) (by decide +kernel)
  have outcome : first.state.outcomeOf keymap both (nudge.flatMap Prod.snd) =
      .sent { flags := 0xBE, y := 0xFE } := by decide +kernel
  refine ⟨by decide +kernel, by decide +kernel, ?_⟩
  rw [← outcome]
  exact no_stale_report Bench.rig Bench.rig keymap both first second history otherHistory
    (Bench.never_refuses _ (by decide +kernel)) (Bench.never_refuses _ (by decide +kernel)) agree
    nudge nudge finds otherFinds rfl

end Bridge

end InputBridge
