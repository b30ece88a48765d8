import InputBridge.Proofs.BatchMeaning
import InputBridge.Proofs.ScriptedBatch
/-!
# What lasts when events are cut into batches

The end of a batch comes between the events twice. The combination is looked at, which may
change the owner of the devices and the cooldown, and what is reported once is cleared. Neither
disturbs what later events lead to: they look at neither the owner nor the cooldown, and of the
pointer and the pending key they only find missing what would have been cleared at the next end
of a batch anyway.

So what is left at the end of a batch, apart from owner and cooldown, does not depend on where
the batches before it ended. It is what all the events leave when they are taken in at once.
The induction goes along the batches and compares the two only after clearing.
-/
namespace InputBridge

namespace InputState

/-- There is nothing to clear twice. -/
theorem finish_batch_idempotent (state : InputState) :
    state.finishBatch.finishBatch = state.finishBatch := by
  obtain ⟨⟨_, _, _, mode, _⟩, _, _, _⟩ := state
  cases mode <;> rfl

/-- Clearing leaves the buttons alone and, in absolute mode, the position. -/
theorem finish_batch_keeps (state : InputState) :
    state.finishBatch.buttons = state.buttons ∧
      (state.pointer.mode = .absolute → state.finishBatch.pointer.x = state.pointer.x ∧
        state.finishBatch.pointer.y = state.pointer.y) := by
  obtain ⟨⟨_, _, _, mode, _⟩, _, _, _⟩ := state
  cases mode with
  | absolute => exact ⟨rfl, fun _ => ⟨rfl, rfl⟩⟩
  | relative => exact ⟨rfl, nofun⟩

/-- Clearing leaves mode and bounds alone. -/
theorem finish_batch_settings (state : InputState) :
    state.finishBatch.pointer.mode = state.pointer.mode ∧
      state.finishBatch.pointer.bounds = state.pointer.bounds := by
  obtain ⟨⟨_, _, _, mode, _⟩, _, _, _⟩ := state
  cases mode <;> exact ⟨rfl, rfl⟩

/-- What is left of the state at the end of a batch, without what the combination has led
to. -/
def lasting (state : InputState) : InputState := state.uncaptured.finishBatch

/-- Clearing looks at neither the owner nor the cooldown. -/
theorem uncaptured_finish_batch (state : InputState) :
    state.finishBatch.uncaptured = state.lasting := by
  obtain ⟨⟨_, _, _, mode, _⟩, _, _, _⟩ := state
  cases mode <;> rfl

/-- Events lead to the same if the state was cleared before them, once it is cleared after
them too. -/
theorem absorb_all_lasting (keymap : Keymap) (state : InputState) (events : List InputEvent) :
    (state.lasting.absorbAll keymap events).lasting = (state.absorbAll keymap events).lasting := by
  rw [absorb_all_exact, absorb_all_exact]
  obtain ⟨⟨_, _, _, mode, _⟩, _, _, _⟩ := state
  cases mode <;> rfl

/-- States of which the same lasts agree in mode, bounds and buttons, in what is held of the
combination and, in absolute mode, in the position. -/
theorem lasting_agrees (one two : InputState) (same : one.lasting = two.lasting) :
    one.buttons = two.buttons ∧ one.combo.leftShift = two.combo.leftShift ∧
      one.combo.leftCtrl = two.combo.leftCtrl ∧ one.combo.escape = two.combo.escape ∧
      one.pointer.mode = two.pointer.mode ∧ one.pointer.bounds = two.pointer.bounds ∧
      (one.pointer.mode = .absolute →
        one.pointer.x = two.pointer.x ∧ one.pointer.y = two.pointer.y) := by
  have mode : one.pointer.mode = two.pointer.mode :=
    one.uncaptured.finish_batch_settings.1.symm.trans
      ((congrArg (·.pointer.mode) same).trans two.uncaptured.finish_batch_settings.1)
  have bounds : one.pointer.bounds = two.pointer.bounds :=
    one.uncaptured.finish_batch_settings.2.symm.trans
      ((congrArg (·.pointer.bounds) same).trans two.uncaptured.finish_batch_settings.2)
  refine ⟨congrArg (·.buttons) same, congrArg (·.combo.leftShift) same,
    congrArg (·.combo.leftCtrl) same, congrArg (·.combo.escape) same, mode, bounds, ?_⟩
  intro absolute
  obtain ⟨x, y⟩ := one.uncaptured.finish_batch_keeps.2 absolute
  obtain ⟨otherX, otherY⟩ := two.uncaptured.finish_batch_keeps.2 (mode ▸ absolute)
  exact ⟨x.symm.trans ((congrArg (·.pointer.x) same).trans otherX),
    y.symm.trans ((congrArg (·.pointer.y) same).trans otherY)⟩

/-- States that are the same without what the combination has led to differ in at most the
owner and the cooldown. -/
theorem eq_of_uncaptured (one two : InputState) (same : one.uncaptured = two.uncaptured) :
    one = { two with
      combo := { two.combo with owner := one.combo.owner, cooldown := one.combo.cooldown } } := by
  obtain ⟨_, _, _, ⟨_, _, _, _, _⟩⟩ := one
  obtain ⟨_, _, _, ⟨_, _, _, _, _⟩⟩ := two
  simpa [uncaptured, Combo.uncaptured] using same

end InputState

namespace Capturing

variable {σ τ : Type}

/-- A batch as the state goes through it: events are taken in, the combination is looked at,
and what is reported once is cleared. -/
def batch (capturing : Capturing σ) (keymap : Keymap) (reached : InputState × σ)
    (events : List InputEvent) : InputState × σ :=
  let taken := (Intake.ofEvents keymap reached.1 events).state
  let toggled := capturing.evaluate taken.combo reached.2
  ({ taken with combo := toggled.combo }.finishBatch, toggled.devices)

/-- Batches one after another. -/
def batches (capturing : Capturing σ) (keymap : Keymap) (reached : InputState × σ)
    (cut : List (List InputEvent)) : InputState × σ :=
  cut.foldl (capturing.batch keymap) reached

/-- Apart from owner and cooldown, a batch leaves what lasts of the state after its events,
whatever the devices answer. -/
theorem batch_uncaptured (capturing : Capturing σ) (keymap : Keymap) (reached : InputState × σ)
    (events : List InputEvent) :
    (capturing.batch keymap reached events).1.uncaptured =
      (reached.1.absorbAll keymap events).lasting := by
  obtain ⟨_, looked⟩ := capturing.evaluate_plain (fun _ => ()) (fun _ _ => rfl)
    (reached.1.absorbAll keymap events).combo reached.2
  simp only [batch, Intake.of_events_state, InputState.uncaptured_finish_batch]
  simp only [InputState.lasting, InputState.uncaptured, looked]

/-- After batches the same lasts as after their events taken in at once. -/
theorem batches_lasting (capturing : Capturing σ) (keymap : Keymap) (reached : InputState × σ)
    (cut : List (List InputEvent)) :
    (capturing.batches keymap reached cut).1.lasting =
      (reached.1.absorbAll keymap cut.flatten).lasting := by
  induction cut generalizing reached with
  | nil => rfl
  | cons events rest inductionHypothesis =>
    have first : (capturing.batch keymap reached events).1.lasting =
        (reached.1.absorbAll keymap events).lasting := by
      rw [InputState.lasting, batch_uncaptured, InputState.lasting,
        InputState.finish_batch_idempotent]
    calc (capturing.batches keymap reached (events :: rest)).1.lasting
        = ((capturing.batch keymap reached events).1.absorbAll keymap rest.flatten).lasting :=
          inductionHypothesis (capturing.batch keymap reached events)
      _ = ((reached.1.absorbAll keymap events).absorbAll keymap rest.flatten).lasting := by
          rw [← InputState.absorb_all_lasting, first, InputState.absorb_all_lasting]
      _ = (reached.1.absorbAll keymap (events :: rest).flatten).lasting := by
          rw [List.flatten_cons, InputState.absorb_all_append]

/-- If there was a batch at all, then apart from owner and cooldown nothing is left but what
lasts. -/
theorem batches_uncaptured (capturing : Capturing σ) (keymap : Keymap) (reached : InputState × σ)
    (cut : List (List InputEvent)) (batched : cut ≠ []) :
    (capturing.batches keymap reached cut).1.uncaptured =
      (capturing.batches keymap reached cut).1.lasting := by
  rw [← List.dropLast_concat_getLast batched, batches, List.foldl_append, List.foldl_cons,
    List.foldl_nil, InputState.lasting, batch_uncaptured, InputState.lasting,
    InputState.finish_batch_idempotent]

/-- However a sequence of events is cut into batches, and however the devices answer in each
of two cuts, from any state:

* what lasts is what all the events leave when they are taken in at once;
* the two cuts leave the same buttons, the same keys of the combination held, the same mode and
  bounds and, in absolute mode, the same position;
* if both have a batch at all, the states they leave differ in at most the owner and the
  cooldown. -/
theorem same_after_any_cut (keymap : Keymap) (state : InputState) (capturing : Capturing σ)
    (other : Capturing τ) (devices : σ) (otherDevices : τ) (cut otherCut : List (List InputEvent))
    (sameEvents : cut.flatten = otherCut.flatten) :
    let one := (capturing.batches keymap (state, devices) cut).1
    let two := (other.batches keymap (state, otherDevices) otherCut).1
    one.lasting = (state.accordingTo keymap cut.flatten).lasting ∧
      (one.buttons = two.buttons ∧ one.combo.leftShift = two.combo.leftShift ∧
        one.combo.leftCtrl = two.combo.leftCtrl ∧ one.combo.escape = two.combo.escape ∧
        one.pointer.mode = two.pointer.mode ∧ one.pointer.bounds = two.pointer.bounds ∧
        (state.pointer.mode = .absolute →
          one.pointer.x = two.pointer.x ∧ one.pointer.y = two.pointer.y)) ∧
      (cut ≠ [] → otherCut ≠ [] →
        one = { two with
          combo :=
            { two.combo with owner := one.combo.owner, cooldown := one.combo.cooldown } }) := by
  intro one two
  have whole : one.lasting = (state.absorbAll keymap cut.flatten).lasting :=
    capturing.batches_lasting keymap (state, devices) cut
  have otherWhole : two.lasting = (state.absorbAll keymap cut.flatten).lasting := by
    rw [sameEvents]
    exact other.batches_lasting keymap (state, otherDevices) otherCut
  have same : one.lasting = two.lasting := whole.trans otherWhole.symm
  obtain ⟨_, _, _, _, mode, _⟩ := InputState.lasting_agrees _ _ whole
  rw [(state.absorb_all_settings keymap cut.flatten).1] at mode
  refine ⟨?_, mode ▸ InputState.lasting_agrees one two same, fun batched otherBatched => ?_⟩
  · rw [← InputState.absorb_all_exact]
    exact whole
  · have left : one.uncaptured = one.lasting :=
      capturing.batches_uncaptured keymap (state, devices) cut batched
    have otherLeft : two.uncaptured = two.lasting :=
      other.batches_uncaptured keymap (state, otherDevices) otherCut otherBatched
    exact InputState.eq_of_uncaptured one two (left.trans (same.trans otherLeft.symm))

/-- The combination is completed and a key of it released again while the mouse moves. -/
def movingTap : List InputEvent :=
  [.key Key.leftShift 1, .key Key.leftCtrl 1, .relative Axis.x 5, .key Key.escape 1,
    .key Key.escape 0, .relative Axis.wheel 1]

/-- Cut into single events, the tap captures willing devices; as one batch it does not. Nothing
else of the state shows the difference. -/
theorem tap_cut_two_ways :
    let willing : Capturing Unit := fun _ devices => (none, devices)
    let after := fun cut => (willing.batches {} (.initial .relative .standard, ()) cut).1
    let whole := after [movingTap]
    let parts := after (movingTap.map fun event => [event])
    whole.combo.owner = .released ∧ parts.combo.owner = .captured ∧
      whole = { parts with
        combo := { parts.combo with owner := .released, cooldown := false } } := by
  intro willing after whole parts
  obtain ⟨_, _, same⟩ := same_after_any_cut {} (.initial .relative .standard) willing willing ()
    () [movingTap] (movingTap.map fun event => [event]) rfl
  exact ⟨rfl, rfl, same (List.cons_ne_nil _ _) (List.cons_ne_nil _ _)⟩

end Capturing

end InputBridge
