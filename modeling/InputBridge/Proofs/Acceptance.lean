import InputBridge.Intake
/-!
# Which events count

Whether an event is accepted depends on the event and the keymap alone, never on
the state. A batch is therefore a fold of its events over the state, where a
rejected event leaves the state as it was, and it is an update exactly if one of
its events is accepted.

What the capture combination has led to, the owner of the devices and the
cooldown, plays no part in taking events in. Forgetting both before a batch or
after it gives the same state.
-/
namespace InputBridge

namespace InputEvent

/-- The bridge has a use for the event: a mouse button, a key of the capture
combination or a mapped key, or motion along an axis it knows. -/
def isAccepted (keymap : Keymap) : InputEvent → Bool
  | .key code _ =>
    [Button.left, Button.middle, Button.right].contains code ||
      [Key.leftShift, Key.leftCtrl, Key.escape].contains code || (keymap.lookup code).isSome
  | .relative axis _ => [Axis.x, Axis.y, Axis.wheel].contains axis
  | .other .. => false

end InputEvent

namespace InputState

/-- The state after an event; a rejected event leaves it alone. -/
def absorb (keymap : Keymap) (state : InputState) (event : InputEvent) : InputState :=
  match state.apply keymap event with
  | .ok next => next
  | .error _ => state

/-- The state after events in order. -/
def absorbAll (keymap : Keymap) (state : InputState) (events : List InputEvent) : InputState :=
  events.foldl (absorb keymap) state

/-- No event leaves the state alone. -/
@[simp] theorem absorb_all_nil (keymap : Keymap) (state : InputState) :
    state.absorbAll keymap [] = state := rfl

/-- Events are taken in one by one, the first first. -/
@[simp] theorem absorb_all_cons (keymap : Keymap) (state : InputState) (event : InputEvent)
    (rest : List InputEvent) :
    state.absorbAll keymap (event :: rest) = (state.absorb keymap event).absorbAll keymap rest :=
  rfl

/-- Events may be taken in at once or in two parts. -/
theorem absorb_all_append (keymap : Keymap) (state : InputState)
    (earlier later : List InputEvent) :
    state.absorbAll keymap (earlier ++ later) =
      (state.absorbAll keymap earlier).absorbAll keymap later := by
  simp only [absorbAll, List.foldl_append]

/-- A property that every accepted event keeps holds after any run of events. A
rejected event keeps it by leaving the state alone. -/
theorem absorb_all_keeps (keymap : Keymap) (holds : InputState → Prop)
    (kept : ∀ state event next, holds state → state.apply keymap event = .ok next → holds next)
    (state : InputState) (events : List InputEvent) (initial : holds state) :
    holds (state.absorbAll keymap events) := by
  induction events generalizing state with
  | nil => exact initial
  | cons event rest inductionHypothesis =>
    refine inductionHypothesis (state.absorb keymap event) ?_
    cases applied : state.apply keymap event with
    | error rejection => simpa only [absorb, applied] using initial
    | ok next => simpa only [absorb, applied] using kept state event next initial applied

/-- A key is a button of the mouse exactly if its code is one of three. -/
theorem buttons_track_is_some (buttons : Buttons) (code : UInt16) (pressed : Bool) :
    (buttons.track code pressed).isSome =
      [Button.left, Button.middle, Button.right].contains code := by
  simp only [Buttons.track, apply_ite Option.isSome, Option.isSome_some, Option.isSome_none]
  simp [Bool.if_true_left]

/-- A key belongs to the combination exactly if its code is one of three. -/
theorem combo_track_is_some (combo : Combo) (code : UInt16) (pressed : Bool) :
    (combo.track code pressed).isSome =
      [Key.leftShift, Key.leftCtrl, Key.escape].contains code := by
  simp only [Combo.track, apply_ite Option.isSome, Option.isSome_some, Option.isSome_none]
  simp [Bool.if_true_left]

/-- Whether an event changes the state is settled by the event and the keymap. -/
theorem apply_is_ok (keymap : Keymap) (state : InputState) (event : InputEvent) :
    (state.apply keymap event).isOk = event.isAccepted keymap := by
  cases event with
  | key code value =>
    rw [InputEvent.isAccepted, ← buttons_track_is_some state.buttons code (value != 0),
      ← combo_track_is_some state.combo code (value != 0)]
    simp only [apply, applyKey]
    cases state.buttons.track code (value != 0) with
    | some buttons => rfl
    | none =>
      cases state.combo.track code (value != 0) <;> cases keymap.lookup code <;> rfl
  | relative axis value =>
    simp only [apply, applyMotion, apply_ite Except.isOk]
    simp [InputEvent.isAccepted, Except.isOk, Except.toBool, Bool.if_true_left]
  | other kind code value => rfl

end InputState

namespace Intake

/-- Taking events in from a given start accumulates the state after them and
whether one was accepted. Each step replaces the state by the one that absorbed
the event, so the induction runs from the front with an arbitrary start. -/
theorem foldl_step (keymap : Keymap) (events : List InputEvent) (intake : Intake) :
    (events.foldl (step keymap) intake).state = intake.state.absorbAll keymap events ∧
      (events.foldl (step keymap) intake).updated =
        (intake.updated || events.any (InputEvent.isAccepted keymap)) := by
  induction events generalizing intake with
  | nil => simp
  | cons event rest inductionHypothesis =>
    have accepted := InputState.apply_is_ok keymap intake.state event
    obtain ⟨state, updated⟩ := inductionHypothesis (step keymap intake event)
    cases applied : intake.state.apply keymap event with
    | error rejection =>
      have refused : event.isAccepted keymap = false := by rw [← accepted, applied]; rfl
      simp only [List.foldl_cons, state, updated]
      simp [step, InputState.absorb, applied, refused]
    | ok next =>
      have taken : event.isAccepted keymap = true := by rw [← accepted, applied]; rfl
      simp only [List.foldl_cons, state, updated]
      simp [step, InputState.absorb, applied, taken]

/-- A batch leaves the state that absorbed its events. -/
theorem of_events_state (keymap : Keymap) (state : InputState) (events : List InputEvent) :
    (ofEvents keymap state events).state = state.absorbAll keymap events :=
  (foldl_step keymap events { state }).1

/-- A batch is an update exactly if it holds an accepted event. -/
theorem of_events_updated (keymap : Keymap) (state : InputState) (events : List InputEvent) :
    (ofEvents keymap state events).updated = events.any (InputEvent.isAccepted keymap) := by
  simpa only [ofEvents, Bool.false_or] using (foldl_step keymap events { state }).2

end Intake

/-- The combination without what it has led to: no owner but the host, no
cooldown. -/
def Combo.uncaptured (combo : Combo) : Combo :=
  { combo with owner := .released, cooldown := false }

namespace InputState

/-- The state as events and frames see it, without what the combination has led
to. -/
def uncaptured (state : InputState) : InputState :=
  { state with combo := state.combo.uncaptured }

/-- Tracking a key only touches whether keys are held. -/
theorem combo_track_uncaptured (combo : Combo) (code : UInt16) (pressed : Bool) :
    combo.uncaptured.track code pressed = (combo.track code pressed).map Combo.uncaptured := by
  simp only [Combo.track, apply_ite (Option.map Combo.uncaptured)]
  rfl

/-- An event is taken in the same way whoever owns the devices. -/
theorem apply_uncaptured (keymap : Keymap) (state : InputState) (event : InputEvent) :
    state.uncaptured.apply keymap event = (state.apply keymap event).map uncaptured := by
  cases event with
  | key code value =>
    have tracked := combo_track_uncaptured state.combo code (value != 0)
    simp only [apply, applyKey, uncaptured, tracked]
    cases state.buttons.track code (value != 0) with
    | some buttons => rfl
    | none => cases state.combo.track code (value != 0) <;> cases keymap.lookup code <;> rfl
  | relative axis value =>
    simp only [apply, applyMotion, apply_ite (Except.map uncaptured)]
    rfl
  | other kind code value => rfl

/-- So does an event that may be rejected: who owns the devices plays no part in what it does. -/
theorem absorb_uncaptured (keymap : Keymap) (state : InputState) (event : InputEvent) :
    state.uncaptured.absorb keymap event = (state.absorb keymap event).uncaptured := by
  rw [absorb, absorb, apply_uncaptured]
  cases state.apply keymap event <;> rfl

/-- Forgetting the owner and the cooldown may be done before a batch or after
it. -/
theorem absorb_all_uncaptured (keymap : Keymap) (state : InputState) (events : List InputEvent) :
    state.uncaptured.absorbAll keymap events = (state.absorbAll keymap events).uncaptured := by
  induction events generalizing state with
  | nil => rfl
  | cons event rest inductionHypothesis =>
    rw [absorb_all_cons, absorb_uncaptured, inductionHypothesis, absorb_all_cons]

/-- Tracking a key leaves the owner and the cooldown alone. -/
theorem combo_track_keeps (combo next : Combo) (code : UInt16) (pressed : Bool)
    (tracked : combo.track code pressed = some next) :
    next.owner = combo.owner ∧ next.cooldown = combo.cooldown := by
  simp only [Combo.track] at tracked
  split at tracked
  · exact Option.some.inj tracked ▸ ⟨rfl, rfl⟩
  · split at tracked
    · exact Option.some.inj tracked ▸ ⟨rfl, rfl⟩
    · split at tracked
      · exact Option.some.inj tracked ▸ ⟨rfl, rfl⟩
      · cases tracked

/-- Everything an accepted event can do. It sets buttons; or it is a key, which
changes what is held of the combination and leaves a scancode of the keymap or
what was pending before; or it moves the pointer or the wheel. -/
theorem apply_cases (keymap : Keymap) (state next : InputState) (event : InputEvent)
    (applied : state.apply keymap event = .ok next) :
    (∃ buttons, next = { state with buttons }) ∨
      (∃ combo pendingKey, next = { state with combo, pendingKey } ∧
        (combo.owner = state.combo.owner ∧ combo.cooldown = state.combo.cooldown) ∧
        (pendingKey = state.pendingKey ∨ ∃ code scancode released,
          keymap.lookup code = some scancode ∧ pendingKey = some { scancode, released })) ∨
      ∃ distance, next = { state with pointer := state.pointer.moveX distance } ∨
        next = { state with pointer := state.pointer.moveY distance } ∨
        next = { state with pointer := state.pointer.scroll distance } := by
  cases event with
  | key code value =>
    simp only [apply, applyKey] at applied
    cases button : state.buttons.track code (value != 0) with
    | some buttons =>
      simp only [button, Except.ok.injEq] at applied
      exact .inl ⟨buttons, applied.symm⟩
    | none =>
      refine .inr (.inl ?_)
      cases held : state.combo.track code (value != 0) with
      | some combo =>
        have kept := combo_track_keeps state.combo combo code (value != 0) held
        cases mapped : keymap.lookup code with
        | some scancode =>
          simp only [button, held, mapped, Except.ok.injEq] at applied
          exact ⟨combo, _, applied.symm, kept, .inr ⟨code, scancode, _, mapped, rfl⟩⟩
        | none =>
          simp only [button, held, mapped, Except.ok.injEq] at applied
          exact ⟨combo, state.pendingKey, applied.symm, kept, .inl rfl⟩
      | none =>
        cases mapped : keymap.lookup code with
        | some scancode =>
          simp only [button, held, mapped, Except.ok.injEq] at applied
          exact ⟨state.combo, _, applied.symm, ⟨rfl, rfl⟩, .inr ⟨code, scancode, _, mapped, rfl⟩⟩
        | none => simp [button, held, mapped] at applied
  | relative axis value =>
    refine .inr (.inr ⟨value, ?_⟩)
    simp only [apply, applyMotion] at applied
    split at applied
    · exact .inl (Except.ok.inj applied).symm
    · split at applied
      · exact .inr (.inl (Except.ok.inj applied).symm)
      · split at applied
        · exact .inr (.inr (Except.ok.inj applied).symm)
        · cases applied
  | other kind code value => cases applied

/-- No event changes who owns the devices, and none touches the cooldown. -/
theorem absorb_all_capture (keymap : Keymap) (state : InputState) (events : List InputEvent) :
    (state.absorbAll keymap events).combo.owner = state.combo.owner ∧
      (state.absorbAll keymap events).combo.cooldown = state.combo.cooldown := by
  refine absorb_all_keeps keymap (fun reached => reached.combo.owner = state.combo.owner ∧
    reached.combo.cooldown = state.combo.cooldown) ?_ state events ⟨rfl, rfl⟩
  intro before event next same applied
  obtain ⟨_, rfl⟩ | ⟨combo, _, rfl, ⟨owner, cooldown⟩, _⟩ | ⟨_, rfl | rfl | rfl⟩ :=
    apply_cases keymap before next event applied
  · exact same
  · exact ⟨owner.trans same.1, cooldown.trans same.2⟩
  all_goals exact same

end InputState

end InputBridge
