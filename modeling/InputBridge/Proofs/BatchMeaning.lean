import InputBridge.Proofs.PointerRange
/-!
# What a batch of events amounts to

The components of the state do not influence each other while events are taken in. Each
flag is what the last event of its key said, the pending key is the last key that the
keymap knows, and a coordinate or the wheel is the result of its own moves. A component
to which no event speaks is left alone, and mode, bounds, owner and cooldown always are.

The argument has two halves. A single event is described for all components at once, and
a component that each event either leaves alone or merges something into is then a fold
over what the events say about it.
-/
namespace InputBridge

namespace InputEvent

/-- What an event says about a key: down or up. Nothing if it is not an event of that
key. -/
def pressOf (code : UInt16) : InputEvent → Option Bool
  | .key known value => if known = code then some (value != 0) else none
  | .relative .. | .other .. => none

/-- The distance that an event moves along an axis. -/
def distanceAlong (axis : UInt16) : InputEvent → Option Int
  | .relative known value => if known = axis then some value else none
  | .key .. | .other .. => none

/-- The key report that an event makes. Mouse buttons make none, mapped or not. -/
def reportIn (keymap : Keymap) : InputEvent → Option PendingKey
  | .key code value =>
    if [Button.left, Button.middle, Button.right].contains code then none
    else (keymap.lookup code).map fun scancode => { scancode, released := value == 0 }
  | .relative .. | .other .. => none

/-- Why an event that is not accepted is skipped. -/
def refusal : InputEvent → Rejection
  | .key code _ => .ofKey code
  | .relative axis _ => .unknownAxis axis
  | .other kind code _ => .unsupported kind code

end InputEvent

namespace Pointer

/-- A coordinate after moves, in numbers of any size: moved and cut to the screen each time
in absolute mode, the last distance cut to a signed byte in relative mode. -/
def travelled (mode : PointerMode) (limit position : Int) (distances : List Int) : Int :=
  match mode with
  | .absolute =>
    distances.foldl (fun reached distance => clamp 0 limit (reached + distance)) position
  | .relative => (distances.getLast?.map (clamp (-128) 127)).getD position

/-- The wheel after turns, in numbers of any size. -/
def turned (wheel : Int) (distances : List Int) : Int :=
  distances.foldl (fun reached distance => clamp wheelMin wheelMax (reached + distance)) wheel

end Pointer

/-- The state that a batch of events speaks for, each component on its own. -/
def InputState.accordingTo (keymap : Keymap) (events : List InputEvent) (state : InputState) :
    InputState :=
  let pointer := state.pointer
  let distances := fun axis => events.filterMap (InputEvent.distanceAlong axis)
  let lastPress := fun code => (events.filterMap (InputEvent.pressOf code)).getLast?
  let lastReport := (events.filterMap (InputEvent.reportIn keymap)).getLast?
  { pointer :=
      { x := Pointer.travelled pointer.mode pointer.bounds.maxX pointer.x (distances Axis.x)
        y := Pointer.travelled pointer.mode pointer.bounds.maxY pointer.y (distances Axis.y)
        wheel := Pointer.turned pointer.wheel (distances Axis.wheel)
        mode := pointer.mode
        bounds := pointer.bounds }
    buttons :=
      { left := (lastPress Button.left).getD state.buttons.left
        middle := (lastPress Button.middle).getD state.buttons.middle
        right := (lastPress Button.right).getD state.buttons.right }
    pendingKey := lastReport.or state.pendingKey
    combo :=
      { leftShift := (lastPress Key.leftShift).getD state.combo.leftShift
        leftCtrl := (lastPress Key.leftCtrl).getD state.combo.leftCtrl
        escape := (lastPress Key.escape).getD state.combo.escape
        owner := state.combo.owner
        cooldown := state.combo.cooldown } }

/-- Cutting to thirty-two bits first makes no difference to limits within them. -/
theorem clamp_saturate (low high value : Int) (lowest : -2147483648 ≤ low) (ordered : low ≤ high)
    (highest : high ≤ 2147483647) : clamp low high (saturate value) = clamp low high value := by
  simp only [saturate, clamp]
  omega

/-- The lowest position is one of sixteen bits. -/
theorem ScreenBounds.max_y_small (bounds : ScreenBounds) :
    0 ≤ bounds.maxY ∧ bounds.maxY ≤ 65535 := by
  have one : (1 : UInt16).toNat = 1 := rfl
  have small : bounds.height.toNat < 2 ^ 16 := bounds.height.toNat_lt
  rw [maxY, to_nat_max, one]
  omega

/-- Where every item replaces what was there, the last one stays. -/
theorem foldl_replace {α β : Type} (replace : α → β) (was : β) (items : List α) :
    items.foldl (fun _ item => replace item) was = (items.getLast?.map replace).getD was := by
  induction items generalizing was with
  | nil => rfl
  | cons item rest inductionHypothesis =>
    rw [List.foldl_cons, inductionHypothesis, List.getLast?_cons]
    cases rest.getLast? <;> rfl

namespace Pointer

/-- Moves one after another come to the same in thirty-two bits. -/
theorem foldl_moved (mode : PointerMode) (limit position : Int) (distances : List Int)
    (ordered : 0 ≤ limit) (highest : limit ≤ 2147483647) :
    distances.foldl (moved mode limit) position = travelled mode limit position distances := by
  cases mode with
  | absolute =>
    have exact : moved .absolute limit =
        fun reached distance => clamp 0 limit (reached + distance) := by
      funext reached distance
      exact clamp_saturate 0 limit (reached + distance) (by decide) ordered highest
    rw [exact, travelled]
  | relative => exact foldl_replace (clamp (-128) 127) position distances

end Pointer

namespace InputState

/-- An event that is not accepted is refused in any state, for a reason of its own. -/
theorem apply_unaccepted (keymap : Keymap) (state : InputState) (event : InputEvent)
    (unaccepted : event.isAccepted keymap = false) :
    state.apply keymap event = .error event.refusal := by
  have refused := apply_is_ok keymap state event
  rw [unaccepted] at refused
  cases event with
  | key code value =>
    simp only [apply, applyKey] at refused ⊢
    cases button : state.buttons.track code (value != 0) with
    | some buttons => simp [button, Except.isOk, Except.toBool] at refused
    | none =>
      cases held : state.combo.track code (value != 0) <;> cases mapped : keymap.lookup code <;>
        simp_all [Except.isOk, Except.toBool, InputEvent.refusal]
  | relative axis value =>
    simp only [InputEvent.isAccepted, List.contains_cons, List.contains_nil, Bool.or_false,
      Bool.or_eq_false_iff, beq_eq_false_iff_ne, ne_eq] at unaccepted
    obtain ⟨x, y, wheel⟩ := unaccepted
    simp only [apply, applyMotion, if_neg x, if_neg y, if_neg wheel]
    rfl
  | other kind code value => rfl

/-- What a single event does, component by component. -/
theorem absorb_exact (keymap : Keymap) (state : InputState) (event : InputEvent) :
    state.absorb keymap event =
      { pointer := { state.pointer with
          x := (event.distanceAlong Axis.x).elim state.pointer.x
            (Pointer.moved state.pointer.mode state.pointer.bounds.maxX state.pointer.x)
          y := (event.distanceAlong Axis.y).elim state.pointer.y
            (Pointer.moved state.pointer.mode state.pointer.bounds.maxY state.pointer.y)
          wheel := (event.distanceAlong Axis.wheel).elim state.pointer.wheel fun distance =>
            clamp wheelMin wheelMax (saturate (state.pointer.wheel + distance)) }
        buttons :=
          { left := (event.pressOf Button.left).getD state.buttons.left
            middle := (event.pressOf Button.middle).getD state.buttons.middle
            right := (event.pressOf Button.right).getD state.buttons.right }
        pendingKey := (event.reportIn keymap).or state.pendingKey
        combo := { state.combo with
          leftShift := (event.pressOf Key.leftShift).getD state.combo.leftShift
          leftCtrl := (event.pressOf Key.leftCtrl).getD state.combo.leftCtrl
          escape := (event.pressOf Key.escape).getD state.combo.escape } } := by
  cases event with
  | other kind code value => rfl
  | relative axis value =>
    by_cases known : axis = Axis.x ∨ axis = Axis.y ∨ axis = Axis.wheel
    · obtain rfl | rfl | rfl := known <;> rfl
    · obtain ⟨x, y, wheel⟩ : axis ≠ Axis.x ∧ axis ≠ Axis.y ∧ axis ≠ Axis.wheel := by
        simpa only [not_or] using known
      simp [absorb, apply, applyMotion, InputEvent.distanceAlong, InputEvent.pressOf,
        InputEvent.reportIn, x, y, wheel]
  | key code value =>
    have release : (!(value != 0)) = (value == 0) := Bool.not_not _
    -- A mouse button is looked for first; only other keys can have the other two parts.
    by_cases button : code = Button.left ∨ code = Button.middle ∨ code = Button.right
    · obtain rfl | rfl | rfl := button <;> rfl
    · obtain ⟨left, middle, right⟩ :
          code ≠ Button.left ∧ code ≠ Button.middle ∧ code ≠ Button.right := by
        simpa only [not_or] using button
      by_cases combo : code = Key.leftShift ∨ code = Key.leftCtrl ∨ code = Key.escape
      · cases mapped : keymap.lookup code <;> obtain rfl | rfl | rfl := combo <;>
          simp only [absorb, apply, applyKey, InputEvent.reportIn, mapped, release] <;> rfl
      · obtain ⟨leftShift, leftCtrl, escape⟩ :
            code ≠ Key.leftShift ∧ code ≠ Key.leftCtrl ∧ code ≠ Key.escape := by
          simpa only [not_or] using combo
        cases mapped : keymap.lookup code <;>
          simp [absorb, apply, applyKey, Buttons.track, Combo.track, InputEvent.distanceAlong,
            InputEvent.pressOf, InputEvent.reportIn, mapped, release, left, middle, right,
            leftShift, leftCtrl, escape]

/-- A component that each event leaves alone or merges something into is, after a batch, the
fold of what its events say about it. What they are merged with may depend on settings that
no event changes. -/
theorem absorb_all_component {α β γ : Type} (keymap : Keymap) (settings : InputState → γ)
    (component : InputState → β) (tells : InputEvent → Option α) (merge : γ → β → α → β)
    (kept : ∀ state event, settings (absorb keymap state event) = settings state)
    (step : ∀ state event, component (absorb keymap state event) =
      (tells event).elim (component state) (merge (settings state) (component state)))
    (state : InputState) (events : List InputEvent) :
    component (state.absorbAll keymap events) =
      (events.filterMap tells).foldl (merge (settings state)) (component state) := by
  induction events generalizing state with
  | nil => rfl
  | cons event rest inductionHypothesis =>
    rw [absorb_all_cons, inductionHypothesis, kept, step]
    cases told : tells event with
    | none => rw [List.filterMap_cons_none told, Option.elim_none]
    | some item => rw [List.filterMap_cons_some told, Option.elim_some, List.foldl_cons]

/-- A flag that follows a key is what the last event of the key said. -/
theorem absorb_all_flag (keymap : Keymap) (flag : InputState → Bool) (code : UInt16)
    (step : ∀ (state : InputState) (event : InputEvent),
      flag (state.absorb keymap event) = (event.pressOf code).getD (flag state))
    (state : InputState) (events : List InputEvent) :
    flag (state.absorbAll keymap events) =
      (events.filterMap (InputEvent.pressOf code)).getLast?.getD (flag state) := by
  have folded := absorb_all_component keymap (fun _ => ()) flag (InputEvent.pressOf code)
    (fun _ _ pressed => pressed) (fun _ _ => rfl) ?_ state events
  · rw [folded, foldl_replace (fun pressed => pressed), Option.map_id']
  · intro before event
    rw [step]
    cases event.pressOf code <;> rfl

/-- A coordinate is the result of the moves along its axis. -/
theorem absorb_all_coordinate (keymap : Keymap) (coordinate : InputState → Int)
    (limit : ScreenBounds → Int) (axis : UInt16)
    (range : ∀ bounds, 0 ≤ limit bounds ∧ limit bounds ≤ 65535)
    (step : ∀ (state : InputState) (event : InputEvent), coordinate (state.absorb keymap event) =
      (event.distanceAlong axis).elim (coordinate state)
        (Pointer.moved state.pointer.mode (limit state.pointer.bounds) (coordinate state)))
    (state : InputState) (events : List InputEvent) :
    coordinate (state.absorbAll keymap events) =
      Pointer.travelled state.pointer.mode (limit state.pointer.bounds) (coordinate state)
        (events.filterMap (InputEvent.distanceAlong axis)) := by
  obtain ⟨ordered, small⟩ := range state.pointer.bounds
  rw [← Pointer.foldl_moved _ _ _ _ ordered (Int.le_trans small (by decide))]
  refine absorb_all_component keymap (fun state => (state.pointer.mode, state.pointer.bounds))
    coordinate (InputEvent.distanceAlong axis)
    (fun settings => Pointer.moved settings.1 (limit settings.2)) ?_ step state events
  intro before event
  rw [absorb_exact]

/-- The wheel is the result of its turns. -/
theorem absorb_all_wheel (keymap : Keymap) (state : InputState) (events : List InputEvent) :
    (state.absorbAll keymap events).pointer.wheel =
      Pointer.turned state.pointer.wheel
        (events.filterMap (InputEvent.distanceAlong Axis.wheel)) := by
  refine absorb_all_component keymap (fun _ => ()) (·.pointer.wheel)
    (InputEvent.distanceAlong Axis.wheel)
    (fun _ reached distance => clamp wheelMin wheelMax (reached + distance)) (fun _ _ => rfl) ?_
    state events
  intro before event
  rw [absorb_exact]
  cases event.distanceAlong Axis.wheel with
  | none => rfl
  | some distance => exact clamp_saturate wheelMin wheelMax _ (by decide) (by decide) (by decide)

/-- The pending key is the last one reported. -/
theorem absorb_all_pending (keymap : Keymap) (state : InputState) (events : List InputEvent) :
    (state.absorbAll keymap events).pendingKey =
      (events.filterMap (InputEvent.reportIn keymap)).getLast?.or state.pendingKey := by
  have folded := absorb_all_component keymap (fun _ => ()) (·.pendingKey)
    (InputEvent.reportIn keymap) (fun _ _ key => some key) (fun _ _ => rfl) ?_ state events
  · rw [folded, foldl_replace some]
    cases (events.filterMap (InputEvent.reportIn keymap)).getLast? <;> rfl
  · intro before event
    rw [absorb_exact]
    cases event.reportIn keymap <;> rfl

/-- Mode and bounds are not for events to change. -/
theorem absorb_all_settings (keymap : Keymap) (state : InputState) (events : List InputEvent) :
    (state.absorbAll keymap events).pointer.mode = state.pointer.mode ∧
      (state.absorbAll keymap events).pointer.bounds = state.pointer.bounds := by
  refine absorb_all_keeps keymap (fun reached => reached.pointer.mode = state.pointer.mode ∧
    reached.pointer.bounds = state.pointer.bounds) ?_ state events ⟨rfl, rfl⟩
  intro before event next same applied
  obtain ⟨_, rfl⟩ | ⟨_, _, rfl, _⟩ | ⟨_, rfl | rfl | rfl⟩ :=
    apply_cases keymap before next event applied <;> exact same

/-- Taking a batch in leaves the state that its events speak for. -/
theorem absorb_all_exact (keymap : Keymap) (state : InputState) (events : List InputEvent) :
    state.absorbAll keymap events = state.accordingTo keymap events := by
  have x := absorb_all_coordinate keymap (·.pointer.x) ScreenBounds.maxX Axis.x
    (fun bounds => ⟨bounds.max_x_range.1, Int.le_trans bounds.max_x_range.2 (by decide)⟩)
    (fun state event => by rw [absorb_exact]) state events
  have y := absorb_all_coordinate keymap (·.pointer.y) ScreenBounds.maxY Axis.y
    ScreenBounds.max_y_small (fun state event => by rw [absorb_exact]) state events
  have wheel := absorb_all_wheel keymap state events
  obtain ⟨mode, bounds⟩ := absorb_all_settings keymap state events
  have left := absorb_all_flag keymap (·.buttons.left) Button.left
    (fun state event => by rw [absorb_exact]) state events
  have middle := absorb_all_flag keymap (·.buttons.middle) Button.middle
    (fun state event => by rw [absorb_exact]) state events
  have right := absorb_all_flag keymap (·.buttons.right) Button.right
    (fun state event => by rw [absorb_exact]) state events
  have pending := absorb_all_pending keymap state events
  have leftShift := absorb_all_flag keymap (·.combo.leftShift) Key.leftShift
    (fun state event => by rw [absorb_exact]) state events
  have leftCtrl := absorb_all_flag keymap (·.combo.leftCtrl) Key.leftCtrl
    (fun state event => by rw [absorb_exact]) state events
  have escape := absorb_all_flag keymap (·.combo.escape) Key.escape
    (fun state event => by rw [absorb_exact]) state events
  obtain ⟨owner, cooldown⟩ := absorb_all_capture keymap state events
  rcases reached : state.absorbAll keymap events with
    ⟨⟨_, _, _, _, _⟩, ⟨_, _, _⟩, _, ⟨_, _, _, _, _⟩⟩
  simp only [reached] at *
  simp only [accordingTo, x, y, wheel, mode, bounds, left, middle, right, pending, leftShift,
    leftCtrl, escape, owner, cooldown]

end InputState

namespace Intake

/-- The events that are not accepted are skipped, in order, each for its own reason. -/
theorem of_events_skipped (keymap : Keymap) (state : InputState) (events : List InputEvent) :
    (ofEvents keymap state events).skipped =
      (events.filter fun event => !event.isAccepted keymap).map InputEvent.refusal := by
  have skips (intake : Intake) : (events.foldl (step keymap) intake).skipped =
      intake.skipped ++
        (events.filter fun event => !event.isAccepted keymap).map InputEvent.refusal := by
    induction events generalizing intake with
    | nil => exact (List.append_nil _).symm
    | cons event rest inductionHypothesis =>
      rw [List.foldl_cons, inductionHypothesis]
      cases accepted : event.isAccepted keymap with
      | true =>
        have taken := InputState.apply_is_ok keymap intake.state event
        cases applied : intake.state.apply keymap event with
        | error rejection => simp [applied, accepted, Except.isOk, Except.toBool] at taken
        | ok next => simp [step, applied, accepted]
      | false =>
        have refused := InputState.apply_unaccepted keymap intake.state event accepted
        simp [step, refused, accepted]
  exact (skips { state }).trans (List.nil_append _)

/-- What a batch of events amounts to, from any state and component by component:

* a coordinate is the result of the moves along its axis, the wheel of its turns;
* a mouse button, or a key of the combination, is down if the last event of that key was
  not a release, and as before if there was none;
* the pending key is the last one reported by a key of the keymap that is no mouse button,
  and as before if there was none;
* mode, bounds, owner and cooldown are as before.

The batch is an update exactly if one of its events is accepted. The others are skipped in
order; in any state such an event is refused, and so changes nothing, while an accepted one
is not. -/
theorem of_events_exact (keymap : Keymap) (state : InputState) (events : List InputEvent) :
    let taken := ofEvents keymap state events
    taken.state = state.accordingTo keymap events ∧
      (taken.updated = true ↔ ∃ event ∈ events, event.isAccepted keymap = true) ∧
      taken.skipped =
        (events.filter fun event => !event.isAccepted keymap).map InputEvent.refusal ∧
      ∀ (reached : InputState) (event : InputEvent),
        (event.isAccepted keymap = true ↔ ∃ next, reached.apply keymap event = .ok next) ∧
          (event.isAccepted keymap = false ↔
            reached.apply keymap event = .error event.refusal) := by
  refine ⟨?_, ?_, of_events_skipped keymap state events, ?_⟩
  · rw [of_events_state, InputState.absorb_all_exact]
  · rw [of_events_updated, List.any_eq_true]
  · intro reached event
    cases accepted : event.isAccepted keymap with
    | true =>
      have taken := InputState.apply_is_ok keymap reached event
      rw [accepted] at taken
      cases applied : reached.apply keymap event with
      | error rejection => rw [applied] at taken; cases taken
      | ok next => simp
    | false =>
      rw [InputState.apply_unaccepted keymap reached event accepted]
      simp

end Intake

end InputBridge
