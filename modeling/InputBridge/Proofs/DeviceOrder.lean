import InputBridge.Proofs.BatchMeaning
import InputBridge.Proofs.BatchParts
import InputBridge.Proofs.HotkeyEdges
import InputBridge.Proofs.KeyByte
/-!
# In which order the devices are read

When both devices are ready, either may be named first, and the bridge reads them in the order
in which they are named. That makes no difference as long as the devices do not speak for the
same part of the state.

Each component of the state is a fold over what the events say about it. If only one of two
lists says anything about a component, then every way of dealing the two lists into one says
the same about it, since the items of each list keep their order. Dealing one list after the
other, in either order, is a special case; what a batch does beyond taking events in depends
on the state and on how captures and frames are answered, which reading does not touch.
-/
namespace InputBridge

/-- The ways to deal two lists into one, each list in its own order. -/
inductive Interleaved {α : Type} : List α → List α → List α → Prop where
  | none : Interleaved [] [] []
  | first (item : α) (one other whole : List α) (rest : Interleaved one other whole) :
      Interleaved (item :: one) other (item :: whole)
  | second (item : α) (one other whole : List α) (rest : Interleaved one other whole) :
      Interleaved one (item :: other) (item :: whole)

namespace Interleaved

variable {α : Type} {one other whole : List α}

/-- Nothing is dealt into a list without changing it. -/
theorem of_nil (other : List α) : Interleaved [] other other := by
  induction other with
  | nil => exact .none
  | cons item rest inductionHypothesis => exact .second item [] rest rest inductionHypothesis

/-- One list may be dealt after the other. -/
theorem append (one other : List α) : Interleaved one other (one ++ other) := by
  induction one with
  | nil => exact of_nil other
  | cons item rest inductionHypothesis => exact .first item rest other _ inductionHypothesis

/-- It does not matter which list is called the first. -/
theorem swap (dealt : Interleaved one other whole) : Interleaved other one whole := by
  induction dealt with
  | none => exact .none
  | first item one other whole rest inductionHypothesis =>
    exact .second item other one whole inductionHypothesis
  | second item one other whole rest inductionHypothesis =>
    exact .first item other one whole inductionHypothesis

/-- Dealing with an empty list gives the other one. -/
theorem eq_of_nil (dealt : Interleaved [] other whole) : whole = other := by
  induction other generalizing whole with
  | nil => cases dealt; rfl
  | cons item rest inductionHypothesis =>
    cases dealt with
    | second _ _ _ _ later => rw [inductionHypothesis later]

/-- What the items say is dealt as they are. -/
theorem filter_map {β : Type} (tells : α → Option β) (dealt : Interleaved one other whole) :
    Interleaved (one.filterMap tells) (other.filterMap tells) (whole.filterMap tells) := by
  induction dealt with
  | none => exact .none
  | first item one other whole rest inductionHypothesis =>
    cases told : tells item with
    | none =>
      rw [List.filterMap_cons_none told, List.filterMap_cons_none told]
      exact inductionHypothesis
    | some value =>
      rw [List.filterMap_cons_some told, List.filterMap_cons_some told]
      exact .first value _ _ _ inductionHypothesis
  | second item one other whole rest inductionHypothesis =>
    cases told : tells item with
    | none =>
      rw [List.filterMap_cons_none told, List.filterMap_cons_none told]
      exact inductionHypothesis
    | some value =>
      rw [List.filterMap_cons_some told, List.filterMap_cons_some told]
      exact .second value _ _ _ inductionHypothesis

/-- An item is found in the whole if it is found in one of the lists. -/
theorem any (found : α → Bool) (dealt : Interleaved one other whole) :
    whole.any found = (one.any found || other.any found) := by
  induction dealt with
  | none => rfl
  | first item one other whole rest inductionHypothesis =>
    rw [List.any_cons, List.any_cons, inductionHypothesis, Bool.or_assoc]
  | second item one other whole rest inductionHypothesis =>
    rw [List.any_cons, List.any_cons, inductionHypothesis, Bool.or_left_comm]

/-- If only one list has anything to say, the whole says just that. -/
theorem filter_map_of_silent {β : Type} (tells : α → Option β)
    (dealt : Interleaved one other whole)
    (silent : one.filterMap tells = [] ∨ other.filterMap tells = []) :
    whole.filterMap tells = one.filterMap tells ++ other.filterMap tells := by
  have said := dealt.filter_map tells
  rcases silent with oneSilent | otherSilent
  · rw [oneSilent] at said ⊢
    exact said.eq_of_nil
  · rw [otherSilent] at said ⊢
    rw [List.append_nil]
    exact said.swap.eq_of_nil

end Interleaved

/-- The parts of the state that events change, each on its own. -/
inductive Component where
  | leftButton
  | middleButton
  | rightButton
  | leftShift
  | leftCtrl
  | escape
  | pendingKey
  | x
  | y
  | wheel
deriving DecidableEq, Repr

/-- The event sets a component or moves it. -/
def InputEvent.writes (keymap : Keymap) (event : InputEvent) : Component → Bool
  | .leftButton => (event.pressOf Button.left).isSome
  | .middleButton => (event.pressOf Button.middle).isSome
  | .rightButton => (event.pressOf Button.right).isSome
  | .leftShift => (event.pressOf Key.leftShift).isSome
  | .leftCtrl => (event.pressOf Key.leftCtrl).isSome
  | .escape => (event.pressOf Key.escape).isSome
  | .pendingKey => (event.reportIn keymap).isSome
  | .x => (event.distanceAlong Axis.x).isSome
  | .y => (event.distanceAlong Axis.y).isSome
  | .wheel => (event.distanceAlong Axis.wheel).isSome

/-- The component follows keys that are no mouse buttons. -/
def Component.followsKeys : Component → Bool
  | .leftShift | .leftCtrl | .escape | .pendingKey => true
  | .leftButton | .middleButton | .rightButton | .x | .y | .wheel => false

/-- No component is written by events of both lists. -/
def Apart (keymap : Keymap) (one other : List InputEvent) : Prop :=
  ∀ component, ¬ ((∃ event ∈ one, event.writes keymap component = true) ∧
    ∃ event ∈ other, event.writes keymap component = true)

namespace InputState

/-- What is said about a component does not depend on how lists that are apart are dealt. -/
theorem told_interleaved {β : Type} (keymap : Keymap) (component : Component)
    (tells : InputEvent → Option β)
    (writes : ∀ event : InputEvent, event.writes keymap component = (tells event).isSome)
    (one other whole : List InputEvent) (apart : Apart keymap one other)
    (dealt : Interleaved one other whole) :
    whole.filterMap tells = (one ++ other).filterMap tells := by
  have silent (events : List InputEvent)
      (unwritten : ¬ ∃ event ∈ events, event.writes keymap component = true) :
      events.filterMap tells = [] := by
    rw [List.filterMap_eq_nil_iff]
    intro event present
    rw [← Option.isNone_iff_eq_none, ← Option.isSome_eq_false_iff, ← writes]
    exact Bool.eq_false_iff.mpr fun written => unwritten ⟨event, present, written⟩
  have oneSide : one.filterMap tells = [] ∨ other.filterMap tells = [] := by
    by_cases written : ∃ event ∈ one, event.writes keymap component = true
    · exact .inr (silent other fun also => apart component ⟨written, also⟩)
    · exact .inl (silent one written)
  rw [dealt.filter_map_of_silent tells oneSide, List.filterMap_append]

/-- Lists that are apart leave the same state however they are dealt. -/
theorem absorb_all_interleaved (keymap : Keymap) (state : InputState)
    (one other whole : List InputEvent) (apart : Apart keymap one other)
    (dealt : Interleaved one other whole) :
    state.absorbAll keymap whole = state.absorbAll keymap (one ++ other) := by
  have same {β : Type} (component : Component) (tells : InputEvent → Option β)
      (writes : ∀ event : InputEvent, event.writes keymap component = (tells event).isSome) :=
    told_interleaved keymap component tells writes one other whole apart dealt
  simp only [absorb_all_exact, accordingTo,
    same .x (InputEvent.distanceAlong Axis.x) fun _ => rfl,
    same .y (InputEvent.distanceAlong Axis.y) fun _ => rfl,
    same .wheel (InputEvent.distanceAlong Axis.wheel) fun _ => rfl,
    same .leftButton (InputEvent.pressOf Button.left) fun _ => rfl,
    same .middleButton (InputEvent.pressOf Button.middle) fun _ => rfl,
    same .rightButton (InputEvent.pressOf Button.right) fun _ => rfl,
    same .leftShift (InputEvent.pressOf Key.leftShift) fun _ => rfl,
    same .leftCtrl (InputEvent.pressOf Key.leftCtrl) fun _ => rfl,
    same .escape (InputEvent.pressOf Key.escape) fun _ => rfl,
    same .pendingKey (InputEvent.reportIn keymap) fun _ => rfl]

end InputState

namespace InputEvent

/-- The event is one of a key that is no mouse button. -/
def isPlainKey : InputEvent → Bool
  | .key code _ => !([Button.left, Button.middle, Button.right].contains code)
  | .relative .. | .other .. => false

/-- The event is one of a mouse button, or a motion. -/
def isPointing : InputEvent → Bool
  | .key code _ => [Button.left, Button.middle, Button.right].contains code
  | .relative .. => true
  | .other .. => false

/-- Only an event of a key says something about the key. -/
theorem press_of_is_some (code : UInt16) (event : InputEvent)
    (told : (event.pressOf code).isSome = true) : ∃ value, event = .key code value := by
  cases event with
  | key known value =>
    by_cases same : known = code
    · exact ⟨value, by rw [same]⟩
    · rw [pressOf, if_neg same] at told
      cases told
  | relative axis value => cases told
  | other kind known value => cases told

/-- Only a motion along an axis says something about the axis. -/
theorem distance_along_is_some (axis : UInt16) (event : InputEvent)
    (told : (event.distanceAlong axis).isSome = true) : ∃ value, event = .relative axis value := by
  cases event with
  | relative known value =>
    by_cases same : known = axis
    · exact ⟨value, by rw [same]⟩
    · rw [distanceAlong, if_neg same] at told
      cases told
  | key code value => cases told
  | other kind code value => cases told

/-- An event that writes a component is accepted. It is an event of a plain key if the
component follows such keys, and one of a mouse button or a motion if not. -/
theorem writes_exact (keymap : Keymap) (event : InputEvent) (component : Component)
    (written : event.writes keymap component = true) :
    event.isAccepted keymap = true ∧ event.isPlainKey = component.followsKeys ∧
      event.isPointing = !component.followsKeys := by
  cases component with
  | leftButton => obtain ⟨value, rfl⟩ := press_of_is_some _ event written; exact ⟨rfl, rfl, rfl⟩
  | middleButton => obtain ⟨value, rfl⟩ := press_of_is_some _ event written; exact ⟨rfl, rfl, rfl⟩
  | rightButton => obtain ⟨value, rfl⟩ := press_of_is_some _ event written; exact ⟨rfl, rfl, rfl⟩
  | leftShift => obtain ⟨value, rfl⟩ := press_of_is_some _ event written; exact ⟨rfl, rfl, rfl⟩
  | leftCtrl => obtain ⟨value, rfl⟩ := press_of_is_some _ event written; exact ⟨rfl, rfl, rfl⟩
  | escape => obtain ⟨value, rfl⟩ := press_of_is_some _ event written; exact ⟨rfl, rfl, rfl⟩
  | x => obtain ⟨value, rfl⟩ := distance_along_is_some _ event written; exact ⟨rfl, rfl, rfl⟩
  | y => obtain ⟨value, rfl⟩ := distance_along_is_some _ event written; exact ⟨rfl, rfl, rfl⟩
  | wheel => obtain ⟨value, rfl⟩ := distance_along_is_some _ event written; exact ⟨rfl, rfl, rfl⟩
  | pendingKey =>
    have mapped := (report_in_is_some keymap event).symm.trans written
    cases event with
    | key code value =>
      obtain ⟨plain, known⟩ := Bool.and_eq_true_iff.mp mapped
      have noButton := (Bool.not_eq_true' _).mp plain
      refine ⟨?_, plain, noButton⟩
      rw [isAccepted, known, Bool.or_true]
    | relative axis value => cases mapped
    | other kind code value => cases mapped

end InputEvent

/-- A keyboard that is used for plain keys only and a mouse that is used for buttons and
motion only never write the same component. -/
theorem apart_of_parts (keymap : Keymap) (keyboard mouse : List InputEvent)
    (plain : ∀ event ∈ keyboard, event.isAccepted keymap = true → event.isPlainKey = true)
    (pointing : ∀ event ∈ mouse, event.isAccepted keymap = true → event.isPointing = true) :
    Apart keymap keyboard mouse := by
  rintro component ⟨⟨pressed, fromKeyboard, oneWrites⟩, moved, fromMouse, otherWrites⟩
  obtain ⟨accepted, keys, _⟩ := pressed.writes_exact keymap component oneWrites
  obtain ⟨alsoAccepted, _, noKeys⟩ := moved.writes_exact keymap component otherWrites
  rw [plain pressed fromKeyboard accepted] at keys
  rw [pointing moved fromMouse alsoAccepted, ← keys] at noKeys
  cases noKeys

namespace Intake

/-- Lists that are apart are taken in alike however they are dealt. -/
theorem of_events_interleaved (keymap : Keymap) (state : InputState)
    (one other whole : List InputEvent) (apart : Apart keymap one other)
    (dealt : Interleaved one other whole) :
    (ofEvents keymap state whole).state = (ofEvents keymap state (one ++ other)).state ∧
      (ofEvents keymap state whole).updated = (ofEvents keymap state (one ++ other)).updated := by
  constructor
  · rw [of_events_state, of_events_state]
    exact InputState.absorb_all_interleaved keymap state one other whole apart dealt
  · rw [of_events_updated, of_events_updated, dealt.any, List.any_append]

end Intake

namespace Bridge

variable {σ τ : Type}

/-- Two bridges that look alike, one about to read the keyboard first and one about to read the
mouse first, come to the same in a batch. -/
theorem process_batch_either_order (rig : Rig σ) (view : σ → τ) (capturing : Capturing τ)
    (write : Frame → τ → Option TransportError × τ)
    (answers : rig.AnswersThrough view capturing write) (bridge swapped : Bridge σ)
    (alike : bridge.hide view = swapped.hide view) (keyboard mouse : List InputEvent)
    (apart : Apart bridge.keymap keyboard mouse)
    (finds : rig.Finds [(.keyboard, keyboard), (.mouse, mouse)] bridge.rigState)
    (findsSwapped : rig.Finds [(.mouse, mouse), (.keyboard, keyboard)] swapped.rigState) :
    hideIn view (bridge.processBatch rig) = hideIn view (swapped.processBatch rig) := by
  obtain ⟨devices, kept, batch⟩ :=
    process_batch_found rig view answers.toReadsUnseen _ bridge finds
  obtain ⟨otherDevices, otherKept, otherBatch⟩ :=
    process_batch_found rig view answers.toReadsUnseen _ swapped findsSwapped
  have sameKeymap : swapped.keymap = bridge.keymap := (congrArg (·.keymap) alike).symm
  have sameState : swapped.state = bridge.state := (congrArg (·.state) alike).symm
  have dealt : Interleaved keyboard mouse (mouse ++ keyboard) := (Interleaved.append _ _).swap
  obtain ⟨same, sameUpdate⟩ := Intake.of_events_interleaved bridge.keymap bridge.state keyboard
    mouse (mouse ++ keyboard) apart dealt
  rw [Intake.of_events_state, Intake.of_events_state] at same
  rw [Intake.of_events_updated, Intake.of_events_updated] at sameUpdate
  have readAlike : (bridge.drained (keyboard ++ mouse) devices).hide view =
      (swapped.drained (mouse ++ keyboard) otherDevices).hide view := by
    have seen : view devices = view otherDevices :=
      kept.trans ((congrArg (·.rigState) alike).trans otherKept.symm)
    calc (bridge.drained (keyboard ++ mouse) devices).hide view
        = (bridge.hide view).drained (keyboard ++ mouse) (view devices) := rfl
      _ = (bridge.hide view).drained (mouse ++ keyboard) (view devices) := by
          simp only [drained, hide, same]
      _ = (swapped.hide view).drained (mouse ++ keyboard) (view otherDevices) := by
          rw [alike, seen]
  simp only [List.flatMap_cons, List.flatMap_nil, List.append_nil] at batch otherBatch
  rw [batch, otherBatch, conclude_through rig view capturing write answers,
    conclude_through rig view capturing write answers, readAlike, sameKeymap, sameUpdate]

/-- With a journal the bridge goes through the same batch, which enters at most one call. -/
theorem process_batch_journaled (rig : Rig σ) (bridge : Bridge σ) (journal : List Answer) :
    ∃ answers, answers.length ≤ 1 ∧
      (bridge.withJournal journal).processBatch rig.journaled =
        ((bridge.processBatch rig).1,
          (bridge.processBatch rig).2.withJournal (journal ++ answers)) := by
  obtain ⟨answers, entry, once, _⟩ := batch_journaled rig (bridge.withJournal journal) _ _
    (process_batch_run rig.journaled Prod.snd rig.journal_undisturbed _)
  have same : hideIn Prod.fst ((bridge.withJournal journal).processBatch rig.journaled) =
      bridge.processBatch rig :=
    process_batch_mirrors rig.journaled rig Prod.fst rig.journaled_mirrors _
  have entered : journal ++ answers =
      ((bridge.withJournal journal).processBatch rig.journaled).2.rigState.2 := entry.symm
  refine ⟨answers, once, ?_⟩
  rw [← same, entered]
  rfl

/-- In which order two ready devices are named makes no difference, for any keymap and events
of the keyboard and the mouse that are apart; events of a keyboard used for plain keys only
and of a mouse used for buttons and motion only are apart.

* However the events are dealt into one list, each device's in their own order, they lead from
  any state to the same state, and they are an update or not.
* For bridges on any rig that answers captures and frames without regard to what is read, and
  that look alike before: reading the keyboard first and reading the mouse first have the same
  outcome, with the same frame if one is sent, and leave the same state, the same number of
  frames sent and a rig that looks alike. A journal of capture calls gets the same call with
  the same answer, if any. -/
theorem devices_in_either_order (keymap : Keymap) (keyboard mouse : List InputEvent) :
    ((∀ event ∈ keyboard, event.isAccepted keymap = true → event.isPlainKey = true) →
        (∀ event ∈ mouse, event.isAccepted keymap = true → event.isPointing = true) →
        Apart keymap keyboard mouse) ∧
      (Apart keymap keyboard mouse →
        (∀ (state : InputState) (events : List InputEvent),
          Interleaved keyboard mouse events →
          let taken := Intake.ofEvents keymap state events
          let inTurn := Intake.ofEvents keymap state (keyboard ++ mouse)
          taken.state = inTurn.state ∧ taken.updated = inTurn.updated) ∧
        ∀ (σ τ : Type) (rig : Rig σ) (view : σ → τ) (capturing : Capturing τ)
          (write : Frame → τ → Option TransportError × τ) (bridge swapped : Bridge σ),
          rig.AnswersThrough view capturing write →
          bridge.keymap = keymap → bridge.hide view = swapped.hide view →
          rig.Finds [(.keyboard, keyboard), (.mouse, mouse)] bridge.rigState →
          rig.Finds [(.mouse, mouse), (.keyboard, keyboard)] swapped.rigState →
          let batch := bridge.processBatch rig
          let other := swapped.processBatch rig
          (batch.1 = other.1 ∧ batch.2.state = other.2.state ∧
              batch.2.framesSent = other.2.framesSent ∧
              view batch.2.rigState = view other.2.rigState) ∧
            ∀ journal, ∃ answers, answers.length ≤ 1 ∧
              (bridge.withJournal journal).processBatch rig.journaled =
                (batch.1, batch.2.withJournal (journal ++ answers)) ∧
              (swapped.withJournal journal).processBatch rig.journaled =
                (other.1, other.2.withJournal (journal ++ answers))) := by
  refine ⟨apart_of_parts keymap keyboard mouse, fun apart => ⟨?_, ?_⟩⟩
  · intro state events dealt
    exact Intake.of_events_interleaved keymap state keyboard mouse events apart dealt
  · intro σ τ rig view capturing write bridge swapped answers sameKeymap alike finds findsSwapped
    subst sameKeymap
    have same := process_batch_either_order rig view capturing write answers bridge swapped alike
      keyboard mouse apart finds findsSwapped
    refine ⟨⟨congrArg (·.1) same, congrArg (·.2.state) same, congrArg (·.2.framesSent) same,
      congrArg (·.2.rigState) same⟩, fun journal => ?_⟩
    obtain ⟨calls, once, batch⟩ := process_batch_journaled rig bridge journal
    obtain ⟨otherCalls, _, otherBatch⟩ := process_batch_journaled rig swapped journal
    have journaled := process_batch_either_order rig.journaled _ _ _
      (rig.answers_journaled view capturing write answers) (bridge.withJournal journal)
      (swapped.withJournal journal) (congrArg (withJournal · journal) alike) keyboard mouse apart
      (rig.journaled.finds_mirrored rig Prod.fst rig.journaled_mirrors _ _ finds)
      (rig.journaled.finds_mirrored rig Prod.fst rig.journaled_mirrors _ _ findsSwapped)
    rw [batch, otherBatch] at journaled
    have entered : journal ++ calls = journal ++ otherCalls :=
      congrArg (·.2.rigState.2) journaled
    rw [← List.append_cancel_left entered] at otherBatch
    exact ⟨calls, once, batch, otherBatch⟩

/-- The keyboard completes the combination and presses a mapped key. -/
def pressedKeys : List InputEvent :=
  [.key Key.leftShift 1, .key Key.leftCtrl 1, .key Key.escape 1, .key 30 1]

/-- The mouse presses a button and moves. -/
def movedMouse : List InputEvent :=
  [.key Button.left 1, .relative Axis.x 5, .other EventType.sync 0 0]

/-- A bridge whose next wait names both devices, with these events, in an order to be chosen. -/
def bothReady (entries : Entries) : Bridge Bench :=
  fresh { entries := [(30, 0x1C)] } { keyboard := true, mouse := true } .absolute .standard
    { sources := { script := [.batch entries none] } }

/-- The frame shows the key, the button and the motion, and the devices are grabbed once,
whichever device is named first. -/
theorem grabbed_in_either_order :
    let keyboardFirst := bothReady [(.keyboard, pressedKeys), (.mouse, movedMouse)]
    let mouseFirst := bothReady [(.mouse, movedMouse), (.keyboard, pressedKeys)]
    let sent : BatchOutcome := .sent { key := 0x1C, flags := 0xB6, x := 5 }
    Apart keyboardFirst.keymap pressedKeys movedMouse ∧
      (keyboardFirst.processBatch Bench.rig).1.toOption = some sent ∧
      (mouseFirst.processBatch Bench.rig).1.toOption = some sent ∧
      ((keyboardFirst.withJournal []).processBatch Bench.rig.journaled).2.rigState.2 =
        [{ call := .acquire, failure := none }] ∧
      ((mouseFirst.withJournal []).processBatch Bench.rig.journaled).2.rigState.2 =
        [{ call := .acquire, failure := none }] := by
  intro keyboardFirst mouseFirst sent
  obtain ⟨parts, order⟩ := devices_in_either_order keyboardFirst.keymap pressedKeys movedMouse
  have apart : Apart keyboardFirst.keymap pressedKeys movedMouse :=
    parts (by decide) (by decide)
  have alike : keyboardFirst.hide Bench.outer = mouseFirst.hide Bench.outer := rfl
  have finds : Bench.rig.Finds [(.keyboard, pressedKeys), (.mouse, movedMouse)]
      keyboardFirst.rigState := Bench.finds_batch _ _ [] (by decide) rfl rfl rfl
  have findsSwapped : Bench.rig.Finds [(.mouse, movedMouse), (.keyboard, pressedKeys)]
      mouseFirst.rigState := Bench.finds_batch _ _ [] (by decide) rfl rfl rfl
  obtain ⟨⟨outcome, _⟩, journaled⟩ := (order apart).2 Bench Bench Bench.rig Bench.outer _ _
    keyboardFirst mouseFirst Bench.answers_outer rfl alike finds findsSwapped
  obtain ⟨answers, _, batch, otherBatch⟩ := journaled []
  have first : (keyboardFirst.processBatch Bench.rig).1.toOption = some sent := by
    decide +kernel
  have called : ((keyboardFirst.withJournal []).processBatch Bench.rig.journaled).2.rigState.2 =
      [{ call := .acquire, failure := none }] := by
    decide +kernel
  have entered := congrArg (·.2.rigState.2) batch
  have otherEntered := congrArg (·.2.rigState.2) otherBatch
  exact ⟨apart, first, (congrArg Except.toOption outcome).symm.trans first, called,
    otherEntered.trans (entered.symm.trans called)⟩

end Bridge

end InputBridge
