import InputBridge.Proofs.BatchMeaning
import InputBridge.Proofs.HotkeyEdges
import InputBridge.Proofs.ReportedFrames
/-!
# Stretches of the held combination, and how batches see them

While events come in, the combination is held in stretches. The bridge does not see the
events one by one: it looks at the combination at the end of each batch, and it toggles
capture once for each stretch of such looks. How the events were cut into batches can
therefore matter. A stretch that begins and ends within one batch is not seen at all, and
two stretches with only a short gap between them, in the middle of a batch, are seen as
one.

Nothing is ever seen twice, and nothing is lost as long as the cut resolves the
combination: in no batch does it change between held and not held more than once. That
condition is exact. It holds for the finest cut, where each event is a batch of its own,
and the stretches of that cut are the stretches of the sequence of events.
-/
namespace InputBridge

/-- A key is down after events if the last event of that key was no release. -/
def keyDown (code : UInt16) (events : List InputEvent) : Bool :=
  (events.filterMap (InputEvent.pressOf code)).getLast?.getD false

/-- The combination is held after events if its three keys are down. -/
def comboHeld (events : List InputEvent) : Bool :=
  keyDown Key.leftShift events && keyDown Key.leftCtrl events && keyDown Key.escape events

/-- Whether the combination is held at the end of each batch, given the events before. -/
def heldAtEnds (before : List InputEvent) : List (List InputEvent) → List Bool
  | [] => []
  | batch :: rest => comboHeld (before ++ batch) :: heldAtEnds (before ++ batch) rest

/-- The finest cut of a sequence of events: each event is a batch of its own. -/
def singly (events : List InputEvent) : List (List InputEvent) :=
  events.map fun event => [event]

/-- How many times a flag changes, given what it was before. -/
def changes : Bool → List Bool → Nat
  | _, [] => 0
  | before, flag :: rest => (flag != before).toNat + changes flag rest

/-- The batches resolve the combination: in none of them does it change more than once. -/
def Resolves (before : List InputEvent) : List (List InputEvent) → Prop
  | [] => True
  | batch :: rest =>
    changes (comboHeld before) (heldAtEnds before (singly batch)) ≤ 1 ∧
      Resolves (before ++ batch) rest

/-- Stretches add up, if the later flags are told how the earlier ended. -/
theorem stretches_append (before : Bool) (earlier later : List Bool) :
    stretches before (earlier ++ later) =
      stretches before earlier + stretches (earlier.getLast?.getD before) later := by
  induction earlier generalizing before with
  | nil => exact (Nat.zero_add _).symm
  | cons flag rest inductionHypothesis =>
    rw [List.cons_append, stretches, stretches, inductionHypothesis, List.getLast?_cons,
      Option.getD_some, Nat.add_assoc]

/-- A flag becomes true as often as it becomes false, but for where it started and where it
ended. -/
theorem changes_exact (before : Bool) (flags : List Bool) :
    changes before flags + (flags.getLast?.getD before).toNat =
      2 * stretches before flags + before.toNat := by
  induction flags generalizing before with
  | nil => exact Nat.zero_add _ |>.trans (by simp [stretches])
  | cons flag rest inductionHypothesis =>
    have later := inductionHypothesis flag
    have first : (flag != before).toNat + flag.toNat =
        2 * (flag && !before).toNat + before.toNat := by
      cases flag <;> cases before <;> rfl
    rw [List.getLast?_cons, Option.getD_some, changes, stretches]
    omega

/-- A look at the start and one at the end never see more than there was, and they see all of
it exactly if the flag changed at most once. -/
theorem stretches_seen (before : Bool) (flags : List Bool) :
    let after := flags.getLast?.getD before
    (after && !before).toNat ≤ stretches before flags ∧
      ((after && !before).toNat = stretches before flags ↔ changes before flags ≤ 1) := by
  intro after
  have exact : changes before flags + after.toNat = 2 * stretches before flags + before.toNat :=
    changes_exact before flags
  have looks : (after && !before).toNat + before.toNat * after.toNat = after.toNat := by
    cases after <;> cases before <;> rfl
  clear_value after
  cases before <;> cases after <;>
    simp only [Bool.toNat_false, Bool.toNat_true] at exact looks ⊢ <;> omega

/-- Later batches are looked at behind the events of the earlier. -/
theorem held_at_ends_append (before : List InputEvent) (earlier later : List (List InputEvent)) :
    heldAtEnds before (earlier ++ later) =
      heldAtEnds before earlier ++ heldAtEnds (before ++ earlier.flatten) later := by
  induction earlier generalizing before with
  | nil => rw [List.flatten_nil, List.append_nil]; rfl
  | cons batch rest inductionHypothesis =>
    rw [List.cons_append, heldAtEnds, heldAtEnds, inductionHypothesis, List.flatten_cons,
      List.append_assoc, List.cons_append]

/-- The last look sees what all the events lead to. -/
theorem held_at_ends_last (before : List InputEvent) (batches : List (List InputEvent)) :
    (heldAtEnds before batches).getLast?.getD (comboHeld before) =
      comboHeld (before ++ batches.flatten) := by
  induction batches generalizing before with
  | nil => rw [List.flatten_nil, List.append_nil]; rfl
  | cons batch rest inductionHypothesis =>
    rw [heldAtEnds, List.getLast?_cons, Option.getD_some, inductionHypothesis, List.flatten_cons,
      List.append_assoc]

/-- The finest cut loses no event. -/
theorem flatten_singly (events : List InputEvent) : (singly events).flatten = events := by
  rw [singly, ← List.flatMap_def, List.flatMap_singleton']

/-- Looks at the ends of batches never see more stretches than there are, and they see all of
them exactly if the batches resolve the combination. -/
theorem stretches_cut (before : List InputEvent) (batches : List (List InputEvent)) :
    let seen := stretches (comboHeld before) (heldAtEnds before batches)
    let all := stretches (comboHeld before) (heldAtEnds before (singly batches.flatten))
    seen ≤ all ∧ (seen = all ↔ Resolves before batches) := by
  induction batches generalizing before with
  | nil => exact ⟨Nat.le_refl _, fun _ => trivial, fun _ => rfl⟩
  | cons batch rest inductionHypothesis =>
    obtain ⟨later, laterExact⟩ := inductionHypothesis (before ++ batch)
    have first := stretches_seen (comboHeld before) (heldAtEnds before (singly batch))
    simp only [held_at_ends_last, flatten_singly] at first
    have parts : singly (batch :: rest).flatten = singly batch ++ singly rest.flatten :=
      List.map_append
    simp only [parts, held_at_ends_append, stretches_append, held_at_ends_last, flatten_singly,
      heldAtEnds, stretches, Resolves, ← first.2, ← laterExact]
    omega

/-- Later events decide whether a key is down, or else the earlier do. -/
theorem key_down_append (code : UInt16) (earlier later : List InputEvent) :
    keyDown code (earlier ++ later) =
      (later.filterMap (InputEvent.pressOf code)).getLast?.getD (keyDown code earlier) := by
  rw [keyDown, List.filterMap_append, List.getLast?_append, Option.getD_or]
  rfl

namespace InputState

/-- The keys of the combination are down as the events so far left them. -/
structure Follows (done : List InputEvent) (state : InputState) : Prop where
  leftShift : state.combo.leftShift = keyDown Key.leftShift done
  leftCtrl : state.combo.leftCtrl = keyDown Key.leftCtrl done
  escape : state.combo.escape = keyDown Key.escape done

/-- The state has the combination held exactly if the events left it so. -/
theorem Follows.all_held {done : List InputEvent} {state : InputState}
    (follows : Follows done state) : state.combo.allHeld = comboHeld done := by
  rw [Combo.allHeld, follows.leftShift, follows.leftCtrl, follows.escape, comboHeld]

/-- Further events are followed, whatever the keymap. -/
theorem Follows.absorb_all {done : List InputEvent} {state : InputState}
    (follows : Follows done state) (keymap : Keymap) (events : List InputEvent) :
    Follows (done ++ events) (state.absorbAll keymap events) := by
  rw [absorb_all_exact]
  constructor
  · rw [key_down_append, ← follows.leftShift]
    rfl
  · rw [key_down_append, ← follows.leftCtrl]
    rfl
  · rw [key_down_append, ← follows.escape]
    rfl

end InputState

/-- What belongs to the captures: the answers still to be given, and how many calls took the
devices and handed them back. -/
def ScriptedSources.captures (sources : ScriptedSources) : ScriptedSources :=
  { acquireAnswers := sources.acquireAnswers
    releaseAnswers := sources.releaseAnswers
    refuseGrabs := sources.refuseGrabs
    grabs := sources.grabs
    ungrabs := sources.ungrabs }

namespace Bench

/-- Only a call to capture the devices touches what belongs to the captures. -/
theorem captures_undisturbed : rig.Undisturbed fun bench => bench.sources.captures where
  wait bench := by
    simp only [rig, ScriptedSources.wait]
    split <;> rfl
  drain device bench := by
    simp only [rig, ScriptedSources.drain]
    split <;> rfl
  write _ _ := rfl
  report _ _ := rfl
  interrupt bench after asked := by
    simp only [rig] at asked
    split at asked
    · exact Option.some.inj asked ▸ rfl
    · cases asked

end Bench

namespace ScriptedSources

/-- No call is scripted to fail, and the devices do not refuse to be taken. -/
def Willing (sources : ScriptedSources) : Prop :=
  sources.captures = { grabs := sources.grabs, ungrabs := sources.ungrabs }

/-- Willing devices that got so many calls, and the owner that so many toggles lead to. -/
def Toggled (toggles : Nat) (owner : Ownership) (sources : ScriptedSources) : Prop :=
  sources.Willing ∧ sources.grabs + sources.ungrabs = toggles ∧ toggles % 2 = owner.held

/-- Only what belongs to the captures counts. -/
theorem toggled_of_captures (toggles : Nat) (owner : Ownership) (left right : ScriptedSources)
    (same : left.captures = right.captures) (toggled : right.Toggled toggles owner) :
    left.Toggled toggles owner := by
  have grabs : left.grabs = right.grabs := congrArg (·.grabs) same
  have ungrabs : left.ungrabs = right.ungrabs := congrArg (·.ungrabs) same
  rw [Toggled, Willing, same, grabs, ungrabs]
  exact toggled

/-- Willing devices take any call and count it. -/
theorem capturing_willing (call : CaptureCall) (sources : ScriptedSources)
    (willing : sources.Willing) :
    ∃ after, capturing call sources = (none, after) ∧ after.Willing ∧
      after.grabs + after.ungrabs = sources.grabs + sources.ungrabs + 1 := by
  have acquireAnswers : sources.acquireAnswers = [] := congrArg (·.acquireAnswers) willing
  have releaseAnswers : sources.releaseAnswers = [] := congrArg (·.releaseAnswers) willing
  have refuseGrabs : sources.refuseGrabs = false := congrArg (·.refuseGrabs) willing
  cases call with
  | acquire =>
    refine ⟨{ sources with grabs := sources.grabs + 1 }, ?_, ?_, Nat.add_right_comm _ _ _⟩
    · simp [capturing, acquireAnswers, refuseGrabs]
    · simp only [Willing, captures, acquireAnswers, releaseAnswers, refuseGrabs]
  | release =>
    refine ⟨{ sources with ungrabs := sources.ungrabs + 1 }, ?_, ?_, rfl⟩
    · simp [capturing, releaseAnswers]
    · simp only [Willing, captures, acquireAnswers, releaseAnswers, refuseGrabs]

end ScriptedSources

/-- Each toggle changes the owner. -/
theorem Ownership.held_toggle (owner : Ownership) :
    owner.toggle.owner.held = (owner.held + 1) % 2 := by
  cases owner <;> rfl

namespace Bench

/-- The toggle that is possible succeeds. -/
theorem perform_toggled (toggles : Nat) (combo : Combo) (bench : Bench)
    (toggled : bench.sources.Toggled toggles combo.owner) :
    let performed := rig.capturing.perform combo.owner.toggle combo bench
    performed.devices.sources.Toggled (toggles + 1) performed.combo.owner ∧
      performed.combo.allHeld = combo.allHeld := by
  obtain ⟨willing, counted, parity⟩ := toggled
  obtain ⟨after, answered, stillWilling, more⟩ :=
    ScriptedSources.capturing_willing combo.owner.toggle bench.sources willing
  have answer : rig.capturing combo.owner.toggle bench =
      (none, { bench with sources := after }) := by
    simp only [rig, answered]
  simp only [Capturing.perform, answer]
  refine ⟨⟨stillWilling, more.trans (congrArg (· + 1) counted), ?_⟩, rfl⟩
  rw [Ownership.held_toggle, ← parity, Nat.mod_add_mod]

/-- A look at the combination makes a call if one is due. -/
theorem evaluate_toggled (toggles : Nat) (combo : Combo) (bench : Bench)
    (toggled : bench.sources.Toggled toggles combo.owner) :
    let looked := rig.capturing.evaluate combo bench
    looked.devices.sources.Toggled (toggles + (combo.allHeld && !combo.cooldown).toNat)
        looked.combo.owner ∧
      looked.combo.allHeld = combo.allHeld := by
  cases due : combo.allHeld && !combo.cooldown with
  | false =>
    simp only [Capturing.evaluate, Combo.due, due, Bool.false_eq_true, if_false]
    exact ⟨toggled, rfl⟩
  | true =>
    simp only [Capturing.evaluate, Combo.due, due, if_true]
    exact perform_toggled toggles combo.settle bench toggled

end Bench

/-- Without a limit every frame is taken. -/
theorem FrameRecorder.write_unlimited (frame : Frame) (recorder : FrameRecorder)
    (unlimited : recorder.limit = none) :
    recorder.write frame = (none, { recorder with frames := recorder.frames ++ [frame] }) := by
  rw [write_exact, if_neg]
  rintro ⟨most, limited, _⟩
  rw [unlimited] at limited
  cases limited

namespace Bridge

/-- A completed batch toggles capture if the combination became held in it. -/
theorem completed_toggled (toggles : Nat) (bridge next : Bridge Bench) (outcome : BatchOutcome)
    (completed : bridge.processBatch Bench.rig = (.ok outcome, next)) (settled : bridge.Settled)
    (toggled : bridge.rigState.sources.Toggled toggles bridge.state.combo.owner) :
    next.Settled ∧
      next.rigState.sources.Toggled
        (toggles + (next.state.combo.allHeld && !bridge.state.combo.allHeld).toNat)
        next.state.combo.owner := by
  obtain ⟨_, _, _, nextSettled, _⟩ := completed_journaled Bench.rig bridge next outcome completed []
  obtain ⟨events, devices, unseen, seen, combined, _⟩ :=
    completed_looked Bench.rig _ Bench.captures_undisturbed bridge next outcome completed
  obtain ⟨owner, cooldown⟩ :=
    InputState.absorb_all_capture bridge.keymap bridge.state events
  obtain ⟨looked, held⟩ := Bench.evaluate_toggled toggles
    (bridge.state.absorbAll bridge.keymap events).combo devices (by
      rw [owner]
      exact ScriptedSources.toggled_of_captures _ _ _ _ unseen toggled)
  refine ⟨nextSettled, ScriptedSources.toggled_of_captures _ _ _ _ seen ?_⟩
  have nextHeld : next.state.combo.allHeld =
      (bridge.state.absorbAll bridge.keymap events).combo.allHeld := by
    rw [combined]
    exact held
  rw [nextHeld, ← settled, ← cooldown, combined]
  exact looked

/-- Over completed batches capture is toggled each time the combination becomes held. -/
theorem watched_toggled (toggles : Nat) (bridge last : Bridge Bench) (held : List Bool)
    (run : Watched Bench.rig bridge held last) (settled : bridge.Settled)
    (toggled : bridge.rigState.sources.Toggled toggles bridge.state.combo.owner) :
    last.rigState.sources.Toggled (toggles + stretches bridge.state.combo.allHeld held)
      last.state.combo.owner := by
  induction run generalizing toggles with
  | none bridge => exact toggled
  | more bridge next last outcome held completed rest inductionHypothesis =>
    obtain ⟨nextSettled, nextToggled⟩ :=
      completed_toggled toggles bridge next outcome completed settled toggled
    rw [stretches, ← Nat.add_assoc]
    exact inductionHypothesis _ nextSettled nextToggled

/-- A batch of a script is completed if the recorder takes every frame. -/
theorem batch_completed (keymap : Keymap) (presence : Presence) (state : InputState)
    (framesSent : Nat) (entries : Entries) (rest : List Entries) (hang : Bool)
    (recorder : FrameRecorder) (bridge : Bridge Bench) (unlimited : recorder.limit = none)
    (awaits : bridge.plain =
      awaiting keymap presence state framesSent (entries :: rest) hang recorder) :
    ∃ outcome next framesLater filled,
      bridge.processBatch Bench.rig = (.ok outcome, next) ∧
        next.plain = awaiting keymap presence
          (state.absorbAll keymap entries.events).finishBatch framesLater rest hang filled ∧
        filled.limit = none := by
  cases accepted : entries.events.any (InputEvent.isAccepted keymap) with
  | false =>
    obtain ⟨next, completed, left⟩ := batch_idle keymap presence state framesSent entries rest
      hang recorder bridge awaits accepted
    exact ⟨_, next, _, _, completed, left, unlimited⟩
  | true =>
    obtain ⟨next, completed, left⟩ := batch_sent keymap presence state framesSent entries rest
      hang recorder bridge _ awaits accepted (recorder.write_unlimited _ unlimited)
    exact ⟨_, next, _, _, completed, left, unlimited⟩

/-- A bridge whose recorder takes every frame completes its script. At the end of each batch
the combination is held if the events so far say so. -/
theorem script_watched (keymap : Keymap) (presence : Presence) (done : List InputEvent)
    (state : InputState) (framesSent : Nat) (script : List Entries) (hang : Bool)
    (recorder : FrameRecorder) (bridge : Bridge Bench) (follows : state.Follows done)
    (unlimited : recorder.limit = none)
    (awaits : bridge.plain =
      awaiting keymap presence state framesSent script hang recorder) :
    ∃ last, Watched Bench.rig bridge (heldAtEnds done (script.map Entries.events)) last := by
  induction script generalizing done state framesSent recorder bridge with
  | nil => exact ⟨bridge, .none bridge⟩
  | cons entries rest inductionHypothesis =>
    have stillFollows := follows.absorb_all keymap entries.events
    have finished : ((state.absorbAll keymap entries.events).finishBatch).Follows
      (done ++ entries.events) := ⟨stillFollows.1, stillFollows.2, stillFollows.3⟩
    obtain ⟨outcome, next, _, _, completed, left, stillUnlimited⟩ := batch_completed keymap
      presence state framesSent entries rest hang recorder bridge unlimited awaits
    have held : next.state.combo.allHeld = comboHeld (done ++ entries.events) := by
      rw [← finished.all_held]
      exact congrArg (fun bridge : Bridge Bench => bridge.state.combo.allHeld) left
    obtain ⟨last, run⟩ := inductionHypothesis _ _ _ _ next finished stillUnlimited left
    rw [List.map_cons, heldAtEnds, ← held]
    exact ⟨last, .more bridge next last outcome _ completed run⟩

/-- A fresh bridge goes through a script of batches, cut out of a sequence of events in any
way, with devices that refuse no call and a recorder that takes every frame. It completes all
batches, and at the end of each the combination is held as the events so far say. Then

* capture was toggled exactly once for each maximal stretch of batch ends with the combination
  held, and the devices are captured if that is an odd number of times;
* that is never more than the maximal stretches in which the combination is held while the
  events come in one by one;
* it is as many exactly if the batches resolve the combination: in none of them does it change
  between held and not held more than once. -/
theorem toggles_by_stretch (keymap : Keymap) (presence : Presence) (mode : PointerMode)
    (bounds : ScreenBounds) (script : List Entries) (hang : Bool) :
    let batches := script.map Entries.events
    let start := fresh keymap presence mode bounds (scripted script hang false [] [] none)
    ∃ last, Watched Bench.rig start (heldAtEnds [] batches) last ∧
      let toggles := last.rigState.sources.grabs + last.rigState.sources.ungrabs
      let all := stretches false (heldAtEnds [] (singly batches.flatten))
      toggles = stretches false (heldAtEnds [] batches) ∧
        (last.state.combo.owner = .captured ↔ toggles % 2 = 1) ∧
        toggles ≤ all ∧
        (toggles = all ↔ Resolves [] batches) := by
  intro batches start
  obtain ⟨last, run⟩ := script_watched keymap presence [] (.initial mode bounds) 0 script hang
    { limit := none } start ⟨rfl, rfl, rfl⟩ rfl rfl
  obtain ⟨_, counted, parity⟩ := watched_toggled 0 start last _ run rfl ⟨rfl, rfl, rfl⟩
  have exact : last.rigState.sources.grabs + last.rigState.sources.ungrabs =
      stretches false (heldAtEnds [] batches) := counted.trans (Nat.zero_add _)
  rw [← counted] at parity
  refine ⟨last, run, exact, ?_, ?_⟩
  · rw [parity]
    cases last.state.combo.owner <;> decide
  · rw [exact]
    exact stretches_cut [] batches

/-- The combination is completed and let go of within a batch. -/
def tap : List InputEvent :=
  [.key Key.leftShift 1, .key Key.leftCtrl 1, .key Key.escape 1, .key Key.escape 0]

/-- These events hold the combination for one stretch. As one batch they toggle nothing, each in
a batch of its own they toggle capture once. -/
theorem tap_in_one_batch :
    let toggles (batches : List (List InputEvent)) :=
      let script : List Entries := batches.map fun events => [(.keyboard, events)]
      let start := fresh {} { keyboard := true } .absolute .standard
        (scripted script true false [] [] none)
      let last := (start.runFor Bench.rig script.length).2
      last.rigState.sources.grabs + last.rigState.sources.ungrabs
    stretches false (heldAtEnds [] (singly tap)) = 1 ∧
      toggles [tap] = 0 ∧ toggles (singly tap) = 1 := by
  decide +kernel

end Bridge

end InputBridge
