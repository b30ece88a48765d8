import InputBridge.Frame.Encoding
import InputBridge.Proofs.PointerRange
/-!
# Nothing is lost on the wire

A coordinate goes out as the byte that it is congruent to. For the states that the bridge
can reach that byte is the coordinate itself: as an unsigned number in absolute mode, in
two's complement in relative mode. Reaching a state takes events, looks at the combination
and calls to the devices in any order, and batches that may have been cut short; each of
these keeps the range of what is reported.
-/
namespace InputBridge

/-- A position on a screen is the byte that it is sent as. -/
theorem byte_of_position (position : Int) (low : 0 ≤ position) (high : position ≤ 255) :
    ((UInt8.ofInt position).toNat : Int) = position := by
  rw [UInt8.ofInt, UInt8.toNat_ofNat']
  omega

/-- A distance in a signed byte is the byte that it is sent as, in two's complement. -/
theorem byte_of_distance (distance : Int) (low : -128 ≤ distance) (high : distance ≤ 127) :
    (UInt8.ofInt distance).toInt8.toInt = distance := by
  have bits : (UInt8.ofInt distance).toInt8.toInt = (UInt8.ofInt distance).toBitVec.toInt := rfl
  rw [bits, BitVec.toInt_eq_toNat_cond, UInt8.toNat_toBitVec, UInt8.ofInt, UInt8.toNat_ofNat']
  split <;> omega

namespace Settings

/-- Settings that make sense have a width from 1 to 256. -/
theorem valid_width (settings : Settings) (valid : settings.validate = .ok ()) :
    1 ≤ settings.width.toNat ∧ settings.width.toNat ≤ 256 := by
  simp only [validate] at valid
  split at valid
  · cases valid
  · rename_i fits
    obtain ⟨something, narrow⟩ := not_or.mp fits
    have full : fullWidth.toNat = 256 := rfl
    rw [UInt16.lt_iff_toNat_lt, full] at narrow
    have positive : settings.width.toNat ≠ 0 := fun none => something (UInt16.toNat.inj none)
    omega

/-- The range of the pointer on the screen of such settings ends right before the width and
the height. -/
theorem valid_bounds (settings : Settings) (valid : settings.validate = .ok ()) :
    settings.bounds.maxX = settings.width.toNat - 1 ∧
      settings.bounds.maxY = settings.standard.height.toNat - 1 := by
  have fits := settings.valid_width valid
  refine ⟨?_, ScreenBounds.max_y_exact settings.width settings.standard⟩
  have cut : settings.bounds.width.toNat = min settings.width.toNat 256 :=
    ScreenBounds.to_nat_min settings.width fullWidth
  rw [ScreenBounds.max_x_exact, cut]
  omega

end Settings

namespace InputState

/-- The states that can be reached from a state: by events, one at a time or in batches, by
looks at the combination and by handing the devices back, whatever the devices answer, by
clearing what was reported, and by batches of a bridge on any rig, whether or not they were
completed. -/
inductive Reached (keymap : Keymap) (start : InputState) : InputState → Prop where
  | start : Reached keymap start start
  | event (state next : InputState) (event : InputEvent) (reached : Reached keymap start state)
      (applied : state.apply keymap event = .ok next) : Reached keymap start next
  | batch (state : InputState) (events : List InputEvent)
      (reached : Reached keymap start state) :
      Reached keymap start (Intake.ofEvents keymap state events).state
  | looked (σ : Type) (capturing : Capturing σ) (devices : σ) (state : InputState)
      (reached : Reached keymap start state) :
      Reached keymap start
        { state with combo := (capturing.evaluate state.combo devices).combo }
  | handedBack (σ : Type) (capturing : Capturing σ) (devices : σ) (state : InputState)
      (reached : Reached keymap start state) :
      Reached keymap start
        { state with combo := (capturing.releaseOnExit state.combo devices).combo }
  | finished (state : InputState) (reached : Reached keymap start state) :
      Reached keymap start state.finishBatch
  | processed (σ : Type) (rig : Rig σ) (bridge : Bridge σ) (sameKeymap : bridge.keymap = keymap)
      (reached : Reached keymap start bridge.state) :
      Reached keymap start (bridge.processBatch rig).2.state

/-- A batch keeps everything in range, also if it is cut short: what was taken in so far is
in range, and the look at the combination and the clearing keep it so. -/
theorem process_batch_in_range {σ : Type} (rig : Rig σ) (bridge : Bridge σ) (mode : PointerMode)
    (bounds : ScreenBounds) (lines : 0 ≤ bounds.maxY)
    (leaves : bridge.keymap.LeavesReleaseBit) (inRange : InRange mode bounds bridge.state) :
    InRange mode bounds (bridge.processBatch rig).2.state := by
  have takenIn (events : List InputEvent) :=
    absorb_all_in_range mode bounds lines bridge.keymap leaves bridge.state events inRange
  have run := Bridge.process_batch_run rig _ rig.undisturbed_blind bridge
  rcases batch : bridge.processBatch rig with ⟨result, after⟩
  rw [batch] at run
  cases run with
  | interrupted events halt rigState => exact takenIn events
  | refused events devices rigState error =>
    exact combo_in_range mode bounds _ _ (takenIn events)
  | sent events devices rigState =>
    exact finish_in_range mode bounds _ (combo_in_range mode bounds _ _ (takenIn events))
  | idle events devices rigState =>
    exact finish_in_range mode bounds _ (combo_in_range mode bounds _ _ (takenIn events))

/-- Every state that can be reached is in range. -/
theorem reached_in_range (keymap : Keymap) (leaves : keymap.LeavesReleaseBit)
    (mode : PointerMode) (bounds : ScreenBounds) (lines : 0 ≤ bounds.maxY) (state : InputState)
    (reached : Reached keymap (initial mode bounds) state) : InRange mode bounds state := by
  induction reached with
  | start => exact initial_in_range mode bounds lines
  | event state next event reached applied inductionHypothesis =>
    exact apply_in_range mode bounds lines keymap leaves state next event inductionHypothesis
      applied
  | batch state events reached inductionHypothesis =>
    rw [Intake.of_events_state]
    exact absorb_all_in_range mode bounds lines keymap leaves state events inductionHypothesis
  | looked σ capturing devices state reached inductionHypothesis =>
    exact combo_in_range mode bounds state _ inductionHypothesis
  | handedBack σ capturing devices state reached inductionHypothesis =>
    exact combo_in_range mode bounds state _ inductionHypothesis
  | finished state reached inductionHypothesis =>
    exact finish_in_range mode bounds state inductionHypothesis
  | processed σ rig bridge sameKeymap reached inductionHypothesis =>
    subst sameKeymap
    exact process_batch_in_range rig bridge mode bounds lines leaves inductionHypothesis

/-- The way out hands the devices back or leaves the state alone. -/
theorem stop_reached {σ : Type} (rig : Rig σ) (keymap : Keymap) (start : InputState)
    (bridge : Bridge σ) (halt : Halt) (reached : Reached keymap start bridge.state) :
    Reached keymap start (bridge.stop rig halt).2.state := by
  by_cases returned : (bridge.stop rig halt).1 = .never
  · cases halt with
    | failed error => cases returned
    | never =>
      cases asked : rig.interrupt bridge.rigState with
      | none =>
        simp only [Bridge.stop, asked]
        exact reached
      | some interrupted => simp [Bridge.stop, asked] at returned
  · obtain ⟨devices, rigState, _, _, left, _⟩ :=
      Bridge.stop_spec rig _ rig.undisturbed_blind bridge halt returned
    rw [left]
    exact .handedBack σ rig.capturing devices bridge.state reached

/-- However far the run of a bridge got, its state is one that can be reached. -/
theorem run_for_reached {σ : Type} (rig : Rig σ) (keymap : Keymap) (start : InputState)
    (limit : Nat) (bridge : Bridge σ) (sameKeymap : bridge.keymap = keymap)
    (reached : Reached keymap start bridge.state) :
    Reached keymap start (bridge.runFor rig limit).2.state := by
  induction limit generalizing bridge with
  | zero => exact reached
  | succ limit inductionHypothesis =>
    have processed := Reached.processed σ rig bridge sameKeymap reached
    have kept := Bridge.process_batch_run rig _ rig.undisturbed_blind bridge
    rcases batch : bridge.processBatch rig with ⟨result, after⟩
    rw [batch] at processed kept
    have afterKeymap : after.keymap = keymap := by cases kept <;> exact sameKeymap
    cases result with
    | ok outcome =>
      simp only [Bridge.runFor, batch]
      exact inductionHypothesis after afterKeymap processed
    | error halt =>
      simp only [Bridge.runFor, batch]
      exact stop_reached rig keymap start after halt processed

/-- For every state that can be reached from the start, with a keymap read from a file and
the bounds of a screen:

* mode and bounds are those of the start;
* in absolute mode both coordinates are on the screen, whose last column and line fit into a
  byte, and the third and fourth byte of the frame are the coordinates; if the bounds come
  from settings that make sense, these bytes are below the width and the height;
* in relative mode both coordinates are signed bytes, and the third and fourth byte of the
  frame are the coordinates in two's complement;
* the wheel is a signed half-byte, and a pending scancode leaves the release bit clear. -/
theorem nothing_lost_on_the_wire (text : String) (keymap : Keymap)
    (parsed : Keymap.parse text = .ok keymap) (width : UInt16) (standard : VideoStandard)
    (mode : PointerMode) (presence : Presence) (state : InputState)
    (reached : Reached keymap (initial mode (.ofScreen width standard)) state) :
    let bounds := ScreenBounds.ofScreen width standard
    let pointer := state.pointer
    let frame := Frame.ofState state presence
    (pointer.mode = mode ∧ pointer.bounds = bounds) ∧
      (mode = .absolute →
        (0 ≤ pointer.x ∧ pointer.x ≤ bounds.maxX ∧ bounds.maxX ≤ 255) ∧
          (0 ≤ pointer.y ∧ pointer.y ≤ bounds.maxY ∧ bounds.maxY ≤ 239) ∧
          ((frame.x.toNat : Int) = pointer.x ∧ (frame.y.toNat : Int) = pointer.y) ∧
          ∀ settings : Settings, settings.validate = .ok () → settings.bounds = bounds →
            frame.x.toNat < settings.width.toNat ∧
              frame.y.toNat < settings.standard.height.toNat) ∧
      (mode = .relative →
        (-128 ≤ pointer.x ∧ pointer.x ≤ 127) ∧ (-128 ≤ pointer.y ∧ pointer.y ≤ 127) ∧
          frame.x.toInt8.toInt = pointer.x ∧ frame.y.toInt8.toInt = pointer.y) ∧
      (-8 ≤ pointer.wheel ∧ pointer.wheel ≤ 7) ∧
      ∀ key, state.pendingKey = some key → key.scancode ≤ 0x7F := by
  intro bounds pointer frame
  have columns := bounds.max_x_range
  have lines := ScreenBounds.max_y_range width standard
  have inRange := reached_in_range keymap (Keymap.parse_leaves text keymap parsed) mode bounds
    lines.1 state reached
  refine ⟨⟨inRange.sameMode, inRange.sameBounds⟩, ?_, ?_, inRange.wheel, inRange.scancode⟩
  · rintro rfl
    have x : 0 ≤ pointer.x ∧ pointer.x ≤ bounds.maxX := inRange.x
    have y : 0 ≤ pointer.y ∧ pointer.y ≤ bounds.maxY := inRange.y
    have third : (frame.x.toNat : Int) = pointer.x :=
      byte_of_position pointer.x x.1 (Int.le_trans x.2 columns.2)
    have fourth : (frame.y.toNat : Int) = pointer.y :=
      byte_of_position pointer.y y.1 (Int.le_trans y.2 (Int.le_trans lines.2 (by decide)))
    refine ⟨⟨x.1, x.2, columns.2⟩, ⟨y.1, y.2, lines.2⟩, ⟨third, fourth⟩, ?_⟩
    intro settings valid configured
    obtain ⟨lastColumn, lastLine⟩ := settings.valid_bounds valid
    rw [configured] at lastColumn lastLine
    constructor
    · have right : (frame.x.toNat : Int) ≤ settings.width.toNat - 1 := by
        rw [third, ← lastColumn]
        exact x.2
      omega
    · have low : (frame.y.toNat : Int) ≤ settings.standard.height.toNat - 1 := by
        rw [fourth, ← lastLine]
        exact y.2
      omega
  · rintro rfl
    have x : -128 ≤ pointer.x ∧ pointer.x ≤ 127 := inRange.x
    have y : -128 ≤ pointer.y ∧ pointer.y ≤ 127 := inRange.y
    exact ⟨x, y, byte_of_distance pointer.x x.1 x.2, byte_of_distance pointer.y y.1 y.2⟩

/-- A long jump to the right and upwards, a turn of the wheel and a key. The pointer stays on
the default screen, and the frame says where. -/
theorem long_jump_on_the_wire :
    let keymap : Keymap := { entries := [(30, 0x1C)] }
    let jump := Intake.ofEvents keymap (initial .absolute (.ofScreen 256 .ntsc))
      [.relative Axis.x 2147483647, .relative Axis.y (-5), .relative Axis.wheel 100, .key 30 1]
    Keymap.parse "KEY_A 0x1C" = .ok keymap ∧
      Reached keymap (initial .absolute (.ofScreen 256 .ntsc)) jump.state ∧
      ((Frame.ofState jump.state {}).x.toNat : Int) = jump.state.pointer.x ∧
      (Frame.ofState jump.state {}).x.toNat < 256 ∧
      (Frame.ofState jump.state {}).y.toNat < 224 := by
  intro keymap jump
  have parsed : Keymap.parse "KEY_A 0x1C" = .ok keymap := rfl
  have reached : Reached keymap (initial .absolute (.ofScreen 256 .ntsc)) jump.state :=
    .batch (initial .absolute (.ofScreen 256 .ntsc)) _ .start
  obtain ⟨_, absolute, _⟩ :=
    nothing_lost_on_the_wire "KEY_A 0x1C" keymap parsed 256 .ntsc .absolute {} jump.state reached
  obtain ⟨_, _, ⟨third, _⟩, screen⟩ := absolute rfl
  obtain ⟨column, line⟩ := screen {} rfl rfl
  exact ⟨parsed, reached, third, column, line⟩

end InputState

end InputBridge
