import InputBridge.Settings.Basic
import InputBridge.Proofs.BatchSteps
import InputBridge.Proofs.KeymapScancodes
/-!
# The range of what is reported

Whatever the input devices send, what a frame takes from the state fits where it goes: an
absolute position stays on the screen, a distance is a signed byte, the wheel is a signed
half-byte, and a scancode leaves the release bit clear. The distances that devices send are
of any size; the position before a move, the sum of both and the bounds are what keep the
result small, so the range is shown move by move and then for every state that the bridge
can reach.
-/
namespace InputBridge

/-- Cutting a value to limits brings it between them. -/
theorem clamp_within (low high value : Int) (ordered : low ≤ high) :
    low ≤ clamp low high value ∧ clamp low high value ≤ high := by
  simp only [clamp]
  omega

namespace ScreenBounds

/-- The smaller of two numbers of sixteen bits is the smaller as a number of any size. -/
theorem to_nat_min (left right : UInt16) :
    (min left right).toNat = min left.toNat right.toNat := by
  have either : min left right = if left ≤ right then left else right := rfl
  simp only [either, UInt16.le_iff_toNat_le]
  split <;> omega

/-- So is the larger. -/
theorem to_nat_max (left right : UInt16) :
    (max left right).toNat = max left.toNat right.toNat := by
  have either : max left right = if left ≤ right then right else left := rfl
  simp only [either, UInt16.le_iff_toNat_le]
  split <;> omega

/-- The rightmost position, as a calculation with numbers of any size. -/
theorem max_x_exact (bounds : ScreenBounds) :
    bounds.maxX = max 1 (min bounds.width.toNat 256) - 1 := by
  have full : fullWidth.toNat = 256 := rfl
  have one : (1 : UInt16).toNat = 1 := rfl
  rw [maxX, to_nat_max, to_nat_min, full, one]

/-- Whatever the bounds, the rightmost position fits into a byte. -/
theorem max_x_range (bounds : ScreenBounds) : 0 ≤ bounds.maxX ∧ bounds.maxX ≤ 255 := by
  rw [max_x_exact]
  omega

/-- The lowest position is the last line of the picture. -/
theorem max_y_exact (width : UInt16) (standard : VideoStandard) :
    (ofScreen width standard).maxY = standard.height.toNat - 1 := by
  cases standard <;> rfl

/-- A picture has at least one line and at most 240. -/
theorem max_y_range (width : UInt16) (standard : VideoStandard) :
    0 ≤ (ofScreen width standard).maxY ∧ (ofScreen width standard).maxY ≤ 239 := by
  rw [max_y_exact]
  cases standard <;> decide

end ScreenBounds

namespace Pointer

/-- A coordinate is where it can be: on the screen in absolute mode, a signed byte in
relative mode. -/
def Fits (mode : PointerMode) (limit coordinate : Int) : Prop :=
  match mode with
  | .absolute => 0 ≤ coordinate ∧ coordinate ≤ limit
  | .relative => -128 ≤ coordinate ∧ coordinate ≤ 127

/-- The origin fits in either mode. -/
theorem origin_fits (mode : PointerMode) (limit : Int) (ordered : 0 ≤ limit) :
    Fits mode limit 0 := by
  cases mode with
  | absolute => exact ⟨Int.le_refl 0, ordered⟩
  | relative => exact ⟨by decide, by decide⟩

/-- A coordinate fits after any move, wherever it was before. -/
theorem moved_fits (mode : PointerMode) (limit position distance : Int) (ordered : 0 ≤ limit) :
    Fits mode limit (moved mode limit position distance) := by
  cases mode with
  | absolute => exact clamp_within 0 limit (saturate (position + distance)) ordered
  | relative => exact clamp_within (-128) 127 distance (by decide)

end Pointer

namespace InputState

/-- What a frame takes from the state fits where it goes, in a mode and on a screen that
are the ones the bridge was started with. -/
structure InRange (mode : PointerMode) (bounds : ScreenBounds) (state : InputState) : Prop where
  sameMode : state.pointer.mode = mode
  sameBounds : state.pointer.bounds = bounds
  x : Pointer.Fits mode bounds.maxX state.pointer.x
  y : Pointer.Fits mode bounds.maxY state.pointer.y
  wheel : wheelMin ≤ state.pointer.wheel ∧ state.pointer.wheel ≤ wheelMax
  scancode : ∀ key, state.pendingKey = some key → key.scancode ≤ maxScancode

/-- The combination is nothing that a frame takes from the state. -/
theorem combo_in_range (mode : PointerMode) (bounds : ScreenBounds) (state : InputState)
    (combo : Combo) (inRange : InRange mode bounds state) :
    InRange mode bounds { state with combo } :=
  ⟨inRange.sameMode, inRange.sameBounds, inRange.x, inRange.y, inRange.wheel, inRange.scancode⟩

/-- Clearing what a batch reported puts coordinates at the origin or leaves them. -/
theorem finish_in_range (mode : PointerMode) (bounds : ScreenBounds) (state : InputState)
    (inRange : InRange mode bounds state) :
    InRange mode bounds state.finishBatch := by
  have still : wheelMin ≤ 0 ∧ 0 ≤ wheelMax := by decide
  obtain ⟨⟨_, _, _, kind, _⟩, _, _, _⟩ := state
  obtain ⟨rfl, rfl, x, y, _, _⟩ := inRange
  cases kind with
  | absolute => exact ⟨rfl, rfl, x, y, still, fun _ pending => nomatch pending⟩
  | relative =>
    have origin : Pointer.Fits .relative 0 0 := Pointer.origin_fits .relative 0 (Int.le_refl 0)
    exact ⟨rfl, rfl, origin, origin, still, fun _ pending => nomatch pending⟩

section Steps

variable (mode : PointerMode) (bounds : ScreenBounds) (lines : 0 ≤ bounds.maxY)

include lines

/-- Everything is in range at the start. -/
theorem initial_in_range : InRange mode bounds (initial mode bounds) where
  sameMode := rfl
  sameBounds := rfl
  x := Pointer.origin_fits mode bounds.maxX bounds.max_x_range.1
  y := Pointer.origin_fits mode bounds.maxY lines
  wheel := (by decide : wheelMin ≤ 0 ∧ 0 ≤ wheelMax)
  scancode _ pending := nomatch pending

/-- An accepted event keeps everything in range. Only moves touch the pointer, and only a
key of the keymap becomes pending. -/
theorem apply_in_range (keymap : Keymap) (leaves : keymap.LeavesReleaseBit)
    (state next : InputState) (event : InputEvent) (inRange : InRange mode bounds state)
    (applied : state.apply keymap event = .ok next) : InRange mode bounds next := by
  obtain ⟨sameMode, sameBounds, x, y, wheel, scancode⟩ := inRange
  obtain ⟨buttons, rfl⟩ | ⟨combo, pendingKey, rfl, _, pending⟩ | ⟨distance, moves⟩ :=
    apply_cases keymap state next event applied
  · exact ⟨sameMode, sameBounds, x, y, wheel, scancode⟩
  · refine ⟨sameMode, sameBounds, x, y, wheel, ?_⟩
    rintro key present
    obtain rfl | ⟨code, mapped, released, found, rfl⟩ := pending
    · exact scancode key present
    · obtain rfl := Option.some.inj present
      exact leaves code mapped found
  · obtain rfl | rfl | rfl := moves
    · refine ⟨sameMode, sameBounds, ?_, y, wheel, scancode⟩
      have fits := Pointer.moved_fits mode bounds.maxX state.pointer.x distance
        bounds.max_x_range.1
      rw [← sameMode, ← sameBounds] at fits ⊢
      exact fits
    · refine ⟨sameMode, sameBounds, x, ?_, wheel, scancode⟩
      have fits := Pointer.moved_fits mode bounds.maxY state.pointer.y distance lines
      rw [← sameMode, ← sameBounds] at fits ⊢
      exact fits
    · exact ⟨sameMode, sameBounds, x, y, clamp_within wheelMin wheelMax _ (by decide), scancode⟩

/-- Events keep everything in range, accepted or not. -/
theorem absorb_all_in_range (keymap : Keymap) (leaves : keymap.LeavesReleaseBit)
    (state : InputState) (events : List InputEvent) (inRange : InRange mode bounds state) :
    InRange mode bounds (state.absorbAll keymap events) :=
  absorb_all_keeps keymap (InRange mode bounds)
    (fun before event next => apply_in_range mode bounds lines keymap leaves before next event)
    state events inRange

end Steps

end InputState

end InputBridge
