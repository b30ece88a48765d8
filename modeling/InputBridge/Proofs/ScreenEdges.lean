import InputBridge.Proofs.WireRange
/-!
# The edges of a screen given outright

Bounds may be given outright, with any width and any height. The rightmost column is cut to what
a byte covers, so a position to the right goes out as it is on every screen. The lowest line is
not: it is as far down as the height says, and on a screen of more than 256 lines there are
positions that a byte does not cover. Such a position goes out as its remainder.

Neither edge lies before the origin, however small the bounds are, so a position can always be
cut to the screen. The bounds and the mode stay what they were, and every move ends between the
edges wherever it started; the rest is arithmetic about single positions.
-/
namespace InputBridge

namespace ScreenBounds

/-- The lowest position, as a calculation with numbers of any size. -/
theorem max_y_outright (bounds : ScreenBounds) :
    bounds.maxY = max 1 bounds.height.toNat - 1 := by
  have one : (1 : UInt16).toNat = 1 := rfl
  rw [maxY, to_nat_max, one]

/-- The lowest line of a screen is never before the first, and is beyond the last one that a
byte covers exactly if the screen has more than 256 lines. -/
theorem max_y_edges (bounds : ScreenBounds) :
    (0 ≤ bounds.maxY ∧ bounds.maxY ≤ 65534) ∧
      (bounds.maxY ≤ 255 ↔ bounds.height.toNat ≤ 256) := by
  have small : bounds.height.toNat < 2 ^ 16 := bounds.height.toNat_lt
  rw [max_y_outright]
  omega

end ScreenBounds

/-- A position goes out as its remainder. -/
theorem byte_of_any_position (position : Int) :
    ((UInt8.ofInt position).toNat : Int) = position % 256 := by
  rw [UInt8.ofInt, UInt8.toNat_ofNat']
  omega

namespace InputState

/-- The pointer reports positions on a screen and is on that screen. -/
structure OnScreen (bounds : ScreenBounds) (state : InputState) : Prop where
  absolute : state.pointer.mode = .absolute
  sameBounds : state.pointer.bounds = bounds
  x : 0 ≤ state.pointer.x ∧ state.pointer.x ≤ bounds.maxX
  y : 0 ≤ state.pointer.y ∧ state.pointer.y ≤ bounds.maxY

/-- An event leaves the pointer on the screen: it is no move, or one along one axis. -/
theorem apply_on_screen (keymap : Keymap) (bounds : ScreenBounds) (state next : InputState)
    (event : InputEvent) (onScreen : OnScreen bounds state)
    (applied : state.apply keymap event = .ok next) : OnScreen bounds next := by
  obtain ⟨mode, same, x, y⟩ := onScreen
  have across := Pointer.moved_fits .absolute bounds.maxX state.pointer.x
  have down := Pointer.moved_fits .absolute bounds.maxY state.pointer.y
  obtain ⟨buttons, rfl⟩ | ⟨combo, pendingKey, rfl, -⟩ | ⟨distance, rfl | rfl | rfl⟩ :=
    apply_cases keymap state next event applied
  · exact ⟨mode, same, x, y⟩
  · exact ⟨mode, same, x, y⟩
  · refine ⟨mode, same, ?_, y⟩
    simp only [Pointer.moveX, mode, same]
    exact across distance bounds.max_x_range.1
  · refine ⟨mode, same, x, ?_⟩
    simp only [Pointer.moveY, mode, same]
    exact down distance bounds.max_y_edges.1.1
  · exact ⟨mode, same, x, y⟩

/-- The pointer starts at the origin, which is on every screen, and no run of events takes it
off. -/
theorem of_events_on_screen (keymap : Keymap) (bounds : ScreenBounds) (events : List InputEvent) :
    OnScreen bounds (Intake.ofEvents keymap (initial .absolute bounds) events).state := by
  have start : OnScreen bounds (initial .absolute bounds) :=
    ⟨rfl, rfl, ⟨Int.le_refl 0, bounds.max_x_range.1⟩, ⟨Int.le_refl 0, bounds.max_y_edges.1.1⟩⟩
  rw [Intake.of_events_state]
  exact absorb_all_keeps keymap (OnScreen bounds)
    (fun before event next => apply_on_screen keymap bounds before next event) _ events start

/-- For every screen, whatever its bounds:

* its edges are not before the origin, and no column is beyond what a byte covers;
* from the start on, and after any run of events, the pointer is on the screen;
* the third byte of the frame is the column;
* the fourth byte is the remainder of the line, which is the line itself as long as a byte covers
  it;
* a byte covers every line that can be reached exactly if the screen has 256 lines at most. -/
theorem screen_edges_exact (bounds : ScreenBounds) (keymap : Keymap) (presence : Presence) :
    let reached := fun events => (Intake.ofEvents keymap (initial .absolute bounds) events).state
    let frame := fun events => Frame.ofState (reached events) presence
    ((0 ≤ bounds.maxX ∧ bounds.maxX ≤ 255) ∧ 0 ≤ bounds.maxY ∧ bounds.maxY ≤ 65534) ∧
      (∀ events,
        OnScreen bounds (reached events) ∧
          ((frame events).x.toNat : Int) = (reached events).pointer.x ∧
          ((frame events).y.toNat : Int) = (reached events).pointer.y % 256 ∧
          (((frame events).y.toNat : Int) = (reached events).pointer.y ↔
            (reached events).pointer.y ≤ 255)) ∧
      ((∀ events, ((frame events).y.toNat : Int) = (reached events).pointer.y) ↔
        bounds.height.toNat ≤ 256) := by
  intro reached frame
  have columns := bounds.max_x_range
  obtain ⟨lines, covered⟩ := bounds.max_y_edges
  have onScreen := of_events_on_screen keymap bounds
  have third (events : List InputEvent) :
      ((frame events).x.toNat : Int) = (reached events).pointer.x :=
    byte_of_position _ (onScreen events).x.1 (Int.le_trans (onScreen events).x.2 columns.2)
  have fourth (events : List InputEvent) :
      ((frame events).y.toNat : Int) = (reached events).pointer.y % 256 :=
    byte_of_any_position _
  have whole (events : List InputEvent) :
      ((frame events).y.toNat : Int) = (reached events).pointer.y ↔
        (reached events).pointer.y ≤ 255 := by
    have y : 0 ≤ (reached events).pointer.y := (onScreen events).y.1
    rw [fourth]
    omega
  refine ⟨⟨columns, lines⟩,
    fun events => ⟨onScreen events, third events, fourth events, whole events⟩, ?_⟩
  rw [← covered]
  constructor
  · intro kept
    -- A move by 256 lines gets to the first line that a byte does not cover, or to the lowest.
    have far : (reached [.relative Axis.y 256]).pointer.y = clamp 0 bounds.maxY (saturate 256) :=
      rfl
    have within := (whole _).mp (kept [.relative Axis.y 256])
    rw [far] at within
    simp only [saturate, clamp] at within
    omega
  · exact fun small events => (whole events).mpr (Int.le_trans (onScreen events).y.2 small)

/-- On a screen of a thousand lines the pointer moves down to line 300, and the frame says line
44. -/
theorem lines_beyond_a_byte :
    let bounds : ScreenBounds := { width := 256, height := 1000 }
    let moved := (Intake.ofEvents {} (initial .absolute bounds) [.relative Axis.y 300]).state
    (0 ≤ moved.pointer.y ∧ moved.pointer.y ≤ bounds.maxY) ∧ moved.pointer.y = 300 ∧
      (Frame.ofState moved {}).y = 44 ∧
      ¬ ((Frame.ofState moved {}).y.toNat : Int) = moved.pointer.y := by
  decide

end InputState

end InputBridge
