import InputBridge.Keymap.Parser
/-!
# The scancodes of a keymap file

A keymap that was read from a file never holds a scancode with the release bit set. The
limit is applied where a scancode is read, before the number becomes a byte, and it is
carried from line to line by the keymap read so far.
-/
namespace InputBridge

namespace Text

/-- A number that was read is within the limit it was read under. -/
theorem read_unsigned_le (base limit number : Nat) (text : List Char)
    (parsed : readUnsigned base limit text = some number) : number ≤ limit := by
  have kept := Option.filter_eq_some_iff.mp parsed
  exact of_decide_eq_true kept.2

end Text

namespace Keymap

/-- No scancode of the keymap has the release bit set. -/
def LeavesReleaseBit (keymap : Keymap) : Prop :=
  ∀ code scancode, keymap.lookup code = some scancode → scancode ≤ maxScancode

/-- A scancode that is read leaves the release bit clear. -/
theorem parse_scancode_le (text : List Char) (scancode : UInt8)
    (parsed : parseScancode text = some scancode) : scancode ≤ maxScancode := by
  simp only [parseScancode] at parsed
  split at parsed
  · cases parsed
  · obtain ⟨number, readNumber, rfl⟩ := Option.map_eq_some_iff.mp parsed
    have bounded := Text.read_unsigned_le 16 maxScancode.toNat number _ readNumber
    have small : maxScancode.toNat < 2 ^ 8 := by decide
    rw [UInt8.le_iff_toNat_le, UInt8.toNat_ofNat_of_lt' (Nat.lt_of_le_of_lt bounded small)]
    exact bounded

/-- The entry of a line has a scancode within the limit. -/
theorem parse_line_le (number : Nat) (raw : List Char) (name : String) (code : UInt16)
    (scancode : UInt8) (parsed : parseLine number raw = .ok (.entry name code scancode)) :
    scancode ≤ maxScancode := by
  simp only [parseLine] at parsed
  split at parsed
  · cases parsed
  · split at parsed
    · split at parsed
      · cases parsed
      · split at parsed
        · cases parsed
        · rename_i readScancode
          cases parsed
          exact parse_scancode_le _ scancode readScancode
    · cases parsed

/-- An entry within the limit keeps a keymap within it, whether or not it replaces
another. -/
theorem set_leaves (keymap : Keymap) (code : UInt16) (scancode : UInt8)
    (leaves : keymap.LeavesReleaseBit) (bounded : scancode ≤ maxScancode) :
    (keymap.set code scancode).LeavesReleaseBit := by
  intro asked found lookedUp
  rw [lookup_set] at lookedUp
  by_cases same : asked = code
  · rw [if_pos same] at lookedUp
    exact Option.some.inj lookedUp ▸ bounded
  · rw [if_neg same] at lookedUp
    exact leaves asked found lookedUp

/-- Reading lines keeps the keymap within the limit, also if a faulty line ends it. -/
theorem read_lines_leaves (lines : List (List Char)) (number : Nat) (reading : Reading)
    (leaves : reading.keymap.LeavesReleaseBit) :
    (readLines number reading lines).1.keymap.LeavesReleaseBit := by
  induction lines generalizing number reading with
  | nil => exact leaves
  | cons raw rest inductionHypothesis =>
    cases parsed : parseLine number raw with
    | error error =>
      simp only [readLines, parsed]
      exact leaves
    | ok line =>
      simp only [readLines, parsed]
      refine inductionHypothesis (number + 1) (reading.add number line) ?_
      cases line with
      | skipped => exact leaves
      | entry name code scancode =>
        exact set_leaves reading.keymap code scancode leaves
          (parse_line_le number raw name code scancode parsed)

/-- A keymap that a file describes leaves the release bit clear. -/
theorem parse_leaves (text : String) (keymap : Keymap) (parsed : parse text = .ok keymap) :
    keymap.LeavesReleaseBit := by
  have leaves := read_lines_leaves (Text.lines text.toList) 1 {} fun _ _ found => nomatch found
  simp only [parse] at parsed
  split at parsed
  · rename_i reading ends
    obtain rfl := Except.ok.inj parsed
    rw [read] at ends
    rw [ends] at leaves
    exact leaves
  · cases parsed

end Keymap

end InputBridge
