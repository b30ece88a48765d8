import InputBridge.Frame.Encoding
import InputBridge.Proofs.BatchMeaning
/-!
# The key byte

The first byte of a frame has seven bits for a scancode and one that tells a release from a
press. A scancode of a keymap leaves that bit clear, so whoever gets the byte of a key has
the key back from it.

The byte of no key is zero. It is not the only one: the press of a key whose scancode is
zero has the same byte, and a keymap may hold that scancode. A batch whose last key report
is such a press is sent with the byte of a batch without any.
-/
namespace InputBridge

/-- Whether a bit of a byte is set, by its weight. -/
def Frame.hasBit (byte weight : UInt8) : Bool :=
  byte &&& weight != 0

namespace Frame

/-- A mask may be applied to bytes before or after they are put together. -/
theorem and_or_distrib (one other mask : UInt8) :
    (one ||| other) &&& mask = (one &&& mask) ||| (other &&& mask) :=
  UInt8.toBitVec_inj.mp BitVec.and_or_distrib_right

/-- A bit is set in bytes put together if it is set in one of them. -/
theorem has_bit_or (one other weight : UInt8) :
    hasBit (one ||| other) weight = (hasBit one weight || hasBit other weight) := by
  rw [Bool.eq_iff_iff, Bool.or_eq_true]
  simp only [hasBit, bne_iff_ne, ne_eq, and_or_distrib, UInt8.or_eq_zero_iff,
    Decidable.not_and_iff_not_or_not]

end Frame

namespace PendingKey

/-- The key that a byte stands for if it stands for one. -/
def ofWireByte (byte : UInt8) : PendingKey :=
  { scancode := byte &&& maxScancode, released := Frame.hasBit byte 0x80 }

/-- A scancode of a keymap is nothing but its lower seven bits. -/
theorem scancode_bits (scancode : UInt8) (bounded : scancode ≤ maxScancode) :
    scancode &&& maxScancode = scancode := by
  have low : maxScancode.toNat = 2 ^ 7 - 1 := rfl
  have small : scancode.toNat < 2 ^ 7 := Nat.lt_succ_of_le (UInt8.le_iff_toNat_le.mp bounded)
  apply UInt8.toNat.inj
  rw [UInt8.toNat_and, low, Nat.and_two_pow_sub_one_eq_mod, Nat.mod_eq_of_lt small]

/-- A key is what its byte stands for. -/
theorem of_wire_byte_exact (key : PendingKey) (bounded : key.scancode ≤ maxScancode) :
    ofWireByte key.wireByte = key := by
  obtain ⟨scancode, released⟩ := key
  have bits := scancode_bits scancode bounded
  have clear : Frame.hasBit scancode 0x80 = false := by
    rw [← bits, Frame.hasBit, UInt8.and_assoc]
    exact bne_eq_false_iff_eq.mpr UInt8.and_zero
  cases released with
  | false => simp only [ofWireByte, wireByte, Bool.false_eq_true, if_false, bits, clear]
  | true =>
    have scancodeBits : (scancode ||| 0x80) &&& maxScancode = scancode := by
      rw [Frame.and_or_distrib, bits]
      exact UInt8.or_zero
    have releaseBit : Frame.hasBit (scancode ||| 0x80) 0x80 = true := by
      rw [Frame.has_bit_or, clear]
      rfl
    simp only [ofWireByte, wireByte, if_true, scancodeBits, releaseBit]

/-- One key has the byte zero: the press of the scancode zero. -/
theorem wire_byte_eq_zero_iff (key : PendingKey) :
    key.wireByte = 0 ↔ key = { scancode := 0, released := false } := by
  obtain ⟨scancode, released⟩ := key
  cases released with
  | false => simp [wireByte]
  | true => simp [wireByte]

end PendingKey

/-- The byte for the pending key, zero if there is none. -/
def InputState.keyByte (state : InputState) : UInt8 :=
  (state.pendingKey.map PendingKey.wireByte).getD 0

namespace InputState

/-- The key byte is zero without a key, and for the press of the scancode zero. -/
theorem key_byte_eq_zero_iff (state : InputState) :
    state.keyByte = 0 ↔
      state.pendingKey = none ∨
        state.pendingKey = some { scancode := 0, released := false } := by
  cases pending : state.pendingKey with
  | none => simp [keyByte, pending]
  | some key => simp [keyByte, pending, PendingKey.wire_byte_eq_zero_iff]

/-- States with the same key byte have the same key pending, except that no key and the
press of the scancode zero cannot be told apart. -/
theorem key_byte_eq_iff (one other : InputState)
    (oneBounded : ∀ key, one.pendingKey = some key → key.scancode ≤ maxScancode)
    (otherBounded : ∀ key, other.pendingKey = some key → key.scancode ≤ maxScancode) :
    one.keyByte = other.keyByte ↔
      one.pendingKey = other.pendingKey ∨
        (one.pendingKey = none ∧
          other.pendingKey = some { scancode := 0, released := false }) ∨
        (one.pendingKey = some { scancode := 0, released := false } ∧
          other.pendingKey = none) := by
  cases here : one.pendingKey with
  | none =>
    have silent : one.keyByte = 0 := (key_byte_eq_zero_iff one).mpr (.inl here)
    rw [silent, eq_comm, key_byte_eq_zero_iff]
    simp [eq_comm]
  | some key =>
    cases there : other.pendingKey with
    | none =>
      have silent : other.keyByte = 0 := (key_byte_eq_zero_iff other).mpr (.inl there)
      rw [silent, key_byte_eq_zero_iff]
      simp [here]
    | some otherKey =>
      have bytes : one.keyByte = key.wireByte ∧ other.keyByte = otherKey.wireByte := by
        simp [keyByte, here, there]
      rw [bytes.1, bytes.2]
      constructor
      · intro same
        have read := congrArg PendingKey.ofWireByte same
        rw [PendingKey.of_wire_byte_exact key (oneBounded key here),
          PendingKey.of_wire_byte_exact otherKey (otherBounded otherKey there)] at read
        exact .inl (congrArg some read)
      · rintro (same | ⟨missing, _⟩ | ⟨_, missing⟩)
        · rw [Option.some.inj same]
        · cases missing
        · cases missing

end InputState

namespace InputEvent

/-- The event is one of a key that the keymap maps and that is no mouse button. -/
def isMappedKey (keymap : Keymap) : InputEvent → Bool
  | .key code _ =>
    !([Button.left, Button.middle, Button.right].contains code) && (keymap.lookup code).isSome
  | .relative .. | .other .. => false

/-- These are the events that make a key report. -/
theorem report_in_is_some (keymap : Keymap) (event : InputEvent) :
    (event.reportIn keymap).isSome = event.isMappedKey keymap := by
  cases event with
  | relative axis value => rfl
  | other kind code value => rfl
  | key code value =>
    simp only [reportIn, isMappedKey]
    cases [Button.left, Button.middle, Button.right].contains code <;>
      cases keymap.lookup code <;> rfl

/-- No other event makes a key report. -/
theorem report_in_eq_none_iff (keymap : Keymap) (event : InputEvent) :
    event.reportIn keymap = none ↔ event.isMappedKey keymap = false := by
  rw [← report_in_is_some, Option.isSome_eq_false_iff, Option.isNone_iff_eq_none]

/-- An event that reports the press of a scancode is a press or a repetition of a key that
the keymap gives this scancode. -/
theorem report_in_press_iff (keymap : Keymap) (event : InputEvent) (scancode : UInt8) :
    event.reportIn keymap = some { scancode, released := false } ↔
      ∃ code value, event = .key code value ∧ value ≠ 0 ∧ event.isMappedKey keymap = true ∧
        keymap.lookup code = some scancode := by
  cases event with
  | relative axis value => simp [reportIn]
  | other kind code value => simp [reportIn]
  | key code value =>
    -- Only one code and one value are those of the event.
    have own (property : UInt16 → Int → Prop) :
        (∃ known given, InputEvent.key code value = .key known given ∧ property known given) ↔
          property code value := by
      constructor
      · rintro ⟨known, given, same, holds⟩
        cases same
        exact holds
      · intro holds
        exact ⟨code, value, rfl, holds⟩
    rw [own]
    cases button : [Button.left, Button.middle, Button.right].contains code <;>
      cases mapped : keymap.lookup code <;>
      simp only [reportIn, isMappedKey, button, mapped] <;> simp [and_comm]

end InputEvent

/-- What is told last is told by an item behind which nothing more is told. -/
theorem last_told_iff {α β : Type} (tells : α → Option β) (items : List α) (told : β) :
    (items.filterMap tells).getLast? = some told ↔
      ∃ earlier item later, items = earlier ++ item :: later ∧ tells item = some told ∧
        ∀ other ∈ later, tells other = none := by
  rw [List.getLast?_filterMap, List.findSome?_eq_some_iff]
  constructor
  · rintro ⟨later, item, earlier, order, tellsIt, rest⟩
    refine ⟨earlier.reverse, item, later.reverse, ?_, tellsIt, fun other present =>
      rest other (List.mem_reverse.mp present)⟩
    rw [← List.reverse_reverse items, order]
    simp
  · rintro ⟨earlier, item, later, rfl, tellsIt, rest⟩
    exact ⟨later.reverse, item, earlier.reverse, by simp, tellsIt, fun other present =>
      rest other (List.mem_reverse.mp present)⟩

namespace Intake

/-- The key byte after a batch that was taken in with no key pending is zero in two cases: the
batch holds no event of a mapped key, or the last such event presses a key, or repeats one,
whose scancode is zero. For a keymap without that scancode the key byte is zero exactly if the
batch holds no event of a mapped key. -/
theorem key_byte_silent_iff (keymap : Keymap) (state : InputState)
    (nothing : state.pendingKey = none) (events : List InputEvent) (presence : Presence) :
    let frame := Frame.ofState (ofEvents keymap state events).state presence
    let silent := fun events : List InputEvent =>
      ∀ event ∈ events, event.isMappedKey keymap = false
    (frame.key = 0 ↔
        silent events ∨
          ∃ earlier code value later, events = earlier ++ .key code value :: later ∧
            (value ≠ 0 ∧ (InputEvent.key code value).isMappedKey keymap = true ∧
              keymap.lookup code = some 0) ∧
            silent later) ∧
      ((∀ code, keymap.lookup code ≠ some 0) → (frame.key = 0 ↔ silent events)) := by
  intro frame silent
  have unreported (events : List InputEvent) :
      silent events ↔ ∀ event ∈ events, event.reportIn keymap = none :=
    forall₂_congr fun event _ => (InputEvent.report_in_eq_none_iff keymap event).symm
  have pending : (ofEvents keymap state events).state.pendingKey =
      (events.filterMap (InputEvent.reportIn keymap)).getLast? := by
    rw [of_events_state, InputState.absorb_all_pending, nothing, Option.or_none]
  have zero : frame.key = 0 ↔
      silent events ∨
        ∃ earlier code value later, events = earlier ++ .key code value :: later ∧
          (value ≠ 0 ∧ (InputEvent.key code value).isMappedKey keymap = true ∧
            keymap.lookup code = some 0) ∧
          silent later := by
    have byte : frame.key = (ofEvents keymap state events).state.keyByte := rfl
    rw [byte, InputState.key_byte_eq_zero_iff, pending, List.getLast?_eq_none_iff,
      List.filterMap_eq_nil_iff, last_told_iff, unreported]
    refine or_congr_right ⟨?_, ?_⟩
    · rintro ⟨earlier, event, later, order, pressed, rest⟩
      obtain ⟨code, value, rfl, down⟩ :=
        (InputEvent.report_in_press_iff keymap event 0).mp pressed
      exact ⟨earlier, code, value, later, order, down, (unreported later).mpr rest⟩
    · rintro ⟨earlier, code, value, later, order, down, rest⟩
      have pressed := (InputEvent.report_in_press_iff keymap _ 0).mpr ⟨code, value, rfl, down⟩
      exact ⟨earlier, _, later, order, pressed, (unreported later).mp rest⟩
  refine ⟨zero, fun unused => ?_⟩
  rw [zero, or_iff_left]
  rintro ⟨_, code, _, _, _, ⟨_, _, found⟩, _⟩
  exact unused code found

/-- The key of the scancode zero is pressed and another key is let go of, or the other way
round. Only in the second order is the key byte zero. -/
theorem last_key_decides :
    let keymap : Keymap := { entries := [(31, 0), (30, 0x1C)] }
    let start : InputState := .initial .absolute .standard
    let key := fun events => (Frame.ofState (ofEvents keymap start events).state {}).key
    start.pendingKey = none ∧
      key [.key 31 1, .key 30 0] ≠ 0 ∧ key [.key 30 0, .key 31 1, .relative Axis.x 4] = 0 := by
  intro keymap start key
  have nothing : start.pendingKey = none := rfl
  have silentIff (events : List InputEvent) :=
    (key_byte_silent_iff keymap start nothing events {}).1
  refine ⟨nothing, ?_, ?_⟩
  · decide
  · refine (silentIff _).mpr (.inr ⟨[.key 30 0], 31, 1, [.relative Axis.x 4], rfl, ?_, ?_⟩)
    · decide
    · decide

/-- A keymap may give a key the scancode zero. The frame of its press has the key byte of a
frame without a key, although the batch is an update by a key. -/
theorem zero_scancode_unseen :
    let keymap : Keymap := { entries := [(30, 0)] }
    let start : InputState := .initial .absolute .standard
    let events : List InputEvent := [.key 30 1]
    let taken := ofEvents keymap start events
    Keymap.parse "KEY_A 00" = .ok keymap ∧ start.pendingKey = none ∧ taken.updated = true ∧
      ¬ ((Frame.ofState taken.state {}).key = 0 ↔
        ∀ event ∈ events, event.isMappedKey keymap = false) := by
  intro keymap start events taken
  refine ⟨rfl, rfl, rfl, ?_⟩
  decide

end Intake

end InputBridge
