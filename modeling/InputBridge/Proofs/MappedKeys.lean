import InputBridge.Proofs.KeyByte
import InputBridge.Proofs.KeyTable
import InputBridge.Proofs.KeymapGrammar
import InputBridge.Proofs.KeymapScancodes
/-!
# The keys of a keymap file

What a keymap file maps is fit for what is done with it later. A line names a key by a name that
the table knows, so every mapped key has an own name and no mouse button is ever mapped. A key is
entered by its code, so whichever of its names a later line uses, the last line wins, and
afterwards all names of the key give the same scancode.

The parts of the program that rely on this do not check it. A key event is looked at as a mouse
button first, which would hide the scancode of a mapped button; and a release is a scancode with
the highest bit set, which would be the press of another key if scancodes could have that bit.
-/
namespace InputBridge

namespace PendingKey

/-- No press has the byte of a release, and a byte without its highest bit is the scancode. -/
theorem wire_byte_apart (pressed released : UInt8) (pressedBounded : pressed ≤ maxScancode)
    (releasedBounded : released ≤ maxScancode) :
    wireByte { scancode := pressed, released := false } ≠
      wireByte { scancode := released, released := true } := by
  intro same
  have read := congrArg ofWireByte same
  rw [of_wire_byte_exact _ pressedBounded, of_wire_byte_exact _ releasedBounded] at read
  exact Bool.false_ne_true (congrArg PendingKey.released read)

/-- Without its highest bit, the byte of a key is the scancode. -/
theorem wire_byte_cleared (key : PendingKey) (bounded : key.scancode ≤ maxScancode) :
    key.wireByte &&& maxScancode = key.scancode :=
  congrArg PendingKey.scancode (of_wire_byte_exact key bounded)

end PendingKey

/-- An event of a mapped key that is no mouse button makes the key the pending one and leaves the
buttons and the pointer alone. -/
theorem InputState.apply_mapped (keymap : Keymap) (state : InputState) (code : UInt16) (value : Int)
    (scancode : UInt8) (noButton : code ∉ [Button.left, Button.middle, Button.right])
    (mapped : keymap.lookup code = some scancode) :
    ∃ combo, state.apply keymap (.key code value) =
      .ok { state with combo, pendingKey := some { scancode, released := value == 0 } } := by
  have untracked : state.buttons.track code (value != 0) = none := by
    rw [← Option.isNone_iff_eq_none, ← Option.not_isSome, buttons_track_is_some]
    simpa using noButton
  simp only [apply, applyKey, untracked, mapped]
  cases tracked : state.combo.track code (value != 0) with
  | some combo => exact ⟨combo, by simp [bne]⟩
  | none => exact ⟨state.combo, by simp [bne]⟩

namespace Keymap

/-- A keymap that was read from a file is what the lines of the file describe. -/
theorem parse_describes (text : String) (keymap : Keymap) (parsed : parse text = .ok keymap) :
    Describes keymap (Text.lines text.toList) := by
  rcases parse_meets text with ⟨read, same, _, described⟩ | ⟨error, refused, _⟩
  · exact Except.ok.inj (same.symm.trans parsed) ▸ described
  · exact nomatch refused.symm.trans parsed

/-- A key that a file maps has a name of its own. -/
theorem mapped_named (text : String) (keymap : Keymap) (parsed : parse text = .ok keymap)
    (code : UInt16) (scancode : UInt8) (mapped : keymap.lookup code = some scancode) :
    ∃ own, Key.nameOf code = some own := by
  obtain ⟨_, _, _, _, _, form, _⟩ :=
    ((parse_describes text keymap parsed).found code scancode).mp mapped
  cases form with
  | entry _ _ _ known _ => exact Key.code_of_named _ code known

/-- The scancode found under a name is that of the key the name stands for. -/
theorem lookup_name_iff (keymap : Keymap) (name : String) (scancode : UInt8) :
    keymap.lookupName name = some scancode ↔
      ∃ code, (Key.nameOf code = some name ∨ (name, code) ∈ Key.aliases) ∧
        keymap.lookup code = some scancode := by
  rw [lookupName, Option.bind_eq_some_iff]
  simp only [Key.code_of_iff, Key.name_of_iff]

/-- A file that is accepted maps only keys that have a name of their own, so no mouse button, and
gives them scancodes without the release bit, which are those of the last entries for them; every
name of a key then finds the same scancode, and nothing is found under a name that is not one of a
mapped key. So an event of a mapped key always becomes the pending key, no press of a mapped key
has the byte of a release of one, and the byte without its highest bit is the scancode. -/
theorem mapped_keys_fit (text : String) (keymap : Keymap) (parsed : parse text = .ok keymap) :
    (∀ code scancode, keymap.lookup code = some scancode →
      scancode ≤ maxScancode ∧
      LastGives (Text.lines text.toList) code scancode ∧
      code ∉ [Button.left, Button.middle, Button.right] ∧
      (∃ own, Key.nameOf code = some own ∧ keymap.lookupName own = some scancode) ∧
      ∀ older, (older, code) ∈ Key.aliases → keymap.lookupName older = some scancode) ∧
    (∀ name scancode, keymap.lookupName name = some scancode ↔
      ∃ code, (Key.nameOf code = some name ∨ (name, code) ∈ Key.aliases) ∧
        keymap.lookup code = some scancode) ∧
    (∀ one other pressed released, keymap.lookup one = some pressed →
      keymap.lookup other = some released →
      PendingKey.wireByte { scancode := pressed, released := false } ≠
        PendingKey.wireByte { scancode := released, released := true }) ∧
    (∀ code scancode released, keymap.lookup code = some scancode →
      PendingKey.wireByte { scancode, released } &&& maxScancode = scancode) ∧
    ∀ (state : InputState) code value scancode, keymap.lookup code = some scancode →
      ∃ combo, state.apply keymap (.key code value) =
        .ok { state with combo, pendingKey := some { scancode, released := value == 0 } } := by
  have leaves := parse_leaves text keymap parsed
  have noButton (code : UInt16) (scancode : UInt8) (mapped : keymap.lookup code = some scancode) :
      code ∉ [Button.left, Button.middle, Button.right] := by
    obtain ⟨own, named⟩ := mapped_named text keymap parsed code scancode mapped
    exact Key.button_unnamed code own named
  refine ⟨?fit, lookup_name_iff keymap, ?apart, ?cleared, ?pending⟩
  case fit =>
    intro code scancode mapped
    obtain ⟨own, named⟩ := mapped_named text keymap parsed code scancode mapped
    refine ⟨leaves code scancode mapped, ?_, noButton code scancode mapped, ⟨own, named, ?_⟩, ?_⟩
    · exact ((parse_describes text keymap parsed).found code scancode).mp mapped
    · exact (lookup_name_iff keymap own scancode).mpr ⟨code, .inl named, mapped⟩
    · intro older spelled
      exact (lookup_name_iff keymap older scancode).mpr ⟨code, .inr spelled, mapped⟩
  case apart =>
    intro one other pressed released onePressed otherReleased
    exact PendingKey.wire_byte_apart pressed released (leaves one pressed onePressed)
      (leaves other released otherReleased)
  case cleared =>
    intro code scancode released mapped
    exact PendingKey.wire_byte_cleared { scancode, released } (leaves code scancode mapped)
  case pending =>
    intro state code value scancode mapped
    exact state.apply_mapped keymap code value scancode (noButton code scancode mapped) mapped

/-- A key that a file names twice, first by an older spelling, has the later scancode under both
names. -/
theorem coffee_by_both_names :
    ∃ keymap, parse "KEY_SCREENLOCK 1C\nKEY_COFFEE 5A\n" = .ok keymap ∧
      keymap.lookup 152 = some 0x5A ∧
      ∃ own, Key.nameOf 152 = some own ∧ keymap.lookupName own = some 0x5A ∧
        keymap.lookupName "KEY_SCREENLOCK" = some 0x5A := by
  have parsed : parse "KEY_SCREENLOCK 1C\nKEY_COFFEE 5A\n" = .ok { entries := [(152, 0x5A)] } := by
    decide +kernel
  obtain ⟨fit, _⟩ := mapped_keys_fit _ _ parsed
  obtain ⟨_, _, _, ⟨own, named, found⟩, older⟩ := fit 152 0x5A rfl
  exact ⟨_, parsed, rfl, own, named, found, older "KEY_SCREENLOCK" (by decide)⟩

end Keymap

end InputBridge
