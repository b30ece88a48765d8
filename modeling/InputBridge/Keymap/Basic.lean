import InputBridge.Key.Name
/-!
# Keymaps

A keymap gives keys the scancode that the adapter expects. The highest bit of a
scancode's byte is reserved, since the wire uses it to tell a release from a
press; that leaves scancodes up to one hundred and twenty-seven.

A keymap is a list of entries with at most one entry for a key. Setting a key
again replaces its entry, which `set` does by dropping the older one.
-/
namespace InputBridge

/-- The highest scancode; the bit above it marks a release on the wire. -/
def maxScancode : UInt8 := 0x7F

/-- Scancodes of keys, by key code. -/
structure Keymap where
  /-- The entries, the latest first, one for each mapped key. -/
  entries : List (UInt16 × UInt8) := []
deriving DecidableEq, Repr

namespace Keymap

/-- The keymap in which no key has a scancode. -/
def empty : Keymap := {}

/-- The scancode of a key, if it is mapped. -/
def lookup (keymap : Keymap) (code : UInt16) : Option UInt8 :=
  (keymap.entries.find? fun (known, _) => known == code).map Prod.snd

/-- The scancode of a key given by any of its names. -/
def lookupName (keymap : Keymap) (name : String) : Option UInt8 :=
  (Key.codeOf name).bind keymap.lookup

/-- The keymap with a key's scancode set, whether it had one or not. -/
def set (keymap : Keymap) (code : UInt16) (scancode : UInt8) : Keymap :=
  { entries := (code, scancode) :: keymap.entries.filter fun (known, _) => known != code }

/-- In the empty keymap nothing is found. -/
theorem lookup_empty (code : UInt16) : empty.lookup code = none := rfl

/-- Setting a key is seen at that key and nowhere else. -/
theorem lookup_set (keymap : Keymap) (changed asked : UInt16) (scancode : UInt8) :
    (keymap.set changed scancode).lookup asked =
      if asked = changed then some scancode else keymap.lookup asked := by
  by_cases same : asked = changed
  · simp [lookup, set, same]
  · have other : changed ≠ asked := fun equal => same equal.symm
    have kept : (fun entry : UInt16 × UInt8 =>
        !decide (entry.1 = changed) && decide (entry.1 = asked)) =
        fun entry => entry.1 == asked := by
      funext entry
      by_cases found : entry.1 = asked
      · simp [found, same]
      · simp [found]
    simp [lookup, set, same, other, List.find?_filter, kept]

/-- How many keys are mapped. -/
def size (keymap : Keymap) : Nat := keymap.entries.length

end Keymap

end InputBridge
