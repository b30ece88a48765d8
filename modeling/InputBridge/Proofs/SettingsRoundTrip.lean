import InputBridge.Proofs.SettingPlaces
import InputBridge.Proofs.WrittenDocument
/-!
# Settings that are written come back

Settings are written as a document with a section for each group, and reading that document gives
the same settings again. This holds in every format that can be depended on, since no more is used
of one than that a document which was read tells what the sections said, in whatever order. The
sections can be written because their names are fixed and the numbers small, so what is left to see
is that the document holds for each setting what was written for it: a value that means the setting,
or nothing for a path that is not set.
-/
namespace InputBridge

open Toml (Value Section)

/-- The setting is a path that is not set. -/
def Setting.Unset : (setting : Setting) → setting.Domain → Prop
  | keymap, path | keyboard, path | mouse, path => path = none
  | _, _ => False

namespace Settings

/-- The value that is written for a setting. -/
def written? (settings : Settings) : Setting → Option Value
  | .bus => some (.integer settings.bus.toNat)
  | .standard => some (.string settings.standard.word)
  | .width => some (.integer settings.width.toNat)
  | .mode => some (.string settings.mode.word)
  | .keymap => settings.keymap.map .string
  | .keyboard => settings.keyboard.map .string
  | .mouse => settings.mouse.map .string
  | .level => some (.string settings.level)

/-- The names of the sections. -/
theorem section_names (settings : Settings) :
    settings.sections.map Section.name =
      ["bus", "display", "pointer", "keymap", "devices", "logging"] := rfl

/-- The sections of the settings can be written. -/
theorem sections_writable (settings : Settings) : Toml.Writable settings.sections := by
  have names : ∀ name ∈ ["bus", "display", "pointer", "keymap", "devices", "logging"],
      Toml.BareKey name := by decide
  have keys : ∀ name ∈ ["bus", "standard", "width", "mode", "path", "keyboard", "mouse", "level"],
      Toml.BareKey name := by decide
  have bus : settings.bus.toNat ≤ 9223372036854775807 :=
    Nat.le_trans (Nat.le_of_lt settings.bus.toNat_lt) (by decide)
  have width : settings.width.toNat ≤ 9223372036854775807 :=
    Nat.le_trans (Nat.le_of_lt settings.width.toNat_lt) (by decide)
  refine ⟨fun part listed => ?_, by rw [section_names]; decide⟩
  have name : Toml.BareKey part.name :=
    names part.name (section_names settings ▸ List.mem_map_of_mem listed)
  suffices (∀ entry ∈ part.entries, Toml.BareKey entry.1 ∧ entry.2.Fits) ∧
      (part.entries.map Prod.fst).Nodup from ⟨name, this.1, this.2⟩
  simp only [List.forall_mem_cons] at keys
  rcases settings with ⟨_, _, _, _, keymap, keyboard, mouse, _⟩
  simp only [sections, List.mem_cons, List.not_mem_nil, or_false] at listed
  rcases listed with rfl | rfl | rfl | rfl | rfl | rfl
  · simpa [keys, Toml.Scalar.Fits] using bus
  · simpa [keys, Toml.Scalar.Fits] using width
  · simp [keys, Toml.Scalar.Fits]
  · cases keymap <;> simp [pathEntry, keys, Toml.Scalar.Fits]
  · cases keyboard <;> cases mouse <;> simp [pathEntry, keys, Toml.Scalar.Fits]
  · simp [keys, Toml.Scalar.Fits]

/-- The section of its group says for each setting what is written for it. -/
theorem section_of (settings : Settings) (setting : Setting) :
    ∃ part ∈ settings.sections, part.name = setting.group ∧
      (Toml.lookup setting.key part.entries).map Toml.Scalar.toValue =
        settings.written? setting := by
  have inPlace (place : Nat) (part : Section) (found : settings.sections[place]? = some part)
      (name : part.name = setting.group)
      (held : (Toml.lookup setting.key part.entries).map Toml.Scalar.toValue =
        settings.written? setting) :
      ∃ part ∈ settings.sections, part.name = setting.group ∧
        (Toml.lookup setting.key part.entries).map Toml.Scalar.toValue =
          settings.written? setting :=
    ⟨part, List.mem_of_getElem? found, name, held⟩
  rcases settings with ⟨_, _, _, _, keymap, keyboard, mouse, _⟩
  cases setting with
  | bus => exact inPlace 0 _ rfl rfl rfl
  | standard | width => exact inPlace 1 _ rfl rfl rfl
  | mode => exact inPlace 2 _ rfl rfl rfl
  | keymap => exact inPlace 3 _ rfl rfl (by cases keymap <;> rfl)
  | keyboard | mouse => exact inPlace 4 _ rfl rfl (by cases keyboard <;> cases mouse <;> rfl)
  | level => exact inPlace 5 _ rfl rfl rfl

/-- A document that tells what the sections say has a table for the group of each setting, and
holds for the setting what is written for it. -/
theorem held_told (settings : Settings) (document : List (String × Value))
    (told : Toml.Tells document settings.sections) (setting : Setting) :
    (∃ entries, Toml.lookup setting.group document = some (.table entries)) ∧
      setting.held? document = settings.written? setting := by
  obtain ⟨part, listed, name, held⟩ := section_of settings setting
  obtain ⟨entries, found, values⟩ := told part listed
  rw [name] at found
  refine ⟨⟨entries, found⟩, ?_⟩
  rw [← held, ← values, Setting.held?, found]
  rfl

/-- What is written for a setting means the setting, and a setting that nothing is written for is
what it is from the start. -/
theorem settled_written (settings : Settings) (setting : Setting) :
    setting.SettledAs (settings.written? setting) (settings.get setting) := by
  rcases settings with ⟨_, _, _, _, keymap, keyboard, mouse, _⟩
  cases setting with
  | keymap =>
    cases keymap with
    | none => rfl
    | some text => exact ⟨text, rfl, rfl⟩
  | keyboard =>
    cases keyboard with
    | none => rfl
    | some text => exact ⟨text, rfl, rfl⟩
  | mouse =>
    cases mouse with
    | none => rfl
    | some text => exact ⟨text, rfl, rfl⟩
  | standard | mode => exact .text
  | _ => rfl

/-- A document that tells what the sections of settings say holds those settings. -/
theorem of_told (settings : Settings) (document : List (String × Value))
    (told : Toml.Tells document settings.sections) : ofDocument document = some settings := by
  refine (of_document_iff document settings).mpr ⟨fun setting value found => ?_, fun setting => ?_⟩
  · obtain ⟨⟨entries, table⟩, -⟩ := held_told settings document told setting
    obtain rfl := Option.some.inj (found.symm.trans table)
    exact .table entries
  · rw [Setting.SettledBy, (held_told settings document told setting).2]
    exact settled_written settings setting

/-- In a format that can be depended on, all settings can be written, and come back as they were:
what is read is a document that holds a value for every setting but for the paths that are not
set, and the settings of that document are those that were written. -/
theorem settings_round_trip (format : Toml.Format) (dependable : format.Dependable)
    (settings : Settings) :
    ∃ text, settings.encode format = some text ∧ decode format text = some settings ∧
      ∃ document, format.read text = some document ∧ ofDocument document = some settings ∧
        ∀ setting : Setting,
          setting.held? document = none ↔ setting.Unset (settings.get setting) := by
  have writable := sections_writable settings
  obtain ⟨text, written⟩ := dependable.writes settings.sections writable
  obtain ⟨document, found, told⟩ := dependable.reads settings.sections text writable written
  have read := of_told settings document told
  refine ⟨text, written, ?_, document, found, read, fun setting => ?_⟩
  · rw [decode, found, Option.bind_some, read]
  · rw [(held_told settings document told setting).2]
    cases setting <;> simp [written?, Setting.Unset, get]

/-- Settings with quotes and a backslash in one path, and without another, come back from their text
in the plain format. -/
theorem quoted_path_comes_back :
    let settings : Settings :=
      { bus := 7, standard := .pal, width := 240, mode := .relative
        keymap := some "/keys/my \"us\" \\104.map", mouse := some "/dev/input/event3" }
    let text :=
      "[bus]\nbus = 7\n\n[display]\nstandard = \"pal\"\nwidth = 240\n\n" ++
        "[pointer]\nmode = \"relative\"\n\n[keymap]\npath = '/keys/my \"us\" \\104.map'\n\n" ++
        "[devices]\nmouse = \"/dev/input/event3\"\n\n[logging]\nlevel = \"info\"\n"
    Toml.Format.plain.Dependable ∧ settings.encode .plain = some text ∧
      decode .plain text = some settings ∧
      ∃ document, Toml.Format.plain.read text = some document ∧
        ofDocument document = some settings ∧
        ∀ setting : Setting,
          setting.held? document = none ↔ setting.Unset (settings.get setting) := by
  intro settings text
  have rendered : settings.render = text := by decide +kernel
  have written : settings.encode .plain = some text := rendered ▸ encode_plain settings
  obtain ⟨found, same, back⟩ := settings_round_trip .plain Toml.plain_dependable settings
  obtain rfl : found = text := Option.some.inj (same.symm.trans written)
  exact ⟨Toml.plain_dependable, written, back⟩

end Settings

end InputBridge
