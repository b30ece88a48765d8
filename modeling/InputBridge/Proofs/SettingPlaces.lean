import InputBridge.Settings.Document
/-!
# Where a document keeps the settings

Each setting has a group and a key there, a place among the settings of its group for a group
that is written as an array, and a value that it has from the start. What a document says about
a setting is told here by these alone: `held?` finds the value that the document holds for it,
and `Denotes` says what a value means. A document is read exactly if every group is one and
every value held means something; the settings then are what is held means, or the initial ones
where nothing is held.

The reader takes the groups one after another and gives up at the first that cannot be read. So
the proofs go by groups first, then by the settings of a group, and only then to all settings.
-/
namespace InputBridge

open Toml (Value)

/-- One of the settings. -/
inductive Setting where
  | bus
  | standard
  | width
  | mode
  | keymap
  | keyboard
  | mouse
  | level
deriving DecidableEq, Repr

namespace Setting

/-- What a setting may be. -/
@[reducible]
def Domain : Setting → Type
  | bus => UInt8
  | standard => VideoStandard
  | width => UInt16
  | mode => PointerMode
  | keymap | keyboard | mouse => Option String
  | level => String

/-- The name of the group that a setting is in. -/
def group : Setting → String
  | bus => "bus"
  | standard | width => "display"
  | mode => "pointer"
  | keymap => "keymap"
  | keyboard | mouse => "devices"
  | level => "logging"

/-- The key of a setting in its group. -/
def key : Setting → String
  | bus => "bus"
  | standard => "standard"
  | width => "width"
  | mode => "mode"
  | keymap => "path"
  | keyboard => "keyboard"
  | mouse => "mouse"
  | level => "level"

/-- How many settings of its group come before a setting. -/
def place : Setting → Nat
  | width | mouse => 1
  | _ => 0

/-- What a setting is from the start. -/
def initial : (setting : Setting) → setting.Domain
  | bus => 0
  | standard => .ntsc
  | width => 256
  | mode => .absolute
  | keymap | keyboard | mouse => none
  | level => "info"

end Setting

/-- The value of one setting. -/
def Settings.get (settings : Settings) : (setting : Setting) → setting.Domain
  | .bus => settings.bus
  | .standard => settings.standard
  | .width => settings.width
  | .mode => settings.mode
  | .keymap => settings.keymap
  | .keyboard => settings.keyboard
  | .mouse => settings.mouse
  | .level => settings.level

/-- Settings are the same if each of them is. -/
theorem Settings.ext_get (settings others : Settings)
    (same : ∀ setting, settings.get setting = others.get setting) : settings = others := by
  cases settings
  cases others
  exact Settings.mk.injEq .. ▸ ⟨same .bus, same .standard, same .width, same .mode,
    same .keymap, same .keyboard, same .mouse, same .level⟩

namespace Setting

/-- What a group holds for a setting: the value under its key in a table, or the value at its
place in an array. -/
def heldIn? (setting : Setting) : Option Value → Option Value
  | some (.table entries) => Toml.lookup setting.key entries
  | some (.array items) => items[setting.place]?
  | _ => none

/-- The value that a document holds for a setting, in its group. -/
def held? (setting : Setting) (document : List (String × Value)) : Option Value :=
  setting.heldIn? (Toml.lookup setting.group document)

/-- A value that spells a word: the word as a text, or as the only key of a table, with nothing
under it. -/
inductive Spells (word : String) : Value → Prop
  | text : Spells word (.string word)
  | keyArray : Spells word (.table [(word, .array [])])
  | keyTable : Spells word (.table [(word, .table [])])

/-- What a value in a document means for a setting. -/
def Denotes : (setting : Setting) → Value → setting.Domain → Prop
  | bus, held, number => held = .integer number.toNat
  | standard, held, choice => Spells choice.word held
  | width, held, number => held = .integer number.toNat
  | mode, held, choice => Spells choice.word held
  | keymap, held, path | keyboard, held, path | mouse, held, path =>
    ∃ text, held = .string text ∧ path = some text
  | level, held, text => held = .string text

/-- What is made of a setting: what is held for it, or else what the setting is from the start. -/
def SettledAs (setting : Setting) : Option Value → setting.Domain → Prop
  | some held, value => setting.Denotes held value
  | none, value => value = setting.initial

/-- A document settles a setting by what it holds for it. -/
def SettledBy (document : List (String × Value)) (setting : Setting) (value : setting.Domain) :
    Prop :=
  setting.SettledAs (setting.held? document) value

/-- A value that can be a group: its settings by their keys or by their places, or a date, which
holds none. -/
inductive IsGroup : Value → Prop
  | table (entries : List (String × Value)) : IsGroup (.table entries)
  | array (items : List Value) : IsGroup (.array items)
  | dateTime (literal : String) : IsGroup (.dateTime literal)

end Setting

/-- A standard has one word. -/
theorem VideoStandard.of_word_iff (word : String) (standard : VideoStandard) :
    ofWord? word = some standard ↔ word = standard.word := by
  constructor
  · intro known
    rw [ofWord?.eq_def] at known
    split at known <;> cases known <;> rfl
  · rintro rfl
    cases standard <;> rfl

/-- A mode has one word. -/
theorem PointerMode.of_word_iff (word : String) (mode : PointerMode) :
    ofWord? word = some mode ↔ word = mode.word := by
  constructor
  · intro known
    rw [ofWord?.eq_def] at known
    split at known <;> cases known <;> rfl
  · rintro rfl
    cases mode <;> rfl

namespace Settings

open Setting (IsGroup)

/-- A number is read from an integer that is not above the limit. -/
theorem read_number_iff (limit : Nat) (held : Value) (number : Nat) :
    readNumber limit held = some number ↔ held = .integer number ∧ number ≤ limit := by
  cases held with
  | integer value =>
    simp only [readNumber, Option.ite_none_right_eq_some, Option.some.injEq, Value.integer.injEq]
    omega
  | _ => simp [readNumber]

/-- A number of a type that holds those up to the limit is read from the integer for it. -/
theorem read_bounded_iff {α : Type} (limit : Nat) (ofNat : Nat → α) (toNat : α → Nat)
    (small : ∀ value, toNat value ≤ limit) (same : ∀ value, ofNat (toNat value) = value)
    (back : ∀ number ≤ limit, toNat (ofNat number) = number) (held : Value) (value : α) :
    (readNumber limit held).map ofNat = some value ↔ held = .integer (toNat value) := by
  simp only [Option.map_eq_some_iff, read_number_iff]
  constructor
  · rintro ⟨number, ⟨rfl, within⟩, rfl⟩
    rw [back number within]
  · rintro rfl
    exact ⟨toNat value, ⟨rfl, small value⟩, same value⟩

/-- A text is read from a text. -/
theorem read_text_iff (held : Value) (text : String) :
    readText held = some text ↔ held = .string text := by
  cases held <;> simp [readText]

/-- A choice is read from a value that spells a word for it. -/
theorem read_choice_iff {α : Type} (ofWord? : String → Option α) (held : Value)
    (choice : α) :
    readChoice ofWord? held = some choice ↔
      ∃ word, Setting.Spells word held ∧ ofWord? word = some choice := by
  constructor
  · intro read
    rw [readChoice.eq_def] at read
    split at read
    · exact ⟨_, .text, read⟩
    · rename_i word under
      rw [Option.ite_none_right_eq_some] at read
      obtain ⟨empty, read⟩ := read
      rw [isEmpty.eq_def] at empty
      split at empty
      · exact ⟨word, .keyArray, read⟩
      · exact ⟨word, .keyTable, read⟩
      · cases empty
    · cases read
  · rintro ⟨word, _ | _ | _, known⟩ <;> simpa [readChoice, isEmpty] using known

/-- The reader of one setting. -/
def readSetting : (setting : Setting) → Value → Option setting.Domain
  | .bus, held => (readNumber 255 held).map UInt8.ofNat
  | .standard, held => readChoice VideoStandard.ofWord? held
  | .width, held => (readNumber 65535 held).map UInt16.ofNat
  | .mode, held => readChoice PointerMode.ofWord? held
  | .keymap, held | .keyboard, held | .mouse, held => (readText held).map some
  | .level, held => readText held

/-- A setting is read as what is held for it means. -/
theorem read_setting_iff (setting : Setting) (held : Value) (value : setting.Domain) :
    readSetting setting held = some value ↔ setting.Denotes held value := by
  cases setting with
  | bus =>
    apply read_bounded_iff 255 UInt8.ofNat UInt8.toNat
    · intro number
      exact Nat.le_of_lt_succ number.toNat_lt
    · intro number
      exact UInt8.ofNat_toNat
    · intro number small
      exact UInt8.toNat_ofNat_of_lt' (Nat.lt_succ_of_le small)
  | width =>
    apply read_bounded_iff 65535 UInt16.ofNat UInt16.toNat
    · intro number
      exact Nat.le_of_lt_succ number.toNat_lt
    · intro number
      exact UInt16.ofNat_toNat
    · intro number small
      exact UInt16.toNat_ofNat_of_lt' (Nat.lt_succ_of_le small)
  | standard => simp [readSetting, Setting.Denotes, read_choice_iff, VideoStandard.of_word_iff]
  | mode => simp [readSetting, Setting.Denotes, read_choice_iff, PointerMode.of_word_iff]
  | keymap | keyboard | mouse =>
    simp only [readSetting, Setting.Denotes, Option.map_eq_some_iff, read_text_iff]
    exact exists_congr fun text => and_congr_right' eq_comm
  | level => exact read_text_iff held value

/-- A setting is settled by its reader or by its initial value. -/
theorem settled_iff (document : List (String × Value)) (setting : Setting)
    (value : setting.Domain) :
    Setting.SettledBy document setting value ↔
      orDefault (readSetting setting) setting.initial (setting.held? document) = some value := by
  rw [Setting.SettledBy]
  cases setting.held? document with
  | none => simp [orDefault, Setting.SettledAs, eq_comm]
  | some held => exact (read_setting_iff setting held value).symm

/-- A document settles a setting in one way. -/
theorem settled_unique (document : List (String × Value)) (setting : Setting)
    (value other : setting.Domain) (settled : Setting.SettledBy document setting value)
    (again : Setting.SettledBy document setting other) : value = other :=
  Option.some.inj (((settled_iff document setting value).mp settled).symm.trans
    ((settled_iff document setting other).mp again))

/-- A value may be put into another form before or behind the default. -/
theorem or_default_map {α β : Type} (read : Value → Option α) (fallback : α) (change : α → β)
    (held : Option Value) :
    orDefault (fun value => (read value).map change) (change fallback) held =
      (orDefault read fallback held).map change := by
  cases held <;> rfl

/-- The settings of a group are found in a document exactly if what is under the name of the
group can be a group, and then they are what the document holds for them. -/
theorem group_members_iff (document : List (String × Value)) (name : String)
    (members : List Setting) (values : List (Option Value))
    (ordered : ∀ entry ∈ members.zipIdx, entry.1.group = name ∧ entry.1.place = entry.2) :
    group document name (members.map Setting.key) = some values ↔
      (∀ value, Toml.lookup name document = some value → IsGroup value) ∧
        values = members.map (Setting.held? · document) := by
  have inPlace (place : Nat) (setting : Setting) (listed : members[place]? = some setting) :
      setting.group = name ∧ setting.place = place :=
    ordered (setting, place) (List.mk_mem_zipIdx_iff_getElem?.mpr listed)
  have heldIn : members.map (Setting.held? · document) =
      members.map (Setting.heldIn? · (Toml.lookup name document)) := by
    refine List.map_congr_left fun setting listed => ?_
    obtain ⟨place, found⟩ := List.mem_iff_getElem?.mp listed
    rw [Setting.held?, (inPlace place setting found).1]
  rw [heldIn, group.eq_def]
  cases Toml.lookup name document with
  | none => simp [Setting.heldIn?, Function.comp_def, eq_comm]
  | some value =>
    cases value with
    | table entries =>
      simp [readGroup, Setting.heldIn?, IsGroup.table, Function.comp_def, eq_comm]
    | array items =>
      have placed : (members.map Setting.key).zipIdx.map (fun entry => items[entry.2]?) =
          members.map fun setting => items[setting.place]? := by
        refine List.ext_getElem? fun place => ?_
        cases listed : members[place]? with
        | none => simp [List.getElem?_zipIdx, listed]
        | some setting => simp [List.getElem?_zipIdx, listed, (inPlace place setting listed).2]
      simp [readGroup, Setting.heldIn?, IsGroup.array, placed, eq_comm]
    | dateTime literal =>
      simp [readGroup, Setting.heldIn?, IsGroup.dateTime, Function.comp_def, eq_comm]
    | _ =>
      constructor
      · intro found
        cases found
      · rintro ⟨isGroup, -⟩
        cases isGroup _ rfl

/-- What is read behind a group is told the settings of the group. -/
theorem group_bind_iff {α : Type} (document : List (String × Value)) (name : String)
    (names : List String) (members : List Setting) (keys : names = members.map Setting.key)
    (ordered : ∀ entry ∈ members.zipIdx, entry.1.group = name ∧ entry.1.place = entry.2)
    {next : List (Option Value) → Option α} {result : α} :
    (group document name names).bind next = some result ↔
      (∀ value, Toml.lookup name document = some value → IsGroup value) ∧
        next (members.map (Setting.held? · document)) = some result := by
  subst keys
  simp only [Option.bind_eq_some_iff, group_members_iff document name members _ ordered]
  constructor
  · rintro ⟨_, ⟨isGroup, rfl⟩, read⟩
    exact ⟨isGroup, read⟩
  · rintro ⟨isGroup, read⟩
    exact ⟨_, ⟨isGroup, rfl⟩, read⟩

/-- A document holds settings exactly if everything under the name of a group can be one and the
document settles every setting; the settings are then those that it settles. -/
theorem of_document_iff (document : List (String × Value)) (settings : Settings) :
    ofDocument document = some settings ↔
      (∀ (setting : Setting) (value : Value),
        Toml.lookup setting.group document = some value → IsGroup value) ∧
      ∀ setting, Setting.SettledBy document setting (settings.get setting) := by
  have bus := @group_bind_iff Settings document "bus" ["bus"] [.bus] rfl (by decide)
  have display := @group_bind_iff Settings document "display" ["standard", "width"]
    [.standard, .width] rfl (by decide)
  have pointer := @group_bind_iff Settings document "pointer" ["mode"] [.mode] rfl (by decide)
  have keymap := @group_bind_iff Settings document "keymap" ["path"] [.keymap] rfl (by decide)
  have devices := @group_bind_iff Settings document "devices" ["keyboard", "mouse"]
    [.keyboard, .mouse] rfl (by decide)
  have logging := @group_bind_iff Settings document "logging" ["level"] [.level] rfl (by decide)
  simp only [ofDocument, Option.bind_eq_bind, bus, display, pointer, keymap, devices, logging,
    List.map_cons, List.map_nil, Option.bind_eq_some_iff, Option.some.injEq]
  have number := or_default_map (readNumber 255) 0 UInt8.ofNat (Setting.bus.held? document)
  have pixels := or_default_map (readNumber 65535) 256 UInt16.ofNat (Setting.width.held? document)
  constructor
  · rintro ⟨busGroup, displayGroup, pointerGroup, keymapGroup, devicesGroup, loggingGroup,
      _, busRead, _, standardRead, _, widthRead, _, modeRead, _, keymapRead, _, keyboardRead,
      _, mouseRead, _, levelRead, rfl⟩
    constructor
    · intro setting
      cases setting <;> assumption
    · intro setting
      rw [settled_iff]
      cases setting with
      | bus => exact number.trans (congrArg (Option.map UInt8.ofNat) busRead)
      | width => exact pixels.trans (congrArg (Option.map UInt16.ofNat) widthRead)
      | _ => assumption
  · rintro ⟨groups, settled⟩
    have read (setting : Setting) := (settled_iff document setting _).mp (settled setting)
    obtain ⟨_, busRead, sameBus⟩ := Option.map_eq_some_iff.mp (number.symm.trans (read .bus))
    obtain ⟨_, widthRead, sameWidth⟩ := Option.map_eq_some_iff.mp (pixels.symm.trans (read .width))
    refine ⟨groups .bus, groups .standard, groups .mode, groups .keymap, groups .keyboard,
      groups .level, _, busRead, _, read .standard, _, widthRead, _, read .mode, _, read .keymap,
      _, read .keyboard, _, read .mouse, _, read .level, ?_⟩
    rw [sameBus, sameWidth]
    rfl

end Settings

end InputBridge
