import InputBridge.Settings.Basic
import InputBridge.Toml.Format
/-!
# The settings file

A settings file is a TOML document with a table for each group of settings. Every
table and every key may be missing and then leaves the default; unknown tables
and keys mean nothing. A group may also be written as an array of its settings in
order, shorter if the last ones keep their defaults, and a word for one of a few
choices may also be written as a table with that word as its only key and nothing
under it.

Writing settings gives a document that reads back as the same settings. Paths that
are not set are left out. What is said here is which document settings are; its text
is left to a format.
-/
namespace InputBridge.Settings

open Toml (Value)

/-- The settings of a group by the names of their keys, where they are given. A
date holds no key of any group. -/
def readGroup (names : List String) : Value → Option (List (Option Value))
  | .table entries => some (names.map fun name => Toml.lookup name entries)
  | .array items => some (names.zipIdx.map fun (_, place) => items[place]?)
  | .dateTime _ => some (names.map fun _ => none)
  | _ => none

/-- The settings of a group in a document, where they are given. -/
def group (document : List (String × Value)) (name : String) (names : List String) :
    Option (List (Option Value)) :=
  match Toml.lookup name document with
  | none => some (names.map fun _ => none)
  | some value => readGroup names value

/-- A number up to a limit. -/
def readNumber (limit : Nat) : Value → Option Nat
  | .integer value => if 0 ≤ value ∧ value ≤ limit then some value.toNat else none
  | _ => none

/-- A text. -/
def readText : Value → Option String
  | .string text => some text
  | _ => none

/-- A value that holds nothing. -/
def isEmpty : Value → Bool
  | .array [] => true
  | .table [] => true
  | _ => false

/-- One of a few choices by its word. -/
def readChoice {α : Type} (ofWord? : String → Option α) : Value → Option α
  | .string word => ofWord? word
  | .table [(word, under)] => if isEmpty under then ofWord? word else none
  | _ => none

/-- A setting, or its default if it is not given. -/
def orDefault {α : Type} (read : Value → Option α) (fallback : α) : Option Value → Option α
  | none => some fallback
  | some value => read value

/-- The settings in the table of a document. -/
def ofDocument (document : List (String × Value)) : Option Settings := do
  let defaults : Settings := {}
  let [bus] ← group document "bus" ["bus"] | none
  let [standard, width] ← group document "display" ["standard", "width"] | none
  let [mode] ← group document "pointer" ["mode"] | none
  let [keymap] ← group document "keymap" ["path"] | none
  let [keyboard, mouse] ← group document "devices" ["keyboard", "mouse"] | none
  let [level] ← group document "logging" ["level"] | none
  some
    { bus := UInt8.ofNat (← orDefault (readNumber 255) defaults.bus.toNat bus)
      standard := ← orDefault (readChoice VideoStandard.ofWord?) defaults.standard standard
      width := UInt16.ofNat (← orDefault (readNumber 65535) defaults.width.toNat width)
      mode := ← orDefault (readChoice PointerMode.ofWord?) defaults.mode mode
      keymap := ← orDefault (fun value => (readText value).map some) defaults.keymap keymap
      keyboard := ← orDefault (fun value => (readText value).map some) defaults.keyboard keyboard
      mouse := ← orDefault (fun value => (readText value).map some) defaults.mouse mouse
      level := ← orDefault readText defaults.level level }

/-- The settings in a text of some format. -/
def decode (format : Toml.Format) (text : String) : Option Settings :=
  (format.read text).bind ofDocument

/-- The settings in the text of a settings file. -/
def parse (text : String) : Option Settings := decode .plain text

/-- A path that is set, as an entry of a section. -/
def pathEntry (name : String) (path : Option String) : List (String × Toml.Scalar) :=
  path.toList.map fun path => (name, .text path)

/-- The sections of a settings file. -/
def sections (settings : Settings) : List Toml.Section :=
  [ { name := "bus", entries := [("bus", .number settings.bus.toNat)] },
    { name := "display"
      entries :=
        [("standard", .text settings.standard.word), ("width", .number settings.width.toNat)] },
    { name := "pointer", entries := [("mode", .text settings.mode.word)] },
    { name := "keymap", entries := pathEntry "path" settings.keymap },
    { name := "devices"
      entries := pathEntry "keyboard" settings.keyboard ++ pathEntry "mouse" settings.mouse },
    { name := "logging", entries := [("level", .text settings.level)] } ]

/-- The text of settings in some format, if they can be written. -/
def encode (format : Toml.Format) (settings : Settings) : Option String :=
  format.write settings.sections

/-- The text of a settings file. -/
def render (settings : Settings) : String := Toml.render settings.sections

/-- That text is the one in the plain format. -/
theorem encode_plain (settings : Settings) : settings.encode .plain = some settings.render := rfl

end InputBridge.Settings
