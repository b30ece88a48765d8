import InputBridge.Keymap.Basic
import InputBridge.Text.Blank
import InputBridge.Text.Number
import InputBridge.Text.Quoted
/-!
# Keymap files

A keymap file has one entry a line: a key name and a scancode in base sixteen,
separated by white space. Blank lines and lines that start with a number sign
are skipped, and a later entry for a key replaces an earlier one. The first line
that is neither skipped nor an entry refuses the whole file, and what is wrong
with it is looked for in a fixed order: the number of fields, the name, the
scancode.
-/
namespace InputBridge

/-- What is wrong with the first faulty line of a keymap file. -/
inductive KeymapError where
  /-- The line does not have exactly two fields. -/
  | malformed (line : Nat) (content : String)
  /-- The second field is no scancode. -/
  | invalidScancode (line : Nat) (value : String)
  /-- The first field names no key. -/
  | unknownKey (line : Nat) (name : String)
deriving DecidableEq, Repr

namespace KeymapError

/-- The wording of a keymap error. -/
def message : KeymapError → String
  | .malformed line content =>
    s!"line {line}: expected `<key-name> <hex-byte>`, got {Text.quoted content}"
  | .invalidScancode line value =>
    s!"line {line}: scancode {Text.quoted value} is not a hex byte in 0x00-0x7F"
  | .unknownKey line name => s!"line {line}: unknown key name {Text.quoted name}"

end KeymapError

/-- An entry that replaced an earlier one for the same key. -/
structure Redefinition where
  /-- The line of the later entry. -/
  line : Nat
  /-- The key, as the later entry spells it. -/
  name : String
  /-- The scancode that was replaced. -/
  previous : UInt8
  /-- The scancode that holds from now on. -/
  scancode : UInt8
deriving DecidableEq, Repr

namespace Keymap

/-- A scancode's digits without the mark for base sixteen in front of them. -/
def dropHexMark : List Char → List Char
  | '0' :: 'x' :: digits => digits
  | '0' :: 'X' :: digits => digits
  | digits => digits

/-- The bytes a text takes up in UTF-8. -/
def encodedSize (text : List Char) : Nat :=
  text.foldr (fun c total => c.utf8Size + total) 0

/-- A scancode: an optional mark for base sixteen, then at most two bytes that
read as an unsigned number in that base, whose value leaves the release bit
clear. The number may start with a plus sign, which counts towards the two
bytes. -/
def parseScancode (text : List Char) : Option UInt8 :=
  let digits := dropHexMark text
  if encodedSize digits > 2 then none
  else (Text.readUnsigned 16 maxScancode.toNat digits).map UInt8.ofNat

/-- What a line of a keymap file says. -/
inductive Line where
  /-- A blank line or a comment. -/
  | skipped
  /-- An entry for a key. -/
  | entry (name : String) (code : UInt16) (scancode : UInt8)
deriving DecidableEq, Repr

/-- Reads a line, whose number is only for the error. -/
def parseLine (number : Nat) (raw : List Char) : Except KeymapError Line :=
  let line := Text.trim raw
  if line.isEmpty || line.head? == some '#' then .ok .skipped
  else
    match Text.fields line with
    | [name, value] =>
      match Key.codeOf (String.ofList name) with
      | none => .error (.unknownKey number (String.ofList name))
      | some code =>
        match parseScancode value with
        | none => .error (.invalidScancode number (String.ofList value))
        | some scancode => .ok (.entry (String.ofList name) code scancode)
    | _ => .error (.malformed number (String.ofList line))

/-- What has been read of a keymap file so far. -/
structure Reading where
  /-- The keymap that the lines so far describe. -/
  keymap : Keymap := {}
  /-- The entries that replaced an earlier one, in order. -/
  redefinitions : List Redefinition := []
deriving DecidableEq, Repr

/-- Takes a line's meaning into account. -/
def Reading.add (reading : Reading) (number : Nat) : Line → Reading
  | .skipped => reading
  | .entry name code scancode =>
    { keymap := reading.keymap.set code scancode
      redefinitions := reading.redefinitions ++
        match reading.keymap.lookup code with
        | none => []
        | some previous => [{ line := number, name, previous, scancode }] }

/-- Reads lines from a given line number on. On a faulty line the reading ends
with its error, beside what the lines before it gave. -/
def readLines (number : Nat) (reading : Reading) :
    List (List Char) → Reading × Option KeymapError
  | [] => (reading, none)
  | raw :: rest =>
    match parseLine number raw with
    | .error error => (reading, some error)
    | .ok line => readLines (number + 1) (reading.add number line) rest

/-- Reads the text of a keymap file, keeping the entries that were replaced. -/
def read (text : String) : Reading × Option KeymapError :=
  readLines 1 {} (Text.lines text.toList)

/-- The keymap that a file's text describes, or the error of its first faulty
line. -/
def parse (text : String) : Except KeymapError Keymap :=
  match read text with
  | (reading, none) => .ok reading.keymap
  | (_, some error) => .error error

end Keymap

end InputBridge
