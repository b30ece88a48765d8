import InputBridge.File.Tree
import InputBridge.Keymap.Parser
import InputBridge.Notice
/-!
# Reading a keymap file

A keymap file is read and parsed as a whole; without one every key stays unmapped.
Entries that replace earlier ones are reported even if a later line refuses the
file.
-/
namespace InputBridge

/-- Why there is no keymap. -/
inductive KeymapFileError where
  /-- The file could not be read. -/
  | unreadable (path : String) (error : FileError)
  /-- A line of the file is faulty. -/
  | malformed (path : String) (error : KeymapError)
deriving DecidableEq, Repr

namespace KeymapFileError

/-- The wording of a keymap file error. -/
def message : KeymapFileError → String
  | .unreadable path error => s!"cannot read keymap {path}: {error.message}"
  | .malformed path error => s!"invalid keymap {path}: {error.message}"

/-- What lies behind the error. -/
def cause : KeymapFileError → String
  | .unreadable _ error => error.message
  | .malformed _ error => error.message

end KeymapFileError

namespace Keymap

/-- Loads a keymap file, with the notices that this gives. -/
def loadFile (files : FileTree) (path : String) : Except KeymapFileError Keymap × List Notice :=
  match files.readText path with
  | .error error => (.error (.unreadable path error), [])
  | .ok text =>
    let (reading, error) := read text
    let redefined := reading.redefinitions.map Notice.keymapRedefined
    match error with
    | some error => (.error (.malformed path error), redefined)
    | none => (.ok reading.keymap, redefined ++ [.keymapLoaded reading.keymap.size path])

/-- Loads the configured keymap file, or no keymap if none is configured. -/
def load (files : FileTree) : Option String → Except KeymapFileError Keymap × List Notice
  | some path => loadFile files path
  | none => (.ok empty, [.keymapMissing])

end Keymap

end InputBridge
