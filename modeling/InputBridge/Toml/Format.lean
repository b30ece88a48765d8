import InputBridge.Toml.Parser
import InputBridge.Toml.Printer
/-!
# Formats of documents

Documents are written as text and read from text by a library, toml, which is no part of the
program. So a format is a parameter where settings are written or read, and nothing is relied on
but that it reads what it writes.

The plain format is one of them, made after the rules of TOML 1.0. The program runs with it.
-/
namespace InputBridge.Toml

/-- A way to write documents as text and to read them. -/
structure Format where
  /-- The text of a document that consists of sections, if it can be written. -/
  write : List Section → Option String
  /-- The table that a text describes, if it is well formed. -/
  read : String → Option (List (String × Value))

/-- The format that writes every text in the plainest form, and reads all forms. -/
def Format.plain : Format where
  write sections := some (render sections)
  read := parse

end InputBridge.Toml
