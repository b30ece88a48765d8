import InputBridge.Text.Number
import InputBridge.Toml.Quotation
/-!
# Writing a TOML document

The documents written here are lists of sections, each a table of texts and
integers. Sections are separated by an empty line, and an assignment takes a line
of its own.

A text is written in the plainest form that needs no escapes: between double
quotes, between single quotes, between three double quotes, or between three
single quotes, whichever comes first. If none does, escapes are needed, and double
quotes are used, three of them if the text has several lines. A text of several
lines starts on a line of its own, since the line ending behind the opening quotes
is not part of it.
-/
namespace InputBridge.Toml

/-- The length of the longest run of a character. `run` characters of it come
directly before the text, and the longest run before was `longest`. -/
def longestRunFrom (c : Char) (run longest : Nat) : List Char → Nat
  | [] => longest
  | first :: rest =>
    if first == c then longestRunFrom c (run + 1) (max longest (run + 1)) rest
    else longestRunFrom c 0 longest rest

/-- The length of the longest run of a character in a text. -/
def longestRun (c : Char) (text : List Char) : Nat := longestRunFrom c 0 0 text

/-- A control character that cannot stand for itself in any form. A tab and a
line feed can. -/
def isControl (c : Char) : Bool :=
  c != '\t' && c != '\n' && (c < '\x20' || c == '\x7F')

/-- The forms of quoted text. -/
inductive QuoteStyle where
  | basic
  | literal
  | multiBasic
  | multiLiteral
deriving DecidableEq, Repr

/-- The form in which a text is written. -/
def QuoteStyle.ofText (text : List Char) : QuoteStyle :=
  let control := text.any isControl
  let backslash := text.contains '\\'
  let several := text.contains '\n'
  let doubles := longestRun '"' text
  let singles := longestRun '\'' text
  if !control && !backslash && doubles == 0 && !several then .basic
  else if !control && singles == 0 && !several then .literal
  else if !control && !backslash && doubles ≤ 2 then .multiBasic
  else if !control && singles ≤ 2 then .multiLiteral
  else if several then .multiBasic
  else .basic

/-- A number of four hexadecimal digits. -/
def hexFour (number : Nat) : List Char :=
  let digits := (Nat.toDigits 16 number).map Char.toUpper
  List.replicate (4 - digits.length) '0' ++ digits

/-- The escape of a character between double quotes, if it needs one. A line feed
needs none where several lines are allowed; a double quote is seen to by the
caller. -/
def escaped? (several : Bool) (c : Char) : Option (List Char) :=
  if c == '\x08' then some ['\\', 'b']
  else if c == '\t' then some ['\\', 't']
  else if c == '\n' then (if several then none else some ['\\', 'n'])
  else if c == '\x0C' then some ['\\', 'f']
  else if c == '\r' then some ['\\', 'r']
  else if c == '\\' then some ['\\', '\\']
  else if isControl c then some ('\\' :: 'u' :: hexFour c.toNat)
  else none

/-- A text as it stands between double quotes. `allowed` quotes in a row can
stand for themselves, and `run` of them come directly before the text. -/
def escapeAll (several : Bool) (allowed : Nat) (run : Nat) : List Char → List Char
  | [] => []
  | c :: rest =>
    if c == '"' then
      if run < allowed then c :: escapeAll several allowed (run + 1) rest
      else '\\' :: '"' :: escapeAll several allowed 0 rest
    else (escaped? several c).getD [c] ++ escapeAll several allowed 0 rest

/-- The line ending that separates text of several lines from its opening
quotes. -/
def opening (text : List Char) : List Char :=
  if text.contains '\n' then ['\n'] else []

/-- A text between quotes. -/
def quote (text : List Char) : List Char :=
  match QuoteStyle.ofText text with
  | .basic => '"' :: escapeAll false 0 0 text ++ ['"']
  | .literal => '\'' :: text ++ ['\'']
  | .multiBasic =>
    ['"', '"', '"'] ++ opening text ++ escapeAll true 2 0 text ++ ['"', '"', '"']
  | .multiLiteral => ['\'', '\'', '\''] ++ opening text ++ text ++ ['\'', '\'', '\'']

/-- A value as it is written. -/
inductive Scalar where
  | text (text : String)
  | number (value : Nat)
deriving DecidableEq, Repr

/-- A table with a header. -/
structure Section where
  name : String
  entries : List (String × Scalar)
deriving DecidableEq, Repr

/-- A value as it is written. -/
def Scalar.render : Scalar → List Char
  | .text content => quote content.toList
  | .number value => Nat.toDigits 10 value

/-- An assignment on its line. -/
def renderEntry (entry : String × Scalar) : List Char :=
  entry.1.toList ++ [' ', '=', ' '] ++ entry.2.render ++ ['\n']

/-- A section: its header and its assignments. -/
def Section.render (part : Section) : List Char :=
  '[' :: part.name.toList ++ [']', '\n'] ++ part.entries.flatMap renderEntry

/-- A document, with an empty line between its sections. -/
def renderSections : List Section → List Char
  | [] => []
  | [last] => last.render
  | first :: rest => first.render ++ '\n' :: renderSections rest

/-- The text of a document. -/
def render (sections : List Section) : String := String.ofList (renderSections sections)

end InputBridge.Toml
