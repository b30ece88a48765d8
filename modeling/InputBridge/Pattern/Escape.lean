import InputBridge.Pattern.Basic
import InputBridge.Pattern.Cursor
/-!
# Escapes in a pattern

A backslash takes away the meaning of a mark, or gives a letter one: a letter may
stand for a control character, for a class of characters, for a kind of place, or
for the character with a number that follows. What a group matched cannot be asked
for again, so a digit is refused.

A pattern has no closing brace, since it stands within braces itself. So an opening
brace in an escape begins something that the pattern cannot complete.
-/
namespace InputBridge.Pattern

/-- Marks and other ASCII characters that stand for themselves behind a
backslash. -/
def isEscapable (c : Char) : Bool :=
  c.toNat < 0x80 && !c.isAlphanum && c != '<' && c != '>'

/-- The control character that a letter stands for behind a backslash. -/
def controlCharacter? (c : Char) : Option Char :=
  match c with
  | 'a' => some '\x07'
  | 'f' => some '\x0c'
  | 'n' => some '\n'
  | 'r' => some '\r'
  | 't' => some '\t'
  | 'v' => some '\x0b'
  | _ => none

/-- The digits of the number that a letter announces, if it announces one. -/
def digitCount? (c : Char) : Option Nat :=
  match c with
  | 'x' => some 2
  | 'u' => some 4
  | 'U' => some 8
  | _ => none

/-- A digit of base sixteen. -/
def isHexDigit (c : Char) : Bool := (Text.digitValue 16 c).isSome

/-- So many more digits of a number in base sixteen. -/
def hexNumber : Nat → Nat → Cursor → Read Nat
  | 0, value, cursor => .ok (value, cursor)
  | count + 1, value, cursor =>
    match cursor.rest with
    | [] => faulty .escapeUnfinished cursor.here
    | c :: _ =>
      match Text.digitValue 16 c with
      | none => faulty .noHexDigit cursor.next
      | some digit => hexNumber count (value * 16 + digit) cursor.advance

/-- The character with the number whose digits come next. An escape of two digits
stands for a byte. -/
def numberEscape (start : Place) (count : Nat) (cursor : Cursor) :
    Except PatternError (Piece × Cursor) := do
  let (value, after) ← hexNumber count 0 cursor
  if value.isValidChar then
    let atom := Atom.character (Char.ofNat value) (count == 2)
    return (⟨atom, after.since start⟩, after)
  else faulty .noCharacter (after.since cursor.place)

/-- What is wrong with a number in braces, of which the opening one comes next. -/
def bracedNumberFault {α : Type} (cursor : Cursor) : Except PatternError α :=
  let (_, after) := cursor.advance.collectAll isHexDigit
  if after.rest.isEmpty then faulty .escapeUnfinished (after.since cursor.place)
  else faulty .noHexDigit after.next

/-- A number behind the letter that announces it. -/
def number (start : Place) (count : Nat) (cursor : Cursor) : Read Piece :=
  match cursor.rest with
  | [] => faulty .escapeUnfinished cursor.here
  | '\x7b' :: _ => bracedNumberFault cursor
  | _ => numberEscape start count cursor

/-- A property behind the letter that announces it. -/
def property (start : Place) (cursor : Cursor) : Read Piece :=
  match cursor.rest with
  | [] => faulty .escapeUnfinished cursor.here
  | '\x7b' :: _ => faulty .escapeUnfinished cursor.finish.here
  | '\\' :: _ => faulty .propertyInvalid cursor.next
  | letter :: _ =>
    let after := cursor.advance
    .ok (⟨.property letter, after.since start⟩, after)

/-- A character in the name of a kind of word boundary. -/
def isBoundaryName (c : Char) : Bool := c.isAlpha || c == '-'

/-- A word boundary that ends at the cursor. The name of a kind of word boundary may
stand in braces behind it; a brace with anything else behind it begins a count. -/
def boundary (start : Place) (cursor : Cursor) : Read Piece :=
  let read := .ok (⟨.wordBoundary, cursor.since start⟩, cursor)
  match cursor.rest with
  | '\x7b' :: _ =>
    let inside := cursor.advance
    match inside.rest with
    | [] => faulty .boundaryUnfinished (inside.since start)
    | c :: _ =>
      if isBoundaryName c then
        faulty .boundaryUnclosed ((inside.collectAll isBoundaryName).2.since cursor.place)
      else read
  | _ => read

/-- An escape, from its backslash on. -/
def escape (cursor : Cursor) : Read Piece :=
  let start := cursor.place
  let letter := cursor.step
  match letter.rest with
  | [] => faulty .escapeUnfinished (letter.since start)
  | c :: _ =>
    let after := letter.step
    let extent := after.since start
    if c.isDigit then faulty .backreference extent
    else if c == 'p' || c == 'P' then property start letter.advance
    else if c == 'b' then boundary start after
    else if isEscapable c then .ok (⟨.character c false, extent⟩, after)
    else
      match digitCount? c, controlCharacter? c with
      | some count, _ => number start count letter.advance
      | none, some control => .ok (⟨.character control false, extent⟩, after)
      | none, none =>
        match c with
        | 'd' | 's' | 'w' => .ok (⟨.shorthand false, extent⟩, after)
        | 'D' | 'S' | 'W' => .ok (⟨.shorthand true, extent⟩, after)
        | 'A' | 'z' => .ok (⟨.edge, extent⟩, after)
        | 'B' | '<' | '>' => .ok (⟨.wordBoundary, extent⟩, after)
        | _ => faulty .escapeUnknown extent

end InputBridge.Pattern
