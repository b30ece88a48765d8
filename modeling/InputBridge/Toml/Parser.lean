import InputBridge.Toml.Date
import InputBridge.Toml.Quotation
import InputBridge.Toml.Tree
/-!
# Reading a TOML document

A document is read in two steps: its text is cut into statements, which are
headers and assignments, and the statements are put together into a table. The
text may start with a byte order mark.

Arrays and inline tables may nest, and keys may have parts, up to fixed numbers;
these bounds are also what the readers of values and keys recurse on. The loops
over the items of an array and over statements take something from the text every
time, so its length bounds them.
-/
namespace InputBridge.Toml

/-- How deep arrays and inline tables may nest. -/
def maxNesting : Nat := 79

/-- How many parts a key may have. -/
def maxKeyParts : Nat := 79

/-- One part of a key, and what follows it. -/
def keyPart (text : List Char) : Option (String × List Char) :=
  match text with
  | '"' :: rest => (basic rest).map fun (key, after) => (String.ofList key, after)
  | '\'' :: rest => (literal rest).map fun (key, after) => (String.ofList key, after)
  | text =>
    match text.takeWhile isBareKey with
    | [] => none
    | key => some (String.ofList key, text.dropWhile isBareKey)

/-- A key of at most `parts` parts with points between them: the parts before the
last, the last, and what follows the key and any blanks. -/
def dottedKey : Nat → List Char → Option (List String × String × List Char)
  | 0, _ => none
  | parts + 1, text =>
    match keyPart (skipBlanks text) with
    | none => none
    | some (part, rest) =>
      match skipBlanks rest with
      | '.' :: rest =>
        (dottedKey parts rest).map fun (path, last, after) => (part :: path, last, after)
      | rest => some ([], part, rest)

/-- A key, and what follows it and any blanks. -/
def key (text : List Char) : Option (List String × String × List Char) :=
  dottedKey maxKeyParts text

/-- A reader of values takes the text from where a value starts and gives the
value and what follows. -/
abbrev ValueReader := List Char → Option (Value × List Char)

/-- The items of an array from behind its bracket, at most `limit` of them, read
by `item`. Items are separated by commas, one of which may follow the last, and
white space and comments may stand anywhere between them. -/
def arrayItems (item : ValueReader) : Nat → List Char → Option (List Value × List Char)
  | 0, _ => none
  | limit + 1, text =>
    match skipTrivia false text with
    | ']' :: rest => some ([], rest)
    | text =>
      match item text with
      | none => none
      | some (value, rest) =>
        match skipTrivia false rest with
        | ',' :: rest =>
          (arrayItems item limit rest).map fun (items, after) => (value :: items, after)
        | ']' :: rest => some ([value], rest)
        | _ => none

/-- An assignment: its key, its value, and what follows the value. -/
def assignment (item : ValueReader) (text : List Char) :
    Option (List String × String × Value × List Char) :=
  match key text with
  | some (path, last, '=' :: rest) =>
    (item (skipBlanks rest)).map fun (value, after) => (path, last, value, after)
  | _ => none

/-- The assignments of an inline table, at most `limit` of them, added to entries
already there. At least one has to come. -/
def inlineEntries (item : ValueReader) : Nat → Entries → List Char → Option (Entries × List Char)
  | 0, _, _ => none
  | limit + 1, entries, text =>
    match assignment item text with
    | none => none
    | some (path, last, value, rest) =>
      match entries.set path last value with
      | none => none
      | some entries =>
        match skipBlanks rest with
        | ',' :: rest => inlineEntries item limit entries rest
        | '}' :: rest => some (entries, rest)
        | _ => none

/-- An inline table from behind its brace. -/
def inlineTable (item : ValueReader) (text : List Char) : Option (Value × List Char) :=
  match skipBlanks text with
  | '}' :: rest => some (.table [], rest)
  | text =>
    (inlineEntries item text.length [] text).map fun (entries, rest) =>
      (.table (valuesOf entries), rest)

/-- A value in which arrays and inline tables nest at most `depth` deep. -/
def valueWithin : Nat → ValueReader
  | _, [] => none
  | depth, c :: rest =>
    if c == '"' || c == '\'' then
      (quotation? (c :: rest)).map fun (text, after) => (.string (String.ofList text), after)
    else if c == '[' then
      match depth with
      | 0 => none
      | depth + 1 =>
        (arrayItems (valueWithin depth) (rest.length + 1) rest).map fun (items, after) =>
          (.array items, after)
    else if c == '{' then
      match depth with
      | 0 => none
      | depth + 1 => inlineTable (valueWithin depth) rest
    else if startsDate (c :: rest) || startsTime (c :: rest) then dateTime (c :: rest)
    else
      match c :: rest with
      | 't' :: 'r' :: 'u' :: 'e' :: after => some (.boolean true, after)
      | 'f' :: 'a' :: 'l' :: 's' :: 'e' :: after => some (.boolean false, after)
      | text => number text

/-- A value. -/
def value : ValueReader := valueWithin maxNesting

/-- A part of a document that stands on its own. -/
inductive Statement where
  /-- A header: the assignments that follow belong to this table. -/
  | openTable (path : List String) (key : String)
  /-- A header in double brackets: the assignments that follow belong to a new
  table at the end of this array. -/
  | openNext (path : List String) (key : String)
  /-- An assignment. -/
  | assign (path : List String) (key : String) (value : Value)
deriving Inhabited

/-- The statement in front of a text, on a line of its own, and what follows the
line. -/
def statement (text : List Char) : Option (Statement × List Char) :=
  match text with
  | '[' :: '[' :: rest =>
    match key rest with
    | some (path, last, ']' :: ']' :: rest) =>
      (endOfLine rest).map fun after => (.openNext path last, after)
    | _ => none
  | '[' :: rest =>
    match key rest with
    | some (path, last, ']' :: rest) =>
      (endOfLine rest).map fun after => (.openTable path last, after)
    | _ => none
  | text =>
    match assignment value text with
    | some (path, last, value, rest) =>
      (endOfLine rest).map fun after => (.assign path last value, after)
    | none => none

/-- The statements of a text, at most `limit` of them. -/
def statements : Nat → List Char → Option (List Statement)
  | 0, _ => none
  | limit + 1, text =>
    match skipTrivia false text with
    | [] => some []
    | text =>
      match statement text with
      | none => none
      | some (first, rest) => (statements limit rest).map (first :: ·)

/-- A document that is being put together: the header that the last assignments
belong to, and everything so far. -/
structure Draft where
  header : List String := []
  entries : Entries := []
deriving Inhabited

/-- Adds a statement to a document. -/
def Draft.add (draft : Draft) : Statement → Option Draft
  | .openTable path key =>
    (draft.entries.openTable path key).map fun entries => { header := path ++ [key], entries }
  | .openNext path key =>
    (draft.entries.openNext path key).map fun entries => { header := path ++ [key], entries }
  | .assign path key value =>
    (draft.entries.setWithin draft.header path key value).map fun entries => { draft with entries }

/-- The text without a byte order mark in front. -/
def dropByteOrderMark : List Char → List Char
  | '\uFEFF' :: rest => rest
  | text => text

/-- The table that a document describes, if it is well formed. -/
def parse (text : String) : Option (List (String × Value)) :=
  let body := dropByteOrderMark text.toList
  match statements (body.length + 1) body with
  | none => none
  | some statements =>
    (statements.foldlM Draft.add {}).map fun draft => valuesOf draft.entries

end InputBridge.Toml
