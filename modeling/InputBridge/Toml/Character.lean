/-!
# Characters of a TOML document

Blanks are the space and the tab. A line ends in a line feed, which a carriage
return may precede; elsewhere a carriage return is an error, as is any other
control character. Comments run from a number sign to the end of the line.
-/
namespace InputBridge.Toml

/-- A space or a tab. -/
def isBlank (c : Char) : Bool := c == ' ' || c == '\t'

/-- A character that may stand in a comment: anything but controls. -/
def isPrintable (c : Char) : Bool :=
  c == '\t' || ('\x20' ≤ c && c != '\x7F')

/-- A character that stands for itself between double quotes. -/
def isBasic (c : Char) : Bool :=
  isPrintable c && c != '"' && c != '\\'

/-- A character that stands for itself between single quotes. -/
def isLiteral (c : Char) : Bool :=
  isPrintable c && c != '\''

/-- A character of a key without quotes. -/
def isBareKey (c : Char) : Bool :=
  ('a' ≤ c && c ≤ 'z') || ('A' ≤ c && c ≤ 'Z') || ('0' ≤ c && c ≤ '9') || c == '-' || c == '_'

/-- A decimal digit. -/
def isDigit (c : Char) : Bool := '0' ≤ c && c ≤ '9'

/-- The text behind any blanks. -/
def skipBlanks (text : List Char) : List Char := text.dropWhile isBlank

/-- The text behind a line ending. -/
def newline? : List Char → Option (List Char)
  | '\n' :: rest => some rest
  | '\r' :: '\n' :: rest => some rest
  | _ => none

/-- The text without a line ending in front. -/
def dropNewline (text : List Char) : List Char := (newline? text).getD text

/-- The text behind blanks and line endings. -/
def skipSpace : List Char → List Char
  | [] => []
  | '\n' :: rest => skipSpace rest
  | '\r' :: '\n' :: rest => skipSpace rest
  | c :: rest => if isBlank c then skipSpace rest else c :: rest

/-- Skipping white space leaves no more than there was. -/
theorem length_skip_space (text : List Char) : (skipSpace text).length ≤ text.length := by
  fun_induction skipSpace text <;> simp_all <;> omega

/-- The text behind a comment, if there is one. -/
def skipComment : List Char → List Char
  | '#' :: rest => rest.dropWhile isPrintable
  | text => text

/-- What follows the rest of a line that holds nothing more than a comment. The
last line need not have an ending. -/
def endOfLine (text : List Char) : Option (List Char) :=
  match skipComment (skipBlanks text) with
  | [] => some []
  | rest => newline? rest

/-- The text behind blanks, line endings and comments. The flag says whether the
text starts inside a comment. -/
def skipTrivia (comment : Bool) : List Char → List Char
  | [] => []
  | '\n' :: rest => skipTrivia false rest
  | '\r' :: '\n' :: rest => skipTrivia false rest
  | c :: rest =>
    if comment then
      if isPrintable c then skipTrivia true rest else c :: rest
    else if c == '#' then skipTrivia true rest
    else if isBlank c then skipTrivia false rest
    else c :: rest

end InputBridge.Toml
