import InputBridge.Text.Number
import InputBridge.Toml.Character
/-!
# Quoted text in a TOML document

Text stands between double or single quotes, one or three of either. Between
single quotes every character stands for itself; between double quotes a
backslash starts an escape. Three quotes allow line endings, of which the first
is dropped if it comes first of all, and up to two quotes in a row as part of the
text, also directly before the closing quotes. A line ending in the text is a
line feed, however it is written. Between three double quotes a backslash at the
end of a line removes the line ending and all white space after it.

Every reader here takes the text behind the opening quotes and gives the quoted
text and what follows the closing quotes.
-/
namespace InputBridge.Toml

/-- A quoted text and what follows it. -/
abbrev Quotation := Option (List Char × List Char)

/-- Puts a character in front of a quoted text. -/
def Quotation.cons (c : Char) (quotation : Quotation) : Quotation :=
  quotation.map fun (text, rest) => (c :: text, rest)

/-- Puts characters in front of a quoted text. -/
def Quotation.prepend (front : List Char) (quotation : Quotation) : Quotation :=
  quotation.map fun (text, rest) => (front ++ text, rest)

/-- The character that a number of exactly `count` hexadecimal digits stands
for. -/
def characterOf (count : Nat) (digits : List Char) : Option Char :=
  if digits.length = count then
    match Text.readDigits 16 digits with
    | some number => if number.isValidChar then some (Char.ofNat number) else none
    | none => none
  else none

/-- The character that an escape stands for, and how many characters the escape
has behind the backslash. -/
def escape : List Char → Option (Char × Nat)
  | [] => none
  | 'u' :: digits => (characterOf 4 (digits.take 4)).map fun c => (c, 5)
  | 'U' :: digits => (characterOf 8 (digits.take 8)).map fun c => (c, 9)
  | c :: _ =>
    if c == 'b' then some ('\x08', 1)
    else if c == 't' then some ('\t', 1)
    else if c == 'n' then some ('\n', 1)
    else if c == 'f' then some ('\x0C', 1)
    else if c == 'r' then some ('\r', 1)
    else if c == '"' then some ('"', 1)
    else if c == '\\' then some ('\\', 1)
    else none

/-- Text up to one double quote. -/
def basic : List Char → Quotation
  | [] => none
  | '"' :: rest => some ([], rest)
  | '\\' :: rest =>
    match escape rest with
    | none => none
    | some (c, count) => (basic (rest.drop count)).cons c
  | c :: rest => if isBasic c then (basic rest).cons c else none
termination_by text => text.length
decreasing_by all_goals simp +arith

/-- Text up to one single quote. -/
def literal : List Char → Quotation
  | [] => none
  | '\'' :: rest => some ([], rest)
  | c :: rest => if isLiteral c then (literal rest).cons c else none

/-- How many of a character a text starts with. -/
def runLength (c : Char) (text : List Char) : Nat := (text.takeWhile (· == c)).length

/-- The end of text between three quotes, given a run of quotes: up to two of
them are still text. -/
def closing (quote : Char) (text : List Char) : Quotation :=
  let extra := min 2 (runLength quote text - 3)
  some (List.replicate extra quote, text.drop (extra + 3))

/-- A backslash at the end of a line: what follows the white space after it. The
text starts behind the backslash. -/
def continuation? (text : List Char) : Option (List Char) :=
  (newline? (skipBlanks text)).map skipSpace

/-- What follows a line ending is shorter than what there was. -/
theorem length_newline {text rest : List Char} (ended : newline? text = some rest) :
    rest.length < text.length := by
  revert ended
  fun_cases newline? text <;> simp <;> rintro rfl <;> omega

/-- What follows white space is no longer than what there was. -/
theorem length_continuation {text rest : List Char} (continued : continuation? text = some rest) :
    rest.length ≤ text.length := by
  obtain ⟨after, ended, rfl⟩ := Option.map_eq_some_iff.1 continued
  have shorter := length_newline ended
  have blanks : (skipBlanks text).length ≤ text.length := (List.dropWhile_suffix _).length_le
  have space := length_skip_space after
  omega

/-- Text up to three double quotes, behind any line ending that comes first. -/
def multiBasic (text : List Char) : Quotation :=
  match text with
  | [] => none
  | '"' :: rest =>
    if runLength '"' text ≥ 3 then closing '"' text
    else (multiBasic rest).cons '"'
  | '\\' :: rest =>
    match _continued : continuation? rest with
    | some after => multiBasic after
    | none =>
      match escape rest with
      | none => none
      | some (c, count) => (multiBasic (rest.drop count)).cons c
  | '\n' :: rest => (multiBasic rest).cons '\n'
  | '\r' :: '\n' :: rest => (multiBasic rest).cons '\n'
  | c :: rest => if isBasic c then (multiBasic rest).cons c else none
termination_by text.length
decreasing_by
  all_goals try simp +arith
  have shorter := length_continuation ‹_›
  omega

/-- Text up to three single quotes, behind any line ending that comes first. -/
def multiLiteral (text : List Char) : Quotation :=
  match text with
  | [] => none
  | '\'' :: rest =>
    if runLength '\'' text ≥ 3 then closing '\'' text
    else (multiLiteral rest).cons '\''
  | '\n' :: rest => (multiLiteral rest).cons '\n'
  | '\r' :: '\n' :: rest => (multiLiteral rest).cons '\n'
  | c :: rest => if isLiteral c then (multiLiteral rest).cons c else none

/-- Quoted text in any of the four forms, behind its opening quotes. -/
def quotation? : List Char → Quotation
  | '"' :: '"' :: '"' :: rest => multiBasic (dropNewline rest)
  | '"' :: rest => basic rest
  | '\'' :: '\'' :: '\'' :: rest => multiLiteral (dropNewline rest)
  | '\'' :: rest => literal rest
  | _ => none

end InputBridge.Toml
