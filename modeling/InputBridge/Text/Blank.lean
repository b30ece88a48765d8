/-!
# White space, fields and lines

Text files and typed answers are cut at white space. The class is the Unicode
property White_Space, which is wider than the handful of ASCII blanks, so a
non-breaking or ideographic space separates words as well. A line ends at a line
feed; one carriage return directly before the line feed belongs to the ending.
-/
namespace InputBridge.Text

/-- The code points with the Unicode property White_Space. -/
def isBlank (c : Char) : Bool :=
  let n := c.toNat
  (0x09 ≤ n && n ≤ 0x0D) || n == 0x20 || n == 0x85 || n == 0xA0 || n == 0x1680 ||
    (0x2000 ≤ n && n ≤ 0x200A) || n == 0x2028 || n == 0x2029 || n == 0x202F ||
    n == 0x205F || n == 0x3000

/-- The text without white space at its end. -/
def trimEnd (text : List Char) : List Char :=
  (text.reverse.dropWhile isBlank).reverse

/-- The text without white space at either end. -/
def trim (text : List Char) : List Char :=
  trimEnd (text.dropWhile isBlank)

/-- The characters up to the first white space, and the words after it. The
first component is empty exactly when the text starts with white space or is
empty. -/
def splitWord : List Char → List Char × List (List Char)
  | [] => ([], [])
  | c :: rest =>
    let (word, words) := splitWord rest
    if isBlank c then
      ([], if word.isEmpty then words else word :: words)
    else
      (c :: word, words)

/-- The maximal runs of characters that are not white space, in order. -/
def fields (text : List Char) : List (List Char) :=
  let (word, words) := splitWord text
  if word.isEmpty then words else word :: words

/-- The lines of a text without their endings. What follows the last line feed
is a line only if it holds a character, so a final line feed opens no empty
line. -/
def lines : List Char → List (List Char)
  | [] => []
  | '\n' :: rest => [] :: lines rest
  | '\r' :: '\n' :: rest => [] :: lines rest
  | c :: rest =>
    match lines rest with
    | [] => [[c]]
    | line :: more => (c :: line) :: more

/-- The pieces between the occurrences of a separator. There is always one piece
more than there are separators, so an empty text has one empty piece. -/
def pieces (separator : Char) : List Char → List (List Char)
  | [] => [[]]
  | c :: rest =>
    if c = separator then
      [] :: pieces separator rest
    else
      match pieces separator rest with
      | [] => [[c]]
      | piece :: more => (c :: piece) :: more

end InputBridge.Text
