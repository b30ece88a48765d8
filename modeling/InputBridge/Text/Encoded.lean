/-!
# Bytes and text

Files and typed input are bytes. They are text if they are well-formed UTF-8,
and only then can they be read. Typed input is read a line at a time; a line
includes the line feed that ends it, and the last line may lack one. A reader with
room for so many bytes may get a text of which the end is missing.
-/
namespace InputBridge.Text

/-- Bytes of a file or of typed input. -/
abbrev Bytes := List UInt8

/-- The bytes of a text. -/
def encode (text : String) : Bytes := text.toUTF8.data.toList

/-- The text that bytes encode, if they are well-formed. -/
def decode (bytes : Bytes) : Option String :=
  String.fromUTF8? ⟨bytes.toArray⟩

/-- How many bytes encode a text. -/
def size (text : List Char) : Nat :=
  text.foldr (fun c total => c.utf8Size + total) 0

/-- The characters of a text that begin in its first bytes, so many of them. -/
def takeBytes : Nat → List Char → List Char
  | 0, _ | _, [] => []
  | count, c :: rest => c :: takeBytes (count - c.utf8Size) rest

/-- The characters of a text that begin behind its first bytes, so many of them. -/
def dropBytes : Nat → List Char → List Char
  | 0, text => text
  | _, [] => []
  | count, c :: rest => dropBytes (count - c.utf8Size) rest

/-- What is read of a text of which only the first bytes, so many of them, are
handed over. A character that is cut through is read as the replacement
character. -/
def readFront : Nat → List Char → List Char
  | _, [] => []
  | 0, _ => []
  | size, c :: rest =>
    if c.utf8Size ≤ size then c :: readFront (size - c.utf8Size) rest else ['\uFFFD']

/-- The bytes of a text encode that text. -/
theorem decode_encode (text : String) : decode (encode text) = some text := by
  have same : (⟨(encode text).toArray⟩ : ByteArray) = text.toByteArray := rfl
  simp only [decode, same, String.fromUTF8?, dif_pos text.isValidUTF8]
  rfl

/-- The first line of some bytes, with its line feed, and what follows it. -/
def takeLine : Bytes → Bytes × Bytes
  | [] => ([], [])
  | byte :: rest =>
    if byte = 10 then ([byte], rest)
    else
      let (line, after) := takeLine rest
      (byte :: line, after)

/-- A line uses up at least one byte. -/
theorem length_take_line_lt {bytes : Bytes} (nonempty : bytes ≠ []) :
    (takeLine bytes).2.length < bytes.length := by
  fun_induction takeLine bytes with
  | case1 => contradiction
  | case2 => simp
  | case3 byte rest _ line after split ih =>
    cases rest with
    | nil => simp [takeLine] at split; simp [← split.2]
    | cons => have shorter := ih (by simp); simp [split] at shorter ⊢; omega

end InputBridge.Text
