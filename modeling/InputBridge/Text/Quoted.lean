import InputBridge.Text.Unprintable
/-!
# Quoted text

Messages quote values that came from outside so that a reader sees every
character: the text stands between double quotes, a double quote or backslash
inside is escaped, tab, line feed, carriage return and NUL have short escapes,
and every other character without a visible form is written by its number in
base sixteen. A single quote is left alone.
-/
namespace InputBridge.Text

/-- One character as it stands between the quotes. -/
def quotedChar (c : Char) : String :=
  match c with
  | '"' => "\\\""
  | '\\' => "\\\\"
  | '\t' => "\\t"
  | '\r' => "\\r"
  | '\n' => "\\n"
  | '\x00' => "\\0"
  | c =>
    if isUnprintable c then
      "\\u\x7b" ++ String.ofList (Nat.toDigits 16 c.toNat) ++ "\x7d"
    else
      c.toString

/-- A text between double quotes, with every character visible. -/
def quoted (text : String) : String :=
  "\"" ++ String.join (text.toList.map quotedChar) ++ "\""

end InputBridge.Text
