/-!
# Text for terminals

What is reported may quote names that come from devices and files. Some control
characters would not show on a terminal but steer it; they are written by number
instead. Line feeds, tabs and the like pass.
-/
namespace InputBridge.Text

/-- The digits of a small number in base sixteen. -/
def hexDigits (number : Nat) : String := String.ofList (Nat.toDigits 16 number)

/-- A control character that steers a terminal: bell, backspace, form feed, escape
or delete. -/
def steersTerminal (c : Char) : Bool :=
  c == '\x07' || c == '\x08' || c == '\x0c' || c == '\x1b' || c == '\x7f'

/-- The written form of a character on a terminal. Control characters of one byte
take two digits; those beyond ASCII stand in braces. -/
def onTerminal (c : Char) : String :=
  if steersTerminal c then
    (if c.toNat < 0x10 then "\\x0" else "\\x") ++ hexDigits c.toNat
  else if 0x80 ≤ c.toNat ∧ c.toNat ≤ 0x9F then "\\u\x7b" ++ hexDigits c.toNat ++ "\x7d"
  else c.toString

/-- A text with everything that would steer a terminal written by number. -/
def forTerminal (text : String) : String := String.join (text.toList.map onTerminal)

end InputBridge.Text
