import InputBridge.Text.Alphabetic
import InputBridge.Text.Numeric
/-!
# Letters and digits

Some texts have to begin with a letter or a numeral, or may hold nothing else.
Both are meant in the widest sense, over all scripts.
-/
namespace InputBridge.Text

/-- A letter or a numeral of any script. -/
def isAlphanumeric (c : Char) : Bool := isAlphabetic c || isNumeric c

end InputBridge.Text
