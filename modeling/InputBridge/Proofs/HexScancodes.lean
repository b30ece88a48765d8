import InputBridge.Proofs.KeymapGrammar
import InputBridge.Proofs.KeymapScancodes
/-!
# How a scancode may be written

A scancode in a keymap file is a byte in base sixteen: one or two digits behind an optional
mark. The forms are told here by the characters alone, apart from the reader, which drops the
mark, counts bytes and hands the rest to a reader of numbers. That reader takes a plus sign in
front, so a sign and a single digit also fit into two bytes and are taken for a scancode. The
main statement says that nothing else is, and what becomes of an entry with any other value.

The reader's limit counts bytes of UTF-8. It is no limit on digits until they are known to be
ASCII, so the short texts are told apart by their length first.
-/
namespace InputBridge

namespace Text

/-- The character is the hexadecimal digit of the value, a letter in either case. -/
def HexDigit (c : Char) (value : Nat) : Prop :=
  "0123456789abcdef".toList[value]? = some c ∨ "0123456789ABCDEF".toList[value]? = some c

instance (c : Char) (value : Nat) : Decidable (HexDigit c value) :=
  inferInstanceAs (Decidable (_ ∨ _))

/-- Only characters up to the small letter f have a value. -/
theorem digit_value_ascii (base : Nat) (c : Char) (value : Nat)
    (read : digitValue base c = some value) : c.toNat < 103 := by
  obtain ⟨told, -⟩ := Option.filter_eq_some_iff.mp read
  split at told
  case isTrue range => exact Nat.lt_of_le_of_lt range.2 (by decide)
  case isFalse =>
    split at told
    case isTrue range => exact Nat.lt_of_le_of_lt range.2 (by decide)
    case isFalse =>
      split at told
      case isTrue range => exact Nat.lt_of_le_of_lt range.2 (by decide)
      case isFalse => cases told

/-- The value of a digit is below its base. -/
theorem digit_value_lt (base : Nat) (c : Char) (value : Nat)
    (read : digitValue base c = some value) : value < base :=
  of_decide_eq_true (Option.filter_eq_some_iff.mp read).2

/-- A digit of base sixteen is one of the sixteen in either case. -/
theorem digit_value_hex (c : Char) (value : Nat) :
    digitValue 16 c = some value ↔ HexDigit c value := by
  constructor
  · intro read
    have table : ∀ code < 103, ∀ value < 16, digitValue 16 (Char.ofNat code) = some value →
        HexDigit (Char.ofNat code) value := by decide +kernel
    have listed := table c.toNat (digit_value_ascii 16 c value read) value
      (digit_value_lt 16 c value read)
    rw [Char.ofNat_toNat] at listed
    exact listed read
  · have lower : ∀ value : Fin 16,
        digitValue 16 "0123456789abcdef".toList[value] = some value.val := by decide
    have upper : ∀ value : Fin 16,
        digitValue 16 "0123456789ABCDEF".toList[value] = some value.val := by decide
    rintro (found | found)
    · obtain ⟨small, rfl⟩ := List.getElem?_eq_some_iff.mp found
      exact lower ⟨value, small⟩
    · obtain ⟨small, rfl⟩ := List.getElem?_eq_some_iff.mp found
      exact upper ⟨value, small⟩

/-- One or two hexadecimal digits with the number they make up. -/
inductive HexByte : List Char → Nat → Prop
  | one {c : Char} {value : Nat} (digit : HexDigit c value) : HexByte [c] value
  | two {c d : Char} {high low : Nat} (first : HexDigit c high) (second : HexDigit d low) :
      HexByte [c, d] (16 * high + low)

/-- A number of one digit. -/
theorem read_digits_one (c : Char) (number : Nat) :
    readDigits 16 [c] = some number ↔ HexDigit c number := by
  rw [← digit_value_hex]
  cases read : digitValue 16 c <;> simp [readDigits, readDigitsFrom, read]

/-- A number of two digits. -/
theorem read_digits_two (c d : Char) (number : Nat) :
    readDigits 16 [c, d] = some number ↔ HexByte [c, d] number := by
  constructor
  · intro read
    cases first : digitValue 16 c with
    | none => simp [readDigits, readDigitsFrom, first] at read
    | some high =>
      cases second : digitValue 16 d with
      | none => simp [readDigits, readDigitsFrom, first, second] at read
      | some low =>
        obtain rfl : 16 * high + low = number := by
          simpa [readDigits, readDigitsFrom, first, second, Nat.mul_comm] using read
        exact .two ((digit_value_hex c high).mp first) ((digit_value_hex d low).mp second)
  · rintro (_ | ⟨first, second⟩)
    simp [readDigits, readDigitsFrom, (digit_value_hex _ _).mpr first,
      (digit_value_hex _ _).mpr second, Nat.mul_comm]

/-- A plus sign is no digit. -/
theorem HexDigit.unsigned {c : Char} {value : Nat} (digit : HexDigit c value) : c ≠ '+' := by
  rintro rfl
  have none : digitValue 16 '+' = none := by decide
  exact nomatch none.symm.trans ((digit_value_hex _ _).mpr digit)

/-- Digits alone read as the number they make up. -/
theorem HexByte.read {digits : List Char} {number : Nat} (byte : HexByte digits number) :
    readDigits 16 (dropPlus digits) = some number := by
  cases byte with
  | @one c _ digit =>
    rw [dropPlus.eq_2 [c] (by simpa using digit.unsigned)]
    exact (read_digits_one c number).mpr digit
  | @two c d high low first second =>
    rw [dropPlus.eq_2 [c, d] (by simpa using fun same => absurd same first.unsigned)]
    exact (read_digits_two c d _).mpr (.two first second)

end Text

namespace Keymap

open Text (HexDigit HexByte)

/-- The bytes of a text are at least its characters. -/
theorem length_le_encoded_size (text : List Char) : text.length ≤ encodedSize text := by
  induction text with
  | nil => exact Nat.le_refl 0
  | cons c rest inductionHypothesis =>
    have present := c.utf8Size_pos
    simp only [encodedSize, List.foldr_cons, List.length_cons] at inductionHypothesis ⊢
    omega

/-- A digit takes up one byte. -/
theorem utf8_size_digit {c : Char} {value : Nat} (digit : HexDigit c value) :
    c.utf8Size = 1 := by
  have ascii := Text.digit_value_ascii 16 c value ((Text.digit_value_hex c value).mpr digit)
  refine Char.utf8Size_eq_one_iff.mpr (UInt32.le_iff_toNat_le.mpr ?_)
  exact Nat.le_of_lt_succ (Nat.lt_trans ascii (by decide))

/-- What two bytes can hold of an unsigned number in base sixteen: one or two digits, or a plus
sign and a digit. -/
theorem short_number_exact (digits : List Char) (number : Nat) :
    encodedSize digits ≤ 2 ∧ Text.readDigits 16 (Text.dropPlus digits) = some number ↔
      HexByte digits number ∨ ∃ digit, digits = ['+', digit] ∧ HexDigit digit number := by
  constructor
  · rintro ⟨short, read⟩
    have few := Nat.le_trans (length_le_encoded_size digits) short
    rw [Text.dropPlus.eq_def] at read
    split at read
    case h_1 rest =>
      match rest with
      | [] => exact nomatch read
      | [digit] => exact .inr ⟨digit, rfl, (Text.read_digits_one digit number).mp read⟩
    case h_2 =>
      match digits with
      | [] => exact nomatch read
      | [c] => exact .inl (.one ((Text.read_digits_one c number).mp read))
      | [c, d] => exact .inl ((Text.read_digits_two c d number).mp read)
  · rintro (byte | ⟨digit, rfl, value⟩)
    · refine ⟨?_, byte.read⟩
      cases byte with
      | one digit => simp [encodedSize, utf8_size_digit digit]
      | two first second => simp [encodedSize, utf8_size_digit first, utf8_size_digit second]
    · refine ⟨?_, (Text.read_digits_one digit number).mpr value⟩
      simp only [encodedSize, List.foldr_cons, List.foldr_nil, utf8_size_digit value]
      decide

/-- The mark for base sixteen that may stand in front of a scancode. -/
def HexMark (mark : List Char) : Prop := mark = [] ∨ mark = ['0', 'x'] ∨ mark = ['0', 'X']

/-- A scancode as it is meant to be written: one or two digits behind an optional mark. -/
def PlainScancode (text : List Char) (scancode : UInt8) : Prop :=
  ∃ mark digits, text = mark ++ digits ∧ HexMark mark ∧ HexByte digits scancode.toNat ∧
    scancode ≤ maxScancode

/-- A scancode behind a plus sign, which leaves room for one digit. -/
def SignedScancode (text : List Char) (scancode : UInt8) : Prop :=
  ∃ mark digit, text = mark ++ ['+', digit] ∧ HexMark mark ∧ HexDigit digit scancode.toNat

/-- Dropping the mark takes a mark off the text. -/
theorem hex_mark_dropped (text : List Char) :
    ∃ mark, HexMark mark ∧ text = mark ++ dropHexMark text := by
  rw [dropHexMark.eq_def]
  split
  · exact ⟨['0', 'x'], .inr (.inl rfl), rfl⟩
  · exact ⟨['0', 'X'], .inr (.inr rfl), rfl⟩
  · exact ⟨[], .inl rfl, rfl⟩

/-- A mark is dropped once. What stands for a number does not itself start with a mark. -/
theorem drop_hex_mark_number (mark digits : List Char) (number : Nat) (marked : HexMark mark)
    (held : HexByte digits number ∨ ∃ digit, digits = ['+', digit] ∧ HexDigit digit number) :
    dropHexMark (mark ++ digits) = digits := by
  rcases marked with rfl | rfl | rfl
  · have unmarked (c : Char) (letter : Text.digitValue 16 c = none) (rest : List Char) :
        digits ≠ '0' :: c :: rest := by
      rintro rfl
      rcases held with (_ | ⟨_, second⟩) | ⟨_, signed, _⟩
      · exact nomatch letter.symm.trans ((Text.digit_value_hex c _).mpr second)
      · cases signed
    exact dropHexMark.eq_3 digits (unmarked 'x' (by decide)) (unmarked 'X' (by decide))
  · rfl
  · rfl

/-- Without the mark two bytes are left at most, and they read as the scancode, which leaves
the release bit clear. -/
theorem parse_scancode_number (text : List Char) (scancode : UInt8) :
    parseScancode text = some scancode ↔
      (encodedSize (dropHexMark text) ≤ 2 ∧
        Text.readDigits 16 (Text.dropPlus (dropHexMark text)) = some scancode.toNat) ∧
      scancode ≤ maxScancode := by
  constructor
  · intro parsed
    have bounded := parse_scancode_le text scancode parsed
    simp only [parseScancode] at parsed
    split at parsed
    · cases parsed
    · rename_i short
      obtain ⟨number, read, rfl⟩ := Option.map_eq_some_iff.mp parsed
      obtain ⟨read, small⟩ := Option.filter_eq_some_iff.mp read
      have fits : number < 2 ^ 8 := Nat.lt_of_le_of_lt (of_decide_eq_true small) (by decide)
      rw [UInt8.toNat_ofNat_of_lt' fits]
      exact ⟨⟨Nat.le_of_not_gt short, read⟩, bounded⟩
  · rintro ⟨⟨short, read⟩, bounded⟩
    have small := UInt8.le_iff_toNat_le.mp bounded
    have unsigned : Text.readUnsigned 16 maxScancode.toNat (dropHexMark text) =
        some scancode.toNat := by
      simp [Text.readUnsigned, read, small]
    simp [parseScancode, Nat.not_lt_of_ge short, unsigned]

/-- A text is taken for a scancode exactly if it is written as one, or as a plus sign and a
digit, behind an optional mark either way. -/
theorem parse_scancode_forms (text : List Char) (scancode : UInt8) :
    parseScancode text = some scancode ↔
      PlainScancode text scancode ∨ SignedScancode text scancode := by
  rw [parse_scancode_number, short_number_exact]
  constructor
  · rintro ⟨held, bounded⟩
    obtain ⟨mark, marked, cut⟩ := hex_mark_dropped text
    rcases held with byte | ⟨digit, signed, value⟩
    · exact .inl ⟨mark, _, cut, marked, byte, bounded⟩
    · exact .inr ⟨mark, digit, signed ▸ cut, marked, value⟩
  · rintro (⟨mark, digits, rfl, marked, byte, bounded⟩ | ⟨mark, digit, rfl, marked, value⟩)
    · rw [drop_hex_mark_number mark digits _ marked (.inl byte)]
      exact ⟨.inl byte, bounded⟩
    · have held : HexByte ['+', digit] scancode.toNat ∨
          ∃ signed, ['+', digit] = ['+', signed] ∧ HexDigit signed scancode.toNat :=
        .inr ⟨digit, rfl, value⟩
      rw [drop_hex_mark_number mark _ _ marked held]
      have small := Text.digit_value_lt 16 _ _ ((Text.digit_value_hex digit _).mpr value)
      exact ⟨held, UInt8.le_iff_toNat_le.mpr (Nat.le_trans (Nat.le_of_lt small) (by decide))⟩

/-- No text is written as a scancode and with a sign as well. -/
theorem signed_scancode_other (text : List Char) (scancode other : UInt8)
    (signed : SignedScancode text scancode) : ¬ PlainScancode text other := by
  rintro ⟨mark, digits, cut, marked, byte, -⟩
  obtain ⟨sign, digit, rfl, signMarked, value⟩ := signed
  have dropped := congrArg dropHexMark cut
  rw [drop_hex_mark_number sign _ _ signMarked (.inr ⟨digit, rfl, value⟩),
    drop_hex_mark_number mark digits _ marked (.inl byte)] at dropped
  subst dropped
  generalize other.toNat = number at byte
  cases byte with
  | two first second => exact first.unsigned rfl

/-- A line that is refused for its scancode is refused under its own number. -/
theorem LineFault.scancode_number {number line : Nat} {raw : List Char} {value : String}
    (fault : LineFault number raw (.invalidScancode line value)) : number = line := by
  cases fault
  rfl

/-- In a line for a known key whose first word is followed by one more, that word alone decides
whether the line is an entry. -/
theorem entry_proper_iff (raw content name value : List Char)
    (trimmed : Text.Trimmed raw content) (plain : content.head? ≠ some '#')
    (cut : Text.Words content [name, value]) (known : Key.Known (String.ofList name)) :
    Proper raw ↔ ∃ scancode, parseScancode value = some scancode := by
  obtain ⟨code, found⟩ := (Key.known_iff _).mp known
  cases read : parseScancode value with
  | none =>
    have fault : LineFault 1 raw _ := .scancode trimmed plain cut known read
    simpa using fault.improper
  | some scancode =>
    exact ⟨fun _ => ⟨scancode, rfl⟩, fun _ => ⟨_, .entry trimmed plain cut found read⟩⟩

/-- What is taken for a scancode is written as one, or is a plus sign and a digit, behind an
optional mark either way; so a value is read as it is meant to be exactly if it has no sign. A
keymap file whose first faulty line is due to the value of a known key is refused for that
value, and a value of either form is no fault. -/
theorem scancode_values_exact (value : List Char) :
    (∀ scancode, parseScancode value = some scancode ↔
      PlainScancode value scancode ∨ SignedScancode value scancode) ∧
    ((∀ scancode, parseScancode value = some scancode ↔ PlainScancode value scancode) ↔
      ∀ scancode, ¬ SignedScancode value scancode) ∧
    ∀ (text : String) (before after : List (List Char)) (raw content name : List Char),
      Text.Lines text.toList (before ++ raw :: after) →
      (∀ earlier ∈ before, Proper earlier) →
      Text.Trimmed raw content → content.head? ≠ some '#' →
      Text.Words content [name, value] → Key.Known (String.ofList name) →
        (parse text = .error (.invalidScancode (before.length + 1) (String.ofList value)) ↔
          ∀ scancode, ¬ PlainScancode value scancode ∧ ¬ SignedScancode value scancode) := by
  have forms := parse_scancode_forms value
  refine ⟨forms, ⟨?_, ?_⟩, ?_⟩
  · intro meant scancode signed
    have taken := (forms scancode).mpr (.inr signed)
    exact signed_scancode_other value scancode scancode signed ((meant scancode).mp taken)
  · intro unsigned scancode
    rw [forms, or_iff_left (unsigned scancode)]
  · intro text before after raw content name lines proper trimmed plain cut known
    have decides := entry_proper_iff raw content name value trimmed plain cut known
    have nothing : (∀ scancode, ¬ PlainScancode value scancode ∧ ¬ SignedScancode value scancode) ↔
        parseScancode value = none := by
      rw [Option.eq_none_iff_forall_ne_some]
      exact forall_congr' fun scancode => by rw [ne_eq, forms, not_or]
    rw [nothing]
    constructor
    · intro refused
      obtain ⟨keymap, parsed, -⟩ | ⟨error, parsed, first⟩ := parse_meets text
      · exact nomatch refused.symm.trans parsed
      · obtain rfl := Except.error.inj (refused.symm.trans parsed)
        obtain ⟨front, faulty, rest, split, -, fault⟩ := first
        rw [(Text.lines_exact _ _).mpr lines] at split
        have level : before.length = front.length :=
          Nat.succ.inj fault.scancode_number.symm
        obtain ⟨-, same⟩ := List.append_inj split level
        obtain ⟨rfl, -⟩ := List.cons.inj same
        have improper := mt decides.mpr (LineFault.improper _ raw _ fault)
        exact Option.eq_none_iff_forall_ne_some.mpr (not_exists.mp improper)
    · intro read
      exact parse_first_fault text _ _ lines
        ⟨before, raw, after, rfl, proper, .scancode trimmed plain cut known read⟩

/-- A plus sign and a digit are taken for a scancode, although they are not written as one. -/
theorem signed_digit_accepted :
    (∀ scancode, ¬ PlainScancode ['+', '5'] scancode) ∧
      (parse "KEY_A +5").toOption.bind (fun keymap => keymap.lookup 30) = some 5 := by
  refine ⟨fun scancode => ?_, by decide +kernel⟩
  exact signed_scancode_other _ 5 scancode ⟨[], '5', rfl, .inl rfl, by decide⟩

end Keymap

end InputBridge
