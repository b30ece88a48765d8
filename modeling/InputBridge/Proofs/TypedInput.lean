import InputBridge.Console
import InputBridge.Proofs.WordsAndLines
/-!
# Typed input

What is typed is bytes in lines. A line ends with the first line feed, which belongs to it; what is
typed behind the last line feed is a line too, unless it is nothing. There is one way to cut bytes
into lines, and reading a line takes the first.

A line holds a number if it is text and nothing is in it but decimal digits, white space around them
and at most one plus sign in front, and if the number fits into sixty-four bits.
-/
namespace InputBridge

namespace Text

/-- The bytes cut into lines. -/
inductive TypedLines : Bytes → List Bytes → Prop where
  | nothing : TypedLines [] []
  /-- The last line, if no line feed ends it. -/
  | last {line : Bytes} (present : line ≠ []) (unended : 10 ∉ line) : TypedLines line [line]
  | ended {front rest : Bytes} {lines : List Bytes} (first : 10 ∉ front)
      (behind : TypedLines rest lines) :
      TypedLines (front ++ 10 :: rest) ((front ++ [10]) :: lines)

/-- The lines are the bytes. -/
theorem TypedLines.flatten {bytes : Bytes} {lines : List Bytes} (cut : TypedLines bytes lines) :
    lines.flatten = bytes := by
  induction cut with
  | nothing => rfl
  | last => simp
  | ended first behind inductionHypothesis => simp [inductionHypothesis]

/-- Bytes without a line feed are one line. -/
theorem take_line_open (bytes : Bytes) (unended : 10 ∉ bytes) : takeLine bytes = (bytes, []) := by
  induction bytes with
  | nil => rfl
  | cons byte rest inductionHypothesis =>
    obtain ⟨other, later⟩ := not_or.mp (mt List.mem_cons.mpr unended)
    rw [takeLine, if_neg (Ne.symm other), inductionHypothesis later]

/-- A line goes up to its line feed. -/
theorem take_line_ended (front rest : Bytes) (first : 10 ∉ front) :
    takeLine (front ++ 10 :: rest) = (front ++ [10], rest) := by
  induction front with
  | nil => simp [takeLine]
  | cons byte front inductionHypothesis =>
    obtain ⟨other, later⟩ := not_or.mp (mt List.mem_cons.mpr first)
    rw [List.cons_append, takeLine, if_neg (Ne.symm other), inductionHypothesis later]
    rfl

/-- Bytes that go on start with the line that is taken first. -/
theorem typed_lines_cons {bytes : Bytes} {lines : List Bytes} (cut : TypedLines bytes lines)
    (more : bytes ≠ []) :
    ∃ rest, lines = (takeLine bytes).1 :: rest ∧ TypedLines (takeLine bytes).2 rest := by
  cases cut with
  | nothing => exact absurd rfl more
  | last present unended =>
    rw [take_line_open _ unended]
    exact ⟨[], rfl, .nothing⟩
  | ended first behind =>
    rw [take_line_ended _ _ first]
    exact ⟨_, rfl, behind⟩

/-- Where there are no bytes there are no lines. -/
theorem typed_lines_nil {bytes : Bytes} {lines : List Bytes} (cut : TypedLines bytes lines)
    (nothing : bytes = []) : lines = [] := by
  cases cut with
  | nothing => rfl
  | last present => exact absurd nothing present
  | ended => simp at nothing

/-- Bytes can be cut into lines in one way. -/
theorem typed_lines_unique {bytes : Bytes} {one other : List Bytes} (first : TypedLines bytes one)
    (second : TypedLines bytes other) : one = other := by
  induction first generalizing other with
  | nothing => exact (typed_lines_nil second rfl).symm
  | last present unended =>
    obtain ⟨rest, rfl, behind⟩ := typed_lines_cons second present
    rw [take_line_open _ unended] at behind ⊢
    rw [typed_lines_nil behind rfl]
  | @ended front rest lines first behind inductionHypothesis =>
    have more : front ++ 10 :: rest ≠ [] := by simp
    obtain ⟨others, rfl, behindOther⟩ := typed_lines_cons second more
    rw [take_line_ended _ _ first] at behindOther ⊢
    rw [inductionHypothesis behindOther]

/-- All bytes can be cut into lines. -/
theorem typed_lines_exist (bytes : Bytes) : ∃ lines, TypedLines bytes lines := by
  induction bytes with
  | nil => exact ⟨[], .nothing⟩
  | cons byte rest inductionHypothesis =>
    obtain ⟨lines, cut⟩ := inductionHypothesis
    by_cases feed : byte = 10
    · subst feed
      exact ⟨[10] :: lines, @TypedLines.ended [] rest lines List.not_mem_nil cut⟩
    · have other (line : Bytes) (unended : 10 ∉ line) : 10 ∉ byte :: line := by
        simp [unended, Ne.symm feed]
      cases cut with
      | nothing => exact ⟨[[byte]], .last (by simp) (other [] List.not_mem_nil)⟩
      | last present unended => exact ⟨[byte :: rest], .last (by simp) (other rest unended)⟩
      | @ended front behind lines first cut =>
        exact ⟨(byte :: front ++ [10]) :: lines, .ended (other front first) cut⟩

/-- A decimal digit. -/
abbrev DecimalDigit (c : Char) : Prop := '0' ≤ c ∧ c ≤ '9'

/-- The number that decimal digits write. -/
def decimalValue (digits : List Char) : Nat :=
  digits.foldl (fun number digit => number * 10 + (digit.toNat - '0'.toNat)) 0

/-- There are digits, and they write a number that fits into sixty-four bits. -/
structure Decimal (digits : List Char) (number : Nat) : Prop where
  present : digits ≠ []
  digit : ∀ c ∈ digits, DecimalDigit c
  value : decimalValue digits = number
  fits : number < UInt64.size

/-- The line holds a number and nothing else. -/
inductive TypedNumber (line : String) (number : Nat) : Prop where
  | plain {digits : List Char} (trimmed : Trimmed line.toList digits)
      (decimal : Decimal digits number)
  | signed {digits : List Char} (trimmed : Trimmed line.toList ('+' :: digits))
      (decimal : Decimal digits number)

/-- The decimal digits have their values from zero on, and nothing else has one in base ten. -/
theorem digit_value_ten (c : Char) (value : Nat) :
    digitValue 10 c = some value ↔ DecimalDigit c ∧ c.toNat - '0'.toNat = value := by
  by_cases decimal : DecimalDigit c
  · have small : c.toNat - '0'.toNat < 10 := by
      have upper : c.toNat ≤ '9'.toNat := decimal.2
      have nine : '9'.toNat = 57 := rfl
      have nought : '0'.toNat = 48 := rfl
      omega
    have known : digitValue 10 c = some (c.toNat - '0'.toNat) := by
      rw [digitValue, if_pos decimal, Option.filter_some, if_pos (decide_eq_true small)]
    rw [known, Option.some.injEq]
    exact (and_iff_right decimal).symm
  · refine iff_of_false (fun read => ?_) fun ⟨digit, _⟩ => decimal digit
    -- The value of a letter is ten or more, and no other character has one.
    rw [digitValue, if_neg decimal, Option.filter_eq_some_iff, decide_eq_true_iff] at read
    obtain ⟨told, small⟩ := read
    split at told
    · have letter := Option.some.inj told
      omega
    · split at told
      · have letter := Option.some.inj told
        omega
      · cases told

/-- Only decimal digits are read, each behind ten times the number so far. -/
theorem read_digits_from_iff (start number : Nat) (digits : List Char) :
    readDigitsFrom 10 start digits = some number ↔
      (∀ c ∈ digits, DecimalDigit c) ∧
        digits.foldl (fun number digit => number * 10 + (digit.toNat - '0'.toNat)) start =
          number := by
  induction digits generalizing start with
  | nil => simp [readDigitsFrom]
  | cons c rest inductionHypothesis =>
    rw [readDigitsFrom, List.forall_mem_cons, List.foldl_cons]
    cases read : digitValue 10 c with
    | none =>
      have other : ¬ DecimalDigit c := fun digit =>
        nomatch read.symm.trans ((digit_value_ten c _).mpr ⟨digit, rfl⟩)
      simp [other]
    | some value =>
      obtain ⟨digit, rfl⟩ := (digit_value_ten c value).mp read
      rw [and_iff_right digit]
      exact inductionHypothesis _

/-- Digits are read as the number they write. -/
theorem read_digits_iff (digits : List Char) (number : Nat) :
    readDigits 10 digits = some number ↔
      digits ≠ [] ∧ (∀ c ∈ digits, DecimalDigit c) ∧ decimalValue digits = number := by
  cases digits with
  | nil => simp [readDigits]
  | cons c rest =>
    rw [readDigits, List.isEmpty_cons, if_neg Bool.false_ne_true, read_digits_from_iff,
      decimalValue]
    simp

/-- A number may be written with a plus sign in front or without. -/
theorem read_unsigned_iff (text : List Char) (number : Nat) :
    readUnsigned 10 maxIndex text = some number ↔
      Decimal text number ∨ ∃ digits, text = '+' :: digits ∧ Decimal digits number := by
  have fits : number ≤ maxIndex ↔ number < UInt64.size := Nat.le_iff_lt_add_one
  have decimal (digits : List Char) :
      readDigits 10 digits = some number ∧ number ≤ maxIndex ↔ Decimal digits number := by
    rw [read_digits_iff, fits]
    exact ⟨fun ⟨⟨present, digit, value⟩, small⟩ => ⟨present, digit, value, small⟩,
      fun ⟨present, digit, value, small⟩ => ⟨⟨present, digit, value⟩, small⟩⟩
  have plus : ¬ DecimalDigit '+' := by simp [DecimalDigit]
  rw [readUnsigned, Option.filter_eq_some_iff, decide_eq_true_iff, decimal]
  by_cases signed : ∃ digits, text = '+' :: digits
  · obtain ⟨digits, rfl⟩ := signed
    have unsigned : ¬ Decimal ('+' :: digits) number := fun decimal =>
      plus (decimal.digit '+' List.mem_cons_self)
    simp [dropPlus, unsigned]
  · have same : dropPlus text = text := by
      rw [dropPlus]
      exact fun digits is => signed ⟨digits, is⟩
    rw [same]
    refine (or_iff_left ?_).symm
    rintro ⟨digits, is, -⟩
    exact signed ⟨digits, is⟩

end Text

/-- A line is read as the number that it holds. -/
theorem Console.number_of_iff (line : String) (number : Nat) :
    numberOf line = some number ↔ Text.TypedNumber line number := by
  rw [numberOf, Text.read_unsigned_iff]
  constructor
  · rintro (decimal | ⟨digits, signed, decimal⟩)
    · exact .plain ((Text.trim_exact _ _).mp rfl) decimal
    · exact .signed ((Text.trim_exact _ _).mp signed) decimal
  · rintro (⟨trimmed, decimal⟩ | ⟨trimmed, decimal⟩)
    · exact .inl ((Text.trim_exact _ _).mpr trimmed ▸ decimal)
    · exact .inr ⟨_, (Text.trim_exact _ _).mpr trimmed, decimal⟩

end InputBridge
