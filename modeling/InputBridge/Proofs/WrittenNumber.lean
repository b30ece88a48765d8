import InputBridge.Toml.Date
import InputBridge.Toml.Printer
/-!
# A number that is written reads back

A number is written in decimal on a line of its own, so it is followed by a line feed. The reader
has to tell it from a date, a time, a number in another base and a floating-point number. What
follows the digits of any of those is a mark of its own, and behind the digits here there is
nothing but the line feed.
-/
namespace InputBridge.Toml

/-- A character that is told is unlike one that is not. -/
theorem ne_of_told (tells : Char → Bool) {c other : Char} (told : tells c = true)
    (untold : tells other = false) : c ≠ other := by
  rintro rfl
  exact absurd (told.symm.trans untold) (by decide)

/-- The digits of a number in decimal. -/
theorem digits_decimal (number : Nat) (c : Char) (listed : c ∈ Nat.toDigits 10 number) :
    isDigit c = true := by
  have digit := Nat.isDigit_of_mem_toDigits (by decide) (Nat.le_refl 10) listed
  simpa [isDigit, Char.isDigit, Char.le_def] using digit

/-- Digits read behind a number continue it. -/
theorem read_digits_append (base value : Nat) (front back : List Char) :
    Text.readDigitsFrom base value (front ++ back) =
      (Text.readDigitsFrom base value front).bind (Text.readDigitsFrom base · back) := by
  induction front generalizing value with
  | nil => rfl
  | cons c rest inductionHypothesis =>
    rw [List.cons_append, Text.readDigitsFrom, Text.readDigitsFrom]
    cases Text.digitValue base c with
    | none => rfl
    | some digit => exact inductionHypothesis _

/-- A digit has its value. -/
theorem digit_value_of_digit (digit : Nat) (small : digit < 10) :
    Text.digitValue 10 digit.digitChar = some digit := by
  have table : ∀ digit < 10, Text.digitValue 10 digit.digitChar = some digit := by decide
  exact table digit small

/-- A number in decimal has the value of its digits. -/
theorem digits_value (number : Nat) :
    Text.readDigitsFrom 10 0 (Nat.toDigits 10 number) = some number := by
  induction number using Nat.strongRecOn with
  | ind number inductionHypothesis =>
    by_cases single : number < 10
    · rw [Nat.toDigits_of_lt_base single, Text.readDigitsFrom, digit_value_of_digit number single]
      simp [Text.readDigitsFrom]
    · have least := Nat.le_of_not_lt single
      have last := digit_value_of_digit (number % 10) (Nat.mod_lt number (by decide))
      rw [Nat.toDigits_of_base_le (by decide) least, read_digits_append,
        inductionHypothesis (number / 10) (by omega), Option.bind_some, Text.readDigitsFrom, last]
      simp only [Text.readDigitsFrom]
      rw [Nat.mul_comm, Nat.div_add_mod]

/-- Only nought starts with the digit nought. -/
theorem leading_nought (number : Nat) (rest : List Char)
    (leading : Nat.toDigits 10 number = '0' :: rest) : number = 0 := by
  induction number using Nat.strongRecOn generalizing rest with
  | ind number inductionHypothesis =>
    by_cases single : number < 10
    · have table : ∀ digit < 10, digit.digitChar = '0' → digit = 0 := by decide
      rw [Nat.toDigits_of_lt_base single] at leading
      exact table number single (List.cons.inj leading).1
    · have least := Nat.le_of_not_lt single
      rw [Nat.toDigits_of_base_le (by decide) least] at leading
      cases front : Nat.toDigits 10 (number / 10) with
      | nil => exact absurd front Nat.toDigits_ne_nil
      | cons c behind =>
        rw [front] at leading
        obtain rfl := (List.cons.inj leading).1
        have none := inductionHypothesis (number / 10) (by omega) behind front
        omega

section LineEnd

variable (digits rest : List Char) (decimal : ∀ c ∈ digits, isDigit c = true)

include decimal

/-- The digits in front of a line feed. -/
theorem digit_run_reads (started : Bool) (present : started = true ∨ digits ≠ []) :
    digitRun isDigit started (digits ++ '\n' :: rest) = some (digits, '\n' :: rest) := by
  induction digits generalizing started with
  | nil =>
    have begun : started = true := present.resolve_right (fun some => some rfl)
    rw [begun]
    rfl
  | cons c behind inductionHypothesis =>
    obtain ⟨first, others⟩ := List.forall_mem_cons.mp decimal
    rw [List.cons_append, digitRun, if_pos first, inductionHypothesis others true (.inl rfl)]
    rfl

/-- A fixed number of digits in front of a line feed is followed by a digit or by the feed. -/
theorem fixed_digits_behind (count value : Nat) (after : List Char)
    (read : fixedDigits count (digits ++ '\n' :: rest) = some (value, after)) (mark : Char)
    (noDigit : isDigit mark = false) (noFeed : mark ≠ '\n') : after.head? ≠ some mark := by
  simp only [fixedDigits, Option.ite_none_right_eq_some, Bool.and_eq_true, decide_eq_true_eq,
    Option.some.injEq, Prod.mk.injEq] at read
  obtain ⟨⟨full, digital⟩, -, rfl⟩ := read
  have within : count ≤ digits.length := by
    refine Nat.le_of_not_lt fun tooMany => ?_
    obtain ⟨more, beyond⟩ : ∃ more, count - digits.length = more + 1 :=
      ⟨count - digits.length - 1, by omega⟩
    rw [List.take_append, beyond, List.take_succ_cons, List.all_append, List.all_cons] at digital
    simp [show isDigit '\n' = false from rfl] at digital
  rw [List.drop_append_of_le_length within]
  cases left : digits.drop count with
  | nil => exact fun same => noFeed (Option.some.inj same).symm
  | cons c behind =>
    have listed : c ∈ digits := List.mem_of_mem_drop (left ▸ List.mem_cons_self)
    exact mt Option.some.inj (ne_of_told isDigit (decimal c listed) noDigit)

/-- Digits in front of a line feed are no date. -/
theorem starts_no_date : startsDate (digits ++ '\n' :: rest) = false := by
  rw [startsDate]
  split
  case h_1 value after read =>
    exact absurd rfl (fixed_digits_behind digits rest decimal 4 value _ read '-' rfl (by decide))
  case h_2 => rfl

/-- Digits in front of a line feed are no time. -/
theorem starts_no_time : startsTime (digits ++ '\n' :: rest) = false := by
  rw [startsTime]
  split
  case h_1 value after read =>
    obtain ⟨read, -⟩ := Option.filter_eq_some_iff.mp read
    exact absurd rfl (fixed_digits_behind digits rest decimal 2 value _ read ':' rfl (by decide))
  case h_2 => rfl

end LineEnd

/-- The digits of a number are read up to the line feed, with a nought standing alone. -/
theorem decimal_digits_reads (number : Nat) (rest : List Char) :
    decimalDigits (Nat.toDigits 10 number ++ '\n' :: rest) =
      some (Nat.toDigits 10 number, '\n' :: rest) := by
  by_cases nought : number = 0
  · rw [nought]
    rfl
  · rw [decimalDigits]
    · exact digit_run_reads _ rest (digits_decimal number) false (.inr Nat.toDigits_ne_nil)
    · intro behind leading
      cases digits : Nat.toDigits 10 number with
      | nil => exact absurd digits Nat.toDigits_ne_nil
      | cons c others =>
        rw [digits] at leading
        obtain rfl := (List.cons.inj leading).1
        exact nought (leading_nought number others digits)

/-- The first digit of a number. -/
theorem first_digit (number : Nat) :
    ∃ c others, Nat.toDigits 10 number = c :: others ∧ isDigit c = true := by
  cases digits : Nat.toDigits 10 number with
  | nil => exact absurd digits Nat.toDigits_ne_nil
  | cons c others =>
    exact ⟨c, others, rfl, digits_decimal number c (digits ▸ List.mem_cons_self)⟩

/-- A number does not start with a mark that is no digit. -/
theorem starts_unlike (number : Nat) (behind rest : List Char) (mark : Char)
    (noDigit : isDigit mark = false) : Nat.toDigits 10 number ++ behind ≠ mark :: rest := by
  obtain ⟨c, others, digits, first⟩ := first_digit number
  intro same
  rw [digits] at same
  exact ne_of_told isDigit first noDigit (List.cons.inj same).1

/-- A number that fits into sixty-four bits reads back in front of a line feed. -/
theorem decimal_reads (number : Nat) (rest : List Char) (fits : number ≤ 9223372036854775807) :
    decimal (Nat.toDigits 10 number ++ '\n' :: rest) =
      some (.integer number, '\n' :: rest) := by
  have unlike := starts_unlike number ('\n' :: rest)
  have unsigned : takeSign (Nat.toDigits 10 number ++ '\n' :: rest) =
      (false, Nat.toDigits 10 number ++ '\n' :: rest) := by
    rw [takeSign]
    · exact fun behind => unlike behind '-' rfl
    · exact fun behind => unlike behind '+' rfl
  have noWord : floatWord? (Nat.toDigits 10 number ++ '\n' :: rest) = none := by
    rw [floatWord?]
    · exact fun behind => unlike _ 'i' rfl
    · exact fun behind => unlike _ 'n' rfl
  have value : valueOf 10 (Nat.toDigits 10 number) = number := by
    rw [valueOf, digits_value, Option.getD_some]
  have integer : integerOf false number = some (.integer number) := by
    simp only [integerOf, Bool.false_eq_true, if_false]
    rw [if_pos (by omega)]
  have noFraction : fraction ('\n' :: rest) = some ([], '\n' :: rest) := rfl
  have noExponent : exponent ('\n' :: rest) = some (0, '\n' :: rest) := rfl
  simp only [decimal, unsigned, noWord, decimal_digits_reads, value, noFraction, noExponent,
    if_true, integer, Option.map_some]

/-- Behind a nought in front there is only the line feed. -/
theorem no_base_mark (number : Nat) (rest behind : List Char) (mark : Char)
    (noFeed : mark ≠ '\n') :
    Nat.toDigits 10 number ++ '\n' :: rest ≠ '0' :: mark :: behind := by
  intro same
  obtain ⟨c, others, digits, -⟩ := first_digit number
  rw [digits] at same
  rw [(List.cons.inj same).1] at digits same
  have nought := leading_nought number others digits
  rw [nought, Nat.toDigits_zero] at digits
  rw [← (List.cons.inj digits).2] at same
  exact noFeed (List.cons.inj (List.cons.inj same).2).1.symm

/-- A written number is in decimal notation. -/
theorem number_reads (value : Nat) (rest : List Char) (fits : value ≤ 9223372036854775807) :
    number (Nat.toDigits 10 value ++ '\n' :: rest) = some (.integer value, '\n' :: rest) := by
  have noMark := no_base_mark value rest
  rw [number]
  · exact decimal_reads value rest fits
  · exact fun behind => noMark behind 'x' (by decide)
  · exact fun behind => noMark behind 'o' (by decide)
  · exact fun behind => noMark behind 'b' (by decide)

end InputBridge.Toml
