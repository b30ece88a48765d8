import Mathlib.Data.List.Forall2
import InputBridge.LogLevel
import InputBridge.Proofs.TypedInput
/-!
# How a threshold is written

A threshold is written as its word, each letter small or capital, or as the number of how much
detail it allows: decimal digits, as many noughts in front as one likes, and at most one plus sign
before them. A text is read as the threshold that it is written for. It is written for no other:
no two words and no two numbers are the same, and a word does not start as a number does.
-/
namespace InputBridge

namespace Text

/-- The small letter itself or its capital, which has its place 32 before it. -/
def EitherCase (letter c : Char) : Prop := c = letter ∨ c.toNat + 32 = letter.toNat

/-- The small letters from a to z. -/
theorem small_range (letter : Char) (small : letter.isLower = true) :
    97 ≤ letter.toNat ∧ letter.toNat ≤ 122 := by
  obtain ⟨first, last⟩ := Bool.and_eq_true_iff.mp small
  exact ⟨of_decide_eq_true first, of_decide_eq_true last⟩

/-- Only a small letter and its capital become that letter. -/
theorem to_lower_iff (letter c : Char) (small : letter.isLower = true) :
    c.toLower = letter ↔ EitherCase letter c := by
  have range := small_range letter small
  by_cases capital : c.val ≥ 'A'.val ∧ c.val ≤ 'Z'.val
  · have lower : 65 ≤ c.toNat := capital.1
    have upper : c.toNat ≤ 90 := capital.2
    have lowered : c.toLower.val = c.val + ('a'.val - 'A'.val) :=
      congrArg Char.val (dif_pos capital)
    have moved : c.toLower.toNat = c.toNat + 32 := by
      have distance : ('a'.val - 'A'.val).toNat = 32 := rfl
      have small : c.toNat + 32 < 2 ^ 32 := by omega
      rw [Char.toNat, lowered, UInt32.toNat_add, distance]
      exact Nat.mod_eq_of_lt small
    rw [EitherCase, ← Char.toNat_inj, moved, or_iff_right (by rintro rfl; omega)]
  · -- Only a capital has its place 32 before a small letter.
    have kept : c.toLower = c := dif_neg capital
    rw [kept, EitherCase]
    refine (or_iff_left fun before => capital ?_).symm
    have lower : 65 ≤ c.toNat := by omega
    have upper : c.toNat ≤ 90 := by omega
    exact ⟨lower, upper⟩

/-- A small letter in either case is neither a digit nor a plus sign. -/
theorem EitherCase.no_number {letter c : Char} (same : EitherCase letter c)
    (small : letter.isLower = true) : ¬ DecimalDigit c ∧ c ≠ '+' := by
  have range := small_range letter small
  have letters : 65 ≤ c.toNat := by
    obtain rfl | capital := same <;> omega
  constructor
  · rintro ⟨-, nine⟩
    have upper : c.toNat ≤ 57 := nine
    omega
  · rintro rfl
    have plus : '+'.toNat = 43 := rfl
    omega

/-- The texts that become a word of small letters are those that have its letters in either
case. -/
theorem map_to_lower_iff (word text : List Char) (small : ∀ letter ∈ word, letter.isLower = true) :
    text.map Char.toLower = word ↔ List.Forall₂ EitherCase word text := by
  induction word generalizing text with
  | nil => cases text <;> simp
  | cons letter rest inductionHypothesis =>
    obtain ⟨first, others⟩ := List.forall_mem_cons.mp small
    cases text with
    | nil => simp
    | cons c text =>
      rw [List.map_cons, List.cons.injEq, to_lower_iff letter c first,
        inductionHypothesis text others, List.forall₂_cons]

end Text

namespace Threshold

/-- The text is written for the threshold. -/
inductive Written (threshold : Threshold) (text : List Char) : Prop where
  | word (letters : List.Forall₂ Text.EitherCase threshold.word.toList text)
  | plain (decimal : Text.Decimal text threshold.detail)
  | signed {digits : List Char} (sign : text = '+' :: digits)
      (decimal : Text.Decimal digits threshold.detail)

/-- The words for thresholds consist of small letters. -/
theorem word_small (threshold : Threshold) :
    ∀ letter ∈ threshold.word.toList, letter.isLower = true := by
  have all : threshold.word.toList.all Char.isLower = true := by cases threshold <;> decide
  exact List.all_eq_true.mp all

/-- The thresholds are listed by how much detail they allow. -/
theorem all_get_iff (number : Nat) (threshold : Threshold) :
    all[number]? = some threshold ↔ threshold.detail = number := by
  rcases number with _ | _ | _ | _ | _ | _ | number <;> cases threshold <;> simp [all, detail]

/-- A text that becomes a word is that of one threshold. -/
theorem find_word_iff (lowered : List Char) (threshold : Threshold) :
    (all.find? fun threshold => threshold.word.toList == lowered) = some threshold ↔
      lowered = threshold.word.toList := by
  constructor
  · intro found
    have same := List.find?_some found
    exact (eq_of_beq same).symm
  · rintro rfl
    cases threshold <;> decide

/-- A word is not read as a number. -/
theorem word_unread (threshold : Threshold) (text : List Char)
    (letters : List.Forall₂ Text.EitherCase threshold.word.toList text) :
    Text.readUnsigned 10 Text.maxIndex text = none := by
  obtain ⟨letter, rest, opening⟩ : ∃ letter rest, threshold.word.toList = letter :: rest := by
    cases threshold <;> exact ⟨_, _, rfl⟩
  have small : letter.isLower = true :=
    threshold.word_small letter (opening ▸ List.mem_cons_self)
  rw [opening] at letters
  obtain ⟨c, others, first, -, rfl⟩ := List.forall₂_cons_left_iff.mp letters
  obtain ⟨noDigit, noSign⟩ := first.no_number small
  refine Option.eq_none_iff_forall_ne_some.mpr fun number read => ?_
  obtain decimal | ⟨digits, sign, -⟩ := (Text.read_unsigned_iff _ number).mp read
  · exact noDigit (decimal.digit c List.mem_cons_self)
  · exact noSign (List.cons.inj sign).1

/-- A text is read as the threshold that it is written for. -/
theorem of_text_iff (text : List Char) (threshold : Threshold) :
    ofText? text = some threshold ↔ threshold.Written text := by
  have spelled : (text.map Char.toLower = threshold.word.toList) ↔
      List.Forall₂ Text.EitherCase threshold.word.toList text :=
    Text.map_to_lower_iff _ _ threshold.word_small
  rw [ofText?]
  cases read : Text.readUnsigned 10 Text.maxIndex text with
  | none =>
    have unread (number : Nat) : ¬ (Text.Decimal text number ∨
        ∃ digits, text = '+' :: digits ∧ Text.Decimal digits number) := by
      rw [← Text.read_unsigned_iff, read]
      exact (Option.some_ne_none number).symm
    rw [find_word_iff, spelled]
    constructor
    · exact .word
    · rintro (letters | decimal | ⟨sign, decimal⟩)
      · exact letters
      · exact absurd (.inl decimal) (unread _)
      · exact absurd (.inr ⟨_, sign, decimal⟩) (unread _)
  | some number =>
    rw [all_get_iff]
    constructor
    · rintro rfl
      obtain decimal | ⟨digits, sign, decimal⟩ := (Text.read_unsigned_iff _ _).mp read
      · exact .plain decimal
      · exact .signed sign decimal
    · intro written
      have same : Text.readUnsigned 10 Text.maxIndex text = some threshold.detail := by
        obtain letters | decimal | ⟨sign, decimal⟩ := written
        · have unread := threshold.word_unread text letters
          exact absurd (read.symm.trans unread) (Option.some_ne_none number)
        · exact (Text.read_unsigned_iff _ _).mpr (.inl decimal)
        · exact (Text.read_unsigned_iff _ _).mpr (.inr ⟨_, sign, decimal⟩)
      exact (Option.some.inj (read.symm.trans same)).symm

/-- The texts that are written for some threshold, without a table of thresholds. -/
theorem written_iff (text : List Char) :
    (∃ threshold : Threshold, threshold.Written text) ↔
      (∃ word ∈ ["off", "error", "warn", "info", "debug", "trace"],
        List.Forall₂ Text.EitherCase word.toList text) ∨
      ∃ digits number, (text = digits ∨ text = '+' :: digits) ∧ Text.Decimal digits number ∧
        number ≤ 5 := by
  have bounded (threshold : Threshold) : threshold.detail ≤ 5 := by cases threshold <;> decide
  constructor
  · rintro ⟨threshold, letters | decimal | ⟨sign, decimal⟩⟩
    · exact .inl ⟨threshold.word, by cases threshold <;> simp [word], letters⟩
    · exact .inr ⟨text, _, .inl rfl, decimal, bounded threshold⟩
    · exact .inr ⟨_, _, .inr sign, decimal, bounded threshold⟩
  · rintro (⟨word, listed, letters⟩ | ⟨digits, number, sign, decimal, small⟩)
    · have listed : word ∈ all.map Threshold.word := listed
      obtain ⟨threshold, -, rfl⟩ := List.mem_map.mp listed
      exact ⟨threshold, .word letters⟩
    · have inside : number < all.length := Nat.lt_succ_of_le small
      obtain ⟨threshold, rfl⟩ : ∃ threshold : Threshold, threshold.detail = number :=
        ⟨all[number], (all_get_iff number _).mp (List.getElem?_eq_getElem inside)⟩
      obtain rfl | signed := sign
      · exact ⟨_, .plain decimal⟩
      · exact ⟨_, .signed signed decimal⟩

/-- Noughts in front and a plus sign change nothing, and capitals are as good as small letters. -/
example : ofText? "+0005".toList = some trace ∧ ofText? "WaRn".toList = some warn ∧
    ofText? "6".toList = none := by
  decide

end Threshold

end InputBridge
