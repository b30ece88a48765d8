import InputBridge.Proofs.QuotedText
/-!
# A text that is written reads back

The writer picks the form of a text by what the text holds: controls, backslashes, line feeds and
runs of quotes. A form between single quotes is picked only for a text whose every character
stands for itself there, so no escapes are missed. The reader goes by the quotes in front alone.
One double quote in front must not be followed by two more, and of a text between three quotes
the reader drops a line ending that comes first; the writer puts one there exactly if the text
has several lines, and a text on one line does not start with any.
-/
namespace InputBridge.Toml

/-! ## The form that is picked -/

/-- A character that is no control is printable or a line feed. -/
theorem printable_of_plain (c : Char) (plain : isControl c = false) :
    isPrintable c = true ∨ c = '\n' := by
  simp only [isControl, isPrintable] at plain ⊢
  grind

/-- A character that no run is counted of is not in the text. -/
theorem not_mem_of_longest_run (quote : Char) (text : List Char) (run : Nat)
    (none : longestRunFrom quote run 0 text = 0) : quote ∉ text := by
  induction text generalizing run with
  | nil => exact List.not_mem_nil
  | cons c rest inductionHypothesis =>
    rw [longestRunFrom] at none
    split at none
    · have longer : max 0 (run + 1) ≤ longestRunFrom quote (run + 1) (max 0 (run + 1)) rest :=
        le_longest_run rest _ _
      omega
    case isFalse other =>
      rw [List.mem_cons, not_or]
      exact ⟨fun same => other (by simp [same]), inductionHypothesis 0 none⟩

/-- What is written between single quotes stands for itself there. -/
theorem literal_style (text : List Char) (style : QuoteStyle.ofText text = .literal) :
    text ≠ [] ∧ ∀ c ∈ text, isLiteral c = true := by
  simp only [QuoteStyle.ofText] at style
  split at style
  case isTrue => cases style
  case isFalse quoted =>
    split at style
    case isTrue plain =>
      simp only [Bool.and_eq_true, Bool.not_eq_true', List.any_eq_false, beq_iff_eq] at plain
      obtain ⟨⟨control, singles⟩, several⟩ := plain
      refine ⟨fun empty => quoted (by rw [empty]; decide), fun c listed => ?_⟩
      have noQuote : c ≠ '\'' := by
        rintro rfl
        exact not_mem_of_longest_run '\'' text 0 singles listed
      have noFeed : c ≠ '\n' := by
        rintro rfl
        simp [listed] at several
      have noControl : isControl c = false := by simpa using control c listed
      have printable := (printable_of_plain c noControl).resolve_right noFeed
      simp [isLiteral, printable, noQuote]
    case isFalse => (repeat' split at style) <;> cases style

/-- What is written between three single quotes stands for itself there. -/
theorem multi_literal_style (text : List Char) (style : QuoteStyle.ofText text = .multiLiteral) :
    longestRun '\'' text ≤ 2 ∧ ∀ c ∈ text, c = '\'' ∨ isLiteral c = true ∨ c = '\n' := by
  simp only [QuoteStyle.ofText] at style
  repeat' split at style
  all_goals try cases style
  rename_i plain
  simp only [Bool.and_eq_true, Bool.not_eq_true', List.any_eq_false, decide_eq_true_eq] at plain
  refine ⟨plain.2, fun c listed => ?_⟩
  by_cases noQuote : c = '\''
  · exact .inl noQuote
  · have noControl : isControl c = false := by simpa using plain.1 c listed
    exact .inr ((printable_of_plain c noControl).imp_left fun printable => by
      simp [isLiteral, printable, noQuote])

/-! ## The four forms -/

/-- The text behind quotes that does not start with a line ending. -/
def StartsInLine (text : List Char) : Prop := text.head? ≠ some '\n' ∧ text.head? ≠ some '\r'

/-- A text starts in its line if its first character ends none. -/
theorem StartsInLine.of_head {text : List Char} {c : Char} (head : text.head? = some c)
    (noFeed : c ≠ '\n') (noReturn : c ≠ '\r') : StartsInLine text := by
  rw [StartsInLine, head]
  exact ⟨mt Option.some.inj noFeed, mt Option.some.inj noReturn⟩

/-- Nothing is dropped but a line ending. -/
theorem drop_newline_in_line (text : List Char) (inLine : StartsInLine text) :
    dropNewline text = text := by
  rw [dropNewline, newline?.eq_def]
  split
  · exact absurd rfl inLine.1
  · exact absurd rfl inLine.2
  · rfl

/-- The line ending that is written behind three quotes is the one that is dropped there. -/
theorem drop_opening (text shown : List Char)
    (inLine : '\n' ∉ text → StartsInLine shown) : dropNewline (opening text ++ shown) = shown := by
  rw [opening]
  split
  case isTrue => rfl
  case isFalse single => exact drop_newline_in_line shown (inLine (by simpa using single))

/-- What is written between double quotes starts with a backslash or with the first character
of the text, which needs no escape then. -/
theorem escape_all_head (several : Bool) (allowed run : Nat) (c : Char) (text : List Char) :
    (escapeAll several allowed run (c :: text)).head? = some '\\' ∨
      (escapeAll several allowed run (c :: text)).head? = some c ∧
        (c = '"' ∧ run < allowed ∨ c ≠ '"' ∧ escaped? several c = none) := by
  rw [escapeAll]
  split
  case isTrue same =>
    split
    case isTrue least => exact .inr ⟨rfl, .inl ⟨eq_of_beq same, least⟩⟩
    case isFalse => exact .inl rfl
  case isFalse other =>
    cases escaped : escaped? several c with
    | some shown =>
      obtain ⟨body, rfl, -⟩ := escaped_reads several c shown escaped
      exact .inl rfl
    | none => exact .inr ⟨rfl, .inr ⟨by simpa using other, rfl⟩⟩

/-- Text between double quotes never looks like the start of three. -/
theorem basic_not_three (text rest : List Char) (apart : rest.head? ≠ some '"')
    (behind : List Char) : escapeAll false 0 0 text ++ '"' :: rest ≠ '"' :: '"' :: behind := by
  intro same
  cases text with
  | nil =>
    obtain rfl : rest = '"' :: behind := by simpa [escapeAll] using same
    exact apart rfl
  | cons c text =>
    have head := congrArg List.head? same
    rw [List.head?_append] at head
    obtain escaped | ⟨plain, ⟨-, none⟩ | ⟨unlike, -⟩⟩ := escape_all_head false 0 0 c text
    · rw [escaped] at head
      cases head
    · cases none
    · rw [plain] at head
      exact unlike (Option.some.inj head)

/-- Text between three double quotes starts with a line ending only if it holds a line feed. -/
theorem multi_basic_in_line (text rest : List Char) (single : '\n' ∉ text) :
    StartsInLine (escapeAll true 2 0 text ++ closed '"' rest) := by
  cases text with
  | nil => exact .of_head rfl (by decide) (by decide)
  | cons c text =>
    have head (d : Char) (first : (escapeAll true 2 0 (c :: text)).head? = some d) :
        (escapeAll true 2 0 (c :: text) ++ closed '"' rest).head? = some d := by
      rw [List.head?_append, first, Option.some_or]
    obtain escaped | ⟨plain, own⟩ := escape_all_head true 2 0 c text
    · exact .of_head (head '\\' escaped) (by decide) (by decide)
    · refine .of_head (head c plain) ?_ ?_
      · rintro rfl
        exact single List.mem_cons_self
      · rintro rfl
        obtain ⟨same, -⟩ | ⟨-, unescaped⟩ := own
        · cases same
        · cases unescaped

/-- Text between three single quotes starts with a line ending only if it holds a line feed. -/
theorem multi_literal_in_line (text rest : List Char)
    (plain : ∀ c ∈ text, c = '\'' ∨ isLiteral c = true ∨ c = '\n') (single : '\n' ∉ text) :
    StartsInLine (text ++ closed '\'' rest) := by
  cases text with
  | nil => exact .of_head rfl (by decide) (by decide)
  | cons c text =>
    refine .of_head (c := c) rfl ?_ ?_
    · rintro rfl
      exact single List.mem_cons_self
    · rintro rfl
      exact absurd (plain _ List.mem_cons_self) (by decide)

/-- A text that is written reads back, whatever follows that is no quote. -/
theorem quotation_reads (text rest : List Char) (apart : rest.head? ≠ some '"')
    (apartSingle : rest.head? ≠ some '\'') :
    quotation? (quote text ++ rest) = some (text, rest) := by
  rw [quote]
  cases style : QuoteStyle.ofText text with
  | basic =>
    simp only [List.cons_append, List.append_assoc, List.nil_append]
    rw [quotation?, basic_reads]
    exact basic_not_three text rest apart
  | literal =>
    obtain ⟨nonempty, plain⟩ := literal_style text style
    simp only [List.cons_append, List.append_assoc, List.nil_append]
    rw [quotation?, literal_reads text rest plain]
    intro behind same
    cases text with
    | nil => exact nonempty rfl
    | cons c text =>
      obtain rfl : c = '\'' := (List.cons.inj same).1
      exact absurd (plain _ List.mem_cons_self) (by decide)
  | multiBasic =>
    simp only [List.cons_append, List.append_assoc, List.nil_append]
    rw [quotation?]
    have dropped := drop_opening text _ (multi_basic_in_line text rest)
    exact (congrArg multiBasic dropped).trans
      (multi_basic_reads text rest 0 (Nat.zero_le 2) apart)
  | multiLiteral =>
    obtain ⟨most, plain⟩ := multi_literal_style text style
    simp only [List.cons_append, List.append_assoc, List.nil_append]
    rw [quotation?]
    have dropped := drop_opening text _ (multi_literal_in_line text rest plain)
    exact (congrArg multiLiteral dropped).trans
      (multi_literal_reads text rest 0 0 (Nat.zero_le 2) plain most apartSingle)

/-- A quote that ends the text stands right before the closing ones. -/
example : quote "it's \"so\"".toList = "\"\"\"it's \"so\"\"\"\"".toList := by decide

end InputBridge.Toml
