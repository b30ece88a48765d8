import InputBridge.Toml.Printer
/-!
# Text between quotes reads back

Text is written in one of four forms. Each form is shown here to read back on its own, whatever
follows the closing quotes as long as it is no quote: between double quotes every text does, and
between single quotes the texts whose characters stand for themselves there.

Between double quotes the argument goes along the text, character by character: a character
stands for itself or for an escape, which the reader turns into the character again. With three
quotes it also has to be known where the text ends. No more than two quotes stand in a row in
front of the closing ones, so a run of quotes within the text never looks like the end unless it
reaches it, and then the reader gives back as many quotes as were the text's own. This part is
the same for both kinds of quotes and is stated for any reader that looks for the end that way.
-/
namespace InputBridge.Toml

section Runs

/-! ## Runs of quotes -/

variable {quote : Char}

/-- A quote in front makes a run longer. -/
theorem run_length_quote (text : List Char) :
    runLength quote (quote :: text) = runLength quote text + 1 := by
  simp [runLength]

/-- Any other character ends a run. -/
theorem run_length_other (c : Char) (text : List Char) (apart : c ≠ quote) :
    runLength quote (c :: text) = 0 := by
  simp [runLength, apart]

/-- A text that does not start with a quote starts with no run of quotes. -/
theorem run_length_apart (text : List Char) (apart : text.head? ≠ some quote) :
    runLength quote text = 0 := by
  cases text with
  | nil => rfl
  | cons c rest => exact run_length_other c rest fun same => apart (congrArg some same)

/-- Three closing quotes and what follows them. -/
def closed (quote : Char) (rest : List Char) : List Char := quote :: quote :: quote :: rest

/-- The closing quotes are a run of three. -/
theorem run_length_closed (rest : List Char) (apart : rest.head? ≠ some quote) :
    runLength quote (closed quote rest) = 3 := by
  simp only [closed, run_length_quote, run_length_apart rest apart]

/-- The length of a run that has few quotes, where `run` come directly before it: it either ends
early or reaches over the closing quotes. -/
def Few (run length : Nat) : Prop := length ≤ 2 - run ∨ 3 ≤ length ∧ length ≤ 5 - run

/-- A quote more in front leaves few. -/
theorem Few.one_more {run length : Nat} (few : Few (run + 1) length) (least : run < 2) :
    Few run (length + 1) := by
  unfold Few at few ⊢
  omega

/-- Of few quotes behind one there are not enough to close, or enough with or without it. -/
theorem Few.behind_one {run length : Nat} (few : Few (run + 1) length) (least : run < 2) :
    length + 1 < 3 ∨ 3 ≤ length ∧ length ≤ 4 := by
  unfold Few at few
  omega

/-- A quote of the text's own in front of a run that closes it is given back with the rest. -/
theorem closing_cons (text : List Char) (least : 3 ≤ runLength quote text)
    (most : runLength quote text ≤ 4) :
    closing quote (quote :: text) = (closing quote text).cons quote := by
  have more : min 2 (runLength quote text + 1 - 3) = min 2 (runLength quote text - 3) + 1 := by
    omega
  simp only [closing, run_length_quote, more, Quotation.cons, Option.map_some,
    List.replicate_succ, List.drop_succ_cons]

/-- A reader that looks for three quotes in a row wherever a quote stands. -/
def LooksForEnd (quote : Char) (reader : List Char → Quotation) : Prop :=
  ∀ text, reader (quote :: text) =
    if runLength quote (quote :: text) ≥ 3 then closing quote (quote :: text)
    else (reader text).cons quote

/-- Three quotes in a row end the text. -/
theorem LooksForEnd.closes {reader : List Char → Quotation} (looks : LooksForEnd quote reader)
    (text : List Char) (enough : 3 ≤ runLength quote text) :
    reader text = closing quote text := by
  cases text with
  | nil => cases enough
  | cons c rest =>
    by_cases same : c = quote
    · rw [same] at enough ⊢
      rw [looks, if_pos enough]
    · rw [run_length_other c rest same] at enough
      cases enough

/-- The closing quotes by themselves. -/
theorem LooksForEnd.reads_closed {reader : List Char → Quotation}
    (looks : LooksForEnd quote reader) (rest : List Char) (apart : rest.head? ≠ some quote) :
    reader (closed quote rest) = some ([], rest) := by
  have three := run_length_closed rest apart
  rw [looks.closes _ (Nat.le_of_eq three.symm)]
  simp only [closing, three]
  rfl

/-- A quote of the text's own. -/
theorem LooksForEnd.own_quote {reader : List Char → Quotation} (looks : LooksForEnd quote reader)
    (text : List Char) (run : Nat) (few : Few (run + 1) (runLength quote text))
    (least : run < 2) : reader (quote :: text) = (reader text).cons quote := by
  rw [looks, run_length_quote]
  obtain inside | ⟨enough, most⟩ := few.behind_one least
  · rw [if_neg (Nat.not_le_of_lt inside)]
  · rw [if_pos (Nat.le_succ_of_le enough), closing_cons text enough most,
      looks.closes text enough]

/-- The longest run is no shorter than one already seen. -/
theorem le_longest_run (text : List Char) (run longest : Nat) :
    longest ≤ longestRunFrom quote run longest text := by
  induction text generalizing run longest with
  | nil => exact Nat.le_refl longest
  | cons c rest inductionHypothesis =>
    rw [longestRunFrom]
    split
    · exact Nat.le_trans (Nat.le_max_left ..) (inductionHypothesis _ _)
    · exact inductionHypothesis _ _

/-- A text without more than two quotes in a row, in front of its closing quotes. -/
theorem few_of_longest_run (text rest : List Char) (run longest : Nat) (few : run ≤ 2)
    (most : longestRunFrom quote run longest text ≤ 2) (apart : rest.head? ≠ some quote) :
    Few run (runLength quote (text ++ closed quote rest)) := by
  induction text generalizing run longest with
  | nil =>
    rw [List.nil_append, run_length_closed rest apart]
    unfold Few
    omega
  | cons c behind inductionHypothesis =>
    rw [longestRunFrom] at most
    rw [List.cons_append]
    split at most
    case isTrue same =>
      obtain rfl := eq_of_beq same
      have least := Nat.le_trans (Nat.le_max_right ..) (Nat.le_trans (le_longest_run ..) most)
      rw [run_length_quote]
      exact (inductionHypothesis _ _ least most).one_more least
    case isFalse other =>
      rw [run_length_other c _ (by simpa using other)]
      exact .inl (Nat.zero_le _)

end Runs

/-! ## Escapes -/

/-- Control characters are ASCII. -/
theorem control_ascii (c : Char) (control : isControl c = true) : c.toNat < 128 := by
  simp only [isControl, Bool.and_eq_true, Bool.or_eq_true, decide_eq_true_eq, beq_iff_eq] at control
  rcases control.2 with low | rfl
  · exact Nat.lt_trans (UInt32.lt_iff_toNat_lt.mp low) (by decide)
  · decide

/-- The number of a control character in four digits reads back as the character. -/
theorem hex_four_reads (c : Char) (control : isControl c = true) :
    (hexFour c.toNat).length = 4 ∧ characterOf 4 (hexFour c.toNat) = some c := by
  have table : ∀ code < 128, (hexFour code).length = 4 ∧
      characterOf 4 (hexFour code) = some (Char.ofNat code) := by decide +kernel
  simpa only [Char.ofNat_toNat] using table c.toNat (control_ascii c control)

/-- What stands behind a backslash for a character, whatever follows: an escape that is read as
the character, and none of a line ending. -/
structure EscapeOf (c : Char) (body : List Char) : Prop where
  reads (rest : List Char) : escape (body ++ rest) = some (c, body.length)
  continues (rest : List Char) : continuation? (body ++ rest) = none

/-- The escapes of one letter with their characters. -/
def escapeLetters : List (Char × Char) :=
  [('\x08', 'b'), ('\t', 't'), ('\n', 'n'), ('\x0C', 'f'), ('\r', 'r'), ('"', '"'), ('\\', '\\')]

/-- A letter is an escape. -/
theorem EscapeOf.letter (c letter : Char) (listed : (c, letter) ∈ escapeLetters) :
    EscapeOf c [letter] := by
  simp only [escapeLetters, List.mem_cons, Prod.mk.injEq, List.not_mem_nil, or_false] at listed
  rcases listed with ⟨rfl, rfl⟩ | ⟨rfl, rfl⟩ | ⟨rfl, rfl⟩ | ⟨rfl, rfl⟩ | ⟨rfl, rfl⟩ | ⟨rfl, rfl⟩ |
    ⟨rfl, rfl⟩
  all_goals exact ⟨fun rest => rfl, fun rest => rfl⟩

/-- A number of four digits is an escape. -/
theorem EscapeOf.number (c : Char) (control : isControl c = true) :
    EscapeOf c ('u' :: hexFour c.toNat) := by
  obtain ⟨four, reads⟩ := hex_four_reads c control
  refine ⟨fun rest => ?_, fun rest => rfl⟩
  have taken : (hexFour c.toNat ++ rest).take 4 = hexFour c.toNat :=
    List.take_left' four
  simp only [List.cons_append, escape, taken, reads, Option.map_some, List.length_cons, four]

/-- What is written for a character that needs an escape is read back as the character. -/
theorem escaped_reads (several : Bool) (c : Char) (shown : List Char)
    (escaped : escaped? several c = some shown) :
    ∃ body, shown = '\\' :: body ∧ EscapeOf c body := by
  simp only [escaped?, beq_iff_eq] at escaped
  -- every branch writes a letter for one character, but for the last
  repeat' split at escaped
  all_goals cases escaped
  all_goals first
    | exact ⟨_, rfl, .number c ‹isControl c = true›⟩
    | exact ⟨_, rfl, .letter c _ (by subst c; decide)⟩

/-- A character that needs no escape stands for itself, if it is no quote. -/
theorem unescaped_forms (several : Bool) (c : Char) (apart : c ≠ '"')
    (unescaped : escaped? several c = none) : isBasic c = true ∨ several = true ∧ c = '\n' := by
  simp only [escaped?, isControl, isBasic, isPrintable] at unescaped ⊢
  grind

/-! ## One quote -/

/-- An escape between double quotes. -/
theorem basic_escape (c : Char) (body text : List Char) (escape : EscapeOf c body) :
    basic ('\\' :: (body ++ text)) = (basic text).cons c := by
  rw [basic, escape.reads]
  simp

/-- A character that stands for itself between double quotes. -/
theorem basic_plain (c : Char) (text : List Char) (plain : isBasic c = true) :
    basic (c :: text) = (basic text).cons c := by
  have unlike : c ≠ '"' ∧ c ≠ '\\' := by
    constructor <;> rintro rfl <;> exact absurd plain (by decide)
  rw [basic, if_pos plain]
  · exact unlike.1
  · exact unlike.2

/-- Text between double quotes, with escapes. -/
theorem basic_reads (text rest : List Char) :
    basic (escapeAll false 0 0 text ++ '"' :: rest) = some (text, rest) := by
  induction text with
  | nil => rw [escapeAll, List.nil_append, basic]
  | cons c behind inductionHypothesis =>
    have read : (basic (escapeAll false 0 0 behind ++ '"' :: rest)).cons c =
        some (c :: behind, rest) := by
      rw [inductionHypothesis]
      rfl
    rw [escapeAll]
    split
    case isTrue same =>
      obtain rfl := eq_of_beq same
      exact (basic_escape '"' ['"'] _ (.letter _ _ (by decide))).trans read
    case isFalse apart =>
      cases escaped : escaped? false c with
      | some shown =>
        obtain ⟨body, rfl, escape⟩ := escaped_reads false c shown escaped
        rw [Option.getD_some, List.append_assoc]
        exact (basic_escape c body _ escape).trans read
      | none =>
        obtain plain | ⟨several, -⟩ := unescaped_forms false c (by simpa using apart) escaped
        · exact (basic_plain c _ plain).trans read
        · cases several

/-- Text between single quotes that holds no single quote. -/
theorem literal_reads (text rest : List Char) (plain : ∀ c ∈ text, isLiteral c = true) :
    literal (text ++ '\'' :: rest) = some (text, rest) := by
  induction text with
  | nil => rw [List.nil_append, literal]
  | cons c behind inductionHypothesis =>
    obtain ⟨first, others⟩ := List.forall_mem_cons.mp plain
    have unlike : c ≠ '\'' := by
      rintro rfl
      exact absurd first (by decide)
    rw [List.cons_append, literal, if_pos first, inductionHypothesis others]
    · rfl
    · exact unlike

/-! ## Three quotes -/

/-- An escape between three double quotes. -/
theorem multi_basic_escape (c : Char) (body text : List Char) (escape : EscapeOf c body) :
    multiBasic ('\\' :: (body ++ text)) = (multiBasic text).cons c := by
  have continued := escape.continues text
  rw [multiBasic]
  generalize continuation? (body ++ text) = found at continued ⊢
  subst continued
  simp [escape.reads]

/-- A line feed between three double quotes. -/
theorem multi_basic_feed (text : List Char) :
    multiBasic ('\n' :: text) = (multiBasic text).cons '\n' := by
  rw [multiBasic]

/-- A character that stands for itself between three double quotes. -/
theorem multi_basic_plain (c : Char) (text : List Char) (plain : isBasic c = true) :
    multiBasic (c :: text) = (multiBasic text).cons c := by
  have unlike : c ≠ '"' ∧ c ≠ '\\' ∧ c ≠ '\n' ∧ c ≠ '\r' := by
    refine ⟨?_, ?_, ?_, ?_⟩ <;> rintro rfl <;> exact absurd plain (by decide)
  rw [multiBasic, if_pos plain]
  · exact unlike.1
  · exact unlike.2.1
  · exact unlike.2.2.1
  · exact fun rest same => absurd same unlike.2.2.2

/-- The end of text between three double quotes is looked for. -/
theorem multi_basic_looks : LooksForEnd '"' multiBasic := by
  intro text
  rw [multiBasic]

/-- Text between three double quotes holds few quotes in a row where the reader counts them. -/
theorem few_of_escapes (text rest : List Char) (run : Nat) (few : run ≤ 2)
    (apart : rest.head? ≠ some '"') :
    Few run (runLength '"' (escapeAll true 2 run text ++ closed '"' rest)) := by
  induction text generalizing run with
  | nil =>
    rw [escapeAll, List.nil_append, run_length_closed rest apart]
    unfold Few
    omega
  | cons c behind inductionHypothesis =>
    rw [escapeAll]
    split
    case isTrue same =>
      obtain rfl := eq_of_beq same
      split
      case isTrue least =>
        rw [List.cons_append, run_length_quote]
        exact (inductionHypothesis (run + 1) least).one_more least
      case isFalse =>
        rw [List.cons_append, run_length_other _ _ (by decide)]
        exact .inl (Nat.zero_le _)
    case isFalse other =>
      have unlike : c ≠ '"' := by simpa using other
      have none : runLength '"' ((escaped? true c).getD [c] ++ escapeAll true 2 0 behind ++
          closed '"' rest) = 0 := by
        cases escaped : escaped? true c with
        | some shown =>
          obtain ⟨body, rfl, -⟩ := escaped_reads true c shown escaped
          exact run_length_other _ _ (by decide)
        | none => exact run_length_other c _ unlike
      rw [none]
      exact .inl (Nat.zero_le _)

/-- Text between three double quotes, with escapes, behind quotes of its own. -/
theorem multi_basic_reads (text rest : List Char) (run : Nat) (few : run ≤ 2)
    (apart : rest.head? ≠ some '"') :
    multiBasic (escapeAll true 2 run text ++ closed '"' rest) = some (text, rest) := by
  induction text generalizing run with
  | nil => exact multi_basic_looks.reads_closed rest apart
  | cons c behind inductionHypothesis =>
    have read (run : Nat) (few : run ≤ 2) :
        (multiBasic (escapeAll true 2 run behind ++ closed '"' rest)).cons c =
          some (c :: behind, rest) := by
      rw [inductionHypothesis run few]
      rfl
    rw [escapeAll]
    split
    case isTrue same =>
      obtain rfl := eq_of_beq same
      split
      case isTrue least =>
        have fewBehind := few_of_escapes behind rest (run + 1) least apart
        exact (multi_basic_looks.own_quote _ run fewBehind least).trans (read (run + 1) least)
      case isFalse =>
        exact (multi_basic_escape '"' ['"'] _ (.letter _ _ (by decide))).trans
          (read 0 (Nat.zero_le 2))
    case isFalse other =>
      have next := read 0 (Nat.zero_le 2)
      cases escaped : escaped? true c with
      | some shown =>
        obtain ⟨body, rfl, escape⟩ := escaped_reads true c shown escaped
        rw [Option.getD_some, List.append_assoc]
        exact (multi_basic_escape c body _ escape).trans next
      | none =>
        obtain plain | ⟨-, rfl⟩ := unescaped_forms true c (by simpa using other) escaped
        · exact (multi_basic_plain c _ plain).trans next
        · exact (multi_basic_feed _).trans next

/-- The end of text between three single quotes is looked for. -/
theorem multi_literal_looks : LooksForEnd '\'' multiLiteral := by
  intro text
  rw [multiLiteral]

/-- A character that stands for itself between three single quotes. -/
theorem multi_literal_plain (c : Char) (text : List Char) (plain : isLiteral c = true ∨ c = '\n') :
    multiLiteral (c :: text) = (multiLiteral text).cons c := by
  obtain plain | rfl := plain
  · have unlike : c ≠ '\'' ∧ c ≠ '\n' ∧ c ≠ '\r' := by
      refine ⟨?_, ?_, ?_⟩ <;> rintro rfl <;> exact absurd plain (by decide)
    rw [multiLiteral, if_pos plain]
    · exact unlike.1
    · exact unlike.2.1
    · exact fun rest same => absurd same unlike.2.2
  · rw [multiLiteral]

/-- Text between three single quotes that holds no more than two of them in a row, behind quotes
of its own. -/
theorem multi_literal_reads (text rest : List Char) (run longest : Nat) (few : run ≤ 2)
    (plain : ∀ c ∈ text, c = '\'' ∨ isLiteral c = true ∨ c = '\n')
    (most : longestRunFrom '\'' run longest text ≤ 2) (apart : rest.head? ≠ some '\'') :
    multiLiteral (text ++ closed '\'' rest) = some (text, rest) := by
  induction text generalizing run longest with
  | nil => exact multi_literal_looks.reads_closed rest apart
  | cons c behind inductionHypothesis =>
    obtain ⟨first, others⟩ := List.forall_mem_cons.mp plain
    rw [longestRunFrom] at most
    split at most
    case isTrue same =>
      obtain rfl := eq_of_beq same
      have least := Nat.le_trans (Nat.le_max_right ..) (Nat.le_trans (le_longest_run ..) most)
      have fewBehind := few_of_longest_run behind rest _ _ least most apart
      rw [List.cons_append, multi_literal_looks.own_quote _ run fewBehind least,
        inductionHypothesis _ _ least others most]
      rfl
    case isFalse other =>
      have stands := first.resolve_left (by simpa using other)
      rw [List.cons_append, multi_literal_plain c _ stands,
        inductionHypothesis _ _ (Nat.zero_le 2) others most]
      rfl

end InputBridge.Toml
