import InputBridge.Text.Blank
/-!
# Words and lines of a text

Cutting a text at white space, taking the white space off its ends and cutting it into
lines are told here by relations between a text and its parts, apart from the recursions
that find them. The parts and what lies between them make up the text again, so each
relation names exactly one cut, and it is the one that is computed.
-/
namespace InputBridge.Text

/-- White space only, or nothing. -/
def Blank (text : List Char) : Prop := ∀ c ∈ text, isBlank c = true

/-- No white space at all. -/
def Solid (text : List Char) : Prop := ∀ c ∈ text, isBlank c = false

/-- The text is empty, or white space opens it. -/
def Parted (text : List Char) : Prop := ∀ c, text.head? = some c → isBlank c = true

/-- The empty text is blank. -/
theorem blank_nil : Blank [] := fun _ found => nomatch found

/-- Blank texts together are blank. -/
theorem blank_append (one other : List Char) (first : Blank one) (second : Blank other) :
    Blank (one ++ other) :=
  fun c found => (List.mem_append.mp found).elim (first c) (second c)

/-- The empty text is solid. -/
theorem solid_nil : Solid [] := fun _ found => nomatch found

/-- The empty text is parted. -/
theorem parted_nil : Parted [] := fun _ found => nomatch found

/-- A text and its words: between them and around them there is white space, of which
only the gaps between two words need to hold any. -/
inductive Words : List Char → List (List Char) → Prop
  /-- White space only has no words. -/
  | nothing {gap : List Char} (blank : Blank gap) : Words gap []
  /-- A word ends where the text does or where white space follows. -/
  | next {gap word rest : List Char} {words : List (List Char)} (blank : Blank gap)
      (present : word ≠ []) (solid : Solid word) (parted : Parted rest)
      (following : Words rest words) : Words (gap ++ (word ++ rest)) (word :: words)

/-- More white space in front changes no word. -/
theorem Words.after_gap (gap text : List Char) (words : List (List Char)) (blank : Blank gap)
    (cut : Words text words) : Words (gap ++ text) words := by
  cases cut with
  | nothing inside => exact .nothing (blank_append gap text blank inside)
  | @next inner word rest words inside present solid parted following =>
    rw [← List.append_assoc]
    exact .next (blank_append gap inner blank inside) present solid parted following

/-- A text with words is not empty. -/
theorem Words.present {text word : List Char} {words : List (List Char)}
    (cut : Words text (word :: words)) : text ≠ [] := by
  cases cut with
  | next blank present solid parted following => simp [present]

/-- White space in front of a text takes no part in its fields. -/
theorem fields_blank (c : Char) (rest : List Char) (blank : isBlank c = true) :
    fields (c :: rest) = fields rest := by
  simp [fields, splitWord, blank]

/-- White space in front gives no field. -/
theorem fields_gap (gap rest : List Char) (blank : Blank gap) :
    fields (gap ++ rest) = fields rest := by
  induction gap with
  | nil => rfl
  | cons c gap inductionHypothesis =>
    obtain ⟨first, others⟩ := List.forall_mem_cons.mp blank
    rw [List.cons_append, fields_blank c _ first, inductionHypothesis others]

/-- The word being read goes on up to the white space that follows it. -/
theorem split_word_append (word rest : List Char) (solid : Solid word) (parted : Parted rest) :
    splitWord (word ++ rest) = (word, fields rest) := by
  induction word with
  | nil =>
    cases rest with
    | nil => rfl
    | cons c rest => simp [splitWord, fields, parted c rfl]
  | cons c word inductionHypothesis =>
    obtain ⟨first, others⟩ := List.forall_mem_cons.mp solid
    simp [splitWord, inductionHypothesis others, first]

/-- If the word being read and the rest after it make up a text and the rest's words are
known, then so are the text's. -/
theorem words_of_split (text rest : List Char) (joined : text = (splitWord text).1 ++ rest)
    (solid : Solid (splitWord text).1) (parted : Parted rest)
    (cut : Words rest (splitWord text).2) : Words text (fields text) := by
  by_cases missing : (splitWord text).1 = []
  · have same : text = rest := by rw [joined, missing, List.nil_append]
    rw [← same] at cut
    simpa [fields, missing] using cut
  · have whole := @Words.next [] _ _ _ blank_nil missing solid parted cut
    rw [List.nil_append, ← joined] at whole
    simpa [fields, missing] using whole

/-- The word being read opens the text, and the words after it are those of the rest. -/
theorem split_word_words (text : List Char) :
    ∃ rest, text = (splitWord text).1 ++ rest ∧ Solid (splitWord text).1 ∧ Parted rest ∧
      Words rest (splitWord text).2 := by
  induction text with
  | nil => exact ⟨[], rfl, solid_nil, parted_nil, .nothing blank_nil⟩
  | cons c text inductionHypothesis =>
    obtain ⟨rest, joined, solid, parted, cut⟩ := inductionHypothesis
    by_cases blank : isBlank c = true
    case pos =>
      have stopped : splitWord (c :: text) = ([], fields text) := by
        simp [splitWord, blank, fields]
      have opened : Parted (c :: text) := fun first opening => Option.some.inj opening ▸ blank
      have single : Blank [c] := List.forall_mem_singleton.mpr blank
      rw [stopped]
      exact ⟨c :: text, rfl, solid_nil, opened,
        .after_gap [c] text _ single (words_of_split text rest joined solid parted cut)⟩
    case neg =>
      have dark : isBlank c = false := eq_false_of_ne_true blank
      have continued : splitWord (c :: text) = (c :: (splitWord text).1, (splitWord text).2) := by
        simp [splitWord, dark]
      rw [continued]
      exact ⟨rest, congrArg (c :: ·) joined, List.forall_mem_cons.mpr ⟨dark, solid⟩, parted, cut⟩

/-- The fields of a text are its words. -/
theorem fields_exact (text : List Char) (words : List (List Char)) :
    fields text = words ↔ Words text words := by
  constructor
  · rintro rfl
    obtain ⟨rest, joined, solid, parted, cut⟩ := split_word_words text
    exact words_of_split text rest joined solid parted cut
  · intro cut
    induction cut with
    | @nothing gap blank => simpa [fields, splitWord] using fields_gap gap [] blank
    | @next gap word rest words blank present solid parted following inductionHypothesis =>
      rw [fields_gap gap _ blank, fields, split_word_append word rest solid parted]
      simp [present, inductionHypothesis]

/-- The core is what is left of a text once the white space before it and the white space
after it are gone. -/
inductive Trimmed : List Char → List Char → Prop
  | intro {before core after : List Char} (opening : Blank before) (closing : Blank after)
      (first : ∀ c, core.head? = some c → isBlank c = false)
      (last : ∀ c, core.getLast? = some c → isBlank c = false) :
      Trimmed (before ++ (core ++ after)) core

/-- White space in front of a text that does not open with any is dropped, and no more. -/
theorem drop_gap (gap text : List Char) (blank : Blank gap)
    (first : ∀ c, text.head? = some c → isBlank c = false) :
    (gap ++ text).dropWhile isBlank = text := by
  rw [List.dropWhile_append_of_pos blank]
  cases text with
  | nil => rfl
  | cons c rest => rw [List.dropWhile_cons_of_neg (by simp [first c rfl])]

/-- What is dropped is white space, and what is left does not open with any. -/
theorem dropped_gap (text : List Char) : ∃ gap, text = gap ++ text.dropWhile isBlank ∧
    Blank gap ∧ ∀ c, (text.dropWhile isBlank).head? = some c → isBlank c = false := by
  refine ⟨text.takeWhile isBlank, List.takeWhile_append_dropWhile.symm, ?_, ?_⟩
  · exact List.all_eq_true.mp List.all_takeWhile
  · intro c first
    have kept := List.head?_dropWhile_not isBlank text
    rw [first] at kept
    exact kept

/-- A blank text is blank backwards. -/
theorem blank_reverse (text : List Char) (blank : Blank text) : Blank text.reverse :=
  fun c found => blank c (List.mem_reverse.mp found)

/-- White space at the end of a text that does not close with any is dropped, and no
more. -/
theorem trim_end_core (core after : List Char) (closing : Blank after)
    (last : ∀ c, core.getLast? = some c → isBlank c = false) : trimEnd (core ++ after) = core := by
  rw [trimEnd, List.reverse_append,
    drop_gap after.reverse core.reverse (blank_reverse after closing)
      (by simpa only [List.head?_reverse] using last), List.reverse_reverse]

/-- Trimming a text gives its core. -/
theorem trim_exact (text core : List Char) : trim text = core ↔ Trimmed text core := by
  constructor
  · rintro rfl
    obtain ⟨before, opened, opening, first⟩ := dropped_gap text
    obtain ⟨after, closed, closing, last⟩ := dropped_gap (text.dropWhile isBlank).reverse
    have inner : text.dropWhile isBlank = trim text ++ after.reverse := by
      rw [← List.reverse_inj, closed, List.reverse_append]
      simp [trim, trimEnd]
    rw [inner] at opened first
    have whole := @Trimmed.intro before (trim text) after.reverse opening
      (blank_reverse after closing)
      (fun c head => first c (by rw [List.head?_append, head]; rfl))
      (fun c tail => last c (by simpa [trim, trimEnd, List.getLast?_reverse] using tail))
    rwa [← opened] at whole
  · rintro @⟨before, core, after, opening, closing, first, last⟩
    cases core with
    | nil =>
      have nothing := drop_gap (before ++ after) [] (blank_append before after opening closing)
        (fun _ found => nomatch found)
      rw [List.append_nil] at nothing
      rw [List.nil_append, trim, nothing]
      rfl
    | cons front body =>
      -- The core's first character also opens what follows the white space in front.
      rw [trim, drop_gap before (front :: body ++ after) opening first,
        trim_end_core (front :: body) after closing last]

/-- A text and its lines. A line ends at a line feed, and a carriage return directly before
the line feed belongs to the ending. What follows the last line feed is a line if there is
anything. -/
inductive Lines : List Char → List (List Char) → Prop
  /-- An empty text has no lines. -/
  | nothing : Lines [] []
  /-- The last line may have no ending. -/
  | last {line : List Char} (present : line ≠ []) (unbroken : '\n' ∉ line) : Lines line [line]
  /-- A line that a line feed alone ends does not close with a carriage return. -/
  | feed {line rest : List Char} {lines : List (List Char)} (unbroken : '\n' ∉ line)
      (bare : line.getLast? ≠ some '\r') (following : Lines rest lines) :
      Lines (line ++ '\n' :: rest) (line :: lines)
  /-- A line that a carriage return and a line feed end. -/
  | returnFeed {line rest : List Char} {lines : List (List Char)} (unbroken : '\n' ∉ line)
      (following : Lines rest lines) : Lines (line ++ '\r' :: '\n' :: rest) (line :: lines)

/-- A character that starts no line ending joins the line after it. -/
theorem lines_joined (c : Char) (rest line : List Char) (more : List (List Char))
    (plain : c ≠ '\n') (bare : c = '\r' → rest.head? ≠ some '\n')
    (following : lines rest = line :: more) : lines (c :: rest) = (c :: line) :: more := by
  have unfed (after : List Char) (carriage : c = '\r') (fed : rest = '\n' :: after) : False :=
    bare carriage (by rw [fed]; rfl)
  rw [lines.eq_4 c rest plain unfed, following]

/-- A character other than a line feed is a line. -/
theorem lines_alone (c : Char) (plain : c ≠ '\n') : lines [c] = [[c]] := by
  rw [lines.eq_4 c [] plain nofun, lines]

/-- Characters without a line feed join the line after them, unless the last of them is a
carriage return that makes up an ending with what follows. -/
theorem lines_append (front rest line : List Char) (more : List (List Char))
    (unbroken : '\n' ∉ front) (bare : front.getLast? = some '\r' → rest.head? ≠ some '\n')
    (following : lines rest = line :: more) : lines (front ++ rest) = (front ++ line) :: more := by
  induction front with
  | nil => exact following
  | cons c front inductionHypothesis =>
    obtain ⟨plain, others⟩ := List.ne_and_not_mem_of_not_mem_cons unbroken
    have joined : c = '\r' → (front ++ rest).head? ≠ some '\n' := by
      intro carriage
      cases front with
      | nil => exact bare (by rw [carriage]; rfl)
      | cons next front => exact fun fed => others (Option.some.inj fed ▸ List.mem_cons_self)
    have closing (last : front.getLast? = some '\r') : rest.head? ≠ some '\n' :=
      bare (by rw [List.getLast?_cons, last]; rfl)
    exact lines_joined c _ _ more (Ne.symm plain) joined (inductionHypothesis others closing)

/-- Characters without a line feed are one line. -/
theorem lines_last (line : List Char) (present : line ≠ []) (unbroken : '\n' ∉ line) :
    lines line = [line] := by
  obtain ⟨front, c, rfl⟩ := (List.eq_nil_or_concat line).resolve_left present
  simp only [List.concat_eq_append, List.mem_append, List.mem_singleton, not_or] at unbroken ⊢
  obtain ⟨others, plain⟩ := unbroken
  exact lines_append front [c] [c] [] others
    (fun _ fed => plain (Option.some.inj fed).symm) (lines_alone c (Ne.symm plain))

/-- A character that starts no line ending belongs to the line that it is put in front of. -/
theorem Lines.joined (c : Char) (rest line : List Char) (more : List (List Char))
    (plain : c ≠ '\n') (bare : c = '\r' → rest.head? ≠ some '\n')
    (cut : Lines rest (line :: more)) : Lines (c :: rest) ((c :: line) :: more) := by
  have unbroken (inside : '\n' ∉ line) : '\n' ∉ c :: line :=
    List.not_mem_cons_of_ne_of_not_mem (Ne.symm plain) inside
  cases cut with
  | last present inside => exact .last (List.cons_ne_nil c rest) (unbroken inside)
  | @feed _ rest _ inside carriage following =>
    refine @Lines.feed (c :: line) rest more (unbroken inside) ?_ following
    intro closing
    cases line with
    | nil => exact bare (Option.some.inj closing) rfl
    | cons front body => exact carriage (by simpa using closing)
  | @returnFeed _ rest _ inside following =>
    exact @Lines.returnFeed (c :: line) rest more (unbroken inside) following

/-- The lines of a text are those that its line feeds give. -/
theorem lines_exact (text : List Char) (cut : List (List Char)) :
    lines text = cut ↔ Lines text cut := by
  constructor
  · rintro rfl
    fun_induction lines text with
    | case1 => exact .nothing
    | case2 rest inductionHypothesis =>
      exact @Lines.feed [] rest _ List.not_mem_nil nofun inductionHypothesis
    | case3 rest inductionHypothesis =>
      exact @Lines.returnFeed [] rest _ List.not_mem_nil inductionHypothesis
    | case4 c rest plain bare alone inductionHypothesis =>
      rw [alone] at inductionHypothesis
      cases inductionHypothesis
      exact .last (List.cons_ne_nil c []) (by simpa using Ne.symm plain)
    | case5 c rest plain bare line more opened inductionHypothesis =>
      rw [opened] at inductionHypothesis
      refine .joined c rest line more plain ?_ inductionHypothesis
      intro carriage fed
      obtain ⟨after, reached⟩ := List.head?_eq_some_iff.mp fed
      exact bare after carriage reached
  · intro cut
    induction cut with
    | nothing => rfl
    | @last line present unbroken => exact lines_last line present unbroken
    | @feed line rest cut unbroken bare following inductionHypothesis =>
      have split := lines_append line ('\n' :: rest) [] cut unbroken
        (fun carriage => absurd carriage bare) (congrArg ([] :: ·) inductionHypothesis)
      rwa [List.append_nil] at split
    | @returnFeed line rest cut unbroken following inductionHypothesis =>
      have split := lines_append line ('\r' :: '\n' :: rest) [] cut unbroken
        (fun _ fed => nomatch fed) (congrArg ([] :: ·) inductionHypothesis)
      rwa [List.append_nil] at split

end InputBridge.Text
