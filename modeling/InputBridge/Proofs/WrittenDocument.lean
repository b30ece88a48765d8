import InputBridge.Proofs.DependableFormat
import InputBridge.Proofs.WrittenNumber
import InputBridge.Proofs.WrittenText
/-!
# The plain format reads what it writes

The reader goes over a document twice: it cuts the text into statements, and it puts the
statements together. For a document that was written, the first pass gives a header for each
section and an assignment for each entry, in order, and the second rebuilds the sections from
them. So the plain format can be depended on: what is asked of the sections there is all that is
needed here, whatever their texts are made of.

Cutting is stated as a relation first, so that the bound that the reader recurses on stays out of
the way: every statement takes something from the text, hence the length of the text is enough.
Putting together goes along the sections with everything so far in front, and within a section
along its entries.
-/
namespace InputBridge.Toml

/-! ## Values -/

/-- A quoted text starts with a quote. -/
theorem quote_head (text : List Char) :
    ∃ c behind, quote text = c :: behind ∧ (c = '"' ∨ c = '\'') := by
  rw [quote]
  cases QuoteStyle.ofText text with
  | basic => exact ⟨'"', _, rfl, .inl rfl⟩
  | literal => exact ⟨'\'', _, rfl, .inr rfl⟩
  | multiBasic => exact ⟨'"', _, rfl, .inl rfl⟩
  | multiLiteral => exact ⟨'\'', _, rfl, .inr rfl⟩

/-- A scalar does not start with a blank. -/
theorem scalar_head (scalar : Scalar) :
    ∃ c behind, scalar.render = c :: behind ∧ isBlank c = false := by
  cases scalar with
  | text content =>
    obtain ⟨c, behind, written, rfl | rfl⟩ := quote_head content.toList
    · exact ⟨_, behind, written, rfl⟩
    · exact ⟨_, behind, written, rfl⟩
  | number value =>
    obtain ⟨c, behind, written, digit⟩ := first_digit value
    refine ⟨c, behind, written, ?_⟩
    simp only [isBlank, Bool.or_eq_false_iff, beq_eq_false_iff_ne]
    exact ⟨ne_of_told isDigit digit rfl, ne_of_told isDigit digit rfl⟩

/-- A value that starts with a quote is a text. -/
theorem value_within_quoted (depth : Nat) (c : Char) (rest : List Char)
    (quoted : c = '"' ∨ c = '\'') :
    valueWithin depth (c :: rest) =
      (quotation? (c :: rest)).map fun (text, after) => (.string (String.ofList text), after) := by
  have quoted : (c == '"' || c == '\'') = true := by simpa using quoted
  cases depth <;> rw [valueWithin, if_pos quoted]

/-- A value that starts with a digit, but as neither a date nor a time, is a number. -/
theorem value_within_number (depth : Nat) (c : Char) (rest : List Char) (digit : isDigit c = true)
    (noDate : startsDate (c :: rest) = false) (noTime : startsTime (c :: rest) = false) :
    valueWithin depth (c :: rest) = number (c :: rest) := by
  have unlike (mark : Char) (noDigit : isDigit mark = false) : c ≠ mark :=
    ne_of_told isDigit digit noDigit
  have quoted : (c == '"' || c == '\'') = false := by simp [unlike '"' rfl, unlike '\'' rfl]
  have bracket : (c == '[') = false := beq_eq_false_iff_ne.mpr (unlike '[' rfl)
  have brace : (c == '{') = false := beq_eq_false_iff_ne.mpr (unlike '{' rfl)
  cases depth
  all_goals
    rw [valueWithin]
    simp only [quoted, bracket, brace, noDate, noTime, Bool.or_self, Bool.false_eq_true, if_false]
    split
    · exact absurd (List.cons.inj ‹_›).1 (unlike 't' rfl)
    · exact absurd (List.cons.inj ‹_›).1 (unlike 'f' rfl)
    · rfl

/-- A scalar reads back as its value in front of a line feed. -/
theorem value_reads (scalar : Scalar) (rest : List Char) (fits : scalar.Fits) :
    value (scalar.render ++ '\n' :: rest) = some (scalar.toValue, '\n' :: rest) := by
  cases scalar with
  | text content =>
    have reads := quotation_reads content.toList ('\n' :: rest) (by simp) (by simp)
    obtain ⟨c, behind, written, quoted⟩ := quote_head content.toList
    rw [written, List.cons_append] at reads
    rw [Scalar.render, written, List.cons_append, value, value_within_quoted _ c _ quoted, reads]
    simp [Scalar.toValue]
  | number value =>
    have noDate := starts_no_date _ rest (digits_decimal value)
    have noTime := starts_no_time _ rest (digits_decimal value)
    have reads := number_reads value rest fits
    obtain ⟨c, behind, written, digit⟩ := first_digit value
    rw [written, List.cons_append] at noDate noTime reads
    rw [Scalar.render, written, List.cons_append, Toml.value,
      value_within_number _ c _ digit noDate noTime, reads]
    rfl

/-! ## Lines -/

/-- A character of a name is unlike any other. -/
theorem bare_unlike (name : String) (bare : BareKey name) (behind rest : List Char) (mark : Char)
    (noKey : isBareKey mark = false) : name.toList ++ behind ≠ mark :: rest := by
  intro same
  cases letters : name.toList with
  | nil => exact bare.1 letters
  | cons c others =>
    rw [letters] at same
    have first := bare.2 c (letters ▸ List.mem_cons_self)
    exact ne_of_told isBareKey first noKey (List.cons.inj same).1

/-- No blank stands in a name. -/
theorem blank_no_key (c : Char) (bare : isBareKey c = true) : isBlank c = false := by
  simp only [isBlank, Bool.or_eq_false_iff, beq_eq_false_iff_ne]
  exact ⟨ne_of_told isBareKey bare rfl, ne_of_told isBareKey bare rfl⟩

/-- Nothing is skipped in front of a name. -/
theorem skip_blanks_name (name : String) (bare : BareKey name) (behind : List Char) :
    skipBlanks (name.toList ++ behind) = name.toList ++ behind := by
  cases letters : name.toList with
  | nil => exact absurd letters bare.1
  | cons c others =>
    have first := blank_no_key c (bare.2 c (letters ▸ List.mem_cons_self))
    simp [skipBlanks, first]

/-- A name reads back as the one part of a key. -/
theorem key_part_reads (name : String) (bare : BareKey name) (c : Char) (rest : List Char)
    (noKey : isBareKey c = false) :
    keyPart (name.toList ++ c :: rest) = some (name, c :: rest) := by
  have taken : (name.toList ++ c :: rest).takeWhile isBareKey = name.toList := by
    rw [List.takeWhile_append_of_pos bare.2, List.takeWhile_cons_of_neg (by simp [noKey]),
      List.append_nil]
  have dropped : (name.toList ++ c :: rest).dropWhile isBareKey = c :: rest := by
    rw [List.dropWhile_append_of_pos bare.2, List.dropWhile_cons_of_neg (by simp [noKey])]
  have unlike := bare_unlike name bare (c :: rest)
  rw [keyPart]
  · simp only [taken, dropped]
    split
    · exact absurd ‹_› bare.1
    · simp
  · exact fun behind => unlike behind '"' rfl
  · exact fun behind => unlike behind '\'' rfl

/-- A name reads back as a key, in front of what is neither part of it nor a point. -/
theorem key_reads (name : String) (bare : BareKey name) (c : Char) (rest : List Char)
    (noKey : isBareKey c = false) (noPoint : ∀ behind, skipBlanks (c :: rest) ≠ '.' :: behind) :
    key (name.toList ++ c :: rest) = some ([], name, skipBlanks (c :: rest)) := by
  rw [key, maxKeyParts, dottedKey, skip_blanks_name name bare,
    key_part_reads name bare c rest noKey]
  dsimp only
  split
  · exact absurd ‹_› (noPoint _)
  · rfl

/-- Nothing of meaning is skipped in front of a name. -/
theorem skip_trivia_name (name : String) (bare : BareKey name) (behind : List Char) :
    skipTrivia false (name.toList ++ behind) = name.toList ++ behind := by
  cases letters : name.toList with
  | nil => exact absurd letters bare.1
  | cons c others =>
    have first := bare.2 c (letters ▸ List.mem_cons_self)
    have unlike (mark : Char) (noKey : isBareKey mark = false) : c ≠ mark :=
      ne_of_told isBareKey first noKey
    rw [List.cons_append, skipTrivia]
    · simp [blank_no_key c first, unlike '#' rfl]
    · exact unlike '\n' rfl
    · exact fun behind other => absurd other (unlike '\r' rfl)

/-- The statement that an entry is written for. -/
def assignmentOf (entry : String × Scalar) : Statement := .assign [] entry.1 entry.2.toValue

/-- The header of a section reads back as the opening of its table. -/
theorem header_reads (name : String) (bare : BareKey name) (rest : List Char) :
    statement ('[' :: (name.toList ++ ']' :: '\n' :: rest)) = some (.openTable [] name, rest) := by
  have reads := key_reads name bare ']' ('\n' :: rest) rfl (fun behind => nofun)
  have unlike := bare_unlike name bare (']' :: '\n' :: rest)
  rw [statement]
  · rw [reads]
    rfl
  · exact fun behind => unlike behind '[' rfl

/-- The line of an entry: its name, and behind an equals sign its value. -/
theorem entry_line (entry : String × Scalar) (rest : List Char) :
    renderEntry entry ++ rest =
      entry.1.toList ++ ' ' :: '=' :: ' ' :: (entry.2.render ++ '\n' :: rest) := by
  simp [renderEntry]

/-- The assignment of an entry reads back as what it assigns. -/
theorem entry_reads (entry : String × Scalar) (bare : BareKey entry.1) (fits : entry.2.Fits)
    (rest : List Char) :
    statement (renderEntry entry ++ rest) = some (assignmentOf entry, rest) := by
  have reads := key_reads entry.1 bare ' ' ('=' :: ' ' :: (entry.2.render ++ '\n' :: rest)) rfl
    (fun behind => nofun)
  have unlike := bare_unlike entry.1 bare
    (' ' :: '=' :: ' ' :: (entry.2.render ++ '\n' :: rest))
  have skipped : skipBlanks (' ' :: (entry.2.render ++ '\n' :: rest)) =
      entry.2.render ++ '\n' :: rest := by
    obtain ⟨c, behind, written, noBlank⟩ := scalar_head entry.2
    rw [written]
    simp [skipBlanks, noBlank, show isBlank ' ' = true from rfl]
  have assigned : assignment value (renderEntry entry ++ rest) =
      some ([], entry.1, entry.2.toValue, '\n' :: rest) := by
    rw [entry_line, assignment, reads]
    change (value (skipBlanks _)).map _ = _
    rw [skipped, value_reads entry.2 rest fits]
    rfl
  rw [statement]
  · rw [assigned]
    rfl
  · intro behind
    rw [entry_line]
    exact unlike _ '[' rfl
  · intro behind
    rw [entry_line]
    exact unlike _ '[' rfl

/-! ## Statements -/

/-- A text is cut into statements, with nothing of meaning in front of each or behind the last. -/
inductive Cut : List Char → List Statement → Prop
  | nothing {text : List Char} (skipped : skipTrivia false text = []) : Cut text []
  | next {text body rest : List Char} {first : Statement} {others : List Statement}
      (skipped : skipTrivia false text = body) (present : body ≠ [])
      (reads : statement body = some (first, rest)) (shorter : rest.length < text.length)
      (behind : Cut rest others) : Cut text (first :: others)

/-- The reader finds the statements that a text is cut into, if its bound is above the length of
the text. -/
theorem Cut.found {text : List Char} {parts : List Statement} (cut : Cut text parts) :
    ∀ limit, text.length < limit → statements limit text = some parts := by
  induction cut with
  | nothing skipped =>
    intro limit enough
    cases limit with
    | zero => cases enough
    | succ limit => simp only [statements, skipped]
  | @next text body rest first others skipped present reads shorter _ inductionHypothesis =>
    intro limit enough
    cases limit with
    | zero => cases enough
    | succ limit =>
      have found := inductionHypothesis limit (by omega)
      simp only [statements, skipped]
      cases body with
      | nil => exact absurd rfl present
      | cons c behind => simp only [reads, found, Option.map_some]

/-- An empty line in front changes nothing. -/
theorem Cut.behind_empty_line {text : List Char} {parts : List Statement} (cut : Cut text parts) :
    Cut ('\n' :: text) parts := by
  cases cut with
  | nothing skipped => exact .nothing skipped
  | next skipped present reads shorter behind =>
    exact .next skipped present reads (Nat.lt_succ_of_lt shorter) behind

/-- The entries of a section in front of what is cut. -/
theorem Cut.behind_entries (entries : List (String × Scalar))
    (writable : ∀ entry ∈ entries, BareKey entry.1 ∧ entry.2.Fits) {rest : List Char}
    {parts : List Statement} (cut : Cut rest parts) :
    Cut (entries.flatMap renderEntry ++ rest) (entries.map assignmentOf ++ parts) := by
  induction entries with
  | nil => exact cut
  | cons entry others inductionHypothesis =>
    obtain ⟨⟨bare, fits⟩, writableOthers⟩ := List.forall_mem_cons.mp writable
    rw [List.flatMap_cons, List.append_assoc]
    refine .next ?_ ?_ (entry_reads entry bare fits _) ?_ (inductionHypothesis writableOthers)
    · rw [entry_line]
      exact skip_trivia_name entry.1 bare _
    · simp [renderEntry]
    · simp only [renderEntry, List.length_append, List.length_cons]
      omega

/-- The statements that a section is written for. -/
def Section.statements (part : Section) : List Statement :=
  .openTable [] part.name :: part.entries.map assignmentOf

/-- A section in front of what is cut. -/
theorem Cut.behind_section {part : Section} (writable : part.Writable) {rest : List Char}
    {parts : List Statement} (cut : Cut rest parts) :
    Cut (part.render ++ rest) (part.statements ++ parts) := by
  have text : part.render ++ rest =
      '[' :: (part.name.toList ++ ']' :: '\n' :: (part.entries.flatMap renderEntry ++ rest)) := by
    simp [Section.render]
  rw [text]
  refine .next rfl (List.cons_ne_nil _ _) (header_reads part.name writable.name _) ?_
    (cut.behind_entries part.entries writable.entries)
  simp only [List.length_append, List.length_cons]
  omega

/-- The sections of a document are cut into their statements. -/
theorem sections_cut (sections : List Section) (writable : ∀ part ∈ sections, part.Writable) :
    Cut (renderSections sections) (sections.flatMap Section.statements) := by
  induction sections with
  | nil => exact .nothing rfl
  | cons first others inductionHypothesis =>
    obtain ⟨writableFirst, writableOthers⟩ := List.forall_mem_cons.mp writable
    have behind := inductionHypothesis writableOthers
    rw [List.flatMap_cons]
    cases others with
    | nil =>
      have nothing : Cut [] [] := .nothing rfl
      have alone := nothing.behind_section writableFirst
      rw [List.append_nil] at alone
      exact alone
    | cons second more => exact behind.behind_empty_line.behind_section writableFirst

/-! ## Sections -/

/-- The entries of a section, complete, in a document that is being put together. -/
def leaves (entries : List (String × Scalar)) : Entries :=
  entries.map fun entry => (entry.1, .leaf entry.2.toValue)

/-- A section in a document that is being put together. -/
def Section.node (part : Section) : String × Node :=
  (part.name, .table .header (leaves part.entries))

/-- What a section is written for. -/
def Section.contents (part : Section) : String × Value :=
  (part.name, .table (part.entries.map fun entry => (entry.1, entry.2.toValue)))

/-- Nothing is under a key that no entry has. -/
theorem lookup_missing {α : Type} (key : String) (entries : List (String × α))
    (missing : key ∉ entries.map Prod.fst) : lookup key entries = none := by
  rw [lookup, Option.map_eq_none_iff, List.find?_eq_none]
  intro entry listed same
  exact missing (eq_of_beq same ▸ List.mem_map_of_mem listed)

/-- What is under the key of the last entry, if no other has it. -/
theorem lookup_last {α : Type} (key : String) (front : List (String × α)) (last : α)
    (missing : key ∉ front.map Prod.fst) : lookup key (front ++ [(key, last)]) = some last := by
  have none := Option.map_eq_none_iff.mp (lookup_missing key front missing)
  rw [lookup, List.find?_append, none]
  simp

/-- Something else under the key of the last entry. -/
theorem replace_last (key : String) (front : Entries) (last next : Node)
    (missing : key ∉ front.map Prod.fst) :
    Entries.replace key next (front ++ [(key, last)]) = front ++ [(key, next)] := by
  have kept : front.map (fun entry => if entry.1 = key then (entry.1, next) else entry) =
      front := by
    refine (List.map_congr_left fun entry listed => ?_).trans (List.map_id front)
    have other : entry.1 ≠ key := fun same => missing (same ▸ List.mem_map_of_mem listed)
    rw [if_neg other]
    rfl
  rw [Entries.replace, lookup_last key front last missing]
  simp [kept]

/-- A header for a new table. -/
theorem open_table_new (header : List String) (name : String) (front : Entries)
    (missing : name ∉ front.map Prod.fst) :
    Draft.add { header, entries := front } (.openTable [] name) =
      some { header := [name], entries := front ++ [(name, .table .header [])] } := by
  simp [Draft.add, Entries.openTable, Entries.modifyAt, lookup_missing name front missing]

/-- An assignment to a new key of the latest table. -/
theorem assign_new (name : String) (front inner : Entries) (key : String) (value : Value)
    (missing : name ∉ front.map Prod.fst) (missingKey : key ∉ inner.map Prod.fst) :
    Draft.add { header := [name], entries := front ++ [(name, .table .header inner)] }
        (.assign [] key value) =
      some { header := [name]
             entries := front ++ [(name, .table .header (inner ++ [(key, .leaf value)]))] } := by
  simp [Draft.add, Entries.setWithin, Entries.set, Entries.modifyAt,
    lookup_last name front _ missing, replace_last name front _ _ missing,
    lookup_missing key inner missingKey]

/-- Of names that are all different, one is not among those before it. -/
theorem missing_before {before behind : List String} {name : String}
    (distinct : (before ++ name :: behind).Nodup) : name ∉ before := fun listed =>
  (List.nodup_append.mp distinct).2.2 name listed name List.mem_cons_self rfl

/-- The assignments of a section add up to its table. -/
theorem assignments_add_up (name : String) (front inner : Entries)
    (entries : List (String × Scalar)) (missing : name ∉ front.map Prod.fst)
    (distinct : (inner.map Prod.fst ++ entries.map Prod.fst).Nodup) :
    (entries.map assignmentOf).foldlM Draft.add
        { header := [name], entries := front ++ [(name, .table .header inner)] } =
      some { header := [name]
             entries := front ++ [(name, .table .header (inner ++ leaves entries))] } := by
  induction entries generalizing inner with
  | nil => simp [leaves]
  | cons entry others inductionHypothesis =>
    have missingKey : entry.1 ∉ inner.map Prod.fst := missing_before distinct
    rw [List.map_cons, List.foldlM_cons, assignmentOf,
      assign_new name front inner entry.1 _ missing missingKey]
    refine (inductionHypothesis _ ?_).trans ?_
    · simpa using distinct
    · simp [leaves]

/-- The statements of sections add up to the sections. -/
theorem sections_add_up (front : Entries) (sections : List Section) (header : List String)
    (writable : ∀ part ∈ sections, part.Writable)
    (distinct : (front.map Prod.fst ++ sections.map Section.name).Nodup) :
    ∃ last, (sections.flatMap Section.statements).foldlM Draft.add { header, entries := front } =
      some { header := last, entries := front ++ sections.map Section.node } := by
  induction sections generalizing front header with
  | nil => exact ⟨header, by simp⟩
  | cons first others inductionHypothesis =>
    obtain ⟨writableFirst, writableOthers⟩ := List.forall_mem_cons.mp writable
    have missing : first.name ∉ front.map Prod.fst := missing_before distinct
    have opened := open_table_new header first.name front missing
    have assigned := assignments_add_up first.name front [] first.entries missing
      writableFirst.distinct
    obtain ⟨last, added⟩ := inductionHypothesis (front ++ [first.node]) [first.name] writableOthers
      (by simpa [Section.node] using distinct)
    refine ⟨last, ?_⟩
    rw [List.flatMap_cons, List.foldlM_append, Section.statements, List.foldlM_cons, opened]
    change Option.bind (List.foldlM _ _ _) _ = _
    rw [assigned]
    refine Eq.trans added ?_
    simp

/-- The values of a document that sections make up. -/
theorem values_of_nodes (sections : List Section) :
    valuesOf (sections.map Section.node) = sections.map Section.contents := by
  have inner (entries : List (String × Scalar)) : valuesOf (leaves entries) =
      entries.map fun entry => (entry.1, entry.2.toValue) := by
    induction entries with
    | nil => rfl
    | cons entry others inductionHypothesis =>
      simpa [leaves, valuesOf, Node.toValue] using inductionHypothesis
  induction sections with
  | nil => rfl
  | cons first others inductionHypothesis =>
    rw [List.map_cons, List.map_cons, Section.node, valuesOf, Node.toValue, inner,
      inductionHypothesis]
    rfl

/-- A document that is written starts with no byte order mark. -/
theorem no_byte_order_mark (sections : List Section) :
    dropByteOrderMark (renderSections sections) = renderSections sections := by
  match sections with
  | [] => rfl
  | [last] => rfl
  | first :: second :: others => rfl

/-- A document that is written reads back as its sections. -/
theorem parse_render (sections : List Section) (writable : Writable sections) :
    parse (render sections) = some (sections.map Section.contents) := by
  have found := (sections_cut sections writable.parts).found _ (Nat.lt_succ_self _)
  obtain ⟨last, added⟩ := sections_add_up [] sections [] writable.parts writable.distinct
  rw [parse, render, String.toList_ofList, no_byte_order_mark, found]
  change Option.map _ (List.foldlM _ _ _) = _
  rw [added]
  simp [values_of_nodes]

/-! ## The format -/

/-- Values may be changed before one of them is looked up or afterwards. -/
theorem lookup_map {α β : Type} (change : α → β) (key : String) (entries : List (String × α)) :
    lookup key (entries.map fun entry => (entry.1, change entry.2)) =
      (lookup key entries).map change := by
  simp only [lookup, List.find?_map, Option.map_map]
  rfl

/-- What is under the name of a section, if no other section has it. -/
theorem lookup_contents (sections : List Section) (distinct : (sections.map Section.name).Nodup)
    (part : Section) (listed : part ∈ sections) :
    lookup part.name (sections.map Section.contents) = some part.contents.2 := by
  induction sections with
  | nil => cases listed
  | cons first others inductionHypothesis =>
    obtain ⟨missing, distinctOthers⟩ := List.nodup_cons.mp distinct
    obtain rfl | later := List.mem_cons.mp listed
    · simp [lookup, Section.contents]
    · have other : first.name ≠ part.name := fun same =>
        missing (same ▸ List.mem_map_of_mem later)
      rw [← inductionHypothesis distinctOthers later]
      simp [lookup, Section.contents, other]

/-- The plain format can be depended on. -/
theorem plain_dependable : Format.plain.Dependable where
  writes sections _ := ⟨render sections, rfl⟩
  reads sections text writable written := by
    obtain rfl : render sections = text := Option.some.inj written
    refine ⟨_, parse_render sections writable, fun part listed => ?_⟩
    refine ⟨_, lookup_contents sections writable.distinct part listed, fun key => ?_⟩
    exact lookup_map Scalar.toValue key part.entries

end InputBridge.Toml
