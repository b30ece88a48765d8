import InputBridge.Keymap.Parser
import InputBridge.Proofs.WordsAndLines
/-!
# The grammar of keymap files

A keymap file is accepted exactly if every line has one of three forms, told here without
the reader: the white space around a line is put aside, and what is left is nothing, a
comment, or a key's name and a scancode. The keymap then gives each key the scancode of
the last line that names it, under whichever of its names. A file with another line is
refused for the first such line alone, with what the reader looks for first there.

The invariant that the reading carries ties the keymap so far to the lines so far; the
number of the next line is one more than their count, so blank lines and comments count.
-/
namespace InputBridge

namespace Key

/-- The name is a key's own name or an older spelling of one. -/
def Known (name : String) : Prop :=
  name ∈ names.map Prod.snd ∨ name ∈ aliases.map Prod.fst

/-- A name's code is looked up among the keys' own names, then among the older
spellings. -/
theorem code_of_tables (name : String) : codeOf name =
    ((names.find? fun entry => entry.2 == name).map Prod.fst).or
      ((aliases.find? fun entry => entry.1 == name).map Prod.snd) := by
  rw [codeOf]
  cases names.find? fun entry => entry.2 == name with
  | some entry => rfl
  | none => rfl

/-- The known names are those that stand for a code. -/
theorem known_iff (name : String) : Known name ↔ ∃ code, codeOf name = some code := by
  rw [← Option.isSome_iff_exists, code_of_tables, Option.isSome_or, Option.isSome_map,
    Option.isSome_map, Known]
  simp

end Key

namespace Keymap

/-- The forms that a line of a keymap file may have, with what each means. -/
inductive LineForm (raw : List Char) : Line → Prop
  /-- A line of white space only. -/
  | blank (trimmed : Text.Trimmed raw []) : LineForm raw .skipped
  /-- A line that a number sign opens. -/
  | comment {rest : List Char} (trimmed : Text.Trimmed raw ('#' :: rest)) : LineForm raw .skipped
  /-- A key's name and a scancode. -/
  | entry {content name value : List Char} {code : UInt16} {scancode : UInt8}
      (trimmed : Text.Trimmed raw content) (plain : content.head? ≠ some '#')
      (cut : Text.Words content [name, value])
      (known : Key.codeOf (String.ofList name) = some code)
      (allowed : parseScancode value = some scancode) :
      LineForm raw (.entry (String.ofList name) code scancode)

/-- What is wrong with a line that is neither blank nor a comment. -/
inductive LineFault (number : Nat) (raw : List Char) : KeymapError → Prop
  /-- The line does not consist of two words. -/
  | count {content : List Char} {words : List (List Char)}
      (trimmed : Text.Trimmed raw content) (present : content ≠ [])
      (plain : content.head? ≠ some '#') (cut : Text.Words content words)
      (other : words.length ≠ 2) :
      LineFault number raw (.malformed number (String.ofList content))
  /-- The first of two words names no key. -/
  | name {content name value : List Char} (trimmed : Text.Trimmed raw content)
      (plain : content.head? ≠ some '#') (cut : Text.Words content [name, value])
      (unknown : ¬ Key.Known (String.ofList name)) :
      LineFault number raw (.unknownKey number (String.ofList name))
  /-- The first of two words names a key, but the second is no scancode. -/
  | scancode {content name value : List Char} (trimmed : Text.Trimmed raw content)
      (plain : content.head? ≠ some '#') (cut : Text.Words content [name, value])
      (known : Key.Known (String.ofList name)) (refused : parseScancode value = none) :
      LineFault number raw (.invalidScancode number (String.ofList value))

/-- The line has one of the forms of a keymap file. -/
def Proper (raw : List Char) : Prop := ∃ line, LineForm raw line

/-- A line with content that no number sign opens is read by its fields. -/
theorem parse_line_content (number : Nat) (raw content : List Char)
    (trimmed : Text.Trimmed raw content) (present : content ≠ [])
    (plain : content.head? ≠ some '#') :
    parseLine number raw =
      match Text.fields content with
      | [name, value] =>
        match Key.codeOf (String.ofList name) with
        | none => .error (.unknownKey number (String.ofList name))
        | some code =>
          match parseScancode value with
          | none => .error (.invalidScancode number (String.ofList value))
          | some scancode => .ok (.entry (String.ofList name) code scancode)
      | _ => .error (.malformed number (String.ofList content)) := by
  have kept : (content.isEmpty || content.head? == some '#') = false := by
    simp [present, plain]
  rw [parseLine, (Text.trim_exact raw content).mpr trimmed]
  simp only [kept]
  rfl

/-- A line of one of the forms is read as that form, whatever its number. -/
theorem LineForm.parsed (number : Nat) (raw : List Char) (line : Line)
    (form : LineForm raw line) : parseLine number raw = .ok line := by
  cases form with
  | blank trimmed => simp [parseLine, (Text.trim_exact raw _).mpr trimmed]
  | comment trimmed => simp [parseLine, (Text.trim_exact raw _).mpr trimmed]
  | entry trimmed plain cut known allowed =>
    rw [parse_line_content number raw _ trimmed (cut.present) plain,
      (Text.fields_exact _ _).mpr cut]
    simp only [known, allowed]

/-- A faulty line is refused with its fault. -/
theorem LineFault.parsed (number : Nat) (raw : List Char) (error : KeymapError)
    (fault : LineFault number raw error) : parseLine number raw = .error error := by
  cases fault with
  | count trimmed present plain cut other =>
    rw [parse_line_content number raw _ trimmed present plain, (Text.fields_exact _ _).mpr cut]
    split
    · exact absurd rfl other
    · rfl
  | name trimmed plain cut unknown =>
    have nowhere := Option.eq_none_iff_forall_ne_some.mpr
      (not_exists.mp (mt (Key.known_iff _).mpr unknown))
    rw [parse_line_content number raw _ trimmed (cut.present) plain,
      (Text.fields_exact _ _).mpr cut]
    simp only [nowhere]
  | scancode trimmed plain cut known refused =>
    obtain ⟨code, found⟩ := (Key.known_iff _).mp known
    rw [parse_line_content number raw _ trimmed (cut.present) plain,
      (Text.fields_exact _ _).mpr cut]
    simp only [found, refused]

/-- Every line is read for what it is: as one of the forms, or as a fault. -/
theorem parse_line_meets (number : Nat) (raw : List Char) :
    (∃ line, parseLine number raw = .ok line ∧ LineForm raw line) ∨
      ∃ error, parseLine number raw = .error error ∧ LineFault number raw error := by
  have trimmed := (Text.trim_exact raw _).mp rfl
  generalize Text.trim raw = content at trimmed
  by_cases present : content = []
  · subst present
    exact .inl ⟨.skipped, LineForm.parsed number raw _ (.blank trimmed), .blank trimmed⟩
  by_cases plain : content.head? = some '#'
  · obtain ⟨rest, rfl⟩ := List.head?_eq_some_iff.mp plain
    exact .inl ⟨.skipped, LineForm.parsed number raw _ (.comment trimmed), .comment trimmed⟩
  have cut := (Text.fields_exact content _).mp rfl
  rw [parse_line_content number raw content trimmed present plain]
  split
  case h_1 name value two =>
    rw [two] at cut
    split
    case h_1 unknown =>
      have missing : ¬ Key.Known (String.ofList name) := by simp [Key.known_iff, unknown]
      exact .inr ⟨_, rfl, .name trimmed plain cut missing⟩
    case h_2 code known =>
      split
      case h_1 refused =>
        have found := (Key.known_iff _).mpr ⟨code, known⟩
        exact .inr ⟨_, rfl, .scancode trimmed plain cut found refused⟩
      case h_2 scancode allowed => exact .inl ⟨_, rfl, .entry trimmed plain cut known allowed⟩
  case h_2 other =>
    have miscounted : (Text.fields content).length ≠ 2 := by
      intro two
      match split : Text.fields content, two with
      | [name, value], _ => exact other name value split
    exact .inr ⟨_, rfl, .count trimmed present plain cut miscounted⟩

/-- The codes of the mapped keys. -/
def codes (keymap : Keymap) : List UInt16 := keymap.entries.map Prod.fst

/-- The size of a keymap is the number of mapped keys. -/
theorem size_codes (keymap : Keymap) : keymap.size = keymap.codes.length :=
  (List.length_map Prod.fst).symm

/-- Setting a key maps it and unmaps no other. -/
theorem mem_codes_set (keymap : Keymap) (code asked : UInt16) (scancode : UInt8) :
    asked ∈ (keymap.set code scancode).codes ↔ asked = code ∨ asked ∈ keymap.codes := by
  by_cases same : asked = code <;> simp [codes, set, same]

/-- Setting a key leaves one entry for each mapped key. -/
theorem codes_set_nodup (keymap : Keymap) (code : UInt16) (scancode : UInt8)
    (distinct : keymap.codes.Nodup) : (keymap.set code scancode).codes.Nodup := by
  have kept : ((keymap.entries.filter fun entry => entry.1 != code).map Prod.fst).Nodup :=
    distinct.sublist (List.filter_sublist.map Prod.fst)
  simpa [codes, set] using kept

/-- The line is an entry for the key, under any of the key's names. -/
def Names (raw : List Char) (code : UInt16) : Prop :=
  ∃ name scancode, LineForm raw (.entry name code scancode)

/-- The last line that is an entry for the key gives it this scancode. -/
def LastGives (lines : List (List Char)) (code : UInt16) (scancode : UInt8) : Prop :=
  ∃ before raw after name, lines = before ++ raw :: after ∧
    LineForm raw (.entry name code scancode) ∧ ∀ later ∈ after, ¬ Names later code

/-- The keymap has what the entries among the lines say, and nothing else. -/
structure Describes (keymap : Keymap) (lines : List (List Char)) : Prop where
  /-- A key has the scancode that the last entry for it gives. -/
  found : ∀ code scancode, keymap.lookup code = some scancode ↔ LastGives lines code scancode
  /-- The mapped keys are those with an entry. -/
  named : ∀ code, code ∈ keymap.codes ↔ ∃ raw ∈ lines, Names raw code
  /-- No key is mapped twice. -/
  distinct : keymap.codes.Nodup

/-- A line has one meaning. -/
theorem LineForm.unique (raw : List Char) (one other : Line) (form : LineForm raw one)
    (again : LineForm raw other) : one = other :=
  Except.ok.inj ((LineForm.parsed 0 raw one form).symm.trans (LineForm.parsed 0 raw other again))

/-- A cut through lines that one more line closes is at that line or before it. -/
theorem cut_at_last (lines before after : List (List Char)) (raw entry : List Char)
    (cut : lines ++ [raw] = before ++ entry :: after) :
    (entry = raw ∧ lines = before) ∨
      ∃ rest, after = rest ++ [raw] ∧ lines = before ++ entry :: rest := by
  rcases List.eq_nil_or_concat after with rfl | ⟨rest, last, rfl⟩
  · obtain ⟨same, closing⟩ := List.append_inj' cut rfl
    exact .inl ⟨(List.singleton_inj.mp closing).symm, same⟩
  · rw [List.concat_eq_append, ← List.cons_append, ← List.append_assoc] at cut
    obtain ⟨same, closing⟩ := List.append_inj' cut rfl
    exact .inr ⟨rest, by rw [List.concat_eq_append, closing], same⟩

/-- A further line that is no entry for a key leaves the last entry for it what it was. -/
theorem last_gives_other (lines : List (List Char)) (raw : List Char) (code : UInt16)
    (scancode : UInt8) (other : ¬ Names raw code) :
    LastGives (lines ++ [raw]) code scancode ↔ LastGives lines code scancode := by
  constructor
  · rintro ⟨before, entry, after, name, cut, form, silent⟩
    rcases cut_at_last lines before after raw entry cut with ⟨rfl, rfl⟩ | ⟨rest, rfl, rfl⟩
    · exact absurd ⟨name, scancode, form⟩ other
    · exact ⟨before, entry, rest, name, rfl, form,
        fun later found => silent later (List.mem_append_left [raw] found)⟩
  · rintro ⟨before, entry, after, name, rfl, form, silent⟩
    refine ⟨before, entry, after ++ [raw], name, by simp, form, ?_⟩
    intro later found
    rcases List.mem_append.mp found with earlier | last
    · exact silent later earlier
    · exact List.mem_singleton.mp last ▸ other

/-- A further entry for a key is the last one. -/
theorem last_gives_same (lines : List (List Char)) (raw : List Char) (name : String)
    (code : UInt16) (given asked : UInt8) (form : LineForm raw (.entry name code given)) :
    LastGives (lines ++ [raw]) code asked ↔ asked = given := by
  constructor
  · rintro ⟨before, entry, after, spelling, cut, earlier, silent⟩
    rcases cut_at_last lines before after raw entry cut with ⟨rfl, rfl⟩ | ⟨rest, rfl, rfl⟩
    · have same := LineForm.unique entry _ _ earlier form
      exact (Line.entry.inj same).2.2
    · have last : raw ∈ rest ++ [raw] := List.mem_append_right rest List.mem_cons_self
      exact absurd ⟨name, given, form⟩ (silent raw last)
  · rintro rfl
    exact ⟨lines, raw, [], name, rfl, form, nofun⟩

/-- Without lines the keymap is empty. -/
theorem describes_nothing : Describes {} [] where
  found code scancode := by
    constructor
    · exact nofun
    · rintro ⟨before, raw, after, name, cut, -⟩
      exact absurd cut.symm (List.append_ne_nil_of_right_ne_nil before (List.cons_ne_nil raw after))
  named code := by simp [codes]
  distinct := .nil

/-- A further line that is no entry changes nothing. -/
theorem describes_skipped (keymap : Keymap) (seen : List (List Char)) (raw : List Char)
    (described : Describes keymap seen) (form : LineForm raw .skipped) :
    Describes keymap (seen ++ [raw]) := by
  have other (code : UInt16) : ¬ Names raw code := by
    rintro ⟨name, scancode, entry⟩
    exact nomatch LineForm.unique raw _ _ form entry
  refine ⟨?_, ?_, described.distinct⟩
  · intro code scancode
    rw [last_gives_other seen raw code scancode (other code)]
    exact described.found code scancode
  · intro code
    simp [described.named code, other code]

/-- A further entry sets its key and leaves every other key what it was. -/
theorem describes_entry (keymap : Keymap) (seen : List (List Char)) (raw : List Char)
    (name : String) (code : UInt16) (scancode : UInt8) (described : Describes keymap seen)
    (form : LineForm raw (.entry name code scancode)) :
    Describes (keymap.set code scancode) (seen ++ [raw]) := by
  have key (asked : UInt16) : Names raw asked ↔ asked = code := by
    constructor
    · rintro ⟨spelling, given, entry⟩
      exact (Line.entry.inj (LineForm.unique raw _ _ entry form)).2.1
    · rintro rfl
      exact ⟨name, scancode, form⟩
  refine ⟨?_, ?_, codes_set_nodup keymap code scancode described.distinct⟩
  · intro asked given
    rw [lookup_set]
    by_cases same : asked = code
    · subst same
      rw [if_pos rfl, last_gives_same seen raw name asked scancode given form]
      exact ⟨fun taken => (Option.some.inj taken).symm, fun taken => congrArg some taken.symm⟩
    · rw [if_neg same, last_gives_other seen raw asked given (mt (key asked).mp same)]
      exact described.found asked given
  · intro asked
    rw [mem_codes_set, described.named asked]
    simp only [List.mem_append, List.mem_singleton, or_and_right, exists_or, exists_eq_left,
      key asked, or_comm]

/-- Taking a line into account keeps the keymap what the lines so far describe. -/
theorem describes_step (reading : Reading) (number : Nat) (seen : List (List Char))
    (raw : List Char) (line : Line) (described : Describes reading.keymap seen)
    (form : LineForm raw line) : Describes (reading.add number line).keymap (seen ++ [raw]) := by
  cases line with
  | skipped => exact describes_skipped reading.keymap seen raw described form
  | entry name code scancode =>
    exact describes_entry reading.keymap seen raw name code scancode described form

/-- What reading the lines of a file comes to. -/
inductive Outcome (lines : List (List Char)) : Reading × Option KeymapError → Prop
  /-- Every line has one of the forms, and all of them count. -/
  | whole {reading : Reading} (proper : ∀ raw ∈ lines, Proper raw)
      (described : Describes reading.keymap lines) : Outcome lines (reading, none)
  /-- The lines before the faulty one count. -/
  | refused {reading : Reading} {before after : List (List Char)} {raw : List Char}
      {error : KeymapError} (cut : lines = before ++ raw :: after)
      (proper : ∀ earlier ∈ before, Proper earlier) (described : Describes reading.keymap before)
      (fault : LineFault (before.length + 1) raw error) : Outcome lines (reading, some error)

/-- Reading on from lines that all count comes to what the lines from the start come to. -/
theorem read_lines_outcome (lines seen : List (List Char)) (reading : Reading)
    (proper : ∀ raw ∈ seen, Proper raw) (described : Describes reading.keymap seen) :
    Outcome (seen ++ lines) (readLines (seen.length + 1) reading lines) := by
  induction lines generalizing seen reading with
  | nil =>
    rw [List.append_nil]
    exact .whole proper described
  | cons raw rest inductionHypothesis =>
    rcases parse_line_meets (seen.length + 1) raw with ⟨line, parsed, form⟩ | ⟨error, parsed, fault⟩
    · have further : ∀ earlier ∈ seen ++ [raw], Proper earlier := by
        intro earlier found
        rcases List.mem_append.mp found with before | last
        · exact proper earlier before
        · exact List.mem_singleton.mp last ▸ ⟨line, form⟩
      have ahead := inductionHypothesis (seen ++ [raw]) (reading.add (seen.length + 1) line)
        further (describes_step reading _ seen raw line described form)
      simp only [readLines, parsed]
      simpa using ahead
    · simp only [readLines, parsed]
      exact .refused rfl proper described fault

/-- The error is the fault of the first line that has none of the forms. -/
def FirstFault (lines : List (List Char)) (error : KeymapError) : Prop :=
  ∃ before raw after, lines = before ++ raw :: after ∧ (∀ earlier ∈ before, Proper earlier) ∧
    LineFault (before.length + 1) raw error

/-- A faulty line after proper ones ends the reading, whatever follows it. -/
theorem read_lines_fault (before after : List (List Char)) (raw : List Char)
    (error : KeymapError) (number : Nat) (reading : Reading)
    (proper : ∀ earlier ∈ before, Proper earlier)
    (fault : LineFault (number + before.length) raw error) :
    (readLines number reading (before ++ raw :: after)).2 = some error := by
  induction before generalizing number reading with
  | nil => simp only [List.nil_append, readLines, LineFault.parsed number raw error fault]
  | cons first before inductionHypothesis =>
    obtain ⟨⟨line, form⟩, others⟩ := List.forall_mem_cons.mp proper
    simp only [List.cons_append, readLines, LineForm.parsed number first line form]
    have place : number + (first :: before).length = number + 1 + before.length := by
      rw [List.length_cons]
      omega
    exact inductionHypothesis (number + 1) _ others (place ▸ fault)

/-- Reading a whole file comes to what its lines come to. -/
theorem read_outcome (text : String) : Outcome (Text.lines text.toList) (read text) :=
  read_lines_outcome _ [] {} nofun describes_nothing

/-- A text is parsed into the keymap that all its lines describe or refused for its first
fault. -/
theorem parse_meets (text : String) :
    (∃ keymap, parse text = .ok keymap ∧ (∀ raw ∈ Text.lines text.toList, Proper raw) ∧
      Describes keymap (Text.lines text.toList)) ∨
    ∃ error, parse text = .error error ∧ FirstFault (Text.lines text.toList) error := by
  have outcome := read_outcome text
  rw [parse]
  generalize read text = result at outcome
  cases outcome with
  | @whole reading proper described => exact .inl ⟨reading.keymap, rfl, proper, described⟩
  | @refused reading before after raw error cut proper described fault =>
    exact .inr ⟨error, rfl, before, raw, after, cut, proper, fault⟩

/-- A faulty line has none of the forms. -/
theorem LineFault.improper (number : Nat) (raw : List Char) (error : KeymapError)
    (fault : LineFault number raw error) : ¬ Proper raw := by
  rintro ⟨line, form⟩
  exact nomatch (LineForm.parsed number raw line form).symm.trans
    (LineFault.parsed number raw error fault)

/-- A text with a faulty line after proper ones is refused for it. -/
theorem parse_first_fault (text : String) (lines : List (List Char)) (error : KeymapError)
    (cut : Text.Lines text.toList lines) (first : FirstFault lines error) :
    parse text = .error error := by
  obtain ⟨before, raw, after, rfl, proper, fault⟩ := first
  rw [Nat.add_comm] at fault
  have ends := read_lines_fault before after raw error 1 {} proper fault
  rw [← (Text.lines_exact text.toList _).mpr cut, ← read] at ends
  rw [parse]
  cases outcome : read text with
  | mk reading final =>
    rw [outcome] at ends
    subst ends
    rfl

/-- Blank lines and comments count in the numbering, and a number sign within a line opens no
comment. -/
example : (read "\n# letters\r\nKEY_A 1C # first\nKEY_NOPE").2 =
    some (.malformed 3 "KEY_A 1C # first") := by
  decide +kernel

/-- A keymap file is accepted exactly if every line is blank, a comment or the known name
of a key and a scancode, and then gives each key what its last entry says. Any other file
is refused for the first line that has none of these forms, whatever follows it. -/
theorem parse_exact (text : String) :
    ∃ lines, (∀ cut, Text.Lines text.toList cut ↔ cut = lines) ∧
      ((∃ keymap, parse text = .ok keymap) ↔ ∀ raw ∈ lines, Proper raw) ∧
      (∀ keymap, parse text = .ok keymap →
        Describes keymap lines ∧ keymap.size = keymap.codes.length) ∧
      (∀ error, parse text = .error error ↔ FirstFault lines error) ∧
      ∀ before raw after, lines = before ++ raw :: after →
        (∀ earlier ∈ before, Proper earlier) → ¬ Proper raw →
        ∀ (other : String) (rest : List (List Char)),
          Text.Lines other.toList (before ++ raw :: rest) → parse other = parse text := by
  have own := (Text.lines_exact text.toList _).mp rfl
  refine ⟨Text.lines text.toList, ?cut, ?accepted, ?described, ?refused, ?blind⟩
  case cut =>
    intro cut
    rw [← Text.lines_exact, eq_comm]
  case accepted =>
    rcases parse_meets text with ⟨keymap, parsed, proper, -⟩ | ⟨error, parsed, first⟩
    · exact ⟨fun _ => proper, fun _ => ⟨keymap, parsed⟩⟩
    · obtain ⟨before, raw, after, cut, -, fault⟩ := first
      have present : raw ∈ Text.lines text.toList := by simp [cut]
      constructor
      · rintro ⟨keymap, accepted⟩
        exact nomatch accepted.symm.trans parsed
      · intro proper
        exact absurd (proper raw present) (LineFault.improper _ raw error fault)
  case described =>
    intro keymap accepted
    rcases parse_meets text with ⟨same, parsed, -, described⟩ | ⟨error, parsed, -⟩
    · obtain rfl := Except.ok.inj (accepted.symm.trans parsed)
      exact ⟨described, size_codes keymap⟩
    · exact nomatch accepted.symm.trans parsed
  case refused =>
    intro error
    constructor
    · intro refused
      rcases parse_meets text with ⟨keymap, parsed, -⟩ | ⟨same, parsed, first⟩
      · exact nomatch refused.symm.trans parsed
      · exact Except.error.inj (refused.symm.trans parsed) ▸ first
    · exact parse_first_fault text _ error own
  case blind =>
    intro before raw after cut proper improper other rest split
    rcases parse_line_meets (before.length + 1) raw with ⟨line, -, form⟩ | ⟨error, -, fault⟩
    · exact absurd ⟨line, form⟩ improper
    · rw [parse_first_fault text _ error own ⟨before, raw, after, cut, proper, fault⟩,
        parse_first_fault other _ error split ⟨before, raw, rest, rfl, proper, fault⟩]

end Keymap

end InputBridge
