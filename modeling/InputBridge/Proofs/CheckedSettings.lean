import InputBridge.Proofs.PointerRange
import InputBridge.Proofs.WrittenThreshold
import InputBridge.Settings.Load
/-!
# Which settings pass the check

Settings pass exactly if their width is from 1 to 256 and every directive is one that can be
accepted. The directives are what stands between the commas of the level, without the white space
around it: there is one way to cut a text at its commas, and it always leaves a directive, if only
an empty one. If settings do not pass, the width is to blame if it does not fit, and the first
directive that cannot be accepted otherwise; the message says which.

The screen of settings that pass is as wide as they say, so the pointer gets to the last column and
no further.
-/
namespace InputBridge

namespace Text

/-- The pieces, with a separator between each two, make up the text, and none of them holds a
separator. -/
structure Pieces (separator : Char) (text : List Char) (cut : List (List Char)) : Prop where
  present : cut ≠ []
  whole : ∀ piece ∈ cut, separator ∉ piece
  joined : [separator].intercalate cut = text

/-- The pieces of a text are those that it is split into. -/
theorem pieces_eq_split_on (separator : Char) (text : List Char) :
    pieces separator text = text.splitOn separator := by
  induction text with
  | nil => rfl
  | cons c rest inductionHypothesis =>
    rw [pieces, List.splitOn_cons_eq_if_modifyHead, inductionHypothesis]
    by_cases same : c = separator
    · simp [same]
    · obtain ⟨piece, more, split⟩ := List.exists_cons_of_ne_nil (List.splitOn_ne_nil separator rest)
      simp [same, split]

/-- No piece goes past a separator. -/
theorem pieces_whole (separator : Char) (text : List Char) :
    ∀ piece ∈ pieces separator text, separator ∉ piece := by
  induction text with
  | nil => simp [pieces]
  | cons c rest inductionHypothesis =>
    rw [pieces]
    split
    · exact List.forall_mem_cons.mpr ⟨List.not_mem_nil, inductionHypothesis⟩
    · next other =>
      have apart : ¬ separator = c := Ne.symm other
      split
      · simp [apart]
      · next piece more cut =>
        rw [cut] at inductionHypothesis
        obtain ⟨first, others⟩ := List.forall_mem_cons.mp inductionHypothesis
        exact List.forall_mem_cons.mpr ⟨by simp [apart, first], others⟩

/-- A text can be cut into pieces in one way, and it is the one that is computed. -/
theorem pieces_exact (separator : Char) (text : List Char) (cut : List (List Char)) :
    pieces separator text = cut ↔ Pieces separator text cut := by
  constructor
  · rintro rfl
    refine ⟨?_, pieces_whole separator text, ?_⟩
    · rw [pieces_eq_split_on]
      exact List.splitOn_ne_nil separator text
    · rw [pieces_eq_split_on]
      exact List.intercalate_splitOn separator
  · rintro ⟨present, whole, rfl⟩
    rw [pieces_eq_split_on]
    exact List.splitOn_intercalate separator whole present

end Text

namespace Settings

/-- The text lists the directives: they are its pieces between commas, without the white space
around them. -/
def Lists (text : List Char) (directives : List (List Char)) : Prop :=
  ∃ cut, Text.Pieces ',' text cut ∧ List.Forall₂ Text.Trimmed cut directives

/-- A directive that can be accepted. -/
inductive Accepted (directive : List Char) : Prop where
  /-- Nothing is said. -/
  | nothing (empty : directive = [])
  /-- A part of the program is named; what is said of it is not looked at. -/
  | part (assigned : '=' ∈ directive)
  /-- A threshold's word, each letter small or capital. -/
  | word {word : String} (listed : word ∈ ["off", "error", "warn", "info", "debug", "trace"])
      (letters : List.Forall₂ Text.EitherCase word.toList directive)
  /-- A number that is that of a threshold, with a plus sign in front or without. -/
  | number {digits : List Char} {number : Nat}
      (sign : directive = digits ∨ directive = '+' :: digits)
      (decimal : Text.Decimal digits number) (small : number ≤ 5)

/-- The first of some directives that cannot be accepted. -/
def FirstRefused (directives : List (List Char)) (directive : List Char) : Prop :=
  ∃ before after, directives = before ++ directive :: after ∧
    (∀ earlier ∈ before, Accepted earlier) ∧ ¬ Accepted directive

/-- The width of the settings fits into the byte that carries a position. -/
def WidthFits (settings : Settings) : Prop :=
  1 ≤ settings.width.toNat ∧ settings.width.toNat ≤ 256

/-- The directives are those that the level lists. -/
theorem directives_exact (settings : Settings) (directives : List (List Char)) :
    settings.directives = directives ↔ Lists settings.level.toList directives := by
  have trimmed (cut : List (List Char)) :
      cut.map Text.trim = directives ↔ List.Forall₂ Text.Trimmed cut directives := by
    rw [← List.forall₂_eq_eq_eq, List.forall₂_map_left_iff]
    simp only [Text.trim_exact]
  rw [Settings.directives, trimmed]
  constructor
  · exact fun each => ⟨_, (Text.pieces_exact _ _ _).mp rfl, each⟩
  · rintro ⟨cut, pieces, each⟩
    rwa [(Text.pieces_exact _ _ _).mpr pieces]

/-- The check accepts the directives that are to be accepted. -/
theorem is_directive_iff (directive : List Char) :
    isDirective directive = true ↔ Accepted directive := by
  simp only [isDirective, Bool.or_eq_true, List.isEmpty_iff, List.contains_iff_mem,
    Option.isSome_iff_exists, Threshold.of_text_iff, Threshold.written_iff]
  constructor
  · rintro ((empty | assigned) | ⟨word, listed, letters⟩ | ⟨digits, number, sign, decimal, small⟩)
    · exact .nothing empty
    · exact .part assigned
    · exact .word listed letters
    · exact .number sign decimal small
  · rintro (empty | assigned | ⟨listed, letters⟩ | ⟨sign, decimal, small⟩)
    · exact .inl (.inl empty)
    · exact .inl (.inr assigned)
    · exact .inr (.inl ⟨_, listed, letters⟩)
    · exact .inr (.inr ⟨_, _, sign, decimal, small⟩)

/-- The check lets a width pass that fits. -/
theorem width_fits_iff (settings : Settings) :
    ¬ (settings.width = 0 ∨ fullWidth < settings.width) ↔ settings.WidthFits := by
  have full : fullWidth.toNat = 256 := rfl
  have zero : settings.width = 0 ↔ settings.width.toNat = 0 := UInt16.toNat_inj.symm
  rw [zero, UInt16.lt_iff_toNat_lt, full, WidthFits]
  omega

/-- A width that does not fit is to blame, whatever the directives. -/
theorem check_unfit (settings : Settings) (unfit : ¬ settings.WidthFits) :
    settings.check = .error (.invalid
      ("display width must be between 1 and 256, got " ++ toString settings.width)) := by
  rw [← width_fits_iff, not_not] at unfit
  rw [check, validate, if_pos unfit]
  rfl

/-- If the width fits, settings pass exactly if all directives can be accepted. -/
theorem check_passes_iff (settings : Settings) (fits : settings.WidthFits) :
    settings.check = .ok () ↔ ∀ directive ∈ settings.directives, Accepted directive := by
  have none : (settings.directives.find? fun directive => !isDirective directive) = none ↔
      ∀ directive ∈ settings.directives, Accepted directive := by
    simp [List.find?_eq_none, is_directive_iff]
  rw [← none, check, validate, if_neg ((width_fits_iff settings).mpr fits)]
  cases settings.directives.find? fun directive => !isDirective directive <;> simp

/-- The directive that is found at fault is the first that cannot be accepted. -/
theorem find_refused_iff (directives : List (List Char)) (directive : List Char) :
    (directives.find? fun directive => !isDirective directive) = some directive ↔
      FirstRefused directives directive := by
  have refused (one : List Char) : (!isDirective one) = true ↔ ¬ Accepted one := by
    simp [← is_directive_iff]
  have passed (one : List Char) : (!!isDirective one) = true ↔ Accepted one := by
    rw [Bool.not_not, is_directive_iff]
  simp only [List.find?_eq_some_iff_append, refused, passed]
  constructor
  · rintro ⟨fault, before, after, split, earlier⟩
    exact ⟨before, after, split, earlier, fault⟩
  · rintro ⟨before, after, split, earlier, fault⟩
    exact ⟨fault, before, after, split, earlier⟩

/-- If the width fits, the first directive that cannot be accepted is to blame. -/
theorem check_refuses_iff (settings : Settings) (fits : settings.WidthFits)
    (error : SettingsError) :
    settings.check = .error error ↔
      ∃ directive, FirstRefused settings.directives directive ∧
        error = .invalid ("unknown log level " ++ Text.quoted (String.ofList directive) ++ ", " ++
          "expected off, error, warn, info, debug or trace") := by
  simp only [← find_refused_iff]
  rw [check, validate, if_neg ((width_fits_iff settings).mpr fits)]
  cases found : settings.directives.find? fun directive => !isDirective directive with
  | none => simp
  | some directive =>
    constructor
    · rintro ⟨⟩
      exact ⟨directive, rfl, rfl⟩
    · rintro ⟨other, same, rfl⟩
      obtain rfl := Option.some.inj same
      rfl

/-- The screen is as wide as the settings say, and the pointer gets to its last column, exactly if
the width fits. -/
theorem width_kept_iff (settings : Settings) :
    settings.bounds.width = settings.width ∧ settings.bounds.maxX = settings.width.toNat - 1 ↔
      settings.WidthFits := by
  have cut : settings.bounds.width.toNat = min settings.width.toNat 256 :=
    ScreenBounds.to_nat_min settings.width fullWidth
  rw [← UInt16.toNat_inj, ScreenBounds.max_x_exact, cut, WidthFits]
  omega

/-- For all settings:

* the directives are those that the level lists;
* the settings pass exactly if the width is from 1 to 256 and every directive is empty, holds an
  equals sign, or is the word or the number of a threshold;
* if the width does not fit, the message names it, and otherwise it quotes the first directive at
  fault;
* if the settings pass, the screen is as wide as they say and the pointer gets to its last
  column. -/
theorem passing_settings_exact (settings : Settings) :
    (∀ directives,
      settings.directives = directives ↔ Lists settings.level.toList directives) ∧
    (settings.check = .ok () ↔
      settings.WidthFits ∧ ∀ directive ∈ settings.directives, Accepted directive) ∧
    (∀ error, settings.check = .error error ↔
      ¬ settings.WidthFits ∧
          error = .invalid
            ("display width must be between 1 and 256, got " ++ toString settings.width) ∨
        settings.WidthFits ∧ ∃ directive, FirstRefused settings.directives directive ∧
          error = .invalid
            ("unknown log level " ++ Text.quoted (String.ofList directive) ++ ", " ++
              "expected off, error, warn, info, debug or trace")) ∧
    (settings.check = .ok () →
      settings.bounds.width = settings.width ∧
        settings.bounds.maxX = settings.width.toNat - 1) := by
  refine ⟨directives_exact settings, ?_⟩
  by_cases fits : settings.WidthFits
  · have passes := check_passes_iff settings fits
    have refuses := check_refuses_iff settings fits
    refine ⟨?_, fun error => ?_, fun _ => (width_kept_iff settings).mpr fits⟩
    · rw [passes, and_iff_right fits]
    · rw [refuses, and_iff_right fits, or_iff_right fun unfit => unfit.1 fits]
  · have refused := check_unfit settings fits
    refine ⟨?_, fun error => ?_, fun passed => ?_⟩
    · rw [refused]
      exact iff_of_false nofun fun passed => fits passed.1
    · rw [refused, and_iff_right fits, or_iff_left fun other => fits other.1, Except.error.injEq,
        eq_comm]
    · exact nomatch refused.symm.trans passed

/-- White space of any kind, an empty directive, capitals and noughts do no harm. -/
theorem padded_level_passes :
    let settings : Settings :=
      { width := 200, level := " INFO\u3000, famikb_host=verbose,,+005" }
    settings.check = .ok () ∧ settings.bounds.width = 200 ∧ settings.bounds.maxX = 199 := by
  intro settings
  have passed : settings.check = .ok () := by decide +kernel
  exact ⟨passed, (passing_settings_exact settings).2.2.2 passed⟩

/-- A misspelt word is quoted, and what comes behind it is not looked at. -/
example : ({ level := "info, verbose ,7" } : Settings).validate = .error (.level "verbose") := by
  decide +kernel

end Settings

end InputBridge
