import InputBridge.CommandLine.Parser
import InputBridge.Proofs.SettingPlaces
/-!
# Settings from three layers

A setting is what was asked for, or else what the document says, or else what it is from the
start. `Asks` says what a command line asks of each setting; the shorthands ask for one choice
each, and nothing asks what to report. The main statement takes every document that holds
settings and every consistent command line and says so of all settings at once, that a setting
depends on nothing but what is asked of it and held for it, and that asking again changes
nothing.

The second part shows that the reader of command lines gives consistent ones only. What the line
shows was given, so a line that shows an option and its shorthand is refused at the end. This
carries along the words and the variables, since a value is stored in one place, that of the
parameter that was given.
-/
namespace InputBridge

open Toml (Value)

namespace CommandLine

instance (line : CommandLine) : Decidable line.IsConsistent :=
  inferInstanceAs (Decidable (_ ∧ _))

/-- What a command line asks of a setting. -/
def Asks (line : CommandLine) : (setting : Setting) → setting.Domain → Prop
  | .bus, number => line.bus = some number
  | .standard, standard => line.standard = some standard ∨ line.pal = true ∧ standard = .pal
  | .width, number => line.width = some number
  | .mode, mode => line.mode = some mode ∨ line.relative = true ∧ mode = .relative
  | .keymap, path => ∃ given, line.keymap = some given ∧ path = some given
  | .keyboard, path => ∃ given, line.keyboard = some given ∧ path = some given
  | .mouse, path => ∃ given, line.mouse = some given ∧ path = some given
  | .level, _ => False

/-- What a command line asks of a setting, an option before its shorthand. -/
def asked? (line : CommandLine) : (setting : Setting) → Option setting.Domain
  | .bus => line.bus
  | .standard => line.chosenStandard
  | .width => line.width
  | .mode => line.chosenMode
  | .keymap => line.keymap.map some
  | .keyboard => line.keyboard.map some
  | .mouse => line.mouse.map some
  | .level => none

/-- A choice with a shorthand, where not both are there. -/
theorem choice_or_shorthand {α : Type} (option : Option α) (shorthand : Bool) (short choice : α)
    (apart : option.isSome → shorthand = false) :
    option.or (if shorthand then some short else none) = some choice ↔
      option = some choice ∨ shorthand = true ∧ choice = short := by
  cases option with
  | none => cases shorthand <;> simp [eq_comm]
  | some given => simp [apart rfl]

/-- A consistent command line asks at most one thing of a setting. -/
theorem asks_iff (line : CommandLine) (consistent : line.IsConsistent) (setting : Setting)
    (value : setting.Domain) : line.Asks setting value ↔ line.asked? setting = some value := by
  cases setting with
  | standard => exact (choice_or_shorthand _ _ _ _ consistent.1).symm
  | mode => exact (choice_or_shorthand _ _ _ _ consistent.2).symm
  | keymap | keyboard | mouse =>
    simp only [Asks, asked?, Option.map_eq_some_iff]
    exact exists_congr fun given => and_congr_right' eq_comm
  | level => exact ⟨False.elim, fun none => nomatch none⟩
  | _ => exact Iff.rfl

/-- Each setting is what is asked of it, or what it was. -/
theorem get_apply (line : CommandLine) (settings : Settings) (setting : Setting) :
    (line.applyTo settings).get setting =
      (line.asked? setting).getD (settings.get setting) := by
  have path (given known : Option String) : given.or known = (given.map some).getD known := by
    cases given <;> rfl
  cases setting with
  | keymap => exact path line.keymap settings.keymap
  | keyboard => exact path line.keyboard settings.keyboard
  | mouse => exact path line.mouse settings.mouse
  | _ => rfl

/-- Applying a command line again changes nothing. -/
theorem apply_again (line : CommandLine) (settings : Settings) :
    line.applyTo (line.applyTo settings) = line.applyTo settings := by
  refine Settings.ext_get _ _ fun setting => ?_
  rw [get_apply, get_apply]
  cases line.asked? setting <;> rfl

/-- Behind a document that holds settings and a consistent command line, every setting is what
is asked of it, or else what the document holds for it or what it is from the start. Whatever
else is asked or held makes no difference to it, and asking again changes nothing. -/
theorem settings_from_layers (document : List (String × Value)) (loaded : Settings)
    (line : CommandLine) (read : Settings.ofDocument document = some loaded)
    (consistent : line.IsConsistent) :
    (∀ setting value, line.Asks setting value → (line.applyTo loaded).get setting = value) ∧
      (∀ setting, (∀ value, ¬ line.Asks setting value) →
        ∀ value, setting.SettledBy document value ↔ (line.applyTo loaded).get setting = value) ∧
      (∀ (other : List (String × Value)) (others : Settings) (again : CommandLine),
        Settings.ofDocument other = some others → again.IsConsistent →
        ∀ setting, (∀ value, line.Asks setting value ↔ again.Asks setting value) →
          setting.held? document = setting.held? other →
          (line.applyTo loaded).get setting = (again.applyTo others).get setting) ∧
      line.applyTo (line.applyTo loaded) = line.applyTo loaded := by
  have settled := ((Settings.of_document_iff document loaded).mp read).2
  refine ⟨?_, ?_, ?_, apply_again line loaded⟩
  · intro setting value asked
    rw [get_apply, (asks_iff line consistent setting value).mp asked]
    rfl
  · intro setting unasked
    have nothing : line.asked? setting = none :=
      Option.eq_none_iff_forall_ne_some.mpr fun value asked =>
        unasked value ((asks_iff line consistent setting value).mpr asked)
    rw [get_apply, nothing]
    intro value
    constructor
    · intro also
      exact Settings.settled_unique document setting _ _ (settled setting) also
    · rintro rfl
      exact settled setting
  · intro other others again otherRead otherConsistent setting sameAsked sameHeld
    have asked : line.asked? setting = again.asked? setting := Option.ext fun value => by
      rw [← asks_iff line consistent, ← asks_iff again otherConsistent, sameAsked]
    have otherSettled := ((Settings.of_document_iff other others).mp otherRead).2 setting
    have same : loaded.get setting = others.get setting := by
      refine Settings.settled_unique document setting _ _ (settled setting) ?_
      rwa [Setting.SettledBy, sameHeld]
    rw [get_apply, get_apply, asked, same]

/-- A document that says less than all, in an array and beside keys that mean nothing. -/
theorem layers_of_partial_document :
    let document : List (String × Value) :=
      [("bus", .array [.integer 3]), ("display", .table [("zoom", .integer 2),
        ("standard", .string "pal")]), ("extra", .boolean true)]
    let line : CommandLine := { width := some 240, relative := true }
    let loaded : Settings := { bus := 3, standard := .pal }
    Settings.ofDocument document = some loaded ∧ line.IsConsistent ∧
      (line.applyTo loaded).get .mode = .relative ∧
      (line.applyTo loaded).get .standard = .pal ∧ (line.applyTo loaded).get .level = "info" := by
  intro document line loaded
  have read : Settings.ofDocument document = some loaded := by decide
  have consistent : line.IsConsistent := by decide
  obtain ⟨asked, unasked, -, -⟩ := settings_from_layers document loaded line read consistent
  refine ⟨read, consistent, asked .mode .relative (.inr ⟨rfl, rfl⟩), ?_, ?_⟩
  · have untold (standard : VideoStandard) : ¬ line.Asks .standard standard := by
      rintro (given | ⟨given, -⟩) <;> cases given
    exact (unasked .standard untold .pal).mp .text
  · exact (unasked .level (fun level asks => asks) "info").mp rfl

/-! ## Command lines that are read -/

section Results

variable {ε α β : Type}

/-- A change of a result that is there. -/
theorem map_ok_iff (result : Except ε α) (change : α → β) (after : β) :
    result.map change = .ok after ↔ ∃ before, result = .ok before ∧ change before = after := by
  cases result <;> simp [Except.map]

/-- What comes next succeeds only behind what succeeds. -/
theorem bind_ok_iff (result : Except ε α) (next : α → Except ε β) (after : β) :
    result.bind next = .ok after ↔ ∃ before, result = .ok before ∧ next before = .ok after := by
  cases result <;> simp [Except.bind]

end Results

/-- A command line shows that a parameter was given. -/
def Shows (line : CommandLine) : Parameter → Prop
  | .config => line.config.isSome
  | .bus => line.bus.isSome
  | .standard => line.standard.isSome
  | .pal => line.pal = true
  | .mode => line.mode.isSome
  | .relative => line.relative = true
  | .width => line.width.isSome
  | .keymap => line.keymap.isSome
  | .keyboard => line.keyboard.isSome
  | .mouse => line.mouse.isSome

/-- A line shows no more behind the storing of a value than the parameter it was stored for. -/
theorem shows_stored (parameter other : Parameter) (value : String) (line after : CommandLine)
    (stored : parameter.store value line = .ok after) (shown : after.Shows other) :
    other = parameter ∨ line.Shows other := by
  cases parameter <;>
    obtain ⟨_, -, rfl⟩ := (map_ok_iff _ _ _).mp stored <;>
    cases other <;> first | exact .inl rfl | exact .inr shown

namespace Progress

/-- What the line shows was given. -/
def Recorded (progress : Progress) : Prop :=
  ∀ parameter, progress.line.Shows parameter → parameter ∈ progress.given

/-- Nothing is shown at the start. -/
theorem recorded_initial : Recorded {} := by
  intro parameter shown
  cases parameter <;> cases shown

/-- Giving a parameter its value records it. -/
theorem recorded_give (parameter : Parameter) (value : String) (progress after : Progress)
    (recorded : progress.Recorded) (given : progress.give parameter value = .ok after) :
    after.Recorded := by
  rw [give] at given
  split at given
  · cases given
  · obtain ⟨line, stored, rfl⟩ := (map_ok_iff _ _ _).mp given
    intro other shown
    obtain rfl | before := shows_stored parameter other value progress.line line stored shown
    · exact List.mem_cons_self
    · exact List.mem_cons_of_mem _ (recorded other before)

/-- Closing the open option keeps the record. -/
theorem recorded_settle (progress after : Progress) (recorded : progress.Recorded)
    (settled : progress.settle = .ok after) : after.Recorded := by
  rw [settle.eq_def] at settled
  split at settled
  · cases settled
    exact recorded
  · cases settled
  · exact recorded_give _ _ progress after recorded settled

/-- The words keep the record. -/
theorem recorded_read (words : List String) (progress after : Progress)
    (recorded : progress.Recorded) (done : read words progress = .ok after) :
    after.Recorded := by
  induction words generalizing progress with
  | nil => exact recorded_settle progress after recorded done
  | cons text rest inductionHypothesis =>
    cases looks : Word.ofText text <;> simp only [read, looks] at done
    case help | version =>
      obtain ⟨_, -, refused⟩ := (bind_ok_iff _ _ _).mp done
      cases refused
    case unknown | overfull => cases done
    case terminator =>
      split at done
      · exact recorded_settle progress after recorded done
      · cases done
    case plain value =>
      split at done
      · refine inductionHypothesis _ ?_ done
        exact recorded
      · cases done
    case setting parameter attached =>
      cases attached with
      | some value =>
        obtain ⟨behind, given, done⟩ := (bind_ok_iff _ _ _).mp done
        obtain ⟨settled, closed, given⟩ := (bind_ok_iff _ _ _).mp given
        have kept := recorded_settle progress settled recorded closed
        exact inductionHypothesis behind (recorded_give _ _ settled behind kept given) done
      | none =>
        obtain ⟨settled, closed, done⟩ := (bind_ok_iff _ _ _).mp done
        have kept := recorded_settle progress settled recorded closed
        split at done
        · obtain ⟨behind, given, done⟩ := (bind_ok_iff _ _ _).mp done
          exact inductionHypothesis behind (recorded_give _ _ settled behind kept given) done
        · refine inductionHypothesis _ ?_ done
          exact kept

/-- The variables keep the record. -/
theorem recorded_variables (environment : Environment) (progress after : Progress)
    (recorded : progress.Recorded) (done : progress.readVariables environment = .ok after) :
    after.Recorded := by
  rw [readVariables] at done
  generalize Parameter.all = parameters at done
  induction parameters generalizing progress with
  | nil =>
    cases done
    exact recorded
  | cons parameter rest inductionHypothesis =>
    rw [List.foldlM_cons] at done
    obtain ⟨behind, taken, done⟩ := (bind_ok_iff _ _ _).mp done
    refine inductionHypothesis behind ?_ done
    split at taken
    · cases taken
      exact recorded
    · split at taken
      · cases taken
        exact recorded
      · exact recorded_give _ _ progress behind recorded taken

end Progress

/-- What is read from words and variables never asks for a setting in two ways. -/
theorem parse_consistent (words : List String) (environment : Environment) (line : CommandLine)
    (parsed : parse words environment = .ok line) : line.IsConsistent := by
  obtain ⟨progress, read, parsed⟩ := (bind_ok_iff _ _ _).mp parsed
  obtain ⟨complete, standIn, parsed⟩ := (bind_ok_iff _ _ _).mp parsed
  have recorded := Progress.recorded_variables environment progress complete
    (Progress.recorded_read words {} progress Progress.recorded_initial read) standIn
  split at parsed
  case isTrue => cases parsed
  case isFalse apart =>
    cases parsed
    simp only [Progress.hasConflict, Bool.or_eq_true, Bool.and_eq_true, List.contains_iff_mem,
      not_or, not_and] at apart
    refine ⟨fun standard => ?_, fun mode => ?_⟩
    · exact Bool.eq_false_iff.mpr fun pal =>
        apart.1 (recorded .standard standard) (recorded .pal pal)
    · exact Bool.eq_false_iff.mpr fun relative =>
        apart.2 (recorded .mode mode) (recorded .relative relative)

end CommandLine

end InputBridge
