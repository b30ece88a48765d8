import InputBridge.Proofs.DeviceSelection
import InputBridge.Proofs.TypedInput
/-!
# What the question for a device reads and prints

Two loops ask for a device. The inner one asks again after a line that holds no number, the outer
one shows the list again after a number that is not on it. Seen from the input they are one: lines
are passed over until one decides, and with every line goes one question. Only for a number that is
not on the list is there a notice and the list once more.

The lines that are left follow the deciding line at once, so what one question leaves is what the
next one gets: the parts that two of them use up stand one behind the other in the input.
-/
namespace InputBridge

open Text (Bytes TypedLines TypedNumber)

/-- The line is text, and it holds no number. -/
def HoldsNoNumber (line : Bytes) : Prop :=
  ∃ text, Text.decode line = some text ∧ ∀ number, ¬ TypedNumber text number

/-- The line is text that holds a number. -/
def HoldsNumber (line : Bytes) (number : Nat) : Prop :=
  ∃ text, Text.decode line = some text ∧ TypedNumber text number

/-- How lines that were not passed over settle a question for a number, with the lines that are
left. -/
inductive Answers : List Bytes → Option Nat → List Bytes → Prop where
  | ended : Answers [] none []
  | garbled {line : Bytes} {left : List Bytes} (noText : Text.decode line = none) :
      Answers (line :: left) none left
  | number {line : Bytes} {left : List Bytes} {number : Nat} (holds : HoldsNumber line number) :
      Answers (line :: left) (some number) left

namespace Console

/-- Asking for a number passes over the lines that hold none, with one question for every line
and one for the answer. -/
theorem ask_number_dialogue (question : String) (console : Console) (lines : List Bytes)
    (cut : TypedLines console.input lines) :
    ∃ (passed remaining left : List Bytes) (answer : Option Nat),
      lines = passed ++ remaining ∧ (∀ line ∈ passed, HoldsNoNumber line) ∧
      Answers remaining answer left ∧ TypedLines left.flatten left ∧
      console.askNumber question =
        (answer, { input := left.flatten
                   output := console.output ++
                     (passed.map fun _ => .text question) ++ [.text question] }) := by
  fun_induction askNumber question console generalizing lines with
  | case1 console asked empty =>
    obtain rfl := Text.typed_lines_nil cut empty
    exact ⟨[], [], [], none, rfl, List.forall_mem_nil _, .ended, .nothing,
      by simp [asked, print, empty]⟩
  | case2 console asked more rest garbled =>
    obtain ⟨left, rfl, behind⟩ := Text.typed_lines_cons cut more
    have same := behind.flatten
    exact ⟨[], _, left, none, rfl, List.forall_mem_nil _, .garbled garbled, same ▸ behind,
      by simp [rest, asked, print, same]⟩
  | case3 console asked more rest line text number held =>
    obtain ⟨left, rfl, behind⟩ := Text.typed_lines_cons cut more
    have same := behind.flatten
    exact ⟨[], _, left, some number, rfl, List.forall_mem_nil _,
      .number ⟨line, text, (number_of_iff line number).mp held⟩, same ▸ behind,
      by simp [rest, asked, print, same]⟩
  | case4 console asked more rest line text none inductionHypothesis =>
    obtain ⟨later, rfl, behind⟩ := Text.typed_lines_cons cut more
    obtain ⟨passed, remaining, left, answer, rfl, silent, answers, cutLeft, same⟩ :=
      inductionHypothesis later behind
    have first : HoldsNoNumber (Text.takeLine console.input).1 :=
      ⟨line, text, fun number typed =>
        Option.some_ne_none number (((number_of_iff line number).mpr typed).symm.trans none)⟩
    refine ⟨_ :: passed, remaining, left, answer, rfl,
      List.forall_mem_cons.mpr ⟨first, silent⟩, answers, cutLeft, ?_⟩
    rw [same]
    simp [rest, asked, print]

/-- The question for a device of a kind. -/
def question (kind : DeviceKind) : Output := .text s!"Select {kind.word}: "

/-- The list of devices as it is shown. -/
def listing (devices : List Descriptor) : List Output :=
  devices.zipIdx.map fun (device, index) => .text s!"{index} : {device.name} ({device.path})\n"

/-- Listing devices puts their list on the console and does nothing else. -/
theorem list_shows (devices : List Descriptor) (console : Console) :
    console.list devices = { console with output := console.output ++ listing devices } := by
  rw [list, listing]
  generalize devices.zipIdx = numbered
  induction numbered generalizing console with
  | nil => simp
  | cons first rest inductionHypothesis =>
    rw [List.foldl_cons, inductionHypothesis]
    simp [print]

end Console

open Console (question listing)

/-- A line that was passed over, with the number that it held if it held one. -/
structure Passed where
  line : Bytes
  number : Option Nat := none
deriving DecidableEq, Repr

namespace Passed

/-- The line is rightly passed over if so many devices are listed. -/
def Over (count : Nat) (passed : Passed) : Prop :=
  match passed.number with
  | none => HoldsNoNumber passed.line
  | some number => HoldsNumber passed.line number ∧ count ≤ number

/-- What is put on the console for the line: the question, and if it held a number, that this is
not on the list, and the list again. -/
def exchange (kind : DeviceKind) (devices : List Descriptor) (passed : Passed) : List Output :=
  match passed.number with
  | none => [question kind]
  | some number => question kind :: .notice (.notListed kind number) :: listing devices

/-- Lines without a number bring a question each. -/
theorem exchange_silent (kind : DeviceKind) (devices : List Descriptor) (lines : List Bytes) :
    (lines.map fun line => ({ line } : Passed)).flatMap (exchange kind devices) =
      lines.map fun _ => question kind := by
  rw [List.flatMap_map]
  induction lines with
  | nil => rfl
  | cons line rest inductionHypothesis =>
    rw [List.flatMap_cons, List.map_cons, inductionHypothesis]
    rfl

end Passed

/-- The list is shown and then a number asked for. -/
theorem Console.ask_device_dialogue (kind : DeviceKind) (devices : List Descriptor)
    (console after : Console) (answer : Option Nat) (lines : List Bytes)
    (cut : TypedLines console.input lines)
    (asked : prompting.ask kind devices console = (answer, after)) :
    ∃ (silent remaining left : List Bytes), lines = silent ++ remaining ∧
      (∀ line ∈ silent, HoldsNoNumber line) ∧ Answers remaining answer left ∧
      TypedLines left.flatten left ∧
      after = { input := left.flatten
                output := console.output ++ listing devices ++
                  (silent.map fun _ => question kind) ++ [question kind] } := by
  have shown : (console.list devices).askNumber s!"Select {kind.word}: " = (answer, after) := asked
  rw [list_shows] at shown
  obtain ⟨silent, remaining, left, told, rfl, noNumber, answers, cutLeft, same⟩ :=
    ask_number_dialogue s!"Select {kind.word}: "
      { console with output := console.output ++ listing devices } lines cut
  obtain ⟨rfl, rfl⟩ := Prod.mk.inj (shown.symm.trans same)
  exact ⟨silent, remaining, left, rfl, noNumber, answers, cutLeft, rfl⟩

/-- A question for a device was asked until it was settled: the lines that were passed over, the one
that settled it if there was one, and what was shown meanwhile. -/
inductive Dialogue (kind : DeviceKind) (devices : List Descriptor) (console : Console)
    (lines : List Bytes) : Option Nat → Console → Prop where
  | settled {choice : Option Nat} {remaining left : List Bytes} (passed : List Passed)
      (cut : lines = passed.map Passed.line ++ remaining)
      (rightly : ∀ entry ∈ passed, entry.Over devices.length)
      (answers : Answers remaining choice left)
      (listed : ∀ number, choice = some number → number < devices.length) :
      Dialogue kind devices console lines choice
        { input := left.flatten
          output := console.output ++ listing devices ++
            passed.flatMap (Passed.exchange kind devices) ++ [question kind] }

/-- Lines without a number stand before what settles the question, or before more that does not. -/
theorem over_silent (count : Nat) (silent : List Bytes)
    (noNumber : ∀ line ∈ silent, HoldsNoNumber line) :
    ∀ entry ∈ silent.map fun line => ({ line } : Passed), entry.Over count := by
  intro entry inside
  obtain ⟨line, present, rfl⟩ := List.mem_map.mp inside
  exact noNumber line present

/-- The first question ends the dialogue if its answer is on the list or there is none. -/
theorem Console.ask_device_settles (kind : DeviceKind) (devices : List Descriptor)
    (console after : Console) (answer : Option Nat) (lines : List Bytes)
    (cut : TypedLines console.input lines)
    (asked : prompting.ask kind devices console = (answer, after))
    (listed : ∀ number, answer = some number → number < devices.length) :
    Dialogue kind devices console lines answer after := by
  obtain ⟨silent, remaining, left, rfl, noNumber, answers, -, rfl⟩ :=
    ask_device_dialogue kind devices console after answer lines cut asked
  rw [← Passed.exchange_silent kind devices silent]
  exact .settled _ (by simp [Function.comp_def]) (over_silent _ silent noNumber) answers listed

/-- After a number that is not on the list the dialogue starts over behind it. -/
theorem Dialogue.again {kind : DeviceKind} {devices : List Descriptor} {console after : Console}
    {choice : Option Nat} {silent left : List Bytes} {line input : Bytes} {number : Nat}
    (noNumber : ∀ line ∈ silent, HoldsNoNumber line) (holds : HoldsNumber line number)
    (outside : devices.length ≤ number)
    (later : Dialogue kind devices
      { input
        output := console.output ++ listing devices ++ (silent.map fun _ => question kind) ++
          [question kind] ++ [.notice (.notListed kind number)] }
      left choice after) :
    Dialogue kind devices console (silent ++ line :: left) choice after := by
  obtain ⟨passed, rfl, rightly, answers, listed⟩ := later
  have overAll : ∀ entry ∈ (silent.map fun line => ({ line } : Passed)) ++
      ⟨line, some number⟩ :: passed, entry.Over devices.length := by
    intro entry inside
    rcases List.mem_append.mp inside with early | rest
    · exact over_silent _ silent noNumber entry early
    · rcases List.mem_cons.mp rest with rfl | late
      · exact ⟨holds, outside⟩
      · exact rightly entry late
  have whole : Dialogue kind devices console _ choice _ := .settled _ rfl overAll answers listed
  simpa [Function.comp_def, Passed.exchange_silent, Passed.exchange] using whole

/-- Asking for a device passes over the lines that do not decide, and takes the first that does. -/
theorem Console.ask_listed_dialogue (kind : DeviceKind) (devices : List Descriptor)
    (console : Console) (lines : List Bytes) (cut : TypedLines console.input lines) :
    Dialogue kind devices console lines (prompting.askListed kind devices console).1
      (prompting.askListed kind devices console).2 := by
  fun_induction prompting.askListed kind devices console generalizing lines with
  | case1 console after asked =>
    exact ask_device_settles kind devices console after none lines cut asked
      (by simp)
  | case2 console number after asked inside =>
    exact ask_device_settles kind devices console after (some number) lines cut asked
      (fun _ same => Option.some.inj same ▸ inside)
  | case3 console number after asked outside inductionHypothesis =>
    obtain ⟨silent, remaining, left, rfl, noNumber, answers, cutLeft, rfl⟩ :=
      ask_device_dialogue kind devices console after _ lines cut asked
    cases answers with
    | number holds =>
      exact .again noNumber holds (Nat.le_of_not_lt outside) (inductionHypothesis left cutLeft)

/-- What settles a question is at the front of the lines, and the lines left are behind it. -/
theorem Answers.used {remaining left : List Bytes} {answer : Option Nat}
    (answers : Answers remaining answer left) : ∃ used, remaining = used ++ left := by
  cases answers with
  | ended => exact ⟨[], rfl⟩
  | garbled => exact ⟨[_], rfl⟩
  | number => exact ⟨[_], rfl⟩

/-- A dialogue uses input up from the front. -/
theorem Dialogue.used {kind : DeviceKind} {devices : List Descriptor} {console after : Console}
    {choice : Option Nat} {lines : List Bytes}
    (dialogue : Dialogue kind devices console lines choice after) :
    ∃ used, lines.flatten = used ++ after.input := by
  obtain ⟨passed, rfl, -, answers, -⟩ := dialogue
  obtain ⟨used, rfl⟩ := answers.used
  refine ⟨(passed.map Passed.line ++ used).flatten, ?_⟩
  simp

/-- A notice is not printed text. -/
theorem Console.printed_report (notice : Notice) (console : Console) :
    (console.report notice).printed = console.printed := by
  simp [printed, report]

open Descriptor (devicesOf indicesOf)

/-- Of several devices of which none is preferred the one is chosen that the dialogue comes to. -/
theorem choose_device_dialogue (files : FileTree) (kind : DeviceKind) (devices : List Descriptor)
    (console : Console) (several : 2 ≤ (devicesOf kind devices).length) (lines : List Bytes)
    (cut : TypedLines console.input lines) :
    ∃ choice,
      Dialogue kind (devicesOf kind devices) (console.report (.severalDetected kind)) lines choice
        (chooseDevice files kind devices none console).2 ∧
      (choice = none → (chooseDevice files kind devices none console).1 =
        .error (.noSelection kind)) ∧
      ∀ number, choice = some number → ∃ place, (indicesOf kind devices)[number]? = some place ∧
        devices[place]? = (devicesOf kind devices)[number]? ∧
        (chooseDevice files kind devices none console).1 = .ok (some place) := by
  have dialogue := Console.ask_listed_dialogue kind (devicesOf kind devices)
    (console.report (.severalDetected kind)) lines cut
  have selected := Console.prompting.select_several kind (devicesOf kind devices) console several
  rcases asked : Console.prompting.askListed kind (devicesOf kind devices)
    (Console.prompting.report (.severalDetected kind) console) with ⟨choice, after⟩
  have same : Console.prompting.askListed kind (devicesOf kind devices)
    (console.report (.severalDetected kind)) = (choice, after) := asked
  rw [same] at dialogue
  rw [asked] at selected
  refine ⟨choice, ?_⟩
  cases choice with
  | none =>
    have chosen : chooseDevice files kind devices none console =
        (.error (.noSelection kind), after) := by
      simp only [chooseDevice, Descriptor.devices_at_indices, Option.map_none, selected]
    rw [chosen]
    exact ⟨dialogue, fun _ => rfl, by simp⟩
  | some number =>
    have inside : number < (devicesOf kind devices).length :=
      Console.prompting.ask_listed_inside kind _ _ after number asked
    obtain ⟨place, numbered, -, held⟩ := Descriptor.numbered_place kind devices number inside
    have chosen : chooseDevice files kind devices none console = (.ok (some place), after) := by
      simp only [chooseDevice, Descriptor.devices_at_indices, Option.map_none, selected,
        Option.bind_some, numbered]
    rw [chosen]
    refine ⟨dialogue, by simp, ?_⟩
    rintro _ ⟨rfl⟩
    exact ⟨place, numbered, held.symm, rfl⟩

/-- With a preferred device, or without a choice, nothing is read and nothing printed. -/
theorem choose_device_unasked (files : FileTree) (kind : DeviceKind) (devices : List Descriptor)
    (preferred : Option String) (console : Console)
    (settled : preferred ≠ none ∨ (devicesOf kind devices).length < 2) :
    (chooseDevice files kind devices preferred console).2.input = console.input ∧
      (chooseDevice files kind devices preferred console).2.printed = console.printed := by
  have choosing := choose_device_meets files kind devices preferred console
  generalize chooseDevice files kind devices preferred console = chosen at choosing ⊢
  have few (several : 2 ≤ (devicesOf kind devices).length) (undecided : preferred = none) :
      False := by
    rcases settled with named | few
    · exact named undecided
    · omega
  cases choosing with
  | named => exact ⟨rfl, Console.printed_report _ console⟩
  | missing => exact ⟨rfl, rfl⟩
  | nothing => exact ⟨rfl, Console.printed_report _ console⟩
  | single => exact ⟨rfl, rfl⟩
  | answered several => exact (few several rfl).elim
  | declined several => exact (few several rfl).elim

/-- Choosing a device uses input up from the front. -/
theorem choose_device_used (files : FileTree) (kind : DeviceKind) (devices : List Descriptor)
    (preferred : Option String) (console : Console) :
    ∃ used,
      console.input = used ++ (chooseDevice files kind devices preferred console).2.input := by
  by_cases settled : preferred ≠ none ∨ (devicesOf kind devices).length < 2
  · exact ⟨[], (choose_device_unasked files kind devices preferred console settled).1.symm⟩
  · obtain ⟨undecided, several⟩ := not_or.mp settled
    obtain rfl := Decidable.not_not.mp undecided
    obtain ⟨lines, cut⟩ := Text.typed_lines_exist console.input
    obtain ⟨choice, dialogue, -⟩ :=
      choose_device_dialogue files kind devices console (Nat.le_of_not_lt several) lines cut
    obtain ⟨used, front⟩ := dialogue.used
    exact ⟨used, cut.flatten.symm.trans front⟩

/-- Whatever is typed, and whatever devices there are:

* If there are several devices of a kind and none is preferred, lines are read up to the first that
  holds the number of a device on the list, which is the device that is chosen, and to no further
  than the first that is not text; that one, or the end of the input, leaves no device chosen. The
  lines behind are left. Shown are the list, a question for every attempt to read a line, and the
  list again after every number that was not on it.
* With a preferred device, or without a choice, nothing is read and nothing printed.
* The parts of the input that choosing the keyboard and choosing the mouse use up stand one behind
  the other, and what a run leaves is the rest. -/
theorem prompts_use_their_lines (files : FileTree) (settings : Settings)
    (devices : List Descriptor) (console : Console) :
    (∀ kind (console : Console), 2 ≤ (devicesOf kind devices).length →
      ∃ lines, (∀ cut, TypedLines console.input cut ↔ cut = lines) ∧
        ∃ choice,
          Dialogue kind (devicesOf kind devices) (console.report (.severalDetected kind)) lines
            choice (chooseDevice files kind devices none console).2 ∧
          (choice = none → (chooseDevice files kind devices none console).1 =
            .error (.noSelection kind)) ∧
          ∀ number, choice = some number → ∃ place, (indicesOf kind devices)[number]? = some place ∧
            devices[place]? = (devicesOf kind devices)[number]? ∧
            (chooseDevice files kind devices none console).1 = .ok (some place)) ∧
    (∀ kind preferred (console : Console),
      preferred ≠ none ∨ (devicesOf kind devices).length < 2 →
        (chooseDevice files kind devices preferred console).2.input = console.input ∧
        (chooseDevice files kind devices preferred console).2.printed = console.printed) ∧
    let keyboard := chooseDevice files .keyboard devices settings.keyboard console
    let mouse := chooseDevice files .mouse devices settings.mouse keyboard.2
    let run := Run.choose files settings devices console
    (∃ forKeyboard forMouse, console.input = forKeyboard ++ keyboard.2.input ∧
      keyboard.2.input = forMouse ++ mouse.2.input) ∧
    (∀ error, keyboard.1 = .error error → run = (.error error, keyboard.2)) ∧
    ∀ place, keyboard.1 = .ok place → run.2 = mouse.2 := by
  refine ⟨?asked, fun kind => choose_device_unasked files kind devices, ?inTurn⟩
  case asked =>
    intro kind console several
    obtain ⟨lines, cut⟩ := Text.typed_lines_exist console.input
    refine ⟨lines, fun other => ⟨fun cutOther => Text.typed_lines_unique cutOther cut, ?_⟩,
      choose_device_dialogue files kind devices console several lines cut⟩
    rintro rfl
    exact cut
  case inTurn =>
    intro keyboard mouse run
    obtain ⟨forKeyboard, first⟩ :=
      choose_device_used files .keyboard devices settings.keyboard console
    obtain ⟨forMouse, second⟩ := choose_device_used files .mouse devices settings.mouse keyboard.2
    refine ⟨⟨forKeyboard, forMouse, first, second⟩, ?_, ?_⟩
    · intro error failed
      have parts : chooseDevice files .keyboard devices settings.keyboard console =
          (.error error, keyboard.2) := Prod.ext failed rfl
      simp only [run, Run.choose, parts]
    · intro place taken
      have parts : chooseDevice files .keyboard devices settings.keyboard console =
          (.ok place, keyboard.2) := Prod.ext taken rfl
      simp only [run, Run.choose, parts, mouse]
      rcases chooseDevice files .mouse devices settings.mouse keyboard.2 with ⟨error | place, after⟩
      · rfl
      · rfl

/-- Of two keyboards the second is typed for in the third line, after a word and a number that is
not on the list; the fourth line is left. -/
theorem second_keyboard_typed :
    let devices : List Descriptor := ["event0", "event1"].map fun node =>
      { path := "/dev/input/" ++ node, keys := [Key.backspace, Key.enter] }
    let console : Console := { input := Text.encode "seven\n7\n +1 \nrest\n" }
    let chosen := chooseDevice {} .keyboard devices none console
    (∃ lines choice, TypedLines console.input lines ∧
      Dialogue .keyboard (devicesOf .keyboard devices) (console.report (.severalDetected .keyboard))
        lines choice chosen.2) ∧
      chosen.1 = .ok (some 1) ∧ chosen.2.input = Text.encode "rest\n" := by
  intro devices console chosen
  have several : 2 ≤ (devicesOf .keyboard devices).length := by decide +kernel
  have answered : chosen.1.toOption = some (some 1) := by decide +kernel
  have left : chosen.2.input = Text.encode "rest\n" := by decide +kernel
  obtain ⟨asked, -⟩ := prompts_use_their_lines {} {} devices console
  obtain ⟨lines, cut, choice, dialogue, -⟩ := asked .keyboard console several
  refine ⟨⟨lines, choice, (cut lines).mpr rfl, dialogue⟩, ?_, left⟩
  generalize chosen.1 = result at answered ⊢
  cases result with
  | error error => cases answered
  | ok place => exact congrArg Except.ok (Option.some.inj answered)

end InputBridge
