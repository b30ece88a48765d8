import InputBridge.Program.Run
/-!
# Which devices a run uses

A run looks at one list of devices through several others: the places of the keyboards, the
places of the mice, and for each kind the devices at those places, from which one is chosen by
its number. What a choice comes to is told here of the one list alone, by a relation with a case
for every way to choose, and the main statement is that a run's choices are of that kind and
that the devices it chose are those it takes into use.

The places of a kind ascend, so the first candidate with some property is the first device of
the kind that has it.
-/
namespace InputBridge

/-- If something is told of every item, what is told stands in the places of the items. -/
theorem told_at_place {α β : Type} (tells : α → Option β) (items : List α)
    (told : ∀ item ∈ items, (tells item).isSome) (place : Nat) :
    (items.filterMap tells)[place]? = items[place]?.bind tells := by
  induction items generalizing place with
  | nil => rfl
  | cons item rest inductionHypothesis =>
    obtain ⟨first, others⟩ := List.forall_mem_cons.mp told
    obtain ⟨front, tellsIt⟩ := Option.isSome_iff_exists.mp first
    rw [List.filterMap_cons_some tellsIt]
    cases place with
    | zero => exact tellsIt.symm
    | succ place => exact inductionHypothesis others place

namespace Descriptor

/-- The place is that of a device of the kind. -/
def OfKind (devices : List Descriptor) (kind : DeviceKind) (place : Nat) : Prop :=
  ∃ device, devices[place]? = some device ∧ device.kind? = some kind

/-- The devices of a kind, in order. -/
def devicesOf (kind : DeviceKind) (devices : List Descriptor) : List Descriptor :=
  devices.filter fun device => device.kind? == some kind

/-- The places listed for a kind are those of its devices. -/
theorem mem_indices_of (kind : DeviceKind) (devices : List Descriptor) (place : Nat) :
    place ∈ indicesOf kind devices ↔ OfKind devices kind place := by
  have told : place ∈ indicesOf kind devices ↔
      place < devices.length ∧ devices[place]?.bind kind? = some kind := by
    simp [indicesOf]
  rw [told, OfKind]
  constructor
  · rintro ⟨-, kindAt⟩
    exact Option.bind_eq_some_iff.mp kindAt
  · rintro ⟨device, held, kindOf⟩
    have within := (List.getElem?_eq_some_iff.mp held).1
    exact ⟨within, Option.bind_eq_some_iff.mpr ⟨device, held, kindOf⟩⟩

/-- A device has one kind. -/
theorem OfKind.unique {devices : List Descriptor} {one other : DeviceKind} {place : Nat}
    (first : OfKind devices one place) (second : OfKind devices other place) : one = other := by
  obtain ⟨device, held, kindOf⟩ := first
  obtain ⟨same, again, kindAgain⟩ := second
  obtain rfl := Option.some.inj (held.symm.trans again)
  exact Option.some.inj (kindOf.symm.trans kindAgain)

/-- The places of a kind ascend. -/
theorem indices_of_ascending (kind : DeviceKind) (devices : List Descriptor) :
    (indicesOf kind devices).Pairwise (· < ·) :=
  List.pairwise_lt_range.filter _

/-- The places of a list hold the whole list. -/
theorem devices_at_all (devices : List Descriptor) :
    (List.range devices.length).filterMap (fun place => devices[place]?) = devices := by
  have inside : ∀ place ∈ List.range devices.length, (devices[place]?).isSome := by
    simp
  refine List.ext_getElem? fun place => ?_
  rw [told_at_place _ _ inside]
  by_cases within : place < devices.length
  · rw [List.getElem?_range within]
    rfl
  · simp [Nat.le_of_not_lt within]

/-- The devices at the places of a kind are the devices of the kind. -/
theorem devices_at_indices (kind : DeviceKind) (devices : List Descriptor) :
    (indicesOf kind devices).filterMap (fun place => devices[place]?) = devicesOf kind devices := by
  have pointwise (place : Nat) :
      (if (devices[place]?.bind kind? == some kind) = true then devices[place]? else none) =
        devices[place]?.filter fun device => device.kind? == some kind := by
    cases devices[place]? with
    | none => simp
    | some device => simp [Option.filter]
  conv => rhs; rw [← devices_at_all devices, devicesOf]
  rw [indicesOf, List.filterMap_filter, List.filter_filterMap]
  exact congrArg (List.filterMap · _) (funext pointwise)

/-- A candidate's number leads to its place. -/
theorem candidate_at (kind : DeviceKind) (devices : List Descriptor) (number : Nat) :
    (devicesOf kind devices)[number]? = (indicesOf kind devices)[number]?.bind (devices[·]?) := by
  rw [← devices_at_indices]
  refine told_at_place _ _ (fun place listed => ?_) number
  obtain ⟨device, held, -⟩ := (mem_indices_of kind devices place).mp listed
  exact Option.isSome_iff_exists.mpr ⟨device, held⟩

/-- A candidate stands at a place of its kind. -/
theorem candidate_listed (kind : DeviceKind) (devices : List Descriptor) (number : Nat)
    (device : Descriptor) (listed : (devicesOf kind devices)[number]? = some device) :
    ∃ place, (indicesOf kind devices)[number]? = some place ∧ devices[place]? = some device ∧
      device.kind? = some kind := by
  have kindOf := (List.mem_filter.mp (List.mem_of_getElem? listed)).2
  rw [candidate_at] at listed
  obtain ⟨place, numbered, held⟩ := Option.bind_eq_some_iff.mp listed
  exact ⟨place, numbered, held, eq_of_beq kindOf⟩

/-- The place is that of the first device of the kind under the path. Paths are compared by
their components. -/
structure FirstUnder (devices : List Descriptor) (kind : DeviceKind) (path : String)
    (place : Nat) : Prop where
  under : ∃ device, devices[place]? = some device ∧ device.kind? = some kind ∧
    Path.components device.path = Path.components path
  first : ∀ earlier < place, ∀ device, devices[earlier]? = some device →
    device.kind? = some kind → Path.components device.path ≠ Path.components path

/-- Lower numbers among the candidates are lower places. -/
theorem place_lt_iff (kind : DeviceKind) (devices : List Descriptor) (one other first second : Nat)
    (firstAt : (indicesOf kind devices)[one]? = some first)
    (secondAt : (indicesOf kind devices)[other]? = some second) :
    first < second ↔ one < other := by
  obtain ⟨oneIn, rfl⟩ := List.getElem?_eq_some_iff.mp firstAt
  obtain ⟨otherIn, rfl⟩ := List.getElem?_eq_some_iff.mp secondAt
  have ascending := List.pairwise_iff_getElem.mp (indices_of_ascending kind devices)
  rcases Nat.lt_trichotomy one other with before | rfl | behind
  · exact iff_of_true (ascending one other oneIn otherIn before) before
  · simp
  · have above := ascending other one otherIn oneIn behind
    omega

/-- The first candidate under a path is at the place of the first device of the kind under it. -/
theorem first_candidate_iff (kind : DeviceKind) (devices : List Descriptor) (path : String)
    (place : Nat) :
    (∃ number, (devicesOf kind devices).findIdx? (fun device => Path.same device.path path) =
        some number ∧ (indicesOf kind devices)[number]? = some place) ↔
      FirstUnder devices kind path place := by
  constructor
  · rintro ⟨number, found, numbered⟩
    obtain ⟨listed, hit, missed⟩ := List.findIdx?_eq_some_iff_getElem.mp found
    obtain ⟨_, there, held, kindOf⟩ :=
      candidate_listed kind devices number _ (List.getElem?_eq_getElem listed)
    cases Option.some.inj (numbered.symm.trans there)
    refine ⟨⟨_, held, kindOf, eq_of_beq hit⟩, ?_⟩
    intro earlier before device heldThere kindThere samePath
    have present := (mem_indices_of kind devices earlier).mpr ⟨device, heldThere, kindThere⟩
    obtain ⟨lower, lowered⟩ := List.mem_iff_getElem?.mp present
    have below := (place_lt_iff kind devices lower number _ _ lowered numbered).mp before
    have there := candidate_at kind devices lower
    rw [lowered, Option.bind_some, heldThere, List.getElem?_eq_getElem (by omega)] at there
    exact missed lower below (Option.some.inj there ▸ beq_of_eq samePath)
  · rintro ⟨⟨device, held, kindOf, samePath⟩, first⟩
    have present := (mem_indices_of kind devices place).mpr ⟨device, held, kindOf⟩
    obtain ⟨number, numbered⟩ := List.mem_iff_getElem?.mp present
    have there := candidate_at kind devices number
    rw [numbered, Option.bind_some, held] at there
    obtain ⟨listed, same⟩ := List.getElem?_eq_some_iff.mp there
    refine ⟨number, List.findIdx?_eq_some_iff_getElem.mpr ⟨listed, ?_, ?_⟩, numbered⟩
    · exact beq_of_eq (same ▸ samePath)
    · intro lower below hit
      obtain ⟨earlier, lowered, heldThere, kindThere⟩ :=
        candidate_listed kind devices lower _ (List.getElem?_eq_getElem (Nat.lt_trans below listed))
      have before := (place_lt_iff kind devices lower number _ _ lowered numbered).mpr below
      exact first earlier before _ heldThere kindThere (eq_of_beq hit)

/-- There are as many candidates as places. -/
theorem candidates_length (kind : DeviceKind) (devices : List Descriptor) :
    (devicesOf kind devices).length = (indicesOf kind devices).length := by
  rw [← devices_at_indices, List.length_filterMap_eq_countP, List.countP_eq_length]
  intro place listed
  obtain ⟨device, held, -⟩ := (mem_indices_of kind devices place).mp listed
  exact Option.isSome_iff_exists.mpr ⟨device, held⟩

/-- Every number of a candidate leads to a place of the kind that holds the candidate. -/
theorem numbered_place (kind : DeviceKind) (devices : List Descriptor) (number : Nat)
    (inside : number < (devicesOf kind devices).length) :
    ∃ place, (indicesOf kind devices)[number]? = some place ∧ OfKind devices kind place ∧
      (devicesOf kind devices)[number]? = devices[place]? := by
  have listed := List.getElem?_eq_getElem inside
  obtain ⟨place, numbered, held, kindOf⟩ := candidate_listed kind devices number _ listed
  exact ⟨place, numbered, ⟨_, held, kindOf⟩, listed.trans held.symm⟩

end Descriptor

open Descriptor (OfKind devicesOf indicesOf FirstUnder)

/-- Where a path leads, or the path itself if it leads nowhere. -/
inductive PathResolves (files : FileTree) (path : String) : String → Prop
  | led {canonical : String} (leads : files.canonical path = .ok canonical) :
      PathResolves files path canonical
  | kept {error : FileError} (nowhere : files.canonical path = .error error) :
      PathResolves files path path

/-- The path that devices are compared by is the one that the given path resolves to. -/
theorem device_path_resolves (files : FileTree) (path : String) :
    PathResolves files path (files.devicePath path) := by
  rw [FileTree.devicePath]
  split
  case h_1 leads => exact .led leads
  case h_2 nowhere => exact .kept nowhere

/-- An answer that is taken is a number on the list. -/
theorem Prompting.ask_listed_inside {σ : Type} (prompting : Prompting σ) (kind : DeviceKind)
    (devices : List Descriptor) (state after : σ) (number : Nat)
    (answered : prompting.askListed kind devices state = (some number, after)) :
    number < devices.length := by
  fun_induction prompting.askListed kind devices state with
  | case1 => cases answered
  | case2 _ _ _ _ inside =>
    cases answered
    exact inside
  | case3 _ _ _ _ _ inductionHypothesis => exact inductionHypothesis answered

/-- Of several devices one is asked for. -/
theorem Prompting.select_several {σ : Type} (prompting : Prompting σ) (kind : DeviceKind)
    (devices : List Descriptor) (state : σ) (several : 2 ≤ devices.length) :
    prompting.select kind devices none state =
      match prompting.askListed kind devices (prompting.report (.severalDetected kind) state) with
      | (some index, after) => (.ok (some index), after)
      | (none, after) => (.error (.noSelection kind), after) := by
  match devices, several with
  | _ :: _ :: _, _ => rfl

/-- What choosing a device of a kind comes to, for each way to choose. -/
inductive Choosing (files : FileTree) (kind : DeviceKind) (devices : List Descriptor)
    (console : Console) : Option String → Except SelectionError (Option Nat) × Console → Prop
  /-- A path was given, and there is a device of the kind under it. Nobody is asked. -/
  | named {path resolved : String} {place : Nat} (resolves : PathResolves files path resolved)
      (first : FirstUnder devices kind resolved place) :
      Choosing files kind devices console (some path)
        (.ok (some place), console.report (.preferredUsed kind resolved))
  /-- A path was given, and there is no device of the kind under it. Nobody is asked. -/
  | missing {path resolved : String} (resolves : PathResolves files path resolved)
      (absent : ∀ device ∈ devices, device.kind? = some kind →
        Path.components device.path ≠ Path.components resolved) :
      Choosing files kind devices console (some path)
        (.error (.preferredMissing kind resolved), console)
  /-- There is no device of the kind. -/
  | nothing (absent : ∀ place, ¬ OfKind devices kind place) :
      Choosing files kind devices console none (.ok none, console.report (.noneAttached kind))
  /-- There is a single device of the kind. -/
  | single {place : Nat} (only : ∀ other, OfKind devices kind other ↔ other = place) :
      Choosing files kind devices console none (.ok (some place), console)
  /-- Of several devices the one is taken whose number on the list was given. -/
  | answered {number place : Nat} {after : Console}
      (several : 2 ≤ (devicesOf kind devices).length)
      (asked : Console.prompting.askListed kind (devicesOf kind devices)
        (console.report (.severalDetected kind)) = (some number, after))
      (ofKind : OfKind devices kind place)
      (listed : (devicesOf kind devices)[number]? = devices[place]?) :
      Choosing files kind devices console none (.ok (some place), after)
  /-- There are several devices, and no number was given. -/
  | declined {after : Console} (several : 2 ≤ (devicesOf kind devices).length)
      (asked : Console.prompting.askListed kind (devicesOf kind devices)
        (console.report (.severalDetected kind)) = (none, after)) :
      Choosing files kind devices console none (.error (.noSelection kind), after)

/-- Choosing a device comes to what it should in every way to choose. -/
theorem choose_device_meets (files : FileTree) (kind : DeviceKind) (devices : List Descriptor)
    (preferred : Option String) (console : Console) :
    Choosing files kind devices console preferred
      (chooseDevice files kind devices preferred console) := by
  simp only [chooseDevice, Descriptor.devices_at_indices]
  cases preferred with
  | some path =>
    have resolves := device_path_resolves files path
    simp only [Option.map_some, Prompting.select]
    generalize files.devicePath path = resolved at resolves
    cases found : (devicesOf kind devices).findIdx? fun device =>
      Path.same device.path resolved with
    | none =>
      refine .missing resolves fun device held kindOf samePath => ?_
      have present : device ∈ devicesOf kind devices :=
        List.mem_filter.mpr ⟨held, by simp [kindOf]⟩
      have missed := List.findIdx?_eq_none_iff.mp found device present
      exact ne_of_beq_false missed samePath
    | some number =>
      obtain ⟨listed, -, -⟩ := List.findIdx?_eq_some_iff_getElem.mp found
      obtain ⟨place, numbered, -, -⟩ := Descriptor.numbered_place kind devices number listed
      have first := (Descriptor.first_candidate_iff kind devices resolved place).mp
        ⟨number, found, numbered⟩
      simp only [Option.bind_some, numbered]
      exact .named resolves first
  | none =>
    have counted := Descriptor.candidates_length kind devices
    rw [Option.map_none]
    by_cases empty : devicesOf kind devices = []
    case pos =>
      simp only [empty, Prompting.select]
      refine .nothing fun place ofKind => ?_
      have listed := (Descriptor.mem_indices_of kind devices place).mpr ofKind
      rw [empty] at counted
      exact absurd (List.length_pos_of_mem listed) (by simp [← counted])
    by_cases alone : (devicesOf kind devices).length = 1
    case pos =>
      obtain ⟨device, single⟩ := List.length_eq_one_iff.mp alone
      obtain ⟨place, only⟩ := List.length_eq_one_iff.mp (counted.symm.trans alone)
      simp only [single, Prompting.select, only]
      refine .single fun other => ?_
      rw [← Descriptor.mem_indices_of, only, List.mem_singleton]
    have several : 2 ≤ (devicesOf kind devices).length := by
      have present := List.length_pos_iff.mpr empty
      omega
    rw [Prompting.select_several _ _ _ _ several]
    cases asked : Console.prompting.askListed kind (devicesOf kind devices)
        (Console.prompting.report (.severalDetected kind) console) with
    | mk answer after =>
      cases answer with
      | none => exact .declined several asked
      | some number =>
        have inside := Console.prompting.ask_listed_inside kind _ _ after number asked
        obtain ⟨place, numbered, ofKind, listed⟩ :=
          Descriptor.numbered_place kind devices number inside
        simp only [Option.bind_some, numbered]
        exact .answered several asked ofKind listed

/-- A device that was chosen is one of the kind. -/
theorem Choosing.of_kind {files : FileTree} {kind : DeviceKind} {devices : List Descriptor}
    {console after : Console} {preferred : Option String} {place : Nat}
    (chosen : Choosing files kind devices console preferred (.ok (some place), after)) :
    OfKind devices kind place := by
  cases chosen with
  | named _ first =>
    obtain ⟨device, held, kindOf, -⟩ := first.under
    exact ⟨device, held, kindOf⟩
  | single only => exact (only place).mpr rfl
  | answered _ _ ofKind _ => exact ofKind

namespace Run

/-- A run chooses the keyboard first, and the mouse with what is left of the console. -/
theorem choose_in_order (files : FileTree) (settings : Settings) (devices : List Descriptor)
    (console after : Console) (choice : PerDevice (Option Nat))
    (chosen : choose files settings devices console = (.ok choice, after)) :
    ∃ between,
      chooseDevice files .keyboard devices settings.keyboard console =
        (.ok choice.keyboard, between) ∧
      chooseDevice files .mouse devices settings.mouse between = (.ok choice.mouse, after) := by
  rw [choose] at chosen
  split at chosen
  · cases chosen
  · rename_i keyboard between first
    split at chosen
    · cases chosen
    · rename_i mouse last second
      cases chosen
      exact ⟨between, first, second⟩

/-- If the two places differ, each chosen device is handed out. -/
theorem hand_out_get (found : List Discovered) (choice : PerDevice (Option Nat))
    (apart : ∀ place, choice.keyboard = some place → choice.mouse ≠ some place)
    (kind : DeviceKind) :
    (handOut found choice).get kind =
      (choice.get kind).bind fun place => found[place]?.map Discovered.device := by
  cases kind with
  | keyboard => rfl
  | mouse =>
    cases taken : choice.mouse with
    | none => simp [handOut, PerDevice.get, taken]
    | some place =>
      have other : choice.keyboard ≠ some place := fun also => apart place also taken
      simp [handOut, PerDevice.get, taken, Option.filter, other]

/-- The kinds of the devices in use are those of the devices that were handed out. -/
theorem register_presence (devices : PerDevice (Option InputNode)) (machine : Machine)
    (inputs : EventDevices) (registered : EventDevices.register devices machine = .ok inputs) :
    inputs.presence = { keyboard := devices.keyboard.isSome, mouse := devices.mouse.isSome } := by
  rw [EventDevices.register] at registered
  split at registered
  · cases registered
  · split at registered
    · cases registered
    · cases registered
      rfl

/-- Whatever devices there are, whatever is preferred and whatever is typed:

* choosing a device of a kind comes to what it should in every way to choose;
* a run that gets past both choices has made them in order, the mouse with what the keyboard
  left of the console;
* each chosen place is in the list and holds a device of its kind, so the two places differ;
* the devices at the chosen places, and no others, are handed out;
* once they are in use, what is present is what was chosen. -/
theorem chosen_devices_sound (files : FileTree) (settings : Settings) (found : List Discovered)
    (console : Console) :
    let devices := found.map Discovered.descriptor
    (∀ kind preferred, Choosing files kind devices console preferred
      (chooseDevice files kind devices preferred console)) ∧
    ∀ choice after, choose files settings devices console = (.ok choice, after) →
      (∃ between,
        Choosing files .keyboard devices console settings.keyboard
          (.ok choice.keyboard, between) ∧
        Choosing files .mouse devices between settings.mouse (.ok choice.mouse, after)) ∧
      (∀ kind place, choice.get kind = some place →
        place < found.length ∧ OfKind devices kind place) ∧
      (∀ place, choice.keyboard = some place → choice.mouse ≠ some place) ∧
      (∀ kind, (handOut found choice).get kind =
          (choice.get kind).bind (fun place => found[place]?.map Discovered.device) ∧
        ((handOut found choice).get kind).isSome = (choice.get kind).isSome) ∧
      ∀ machine inputs, EventDevices.register (handOut found choice) machine = .ok inputs →
        inputs.presence =
          { keyboard := choice.keyboard.isSome, mouse := choice.mouse.isSome } := by
  intro devices
  refine ⟨fun kind preferred => choose_device_meets files kind devices preferred console, ?_⟩
  intro choice after chosen
  obtain ⟨between, first, second⟩ :=
    choose_in_order files settings devices console after choice chosen
  have keyboard := choose_device_meets files .keyboard devices settings.keyboard console
  have mouse := choose_device_meets files .mouse devices settings.mouse between
  rw [first] at keyboard
  rw [second] at mouse
  have ofKind (kind : DeviceKind) (place : Nat) (taken : choice.get kind = some place) :
      OfKind devices kind place := by
    cases kind with
    | keyboard =>
      rw [show choice.keyboard = some place from taken] at keyboard
      exact keyboard.of_kind
    | mouse =>
      rw [show choice.mouse = some place from taken] at mouse
      exact mouse.of_kind
  have inside (kind : DeviceKind) (place : Nat) (taken : choice.get kind = some place) :
      place < found.length := by
    obtain ⟨device, held, -⟩ := ofKind kind place taken
    simpa [devices] using (List.getElem?_eq_some_iff.mp held).1
  have apart (place : Nat) (taken : choice.keyboard = some place) : choice.mouse ≠ some place :=
    fun also => nomatch (ofKind .keyboard place taken).unique (ofKind .mouse place also)
  have handed := hand_out_get found choice apart
  have whole (kind : DeviceKind) :
      ((handOut found choice).get kind).isSome = (choice.get kind).isSome := by
    rw [handed]
    cases taken : choice.get kind with
    | none => rfl
    | some place => simp [List.getElem?_eq_getElem (inside kind place taken)]
  refine ⟨⟨between, keyboard, mouse⟩, ?_, apart, fun kind => ⟨handed kind, whole kind⟩, ?_⟩
  · exact fun kind place taken => ⟨inside kind place taken, ofKind kind place taken⟩
  intro machine inputs registered
  rw [register_presence _ machine inputs registered]
  exact (Presence.mk.injEq ..).mpr ⟨whole .keyboard, whole .mouse⟩

/-- A receiver with keys and buttons on one node, a lid switch and a keyboard. -/
def receiverAndKeyboard : List Discovered :=
  let keyboardKeys := [Key.backspace, Key.enter]
  [("event0", [Button.left, Button.right] ++ keyboardKeys), ("event1", []),
    ("event2", keyboardKeys)].map fun (node, keys) =>
      { descriptor := { path := "/dev/input/" ++ node, keys }, device := { node } }

/-- The receiver is a mouse and no second keyboard, so nobody is asked, and each node is used
once. -/
theorem receiver_used_once :
    let used := handOut receiverAndKeyboard { keyboard := some 2, mouse := some 0 }
    (∃ after, choose {} {} (receiverAndKeyboard.map Discovered.descriptor) {} =
      (.ok { keyboard := some 2, mouse := some 0 }, after)) ∧
      used = { keyboard := some { node := "event2" }, mouse := some { node := "event0" } } := by
  intro used
  have chosen : choose {} {} (receiverAndKeyboard.map Discovered.descriptor) {} =
      (.ok { keyboard := some 2, mouse := some 0 }, {}) := rfl
  obtain ⟨-, sound⟩ := chosen_devices_sound {} {} receiverAndKeyboard {}
  obtain ⟨-, -, -, handed, -⟩ := sound _ _ chosen
  exact ⟨⟨_, chosen⟩, (PerDevice.mk.injEq ..).mpr ⟨(handed .keyboard).1, (handed .mouse).1⟩⟩

end Run

end InputBridge
