import InputBridge.Bridge.Scripted
/-!
# What scripted devices hand out

A wait adds what arrived to what is pending, each device named is emptied when it is
first drained, and a device named again has nothing more to give. A batch therefore
hands out everything that arrived for the device named first and then everything that
arrived for the other one, and it leaves nothing pending.
-/
namespace InputBridge

/-- What a wait finds: devices in the order in which they are drained, each with the
events that arrived for it. -/
abbrev Entries := List (DeviceKind × List InputEvent)

/-- The other kind is another kind. -/
theorem DeviceKind.other_ne (device : DeviceKind) : device.other ≠ device := by
  cases device <;> decide

namespace Entries

/-- The events that arrived for a device, in order. -/
def arrived (entries : Entries) (device : DeviceKind) : List InputEvent :=
  (entries.filter fun entry => entry.1 = device).flatMap Prod.snd

/-- The events of a batch in the order in which they are taken in. -/
def events : Entries → List InputEvent
  | [] => []
  | (first, head) :: rest =>
    arrived ((first, head) :: rest) first ++ arrived ((first, head) :: rest) first.other

/-- What the first entry holds arrives first, and only for its own device. -/
theorem arrived_cons (first device : DeviceKind) (head : List InputEvent) (rest : Entries) :
    arrived ((first, head) :: rest) device =
      if first = device then head ++ arrived rest device else arrived rest device := by
  by_cases same : first = device <;> simp [arrived, same]

/-- Nothing arrives for a device that is not named. -/
theorem arrived_unnamed (entries : Entries) (device : DeviceKind)
    (unnamed : device ∉ entries.map Prod.fst) : arrived entries device = [] := by
  have none : (entries.filter fun entry => entry.1 = device) = [] := by
    rw [List.filter_eq_nil_iff]
    intro entry present same
    exact unnamed (List.mem_map.mpr ⟨entry, present, of_decide_eq_true same⟩)
  rw [arrived, none]
  rfl

end Entries

namespace ScriptedSources

/-- What is pending after an arrival. -/
theorem receive_get (pending : PerDevice (List InputEvent)) (entries : Entries)
    (device : DeviceKind) :
    (receive pending entries).get device = pending.get device ++ entries.arrived device := by
  induction entries generalizing pending with
  | nil => exact (List.append_nil _).symm
  | cons entry rest inductionHypothesis =>
    obtain ⟨first, head⟩ := entry
    refine (inductionHypothesis (pending.modify first (· ++ head))).trans ?_
    rw [PerDevice.get_modify, Entries.arrived_cons]
    by_cases same : first = device
    · rw [if_pos same, if_pos same.symm, List.append_assoc]
    · rw [if_neg same, if_neg (Ne.symm same)]

/-- What draining devices in order hands out. -/
def handedOut (pending : PerDevice (List InputEvent)) : List DeviceKind → List InputEvent
  | [] => []
  | device :: rest =>
    pending.get device ++ handedOut (pending.modify device fun _ => []) rest

/-- What is still pending afterwards. -/
def leftOver (pending : PerDevice (List InputEvent)) (devices : List DeviceKind) :
    PerDevice (List InputEvent) :=
  devices.foldl (fun pending device => pending.modify device fun _ => []) pending

/-- The devices that were drained have nothing pending, and the others have what they had. -/
theorem left_over_get (pending : PerDevice (List InputEvent)) (devices : List DeviceKind)
    (device : DeviceKind) :
    (leftOver pending devices).get device =
      if device ∈ devices then [] else pending.get device := by
  induction devices generalizing pending with
  | nil => rfl
  | cons first rest inductionHypothesis =>
    refine (inductionHypothesis (pending.modify first fun _ => [])).trans ?_
    rw [PerDevice.get_modify]
    by_cases same : device = first <;> by_cases later : device ∈ rest <;> simp [same, later]

/-- Once a device has nothing pending, only the other one has something to give, and it
gives it all when it is first named. -/
theorem handed_out_emptied (pending : PerDevice (List InputEvent)) (emptied : DeviceKind)
    (devices : List DeviceKind) (empty : pending.get emptied = []) :
    handedOut pending devices =
      if emptied.other ∈ devices then pending.get emptied.other else [] := by
  induction devices generalizing pending with
  | nil => rfl
  | cons device rest inductionHypothesis =>
    have stillEmpty : (pending.modify device fun _ => []).get emptied = [] := by
      rw [PerDevice.get_modify]
      split <;> first | rfl | exact empty
    rw [handedOut, inductionHypothesis _ stillEmpty, PerDevice.get_modify]
    by_cases same : emptied.other = device
    · simp [same]
    · have first : device = emptied := by
        cases device <;> cases emptied <;> first | rfl | exact absurd rfl same
      simp [first, empty, DeviceKind.other_ne]

/-- With nothing pending before, a batch hands out its events in the order said. -/
theorem handed_out_received (entries : Entries) :
    handedOut (receive { keyboard := [], mouse := [] } entries) (entries.map Prod.fst) =
      entries.events := by
  have pending (device : DeviceKind) :
      (receive { keyboard := [], mouse := [] } entries).get device = entries.arrived device := by
    rw [receive_get]
    cases device <;> rfl
  cases entries with
  | nil => rfl
  | cons entry rest =>
    obtain ⟨first, head⟩ := entry
    have apart := DeviceKind.other_ne first
    rw [List.map_cons, handedOut, handed_out_emptied _ first _ (by
      rw [PerDevice.get_modify, if_pos rfl]), PerDevice.get_modify, if_neg apart, pending, pending]
    by_cases named : first.other ∈ rest.map Prod.fst
    · rw [if_pos named]
      rfl
    · have nothing : Entries.arrived ((first, head) :: rest) first.other = [] := by
        rw [Entries.arrived_cons, if_neg (Ne.symm apart), Entries.arrived_unnamed rest _ named]
      rw [if_neg named, Entries.events, nothing]

/-- A batch leaves nothing pending. -/
theorem left_over_received (entries : Entries) :
    leftOver (receive { keyboard := [], mouse := [] } entries) (entries.map Prod.fst) =
      { keyboard := [], mouse := [] } := by
  have emptied (device : DeviceKind) :
      (leftOver (receive { keyboard := [], mouse := [] } entries)
        (entries.map Prod.fst)).get device = [] := by
    rw [left_over_get, receive_get]
    by_cases named : device ∈ entries.map Prod.fst
    · rw [if_pos named]
    · rw [if_neg named, Entries.arrived_unnamed entries device named]
      cases device <;> rfl
  exact PerDevice.mk.injEq .. ▸ ⟨emptied .keyboard, emptied .mouse⟩

end ScriptedSources

end InputBridge
