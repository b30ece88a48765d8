import InputBridge.Machine.EventDevices
import InputBridge.Proofs.Draining
/-!
# The machine's devices can be relied on

The devices in use on a machine are read by its reactor, and what can be relied on is there: a
device is readable while it is marked as ready, what it would hand over are the whole packets at the
front of its events, and whatever the script brings comes behind them.

Nothing happens on the machine while a device that is ready is read. Reading it hands out the whole
packets and leaves the open one, in one turn or none before the one that finds nothing.
-/
namespace InputBridge

/-- Events behind others leave the whole packets at the front what they are. -/
theorem split_packets_prefix (events more : List InputEvent) :
    (splitPackets events).1 <+: (splitPackets (events ++ more)).1 := by
  induction events with
  | nil => exact List.nil_prefix
  | cons event rest inductionHypothesis =>
    rcases front : splitPackets rest with ⟨whole, left⟩
    rcases longer : splitPackets (rest ++ more) with ⟨wholeLonger, leftLonger⟩
    rw [front, longer] at inductionHypothesis
    simp only [List.cons_append, splitPackets, front, longer]
    cases whole with
    | nil =>
      cases closes : event.closesPacket <;> cases wholeLonger <;> simp
    | cons first later =>
      obtain ⟨behind, rfl⟩ := inductionHypothesis
      simp

/-- Events of which none closes a packet make no whole packet. -/
theorem split_packets_open (events : List InputEvent)
    (unclosed : ∀ event ∈ events, event.closesPacket = false) :
    splitPackets events = ([], events) := by
  induction events with
  | nil => rfl
  | cons event rest inductionHypothesis =>
    obtain ⟨first, later⟩ := List.forall_mem_cons.mp unclosed
    rw [splitPackets, inductionHypothesis later]
    simp [first]

/-- What is left of a packet is no whole packet. -/
theorem split_packets_left (events : List InputEvent) :
    splitPackets (splitPackets events).2 = ([], (splitPackets events).2) :=
  split_packets_open _ fun _ left => closes_packet_split_packets left

/-- The ways a read of a device can end. -/
theorem InputNode.fetch_cases (device : InputNode) :
    (∃ error, device.fault = some error ∧ device.fetch = (.failed error.message, device)) ∨
    (device.fault = none ∧ (splitPackets device.queue).1 = [] ∧
      device.fetch = (.wouldBlock, { device with isReady := false })) ∨
    (device.fault = none ∧ (splitPackets device.queue).1 ≠ [] ∧
      device.fetch = (.events (splitPackets device.queue).1,
        { device with queue := (splitPackets device.queue).2 })) := by
  cases fault : device.fault with
  | some error => exact .inl ⟨error, rfl, by simp only [fetch, fault]⟩
  | none =>
    rcases cut : splitPackets device.queue with ⟨_ | ⟨first, later⟩, left⟩
    · exact .inr (.inl ⟨rfl, rfl, by simp only [fetch, fault, cut]⟩)
    · exact .inr (.inr ⟨rfl, List.cons_ne_nil first later, by simp only [fetch, fault, cut]⟩)

namespace EventDevices

/-- The device of a kind is in use and ready. -/
def Readable (kind : DeviceKind) (inputs : EventDevices) : Prop := inputs.isReady kind = true

/-- The events that the device of a kind would hand over. -/
def pending (kind : DeviceKind) (inputs : EventDevices) : List InputEvent :=
  (splitPackets ((inputs.get? kind).elim [] InputNode.queue)).1

/-- An act on the machine reaches the device of every kind. -/
theorem get_undergo (act : Act) (inputs : EventDevices) (kind : DeviceKind) :
    (inputs.undergo act).get? kind = (inputs.get? kind).map (InputNode.undergo act) := by
  cases kind <;> rfl

/-- A device that was put in place is there. -/
theorem get_put (kind : DeviceKind) (device : InputNode) (inputs : EventDevices) :
    (inputs.put kind device).get? kind = some device := by
  cases kind <;> rfl

/-- Of two devices put in the same place the later stays. -/
theorem put_put (kind : DeviceKind) (one other : InputNode) (inputs : EventDevices) :
    (inputs.put kind one).put kind other = inputs.put kind other := by
  cases kind <;> rfl

/-- What each act on the machine keeps, and entries in its journal, is kept while the script is
played. -/
theorem play_until_keeps (holds : EventDevices → Prop)
    (acting : ∀ act inputs, holds inputs → holds (inputs.undergo act))
    (machineApart : ∀ inputs machine, holds inputs → holds { inputs with machine })
    (condition : EventDevices → Bool) (inputs : EventDevices) (start : holds inputs) :
    holds (inputs.playUntil condition).2 := by
  have all (acts : List Act) (inputs : EventDevices) (start : holds inputs) :
      holds (inputs.undergoAll acts) := by
    induction acts generalizing inputs with
    | nil => exact start
    | cons act rest inductionHypothesis => exact inductionHypothesis _ (acting act inputs start)
  fun_induction playUntil condition inputs with
  | case1 => exact start
  | case2 => exact start
  | case3 inputs _ acts script _ inductionHypothesis =>
    exact inductionHypothesis (all acts _ (machineApart inputs _ start))

/-- A device stays ready and keeps what is pending, whatever happens on the machine. -/
theorem undergo_onward (act : Act) (inputs : EventDevices) (kind : DeviceKind) :
    (Readable kind inputs → Readable kind (inputs.undergo act)) ∧
      pending kind inputs <+: pending kind (inputs.undergo act) := by
  simp only [Readable, isReady, pending, get_undergo]
  cases inputs.get? kind with
  | none => exact ⟨id, List.prefix_rfl⟩
  | some device =>
    cases act with
    | events node events =>
      by_cases same : device.node = node
      · simp only [Option.map_some, Option.any_some, Option.elim_some, InputNode.undergo,
          if_pos same, InputNode.receive]
        refine ⟨fun ready => ?_, split_packets_prefix device.queue events⟩
        rw [ready, Bool.true_or]
      · simp only [Option.map_some, InputNode.undergo, if_neg same]
        exact ⟨id, List.prefix_rfl⟩
    | failure node error =>
      by_cases same : device.node = node
      · simp only [Option.map_some, Option.any_some, Option.elim_some, InputNode.undergo,
          if_pos same, InputNode.fail]
        exact ⟨fun _ => trivial, List.prefix_rfl⟩
      · simp only [Option.map_some, InputNode.undergo, if_neg same]
        exact ⟨id, List.prefix_rfl⟩

/-- The devices of a machine can be relied on. -/
theorem reactor_dependable : reactor.Dependable Readable pending where
  readable_of_select := by
    intro kinds kind inputs after selected
    obtain ⟨named, rfl⟩ := Prod.mk.inj selected
    obtain ⟨first, found, same⟩ := Option.map_eq_some_iff.mp named
    cases same
    exact List.find?_some found
  readable_of_probe := by
    intro kind inputs after probed
    simp only [reactor, Prod.mk.injEq, ite_eq_left_iff, reduceCtorEq, imp_false,
      Bool.not_eq_true, Bool.not_eq_false] at probed
    exact probed.2 ▸ probed.1
  unreadable_of_probe := by
    intro kind inputs after probed
    simp only [reactor, Prod.mk.injEq, ite_eq_right_iff, reduceCtorEq, imp_false] at probed
    exact probed.2 ▸ probed.1
  readable_select := by
    intro kind inputs kinds ready
    exact play_until_keeps (Readable kind)
      (fun act inputs => (undergo_onward act inputs kind).1) (fun _ _ => id) _ inputs ready
  readable_probe := fun _ => id
  pending_select := by
    intro kinds kind inputs
    exact play_until_keeps (fun after => pending kind inputs <+: pending kind after)
      (fun act after kept => kept.trans (undergo_onward act after kind).2) (fun _ _ => id) _ inputs
      List.prefix_rfl
  pending_fetch := by
    intro kind inputs events after fetched
    cases held : inputs.get? kind with
    | none => simp [reactor, fetch, held] at fetched
    | some device =>
      rcases device.fetch_cases with ⟨error, _, answer⟩ | ⟨_, _, answer⟩ | ⟨_, _, answer⟩
      · simp [reactor, fetch, held, answer] at fetched
      · simp [reactor, fetch, held, answer] at fetched
      · simp only [reactor, fetch, held, answer, Prod.mk.injEq, Fetched.events.injEq] at fetched
        obtain ⟨rfl, -⟩ := fetched
        rw [pending, held]
        exact List.prefix_append _ _
  drained_of_fetch := by
    intro kind inputs after fetched
    cases held : inputs.get? kind with
    | none => rw [pending, held]; rfl
    | some device =>
      rcases device.fetch_cases with ⟨error, _, answer⟩ | ⟨_, nothing, _⟩ | ⟨_, _, answer⟩
      · simp [reactor, fetch, held, answer] at fetched
      · rw [pending, held]
        exact nothing
      · simp [reactor, fetch, held, answer] at fetched

/-- A device that is ready is read in turns that take no time. -/
theorem turn_of_ready {kind : DeviceKind} {inputs : EventDevices} {device : InputNode}
    (held : inputs.get? kind = some device) (ready : device.isReady = true) :
    reactor.Turn kind inputs device.fetch.1 (inputs.put kind device.fetch.2) := by
  have isReady : inputs.isReady kind = true := by
    rw [EventDevices.isReady, held]
    exact ready
  refine ⟨kind, inputs, ?_, ?_⟩
  · simp [reactor, select, playUntil, isReady]
  · simp only [reactor, fetch, held]

/-- A device without whole packets is found empty. -/
theorem turn_of_open {kind : DeviceKind} {inputs : EventDevices} {device : InputNode}
    (held : inputs.get? kind = some device) (ready : device.isReady = true)
    (sound : device.fault = none) (nothing : (splitPackets device.queue).1 = []) :
    reactor.Turn kind inputs .wouldBlock (inputs.put kind { device with isReady := false }) := by
  have turn := turn_of_ready held ready
  rcases device.fetch_cases with ⟨error, faulty, _⟩ | ⟨_, _, answer⟩ | ⟨_, something, _⟩
  · simp [sound] at faulty
  · rwa [answer] at turn
  · exact absurd nothing something

/-- A device that handed something over is found empty at once, so the bound on how often it hands
something over is never what ends a reading. -/
theorem reads_once {kind : DeviceKind} {inputs last : EventDevices}
    {chunks : List (List InputEvent)} (reads : reactor.Reads kind inputs chunks last) :
    chunks.length ≤ reactor.backlog kind inputs := by
  cases reads with
  | none => exact Nat.zero_le _
  | @more _ between _ chunk chunks turn rest =>
    obtain ⟨named, woken, selected, fetched⟩ := turn
    obtain rfl := List.mem_singleton.mp (reactor.mem_of_select selected)
    have ready := reactor_dependable.readable_of_select selected
    cases held : woken.get? named with
    | none => simp [reactor, fetch, held] at fetched
    | some device =>
      have deviceReady : device.isReady = true := by simpa [Readable, isReady, held] using ready
      rcases device.fetch_cases with ⟨_, _, answer⟩ | ⟨_, _, answer⟩ | ⟨sound, _, answer⟩
      · simp [reactor, fetch, held, answer] at fetched
      · simp [reactor, fetch, held, answer] at fetched
      · simp only [reactor, fetch, held, answer, Prod.mk.injEq] at fetched
        obtain ⟨-, rfl⟩ := fetched
        cases rest with
        | none => exact Nat.le_refl 1
        | more again =>
          let left : InputNode := { device with queue := (splitPackets device.queue).2 }
          have empty := turn_of_open (get_put named left woken) deviceReady sound
            (congrArg Prod.fst (split_packets_left device.queue))
          cases (Reactor.Turn.unique empty again).1

/-- A device that is ready and has no fault hands out its whole packets and keeps the open one. -/
theorem drain_exact (kind : DeviceKind) (inputs : EventDevices) (device : InputNode)
    (held : inputs.get? kind = some device) (ready : device.isReady = true)
    (sound : device.fault = none) :
    inputs.drain kind = (.events (splitPackets device.queue).1,
      inputs.put kind
        { device with queue := (splitPackets device.queue).2, isReady := false }) := by
  have used : kind ∈ inputs.kinds := by
    cases kind <;> simp [kinds, DeviceKind.all, held]
  refine (reactor.drain_events_iff ..).mpr ⟨used, ?_⟩
  by_cases nothing : (splitPackets device.queue).1 = []
  · have same : (splitPackets device.queue).2 = device.queue := by
      have parts := split_packets_append device.queue
      rwa [nothing, List.nil_append] at parts
    rw [nothing, same]
    exact ⟨[], inputs, .none inputs, Nat.zero_le _, turn_of_open held ready sound nothing, rfl⟩
  · have first := turn_of_ready held ready
    rcases device.fetch_cases with ⟨error, faulty, _⟩ | ⟨_, empty, _⟩ | ⟨_, _, answer⟩
    · simp [sound] at faulty
    · exact absurd empty nothing
    · rw [answer] at first
      let left : InputNode := { device with queue := (splitPackets device.queue).2 }
      have last := turn_of_open (get_put kind left inputs) ready sound
        (congrArg Prod.fst (split_packets_left device.queue))
      rw [put_put] at last
      have reads : reactor.Reads kind inputs [(splitPackets device.queue).1]
          (inputs.put kind left) := .more first (.none _)
      exact ⟨_, _, reads, reads_once reads, last, by simp⟩

end EventDevices

end InputBridge
