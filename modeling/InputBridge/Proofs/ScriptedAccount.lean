import InputBridge.Proofs.ScriptedEvents
/-!
# The account of scripted devices

Scripted devices can be waited for, read and captured in any order, whether or not a wait named
them. A device can be unplugged at any time, and the script can go on with more arrivals while it is
followed. An account is kept of what comes of it: the arrivals that waits took from the script, and
the reads that succeeded with what each handed out.

The account balances at any time. The arrivals taken and those to come are the script. What was
handed out of a device, followed by what is still pending for it, is what the arrivals taken held
for it, in the order of the script: no event is lost, handed out twice, or handed out of the other
device. A read that fails changes nothing, so what it would have handed out stays for a later one.
-/
namespace InputBridge

/-- What can be done with scripted devices. -/
inductive ScriptedCall where
  | wait
  | drain (device : DeviceKind)
  | capture (call : CaptureCall)
  /-- From now on all reads of this device fail, and of the other only where an arrival has a
  fault. -/
  | unplug (device : DeviceKind)
  /-- The script goes on with one more arrival. -/
  | extend (arrival : Arrival)
deriving DecidableEq, Repr

/-- What the script goes on with. -/
def ScriptedCall.added : ScriptedCall → List Arrival
  | .extend arrival => [arrival]
  | .wait | .drain _ | .capture _ | .unplug _ => []

/-- The events that an arrival holds for a device, in order. -/
def Arrival.eventsFor (device : DeviceKind) : Arrival → List InputEvent
  | .batch entries _ => Entries.arrived entries device
  | .failure _ => []

/-- What came of calls to scripted devices. -/
structure ScriptedAccount where
  /-- The arrivals that waits took from the script, in order. -/
  taken : List Arrival := []
  /-- The devices that were read with success, each with what it handed out, in order. -/
  reads : Entries := []
deriving DecidableEq, Repr

namespace ScriptedAccount

/-- The events that the arrivals taken held for a device, in order. -/
def arrived (account : ScriptedAccount) (device : DeviceKind) : List InputEvent :=
  account.taken.flatMap (Arrival.eventsFor device)

/-- The events that were handed out of a device, in order. -/
def handedOut (account : ScriptedAccount) (device : DeviceKind) : List InputEvent :=
  account.reads.arrived device

/-- An arrival that is taken brings what it holds for each device. -/
theorem arrived_take (account : ScriptedAccount) (arrival : Arrival) (device : DeviceKind) :
    { account with taken := account.taken ++ [arrival] }.arrived device =
      account.arrived device ++ arrival.eventsFor device := by
  simp [arrived]

/-- A reading hands out events of the device that was read and of no other. -/
theorem handed_out_read (account : ScriptedAccount) (device asked : DeviceKind)
    (events : List InputEvent) :
    { account with reads := account.reads ++ [(device, events)] }.handedOut asked =
      account.handedOut asked ++ if device = asked then events else [] := by
  by_cases same : device = asked <;> simp [handedOut, Entries.arrived, same]

end ScriptedAccount

namespace ScriptedSources

/-- The devices after a call. -/
def after (sources : ScriptedSources) : ScriptedCall → ScriptedSources
  | .wait => sources.wait.2
  | .drain device => (sources.drain device).2
  | .capture call => (capturing call sources).2
  | .unplug device => { sources with unplugged := some device }
  | .extend arrival => { sources with script := sources.script ++ [arrival] }

/-- The account after a call. -/
def entered (sources : ScriptedSources) (account : ScriptedAccount) : ScriptedCall → ScriptedAccount
  | .wait => { account with taken := account.taken ++ sources.script.take 1 }
  | .drain device =>
    match (sources.drain device).1 with
    | .events events => { account with reads := account.reads ++ [(device, events)] }
    | .failed _ | .never => account
  | .capture _ | .unplug _ | .extend _ => account

/-- The devices and the account after calls in order. -/
def actAll (calls : List ScriptedCall) (state : ScriptedSources × ScriptedAccount) :
    ScriptedSources × ScriptedAccount :=
  calls.foldl (fun (sources, account) call => (sources.after call, sources.entered account call))
    state

/-- A read of the device fails now: the latest arrival has a fault for it, or it is unplugged. -/
def Faulty (sources : ScriptedSources) (device : DeviceKind) : Prop :=
  (∃ reason, sources.fault = some (device, reason)) ∨ sources.unplugged = some device

/-- The account of devices balances with their script. -/
structure Balanced (script : List Arrival) (sources : ScriptedSources) (account : ScriptedAccount) :
    Prop where
  inOrder : account.taken ++ sources.script = script
  kept (device : DeviceKind) :
    account.handedOut device ++ sources.pending.get device = account.arrived device
  counted : sources.drained = account.reads.length

/-- There is a reason for a read to fail exactly if the device is faulty. -/
theorem read_fault_none_iff (sources : ScriptedSources) (device : DeviceKind) :
    sources.readFault device = none ↔ ¬ sources.Faulty device := by
  rw [readFault, Faulty]
  rcases sources.fault with _ | ⟨faulty, reason⟩
  · simp
  · by_cases same : faulty = device <;> simp [Option.filter_some, same]

/-- A read of a faulty device fails and changes nothing. -/
theorem drain_faulty (sources : ScriptedSources) (device : DeviceKind)
    (faulty : sources.Faulty device) :
    ∃ reason, sources.drain device = (.failed (.read device reason), sources) := by
  have fault : sources.readFault device ≠ none :=
    fun none => (read_fault_none_iff sources device).mp none faulty
  obtain ⟨reason, told⟩ := Option.ne_none_iff_exists'.mp fault
  exact ⟨reason, by rw [drain, told]⟩

/-- A read of any other hands out what is pending, is counted, and touches nothing else. -/
theorem drain_ready (sources : ScriptedSources) (device : DeviceKind)
    (ready : ¬ sources.Faulty device) :
    sources.drain device =
      (.events (sources.pending.get device),
        { sources with
          pending := sources.pending.modify device fun _ => []
          drained := sources.drained + 1 }) := by
  rw [drain, (read_fault_none_iff sources device).mpr ready]

/-- A wait takes the arrival that comes next, whose events are pending behind those that were. -/
theorem wait_takes (sources : ScriptedSources) (arrival : Arrival) (later : List Arrival)
    (coming : sources.script = arrival :: later) :
    sources.wait.2.script = later ∧ sources.wait.2.drained = sources.drained ∧
      ∀ device, sources.wait.2.pending.get device =
        sources.pending.get device ++ arrival.eventsFor device := by
  cases arrival with
  | batch entries fault =>
    simp only [wait, coming]
    exact ⟨trivial, trivial, receive_get sources.pending entries⟩
  | failure error =>
    simp only [wait, coming, Arrival.eventsFor]
    exact ⟨trivial, trivial, fun _ => (List.append_nil _).symm⟩

/-- Capturing the devices is no matter of the account. -/
theorem capturing_keeps (call : CaptureCall) (sources : ScriptedSources) :
    (capturing call sources).2.script = sources.script ∧
      (capturing call sources).2.pending = sources.pending ∧
      (capturing call sources).2.drained = sources.drained := by
  cases call with
  | acquire =>
    simp only [capturing]
    split
    · exact ⟨rfl, rfl, rfl⟩
    · split <;> exact ⟨rfl, rfl, rfl⟩
  | release =>
    simp only [capturing]
    split <;> exact ⟨rfl, rfl, rfl⟩

namespace Balanced

variable {script : List Arrival} {sources : ScriptedSources} {account : ScriptedAccount}
  (balanced : Balanced script sources account)

include balanced

/-- A wait moves an arrival from the script to the account, and its events to what is pending. -/
theorem wait : Balanced script sources.wait.2 (sources.entered account .wait) := by
  obtain ⟨inOrder, kept, counted⟩ := balanced
  cases coming : sources.script with
  | nil =>
    have idle : sources.wait.2 = sources := by rw [ScriptedSources.wait, coming]
    have nothing : sources.entered account .wait = account := by simp [entered, coming]
    rw [idle, nothing]
    exact ⟨inOrder, kept, counted⟩
  | cons arrival later =>
    obtain ⟨remaining, drained, pending⟩ := sources.wait_takes arrival later coming
    have taken : sources.entered account .wait =
        { account with taken := account.taken ++ [arrival] } := by simp [entered, coming]
    rw [taken]
    refine ⟨?_, fun device => ?_, drained.trans counted⟩
    · rw [remaining, ← inOrder, coming, List.append_assoc]
      rfl
    · rw [pending, ScriptedAccount.arrived_take, ← kept, List.append_assoc]
      rfl

/-- A read moves events from what is pending to the account, or nothing at all. -/
theorem drain (device : DeviceKind) :
    Balanced script (sources.drain device).2 (sources.entered account (.drain device)) := by
  obtain ⟨inOrder, kept, counted⟩ := balanced
  by_cases faulty : sources.Faulty device
  · obtain ⟨reason, failed⟩ := sources.drain_faulty device faulty
    simp only [entered, failed]
    exact ⟨inOrder, kept, counted⟩
  · simp only [entered, sources.drain_ready device faulty]
    refine ⟨inOrder, fun asked => ?_, by simp [counted]⟩
    -- What is handed out stays in the sum: it only goes from one side of it to the other.
    rw [ScriptedAccount.handed_out_read, PerDevice.get_modify]
    by_cases same : device = asked
    · rw [if_pos same, if_pos same.symm, List.append_nil, same]
      exact kept asked
    · rw [if_neg same, if_neg (Ne.symm same), List.append_nil]
      exact kept asked

/-- Every call keeps the balance, and only one that extends the script changes what it is. -/
theorem act (call : ScriptedCall) :
    Balanced (script ++ call.added) (sources.after call) (sources.entered account call) := by
  cases call with
  | wait =>
    rw [ScriptedCall.added, List.append_nil]
    exact balanced.wait
  | drain device =>
    rw [ScriptedCall.added, List.append_nil]
    exact balanced.drain device
  | capture call =>
    obtain ⟨remaining, pending, drained⟩ := capturing_keeps call sources
    obtain ⟨inOrder, kept, counted⟩ := balanced
    refine ⟨?_, fun device => ?_, drained.trans counted⟩
    · rw [after, remaining, ScriptedCall.added, List.append_nil]
      exact inOrder
    · rw [after, pending]
      exact kept device
  | unplug device =>
    obtain ⟨inOrder, kept, counted⟩ := balanced
    exact ⟨inOrder.trans (List.append_nil _).symm, kept, counted⟩
  | extend arrival =>
    obtain ⟨inOrder, kept, counted⟩ := balanced
    refine ⟨?_, kept, counted⟩
    rw [← inOrder]
    exact (List.append_assoc _ _ _).symm

/-- So do calls in any order. The induction is for any script, which grows with each call that
extends it. -/
theorem act_all (calls : List ScriptedCall) :
    Balanced (script ++ calls.flatMap ScriptedCall.added) (actAll calls (sources, account)).1
      (actAll calls (sources, account)).2 := by
  induction calls generalizing script sources account with
  | nil => simpa [actAll] using balanced
  | cons call rest inductionHypothesis =>
    rw [List.flatMap_cons, ← List.append_assoc]
    exact inductionHypothesis (balanced.act call)

end Balanced

/-- Whatever the script and whatever is done with the devices in whatever order, at any time:

* the arrivals that were taken and those to come are the script, with what it was extended by;
* what was handed out of a device, followed by what is pending for it, is what the arrivals taken
  held for it;
* as many reads are counted as succeeded, those that handed out nothing among them;
* a read of a faulty device fails and changes nothing, and a read of any other succeeds and hands
  out what is pending. -/
theorem handed_out_once (script : List Arrival) (hang refuseGrabs : Bool)
    (unplugged : Option DeviceKind) (acquireAnswers releaseAnswers : List (Option String))
    (calls : List ScriptedCall) :
    let fresh : ScriptedSources :=
      { script, hang, unplugged, refuseGrabs, acquireAnswers, releaseAnswers }
    let sources := (actAll calls (fresh, {})).1
    let account := (actAll calls (fresh, {})).2
    account.taken ++ sources.script = script ++ calls.flatMap ScriptedCall.added ∧
      (∀ device, account.handedOut device ++ sources.pending.get device = account.arrived device) ∧
      sources.drained = account.reads.length ∧
      ∀ device,
        (sources.Faulty device ∧
          ∃ reason, sources.drain device = (.failed (.read device reason), sources)) ∨
        (¬ sources.Faulty device ∧
          (sources.drain device).1 = .events (sources.pending.get device)) := by
  intro fresh sources account
  have start : Balanced script fresh {} :=
    ⟨rfl, fun device => by cases device <;> rfl, rfl⟩
  obtain ⟨inOrder, kept, counted⟩ := start.act_all calls
  refine ⟨inOrder, kept, counted, fun device => ?_⟩
  by_cases faulty : sources.Faulty device
  · exact .inl ⟨faulty, sources.drain_faulty device faulty⟩
  · exact .inr ⟨faulty, by rw [sources.drain_ready device faulty]⟩

/-- A device that an arrival names twice is emptied by one read, and one made too early counts. -/
example :
    let arrival : Arrival := .batch
      [(.mouse, [.relative Axis.x 1]), (.keyboard, []), (.mouse, [.relative Axis.x 2])] none
    let (sources, account) :=
      actAll [.drain .mouse, .wait, .drain .mouse, .drain .mouse] ({ script := [arrival] }, {})
    account.reads =
        [(.mouse, []), (.mouse, [.relative Axis.x 1, .relative Axis.x 2]), (.mouse, [])] ∧
      sources.drained = 3 := by
  decide

end ScriptedSources

end InputBridge
