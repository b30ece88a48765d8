import InputBridge.Machine.Reactor
import InputBridge.Proofs.ScriptedEvents
/-!
# Reading a device to the end

Reading a device goes in turns: the device is waited for and then read, and what it hands over is
put behind what it handed over before. The turns that hand something over are followed by one that
ends the reading, unless there are too many of them, and only a turn that finds nothing to hand over
ends it well. What comes out of the reading is then exactly what was handed over in it, in however
many chunks it came and whatever happened meanwhile.

That is all the code does. That nothing is left behind also takes devices that can be relied on:
they hand over events in the order in which these came, say that there is nothing only if there is
nothing, and what was pending stays pending, with more behind it, until it is handed over. A device
must also stay readable until it was found empty, so that the wait, which asks for each device only
once, finds every one that can be read.
-/
namespace InputBridge.Reactor

variable {σ : Type}

/-- A device was waited for and then read. -/
def Turn (reactor : Reactor σ) (kind : DeviceKind) (before : σ) (fetched : Fetched) (after : σ) :
    Prop :=
  ∃ named woken, reactor.select [kind] before = (some (named, none), woken) ∧
    reactor.fetch kind woken = (fetched, after)

/-- A turn has one outcome. -/
theorem Turn.unique {reactor : Reactor σ} {kind : DeviceKind} {before after other : σ}
    {fetched otherFetched : Fetched} (turn : reactor.Turn kind before fetched after)
    (again : reactor.Turn kind before otherFetched other) :
    fetched = otherFetched ∧ after = other := by
  obtain ⟨named, woken, selected, answer⟩ := turn
  obtain ⟨namedAgain, wokenAgain, selectedAgain, answerAgain⟩ := again
  obtain ⟨-, rfl⟩ := Prod.mk.inj (selected.symm.trans selectedAgain)
  exact Prod.mk.inj (answer.symm.trans answerAgain)

/-- Turns in which a device handed over chunks of events. -/
inductive Reads (reactor : Reactor σ) (kind : DeviceKind) :
    σ → List (List InputEvent) → σ → Prop where
  | none (state : σ) : Reads reactor kind state [] state
  | more {before between after : σ} {chunk : List InputEvent} {chunks : List (List InputEvent)}
      (turn : reactor.Turn kind before (.events chunk) between)
      (rest : Reads reactor kind between chunks after) :
      Reads reactor kind before (chunk :: chunks) after

/-- How reading a device ends once some events were taken. -/
inductive Stops (reactor : Reactor σ) (kind : DeviceKind) (taken : List InputEvent) (before : σ) :
    Drained → σ → Prop where
  /-- There was nothing more to hand over. -/
  | emptied {after : σ} (turn : reactor.Turn kind before .wouldBlock after) :
      Stops reactor kind taken before (.events taken) after
  /-- The read failed. -/
  | refused {after : σ} {reason : String} (turn : reactor.Turn kind before (.failed reason) after) :
      Stops reactor kind taken before (.failed (.read kind reason)) after
  /-- The wait for the device failed. -/
  | unawaited {after : σ} {named : DeviceKind} {reason : String}
      (answer : reactor.select [kind] before = (some (named, some reason), after)) :
      Stops reactor kind taken before (.failed (.read kind reason)) after
  /-- The wait for the device does not end. -/
  | waits {after : σ} (answer : reactor.select [kind] before = (none, after)) :
      Stops reactor kind taken before .never after

/-- How a reading goes that is limited to a number of turns. -/
inductive Drains (reactor : Reactor σ) (kind : DeviceKind) (limit : Nat) (taken : List InputEvent)
    (before : σ) : Drained → σ → Prop where
  /-- Turns that hand something over are followed by one that ends the reading. -/
  | stopped {chunks : List (List InputEvent)} {last after : σ} {drained : Drained}
      (reads : reactor.Reads kind before chunks last) (within : chunks.length < limit)
      (stops : reactor.Stops kind (taken ++ chunks.flatten) last drained after) :
      Drains reactor kind limit taken before drained after
  /-- Every turn hands something over. -/
  | exhausted {chunks : List (List InputEvent)} {after : σ}
      (reads : reactor.Reads kind before chunks after) (all : chunks.length = limit) :
      Drains reactor kind limit taken before .never after

/-- A turn that hands something over may come first. -/
theorem Drains.more {reactor : Reactor σ} {kind : DeviceKind} {limit : Nat}
    {taken chunk : List InputEvent} {before between after : σ} {drained : Drained}
    (turn : reactor.Turn kind before (.events chunk) between)
    (rest : reactor.Drains kind limit (taken ++ chunk) between drained after) :
    reactor.Drains kind (limit + 1) taken before drained after := by
  cases rest with
  | stopped reads within stops =>
    rw [List.append_assoc, ← List.flatten_cons] at stops
    exact .stopped (.more turn reads) (Nat.succ_lt_succ within) stops
  | exhausted reads all => exact .exhausted (.more turn reads) (congrArg Nat.succ all)

/-- A reading ends with its first turn. -/
theorem Stops.first {reactor : Reactor σ} {kind : DeviceKind} {taken : List InputEvent}
    {before after : σ} {drained : Drained} (stops : reactor.Stops kind taken before drained after)
    (limit : Nat) : reactor.Drains kind (limit + 1) taken before drained after :=
  .stopped (.none before) (Nat.succ_pos limit) (by rwa [List.flatten_nil, List.append_nil])

/-- A reading goes in turns, as far as the limit lets it. -/
theorem drain_from_drains (reactor : Reactor σ) (kind : DeviceKind) (limit : Nat)
    (taken : List InputEvent) (state : σ) :
    reactor.Drains kind limit taken state (reactor.drainFrom kind limit taken state).1
      (reactor.drainFrom kind limit taken state).2 := by
  induction limit generalizing taken state with
  | zero => exact .exhausted (.none state) rfl
  | succ limit inductionHypothesis =>
    rcases selected : reactor.select [kind] state with ⟨_ | ⟨named, _ | reason⟩, woken⟩
    · simp only [drainFrom, selected]
      exact Stops.first (.waits selected) limit
    · rcases fetched : reactor.fetch kind woken with ⟨chunk | _ | reason, after⟩
      · simp only [drainFrom, selected, fetched]
        exact .more ⟨named, woken, selected, fetched⟩ (inductionHypothesis (taken ++ chunk) after)
      · simp only [drainFrom, selected, fetched]
        exact Stops.first (.emptied ⟨named, woken, selected, fetched⟩) limit
      · simp only [drainFrom, selected, fetched]
        exact Stops.first (.refused ⟨named, woken, selected, fetched⟩) limit
    · simp only [drainFrom, selected]
      exact Stops.first (.unawaited selected) limit

/-- A reading that ends in time ends in the way its turns say, and in no other. -/
theorem drain_from_stopped {reactor : Reactor σ} {kind : DeviceKind} {limit : Nat}
    {taken : List InputEvent} {before last after : σ} {chunks : List (List InputEvent)}
    {drained : Drained} (reads : reactor.Reads kind before chunks last)
    (within : chunks.length < limit)
    (stops : reactor.Stops kind (taken ++ chunks.flatten) last drained after) :
    reactor.drainFrom kind limit taken before = (drained, after) := by
  obtain ⟨limit, rfl⟩ := Nat.exists_eq_add_one_of_ne_zero (Nat.ne_zero_of_lt within)
  induction reads generalizing taken limit with
  | none =>
    rw [List.flatten_nil, List.append_nil] at stops
    cases stops with
    | emptied turn =>
      obtain ⟨named, woken, selected, fetched⟩ := turn
      simp only [drainFrom, selected, fetched]
    | refused turn =>
      obtain ⟨named, woken, selected, fetched⟩ := turn
      simp only [drainFrom, selected, fetched]
    | unawaited answer => simp only [drainFrom, answer]
    | waits answer => simp only [drainFrom, answer]
  | @more _ _ _ chunk chunks turn rest inductionHypothesis =>
    have fewer : chunks.length < limit := Nat.lt_of_succ_lt_succ within
    obtain ⟨named, woken, selected, fetched⟩ := turn
    obtain ⟨limit, rfl⟩ := Nat.exists_eq_add_one_of_ne_zero (Nat.ne_zero_of_lt fewer)
    simp only [drainFrom, selected, fetched]
    rw [List.flatten_cons, ← List.append_assoc] at stops
    exact inductionHypothesis stops limit fewer

/-- A device that is read well was read until it had nothing more to hand over, and what comes out
is what it handed over. -/
theorem drain_events_iff (reactor : Reactor σ) (kind : DeviceKind) (state after : σ)
    (events : List InputEvent) :
    reactor.drain kind state = (.events events, after) ↔
      kind ∈ reactor.inUse state ∧ ∃ chunks last, reactor.Reads kind state chunks last ∧
        chunks.length ≤ reactor.backlog kind state ∧ reactor.Turn kind last .wouldBlock after ∧
        events = chunks.flatten := by
  rw [drain]
  by_cases used : kind ∈ reactor.inUse state
  · rw [if_pos (List.contains_iff_mem.mpr used)]
    constructor
    · intro drained
      have drains := reactor.drain_from_drains kind (reactor.backlog kind state + 1) [] state
      rw [drained] at drains
      cases drains with
      | stopped reads within stops =>
        rw [List.nil_append] at stops
        cases stops with
        | emptied turn => exact ⟨used, _, _, reads, Nat.le_of_lt_succ within, turn, rfl⟩
    · rintro ⟨-, chunks, last, reads, bounded, turn, rfl⟩
      exact drain_from_stopped reads (Nat.lt_succ_of_le bounded) (.emptied turn)
  · rw [if_neg (mt List.contains_iff_mem.mp used)]
    simp [used]

/-- Devices of which it is known what can be read, and what they would hand over. -/
structure Dependable (reactor : Reactor σ) (readable : DeviceKind → σ → Prop)
    (pending : DeviceKind → σ → List InputEvent) : Prop where
  /-- A wait ends on a device that can be read. -/
  readable_of_select : ∀ {kinds kind state after},
    reactor.select kinds state = (some (kind, none), after) → readable kind after
  /-- A device that is asked after tells whether it can be read. -/
  readable_of_probe : ∀ {kind state after},
    reactor.probe kind state = (.readable, after) → readable kind after
  unreadable_of_probe : ∀ {kind state after},
    reactor.probe kind state = (.pending, after) → ¬ readable kind after
  /-- Waiting and asking take nothing back of what can be read. -/
  readable_select : ∀ {kind state} kinds,
    readable kind state → readable kind (reactor.select kinds state).2
  readable_probe : ∀ {kind state} other,
    readable kind state → readable kind (reactor.probe other state).2
  /-- During a wait events may come in behind those that are pending. -/
  pending_select : ∀ kinds kind state,
    pending kind state <+: pending kind (reactor.select kinds state).2
  /-- Events are handed over in order, from the first that is pending on. -/
  pending_fetch : ∀ {kind state events after},
    reactor.fetch kind state = (.events events, after) →
      pending kind state <+: events ++ pending kind after
  /-- A device that has events pending does not say that there is nothing. -/
  drained_of_fetch : ∀ {kind state after},
    reactor.fetch kind state = (.wouldBlock, after) → pending kind state = []

section Dependable

variable {reactor : Reactor σ} {readable : DeviceKind → σ → Prop}
  {pending : DeviceKind → σ → List InputEvent} (dependable : reactor.Dependable readable pending)

include dependable

end Dependable

/-- Devices that can be relied on can be relied on as part of something larger. -/
theorem Dependable.within {τ : Type} {reactor : Reactor σ} {readable : DeviceKind → σ → Prop}
    {pending : DeviceKind → σ → List InputEvent} (dependable : reactor.Dependable readable pending)
    (view : τ → σ) (put : τ → σ → τ) (view_put : ∀ whole part, view (put whole part) = part) :
    (reactor.within view put view_put).Dependable (fun kind whole => readable kind (view whole))
      (fun kind whole => pending kind (view whole)) where
  readable_of_select := by
    intro kinds kind whole after selected
    obtain ⟨answer, rfl⟩ := Prod.mk.inj selected
    rw [view_put]
    exact dependable.readable_of_select (Prod.ext answer rfl)
  readable_of_probe := by
    intro kind whole after probed
    obtain ⟨answer, rfl⟩ := Prod.mk.inj probed
    rw [view_put]
    exact dependable.readable_of_probe (Prod.ext answer rfl)
  unreadable_of_probe := by
    intro kind whole after probed
    obtain ⟨answer, rfl⟩ := Prod.mk.inj probed
    rw [view_put]
    exact dependable.unreadable_of_probe (Prod.ext answer rfl)
  readable_select := by
    intro kind whole kinds can
    simp only [Reactor.within, view_put]
    exact dependable.readable_select kinds can
  readable_probe := by
    intro kind whole other can
    simp only [Reactor.within, view_put]
    exact dependable.readable_probe other can
  pending_select := by
    intro kinds kind whole
    simp only [Reactor.within, view_put]
    exact dependable.pending_select kinds kind (view whole)
  pending_fetch := by
    intro kind whole events after fetched
    obtain ⟨answer, rfl⟩ := Prod.mk.inj fetched
    rw [view_put]
    exact dependable.pending_fetch (Prod.ext answer rfl)
  drained_of_fetch := by
    intro kind whole after fetched
    obtain ⟨answer, rfl⟩ := Prod.mk.inj fetched
    exact dependable.drained_of_fetch (Prod.ext answer rfl)

end InputBridge.Reactor
