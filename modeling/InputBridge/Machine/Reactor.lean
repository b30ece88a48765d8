import InputBridge.Bridge.Rig
/-!
# Waiting for devices and reading them

Devices are read without waiting, and a reactor tells when that is worthwhile. A wait for input
names the devices that can be read: one that it waited for, and the other one as well if it can be
read at that moment, so that both are read in the same batch. Which of two devices the wait ends on
is up to the reactor.

A device is read again and again until there is nothing left to read. Only that takes back what the
reactor knows of it, so a device that was not read to the end would still be named by the next wait.

A device that hands over events faster than they are read is read for ever. How often a device still
hands over events is therefore bounded, and a reading that gets beyond the bound counts as one that
does not end.
-/
namespace InputBridge

/-- What is known of a device without waiting for it. -/
inductive Readiness where
  | readable
  | pending
  /-- The device cannot be waited for any more. -/
  | failed (reason : String)
deriving DecidableEq, Repr

/-- How a read that does not wait ends. -/
inductive Fetched where
  /-- Events were handed over, in order. -/
  | events (events : List InputEvent)
  /-- There was nothing to hand over. -/
  | wouldBlock
  | failed (reason : String)
deriving DecidableEq, Repr

/-- Devices and what tells when they can be read, over states `σ`. Anything may happen to the
devices during an operation, but those in use stay the same. -/
structure Reactor (σ : Type) where
  /-- The kinds of the devices in use. -/
  inUse : σ → List DeviceKind
  /-- Waits until one of some devices can be read or has failed, and names it, with the reason if
  it failed. There is no answer if that never happens. -/
  select : List DeviceKind → σ → Option (DeviceKind × Option String) × σ
  /-- Asks after a device without waiting. -/
  probe : DeviceKind → σ → Readiness × σ
  /-- Reads a device without waiting. -/
  fetch : DeviceKind → σ → Fetched × σ
  /-- A bound on how often a device that is read on and on still hands over events. -/
  backlog : DeviceKind → σ → Nat
  /-- A wait for some devices ends on one of them. -/
  mem_of_select : ∀ {kinds state kind failure after},
    select kinds state = (some (kind, failure), after) → kind ∈ kinds
  in_use_select : ∀ kinds state, inUse (select kinds state).2 = inUse state
  in_use_probe : ∀ kind state, inUse (probe kind state).2 = inUse state
  in_use_fetch : ∀ kind state, inUse (fetch kind state).2 = inUse state

namespace Reactor

variable {σ τ : Type}

/-- Waits until a device in use can be read, and asks once after the other. -/
def wait (reactor : Reactor σ) (state : σ) : Wakeup × σ :=
  match reactor.select (reactor.inUse state) state with
  | (none, woken) => (.never, woken)
  | (some (kind, some reason), woken) => (.failed (.read kind reason), woken)
  | (some (first, none), woken) =>
    if (reactor.inUse state).contains first.other then
      match reactor.probe first.other woken with
      | (.pending, after) => (.ready [first], after)
      | (.failed reason, after) => (.failed (.read first.other reason), after)
      | (.readable, after) => (.ready [first, first.other], after)
    else (.ready [first], woken)

/-- Reads a device to the end, behind events that it has handed over before. The limit is on how
often it is read. -/
def drainFrom (reactor : Reactor σ) (kind : DeviceKind) :
    Nat → List InputEvent → σ → Drained × σ
  | 0, _, state => (.never, state)
  | limit + 1, taken, state =>
    match reactor.select [kind] state with
    | (none, woken) => (.never, woken)
    | (some (_, some reason), woken) => (.failed (.read kind reason), woken)
    | (some (_, none), woken) =>
      match reactor.fetch kind woken with
      | (.events events, after) => reactor.drainFrom kind limit (taken ++ events) after
      | (.wouldBlock, after) => (.events taken, after)
      | (.failed reason, after) => (.failed (.read kind reason), after)

/-- Reads a device to the end. One more read than can hand over events is enough for that. -/
def drain (reactor : Reactor σ) (kind : DeviceKind) (state : σ) : Drained × σ :=
  if (reactor.inUse state).contains kind then
    reactor.drainFrom kind (reactor.backlog kind state + 1) [] state
  else (.failed (.unregistered kind), state)

/-- The same devices as part of something larger. -/
def within (reactor : Reactor σ) (view : τ → σ) (put : τ → σ → τ)
    (view_put : ∀ whole part, view (put whole part) = part) : Reactor τ where
  inUse whole := reactor.inUse (view whole)
  select kinds whole :=
    ((reactor.select kinds (view whole)).1, put whole (reactor.select kinds (view whole)).2)
  probe kind whole :=
    ((reactor.probe kind (view whole)).1, put whole (reactor.probe kind (view whole)).2)
  fetch kind whole :=
    ((reactor.fetch kind (view whole)).1, put whole (reactor.fetch kind (view whole)).2)
  backlog kind whole := reactor.backlog kind (view whole)
  mem_of_select named := reactor.mem_of_select (Prod.ext (Prod.mk.inj named).1 rfl)
  in_use_select kinds whole := (congrArg reactor.inUse (view_put _ _)).trans
    (reactor.in_use_select kinds (view whole))
  in_use_probe kind whole := (congrArg reactor.inUse (view_put _ _)).trans
    (reactor.in_use_probe kind (view whole))
  in_use_fetch kind whole := (congrArg reactor.inUse (view_put _ _)).trans
    (reactor.in_use_fetch kind (view whole))

end Reactor

end InputBridge
