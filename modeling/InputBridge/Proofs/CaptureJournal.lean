import InputBridge.Capture
/-!
# The journal of capture calls

Devices can keep a journal of the calls they get and of how each ended. Keeping it
changes nothing else. The journal of everything the bridge does to the devices is
a chain of custody: each call, whether it succeeds or not, is the one that would
change the current owner, and the owner changes exactly with the calls that
succeed. From that alone it follows that the successful calls alternate and that
the devices are captured exactly while one more call took them than handed them
back.

A toggle also arms the cooldown, so the calls of two toggles are separated by a
look at an incomplete combination. Handing the devices back at the end does not
touch the cooldown and cannot make two toggles follow each other.
-/
namespace InputBridge

/-- A call to the devices as they saw it, with the reason if it failed. -/
structure Answer where
  call : CaptureCall
  failure : Option String
deriving DecidableEq, Repr

/-- The successful calls of a journal, in order. -/
def successes (journal : List Answer) : List CaptureCall :=
  (journal.filter fun answer => answer.failure.isNone).map Answer.call

/-- The journal takes the devices from one owner to another: every call is the
toggle that is possible at that point, and it takes effect unless it fails. -/
def Custody : Ownership → List Answer → Ownership → Prop
  | before, [], after => after = before
  | before, answer :: rest, after =>
    answer.call = before.toggle ∧
      Custody (if answer.failure.isNone then answer.call.owner else before) rest after

/-- Calls that take and calls that hand back follow each other by turns, from the
given call on. -/
def Alternates : CaptureCall → List CaptureCall → Prop
  | _, [] => True
  | due, call :: rest => call = due ∧ Alternates due.owner.toggle rest

/-- A call that succeeded is among the successes. -/
theorem successes_succeeded (call : CaptureCall) (rest : List Answer) :
    successes (⟨call, none⟩ :: rest) = call :: successes rest := rfl

/-- Journals join where the owner of the first is the owner the second starts
from. -/
theorem custody_append (before middle after : Ownership) (earlier later : List Answer)
    (first : Custody before earlier middle) (second : Custody middle later after) :
    Custody before (earlier ++ later) after := by
  induction earlier generalizing before with
  | nil =>
    have same : middle = before := first
    exact same ▸ second
  | cons answer rest inductionHypothesis =>
    exact ⟨first.1, inductionHypothesis _ first.2⟩

/-- The successful calls of a chain of custody alternate. A failed call changes
neither the owner nor the call that is due next. -/
theorem custody_alternates (before after : Ownership) (journal : List Answer)
    (chain : Custody before journal after) : Alternates before.toggle (successes journal) := by
  induction journal generalizing before with
  | nil => exact trivial
  | cons answer rest inductionHypothesis =>
    obtain ⟨call, failure⟩ := answer
    obtain ⟨due, remaining⟩ := chain
    cases failure with
    | some reason => exact inductionHypothesis before remaining
    | none =>
      have same : call = before.toggle := due
      subst same
      exact ⟨rfl, inductionHypothesis before.toggle.owner remaining⟩

/-- How many times the devices are taken while an owner has them. -/
def Ownership.held : Ownership → Nat
  | released => 0
  | captured => 1

/-- In a chain of custody, what was taken and not handed back is what the last
owner holds. -/
theorem custody_count (before after : Ownership) (journal : List Answer)
    (chain : Custody before journal after) :
    before.held + (successes journal).count .acquire =
      after.held + (successes journal).count .release := by
  induction journal generalizing before with
  | nil =>
    have same : after = before := chain
    rw [same]
    rfl
  | cons answer rest inductionHypothesis =>
    obtain ⟨call, failure⟩ := answer
    obtain ⟨due, remaining⟩ := chain
    cases failure with
    | some reason => exact inductionHypothesis before remaining
    | none =>
      have same : call = before.toggle := due
      subst same
      have counted := inductionHypothesis before.toggle.owner remaining
      rw [successes_succeeded]
      cases before <;>
        simp only [Ownership.toggle, CaptureCall.owner, Ownership.held, List.count_cons,
          beq_self_eq_true, if_true, reduceCtorEq, beq_iff_eq, if_false] at counted ⊢ <;> omega

/-- What may become of the combination when it is looked at: at most one call, in
the chain of custody from the old owner to the new one, and no change to what is
held. -/
structure Handover (before : Combo) (answers : List Answer) (after : Combo) : Prop where
  once : answers.length ≤ 1
  custody : Custody before.owner answers after.owner
  leftShift : after.leftShift = before.leftShift
  leftCtrl : after.leftCtrl = before.leftCtrl
  escape : after.escape = before.escape

namespace Handover

/-- Without a call the owner stays. -/
theorem untouched (before after : Combo) (same : after.owner = before.owner)
    (leftShift : after.leftShift = before.leftShift) (leftCtrl : after.leftCtrl = before.leftCtrl)
    (escape : after.escape = before.escape) : Handover before [] after :=
  ⟨Nat.zero_le 1, same, leftShift, leftCtrl, escape⟩

/-- A failed call leaves the owner as it was. -/
theorem failed {before after : Combo} {answers : List Answer}
    (handover : Handover before answers after) (answer : Answer) (present : answer ∈ answers)
    (failure : answer.failure ≠ none) : after.owner = before.owner := by
  obtain ⟨single, rfl⟩ : ∃ single, answers = [single] :=
    List.length_eq_one_iff.mp (Nat.le_antisymm handover.once (List.length_pos_of_mem present))
  obtain rfl := List.mem_singleton.mp present
  have after_call := handover.custody.2
  simpa [Custody, failure, Option.isNone_iff_eq_none] using after_call

/-- A failed call changes neither the owner nor what is held. -/
theorem failed_keeps {before after : Combo} {answers : List Answer}
    (handover : Handover before answers after) (answer : Answer) (present : answer ∈ answers)
    (failure : answer.failure ≠ none) :
    after.owner = before.owner ∧ after.leftShift = before.leftShift ∧
      after.leftCtrl = before.leftCtrl ∧ after.escape = before.escape :=
  ⟨handover.failed answer present failure, handover.leftShift, handover.leftCtrl,
    handover.escape⟩

end Handover

/-- What a look at the combination came to, with part of the devices hidden. -/
def Toggled.hide {σ τ : Type} (hide : σ → τ) (toggled : Toggled σ) : Toggled τ :=
  { combo := toggled.combo, devices := hide toggled.devices, result := toggled.result }

namespace Capturing

variable {σ τ : Type}

/-- Devices that remember more than others answer every call alike, and what they leave
looks alike once the surplus is hidden. -/
def Mirrors (large : Capturing σ) (small : Capturing τ) (hide : σ → τ) : Prop :=
  ∀ call devices, ((large call devices).1, hide (large call devices).2) = small call (hide devices)

/-- A call comes to the same on both sides. -/
theorem perform_mirrors (large : Capturing σ) (small : Capturing τ) (hide : σ → τ)
    (mirrors : Mirrors large small hide) (call : CaptureCall) (combo : Combo) (devices : σ) :
    (large.perform call combo devices).hide hide = small.perform call combo (hide devices) := by
  have same := mirrors call devices
  rcases answered : large call devices with ⟨failure, after⟩
  rw [answered] at same
  cases failure <;> simp only [perform, answered, ← same, Toggled.hide]

/-- So does a look at the combination. -/
theorem evaluate_mirrors (large : Capturing σ) (small : Capturing τ) (hide : σ → τ)
    (mirrors : Mirrors large small hide) (combo : Combo) (devices : σ) :
    (large.evaluate combo devices).hide hide = small.evaluate combo (hide devices) := by
  cases due : combo.due with
  | none => simp only [evaluate, due, Toggled.hide]
  | some call =>
    simp only [evaluate, due]
    exact perform_mirrors large small hide mirrors call combo.settle devices

/-- So does handing the devices back. -/
theorem release_mirrors (large : Capturing σ) (small : Capturing τ) (hide : σ → τ)
    (mirrors : Mirrors large small hide) (combo : Combo) (devices : σ) :
    (large.releaseOnExit combo devices).hide hide = small.releaseOnExit combo (hide devices) := by
  simp only [releaseOnExit]
  split
  · exact perform_mirrors large small hide mirrors .release combo devices
  · rfl

/-- The same devices, keeping a journal. -/
def journaled (capturing : Capturing σ) : Capturing (σ × List Answer) :=
  fun call (devices, journal) =>
    let (failure, after) := capturing call devices
    (failure, after, journal ++ [{ call, failure }])

/-- Keeping a journal changes nothing about the devices below it. -/
theorem journaled_mirrors (capturing : Capturing σ) :
    Mirrors capturing.journaled capturing Prod.fst := fun _ _ => rfl

/-- A call that toggles the owner is journaled as one step of the chain of custody.
Nothing but the owner changes, and that only if the call succeeds. -/
theorem perform_journaled (capturing : Capturing σ) (combo : Combo) (devices : σ)
    (journal : List Answer) :
    let toggled := capturing.journaled.perform combo.owner.toggle combo (devices, journal)
    ∃ failure, toggled.devices.2 = journal ++ [{ call := combo.owner.toggle, failure }] ∧
      Handover combo [{ call := combo.owner.toggle, failure }] toggled.combo ∧
      toggled.combo.cooldown = combo.cooldown := by
  rcases answered : capturing combo.owner.toggle devices with ⟨failure, after⟩
  refine ⟨failure, ?_⟩
  cases failure with
  | none =>
    simp only [perform, journaled, answered, true_and, and_true]
    exact ⟨Nat.le_refl 1, ⟨rfl, rfl⟩, rfl, rfl, rfl⟩
  | some reason =>
    simp only [perform, journaled, answered, true_and, and_true]
    exact ⟨Nat.le_refl 1, ⟨rfl, rfl⟩, rfl, rfl, rfl⟩

/-- A look at the combination makes one call if the combination is held and the
cooldown is not armed, and none otherwise. Either way the cooldown then says
whether the combination is held. -/
theorem evaluate_journaled (capturing : Capturing σ) (combo : Combo) (devices : σ)
    (journal : List Answer) :
    let toggled := capturing.journaled.evaluate combo (devices, journal)
    ∃ answers, toggled.devices.2 = journal ++ answers ∧ Handover combo answers toggled.combo ∧
      toggled.combo.cooldown = combo.allHeld ∧
      (answers ≠ [] ↔ combo.allHeld = true ∧ combo.cooldown = false) := by
  by_cases due : combo.allHeld = true ∧ combo.cooldown = false
  · have toggle : combo.due = some combo.owner.toggle := by simp [Combo.due, due]
    obtain ⟨failure, entry, handover, cooldown⟩ :=
      perform_journaled capturing combo.settle devices journal
    simp only [evaluate, toggle]
    refine ⟨_, entry, ?_, cooldown, ?_⟩
    · exact ⟨handover.once, handover.custody, handover.leftShift, handover.leftCtrl,
        handover.escape⟩
    · simp [due]
  · have idle : combo.due = none := by simpa [Combo.due] using due
    simp only [evaluate, idle]
    refine ⟨[], (List.append_nil journal).symm, .untouched _ _ rfl rfl rfl rfl, ?_, ?_⟩
    · trivial
    · simp [due]

/-- Handing the devices back makes one call if they are captured and none
otherwise. It does not look at what is held and leaves the cooldown alone. -/
theorem release_journaled (capturing : Capturing σ) (combo : Combo) (devices : σ)
    (journal : List Answer) :
    let toggled := capturing.journaled.releaseOnExit combo (devices, journal)
    ∃ answers, toggled.devices.2 = journal ++ answers ∧ Handover combo answers toggled.combo ∧
      toggled.combo.cooldown = combo.cooldown ∧
      (combo.owner = .released → answers = []) ∧
      (combo.owner = .captured → ∃ failure, answers = [{ call := .release, failure }]) := by
  cases owned : combo.owner with
  | released =>
    have skipped : combo.isCaptured = false := by simp [Combo.isCaptured, owned]
    simp only [releaseOnExit, skipped, Bool.false_eq_true, if_false]
    exact ⟨[], (List.append_nil journal).symm, .untouched _ _ rfl rfl rfl rfl, trivial,
      fun _ => rfl, nofun⟩
  | captured =>
    have called : combo.isCaptured = true := by simp [Combo.isCaptured, owned]
    obtain ⟨failure, entry, handover, cooldown⟩ :=
      perform_journaled capturing combo devices journal
    simp only [owned, Ownership.toggle] at entry handover cooldown
    simp only [releaseOnExit, called, if_true]
    exact ⟨_, entry, handover, cooldown, nofun, fun _ => ⟨failure, rfl⟩⟩

end Capturing

end InputBridge
