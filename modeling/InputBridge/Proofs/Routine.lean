import InputBridge.Bridge.Basic
/-!
# Runs of which part is seen

A run is a loop: batches one after another, until one is not completed, and then the way out. If
what a batch makes of some part of the bridge depends on that part alone, the part goes through a
loop of its own, and what is seen of a run is a run of that loop. Runs that look alike at the
start then look alike throughout, without being compared step by step.
-/
namespace InputBridge

/-- A loop of batches over the states `β`: each batch says what it came to, or why it was not
completed, in which case the loop ends by the way out. -/
structure Routine (α β : Type) where
  batch : β → Except Halt α × β
  stop : Halt → β → Ending × β

namespace Routine

variable {α β γ δ : Type}

/-- At most `limit` batches. -/
def runFor (routine : Routine α β) : Nat → β → Ending × β
  | 0, state => (.never, state)
  | limit + 1, state =>
    match routine.batch state with
    | (.ok _, next) => routine.runFor limit next
    | (.error halt, ended) => routine.stop halt ended

/-- The batches of a run with the states they leave. Only the last can be one that was not
completed. -/
def trail (routine : Routine α β) : Nat → β → List (Except Halt α × β)
  | 0, _ => []
  | limit + 1, state =>
    match routine.batch state with
    | (.ok report, next) => (.ok report, next) :: routine.trail limit next
    | (.error halt, ended) => [(.error halt, ended)]

/-- What a batch is seen to come to, and the part of its state that is looked at. -/
def glimpse (seen : α → γ) (look : β → δ) (batch : Except Halt α × β) : Except Halt γ × δ :=
  (batch.1.map seen, look batch.2)

/-- What is seen of one loop is another loop. -/
structure Shadows (small : Routine γ δ) (large : Routine α β) (seen : α → γ) (look : β → δ) :
    Prop where
  batch : ∀ state, glimpse seen look (large.batch state) = small.batch (look state)
  stop : ∀ halt state,
    ((large.stop halt state).1, look (large.stop halt state).2) = small.stop halt (look state)

namespace Shadows

variable {small : Routine γ δ} {large : Routine α β} {seen : α → γ} {look : β → δ}
  (shadows : small.Shadows large seen look)

include shadows

/-- What is seen of a run is a run: it ends alike. -/
theorem run_alike (limit : Nat) (state : β) :
    ((large.runFor limit state).1, look (large.runFor limit state).2) =
      small.runFor limit (look state) := by
  induction limit generalizing state with
  | zero => rfl
  | succ limit inductionHypothesis =>
    have same := shadows.batch state
    rcases step : large.batch state with ⟨result, next⟩
    rw [step] at same
    cases result with
    | ok report =>
      simp only [runFor, step, ← same, glimpse, Except.map]
      exact inductionHypothesis next
    | error halt =>
      simp only [runFor, step, ← same, glimpse, Except.map]
      exact shadows.stop halt next

/-- It goes through the same batches. -/
theorem trail_alike (limit : Nat) (state : β) :
    (large.trail limit state).map (glimpse seen look) = small.trail limit (look state) := by
  induction limit generalizing state with
  | zero => rfl
  | succ limit inductionHypothesis =>
    have same := shadows.batch state
    rcases step : large.batch state with ⟨result, next⟩
    rw [step] at same
    cases result with
    | ok report =>
      simp only [trail, step, ← same, glimpse, Except.map, List.map_cons, List.cons.injEq,
        true_and]
      exact inductionHypothesis next
    | error halt =>
      simp only [trail, step, ← same, glimpse, Except.map, List.map_cons, List.map_nil]

end Shadows

end Routine

namespace Bridge

variable {σ : Type}

/-- The loop of a bridge. -/
def routine (rig : Rig σ) : Routine BatchOutcome (Bridge σ) where
  batch bridge := bridge.processBatch rig
  stop halt bridge := bridge.stop rig halt

/-- A run is a run of the loop. -/
theorem run_for_routine (rig : Rig σ) (limit : Nat) (bridge : Bridge σ) :
    bridge.runFor rig limit = (routine rig).runFor limit bridge := by
  induction limit generalizing bridge with
  | zero => rfl
  | succ limit inductionHypothesis =>
    have step : (routine rig).batch bridge = bridge.processBatch rig := rfl
    rw [runFor, Routine.runFor, step]
    rcases bridge.processBatch rig with ⟨halt | outcome, next⟩
    · rfl
    · exact inductionHypothesis next

end Bridge

end InputBridge
