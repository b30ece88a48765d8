import InputBridge.Proofs.CaptureJournal
/-!
# Histories of the capture combination

A history is what happens to one combination over time: keys of it go up or down,
it is looked at, or the devices are handed back for good. Every call to the devices
may fail or succeed as they please. The history keeps, for each of these actions,
the combination before and after it and the calls the devices got meanwhile.

Two facts carry the results. Each action is a link in the chain of custody, so
ownership follows from the successful calls. And once a look has made a call the
cooldown stays armed until some look finds the combination incomplete, whatever
else happens in between.
-/
namespace InputBridge

/-- What can happen to the combination. -/
inductive CaptureAction where
  /-- The keys of the combination are held as given from now on. -/
  | hold (leftShift leftCtrl escape : Bool)
  /-- The end of a batch. -/
  | evaluate
  /-- The end of the bridge. -/
  | releaseOnExit
deriving DecidableEq, Repr

/-- An action with what it came to. -/
structure CaptureStep where
  action : CaptureAction
  before : Combo
  /-- The calls the devices got, in order. -/
  answers : List Answer
  after : Combo
deriving DecidableEq, Repr

namespace CaptureStep

/-- The step looked at the combination and called the devices. -/
def toggles (step : CaptureStep) : Prop :=
  step.action = .evaluate ∧ step.answers ≠ []

/-- The step looked at the combination and found it incomplete. -/
def sawIncomplete (step : CaptureStep) : Prop :=
  step.action = .evaluate ∧ step.before.allHeld = false

end CaptureStep

namespace Capturing

variable {σ : Type}

/-- The combination and the devices after an action. -/
def act (capturing : Capturing σ) (combo : Combo) (devices : σ) : CaptureAction → Combo × σ
  | .hold leftShift leftCtrl escape => ({ combo with leftShift, leftCtrl, escape }, devices)
  | .evaluate =>
    let toggled := capturing.evaluate combo devices
    (toggled.combo, toggled.devices)
  | .releaseOnExit =>
    let toggled := capturing.releaseOnExit combo devices
    (toggled.combo, toggled.devices)

/-- The combination and the devices after actions in order. -/
def actAll (capturing : Capturing σ) (combo : Combo) (devices : σ)
    (actions : List CaptureAction) : Combo × σ :=
  actions.foldl (fun reached action => capturing.act reached.1 reached.2 action) (combo, devices)

/-- An action as the journal of the devices shows it, and the devices after it. -/
def step (capturing : Capturing σ) (combo : Combo) (devices : σ) (action : CaptureAction) :
    CaptureStep × σ :=
  let (after, devices, answers) := capturing.journaled.act combo (devices, []) action
  ({ action, before := combo, answers, after }, devices)

/-- The history of actions from a given combination on, and the combination they
leave. -/
def play (capturing : Capturing σ) (combo : Combo) (devices : σ) :
    List CaptureAction → List CaptureStep × Combo
  | [] => ([], combo)
  | action :: rest =>
    let (step, devices) := capturing.step combo devices action
    let (later, final) := capturing.play step.after devices rest
    (step :: later, final)

end Capturing

/-- The calls of a whole history. -/
def journalOf (history : List CaptureStep) : List Answer :=
  history.flatMap CaptureStep.answers

/-- What holds of every action on its own. The first three say what it may do to the
owner, the last two tie its call to the cooldown. -/
structure Linked (step : CaptureStep) : Prop where
  once : step.answers.length ≤ 1
  custody : Custody step.before.owner step.answers step.after.owner
  failed : ∀ answer ∈ step.answers, answer.failure ≠ none →
    step.after.owner = step.before.owner ∧ step.after.leftShift = step.before.leftShift ∧
      step.after.leftCtrl = step.before.leftCtrl ∧ step.after.escape = step.before.escape
  arms : step.toggles → step.before.cooldown = false ∧ step.after.cooldown = true
  disarms : step.before.cooldown = true → step.sawIncomplete ∨ step.after.cooldown = true

namespace Capturing

variable {σ : Type}

/-- Every action is a link, whatever the devices answer. Only a look at the
combination arms or disarms the cooldown; the other two actions keep it. -/
theorem step_linked (capturing : Capturing σ) (combo : Combo) (devices : σ)
    (action : CaptureAction) :
    let step := (capturing.step combo devices action).1
    step.before = combo ∧ Linked step := by
  cases action with
  | hold leftShift leftCtrl escape =>
    refine ⟨rfl, Nat.zero_le 1, rfl, ?_, ?_, fun armed => .inr armed⟩
    · intro answer present
      exact absurd present List.not_mem_nil
    · intro toggles
      exact absurd rfl toggles.2
  | evaluate =>
    obtain ⟨answers, entry, handover, cooldown, called⟩ :=
      evaluate_journaled capturing combo devices []
    rw [List.nil_append] at entry
    simp only [step, act, entry, true_and]
    refine ⟨handover.once, handover.custody, handover.failed_keeps, ?_, ?_⟩
    · intro toggles
      obtain ⟨held, disarmed⟩ := called.mp toggles.2
      exact ⟨disarmed, cooldown.trans held⟩
    · intro _
      cases held : combo.allHeld with
      | false => exact .inl ⟨rfl, held⟩
      | true => exact .inr (cooldown.trans held)
  | releaseOnExit =>
    obtain ⟨answers, entry, handover, cooldown, _⟩ :=
      release_journaled capturing combo devices []
    rw [List.nil_append] at entry
    simp only [step, act, entry, true_and]
    refine ⟨handover.once, handover.custody, handover.failed_keeps, ?_, ?_⟩
    · intro toggles
      exact nomatch toggles.1
    · intro armed
      exact .inr (cooldown.trans armed)

/-- The history only records: the combination and the devices after a step are those
that the devices without a journal would leave. -/
theorem step_recorded (capturing : Capturing σ) (combo : Combo) (devices : σ)
    (action : CaptureAction) :
    ((capturing.step combo devices action).1.after, (capturing.step combo devices action).2) =
      capturing.act combo devices action := by
  cases action with
  | hold leftShift leftCtrl escape => rfl
  | evaluate =>
    have plain := evaluate_mirrors _ _ _ (journaled_mirrors capturing) combo (devices, [])
    simp only [step, act, ← plain, Toggled.hide]
  | releaseOnExit =>
    have plain := release_mirrors _ _ _ (journaled_mirrors capturing) combo (devices, [])
    simp only [step, act, ← plain, Toggled.hide]

/-- A history ends with the combination that its actions lead to. -/
theorem play_recorded (capturing : Capturing σ) (combo : Combo) (devices : σ)
    (actions : List CaptureAction) :
    (capturing.play combo devices actions).2 =
      (capturing.actAll combo devices actions).1 := by
  induction actions generalizing combo devices with
  | nil => rfl
  | cons action rest inductionHypothesis =>
    rw [actAll, List.foldl_cons, ← step_recorded]
    exact inductionHypothesis _ _

/-- Every step of a history is a link. -/
theorem play_linked (capturing : Capturing σ) (combo : Combo) (devices : σ)
    (actions : List CaptureAction) :
    ∀ step ∈ (capturing.play combo devices actions).1, Linked step := by
  induction actions generalizing combo devices with
  | nil => exact fun step present => absurd present List.not_mem_nil
  | cons action rest inductionHypothesis =>
    intro step present
    rcases List.mem_cons.mp present with rfl | later
    · exact (step_linked capturing combo devices action).2
    · exact inductionHypothesis _ _ step later

/-- The calls of a history form one chain of custody from the first owner to the
last. -/
theorem play_custody (capturing : Capturing σ) (combo : Combo) (devices : σ)
    (actions : List CaptureAction) :
    Custody combo.owner (journalOf (capturing.play combo devices actions).1)
      (capturing.play combo devices actions).2.owner := by
  induction actions generalizing combo devices with
  | nil => rfl
  | cons action rest inductionHypothesis =>
    have first := (step_linked capturing combo devices action).2.custody
    exact custody_append _ _ _ _ _ first (inductionHypothesis _ _)

/-- While the cooldown is armed no look calls the devices, so a call is preceded by
a look that found the combination incomplete. The induction goes along the steps in
between: each keeps the cooldown armed or is itself such a look. -/
theorem armed_until_incomplete (capturing : Capturing σ) (combo : Combo) (devices : σ)
    (actions : List CaptureAction) (between later : List CaptureStep) (second : CaptureStep)
    (armed : combo.cooldown = true)
    (split : (capturing.play combo devices actions).1 = between ++ second :: later)
    (toggles : second.toggles) : ∃ step ∈ between, step.sawIncomplete := by
  induction between generalizing combo devices actions with
  | nil =>
    cases actions with
    | nil => cases split
    | cons action rest =>
      obtain ⟨rfl, _⟩ := List.cons.inj split
      obtain ⟨_, linked⟩ := step_linked capturing combo devices action
      have disarmed : combo.cooldown = false := (linked.arms toggles).1
      exact absurd (armed.symm.trans disarmed) (by decide)
  | cons step between inductionHypothesis =>
    cases actions with
    | nil => cases split
    | cons action rest =>
      obtain ⟨rfl, remaining⟩ := List.cons.inj split
      obtain ⟨_, linked⟩ := step_linked capturing combo devices action
      rcases linked.disarms armed with incomplete | stillArmed
      · exact ⟨_, List.mem_cons_self, incomplete⟩
      · obtain ⟨found, present, incomplete⟩ :=
          inductionHypothesis _ _ rest stillArmed remaining
        exact ⟨found, List.mem_cons_of_mem _ present, incomplete⟩

/-- Between two looks that called the devices there is one that found the combination
incomplete. -/
theorem toggles_separated (capturing : Capturing σ) (combo : Combo) (devices : σ)
    (actions : List CaptureAction) (earlier between later : List CaptureStep)
    (first second : CaptureStep)
    (split : (capturing.play combo devices actions).1 =
      earlier ++ first :: (between ++ second :: later))
    (opens : first.toggles) (closes : second.toggles) :
    ∃ step ∈ between, step.sawIncomplete := by
  induction earlier generalizing combo devices actions with
  | nil =>
    cases actions with
    | nil => cases split
    | cons action rest =>
      obtain ⟨rfl, remaining⟩ := List.cons.inj split
      have armed := ((step_linked capturing combo devices action).2.arms opens).2
      exact armed_until_incomplete capturing _ _ rest between later second armed remaining closes
  | cons step earlier inductionHypothesis =>
    cases actions with
    | nil => cases split
    | cons action rest => exact inductionHypothesis _ _ rest (List.cons.inj split).2

/-- Whatever is held and whatever the devices answer, starting from a fresh
combination:

* the history ends where the actions lead without a journal;
* the successful calls alternate, the first of them taking the devices;
* the devices are captured exactly while they were taken more often than handed
  back, and the difference is never more than one;
* an action makes at most one call, and one that fails changes neither the owner nor
  what is held;
* between two calls from the end of a batch, failed ones included, some batch ended
  with the combination incomplete. -/
theorem captured_by_turns (capturing : Capturing σ) (devices : σ)
    (actions : List CaptureAction) :
    let history := (capturing.play {} devices actions).1
    let final := (capturing.play {} devices actions).2
    let done := successes (journalOf history)
    final = (capturing.actAll {} devices actions).1 ∧
      Alternates .acquire done ∧
      (final.owner = .captured ↔ done.count .release < done.count .acquire) ∧
      (done.count .acquire = done.count .release ∨
        done.count .acquire = done.count .release + 1) ∧
      (∀ step ∈ history, step.answers.length ≤ 1 ∧
        ∀ answer ∈ step.answers, answer.failure ≠ none →
          step.after.owner = step.before.owner ∧ step.after.leftShift = step.before.leftShift ∧
            step.after.leftCtrl = step.before.leftCtrl ∧
            step.after.escape = step.before.escape) ∧
      ∀ earlier first between second later,
        history = earlier ++ first :: (between ++ second :: later) →
        first.toggles → second.toggles → ∃ step ∈ between, step.sawIncomplete := by
  have chain := play_custody capturing {} devices actions
  have counted := custody_count _ _ _ chain
  refine ⟨play_recorded capturing {} devices actions, custody_alternates _ _ _ chain,
    ?_, ?_, ?_, ?_⟩
  · cases owned : (capturing.play {} devices actions).2.owner <;>
      simp only [owned, Ownership.held] at counted <;> simp <;> omega
  · cases owned : (capturing.play {} devices actions).2.owner <;>
      simp only [owned, Ownership.held] at counted <;> omega
  · intro step present
    have linked := play_linked capturing {} devices actions step present
    exact ⟨linked.once, linked.failed⟩
  · intro earlier first between second later split opens closes
    exact toggles_separated capturing {} devices actions earlier between later first second
      split opens closes

end Capturing

end InputBridge
