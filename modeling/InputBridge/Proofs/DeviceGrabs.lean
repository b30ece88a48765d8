import InputBridge.Machine.EventDevices
/-!
# Which devices a capture call leaves grabbed

A capture call is made to the devices in use one after another, and each of them may refuse. A
release goes on past a refusal; it may leave any of the devices grabbed, but if none refuses it
frees them all. An acquire stops at the first refusal and lets go of what it had taken by then. If
none of those devices refuses in its turn, nothing is left grabbed that was not before.

Both are shown by induction along the devices, from what a call to one device does: it is left as
wanted, or as it was if it refused, and the other is not touched.
-/
namespace InputBridge

/-- Whether a device is grabbed after a call that was not refused. -/
def CaptureCall.grabs : CaptureCall → Bool
  | acquire => true
  | release => false

/-- A call that is not refused leaves the device as wanted, and one that is refused as it was. -/
theorem InputNode.perform_grabbed (call : CaptureCall) (device : InputNode) :
    (device.perform call).2.isGrabbed =
      if (device.perform call).1.fault? = none then call.grabs else device.isGrabbed := by
  cases call with
  | acquire =>
    cases grabbed : device.isGrabbed <;> cases answer : device.grabFaults.head?.join <;>
      simp [perform, grabbed, answer, GrabAnswer.fault?, CaptureCall.grabs]
  | release =>
    cases grabbed : device.isGrabbed <;> cases answer : device.ungrabFaults.head?.join <;>
      simp [perform, grabbed, answer, GrabAnswer.fault?, CaptureCall.grabs]

namespace EventDevices

/-- Whether the device of a kind is grabbed, if there is one. -/
def grabState (inputs : EventDevices) (kind : DeviceKind) : Option Bool :=
  (inputs.get? kind).map InputNode.isGrabbed

/-- No device in use is grabbed. -/
def NoneGrabbed (inputs : EventDevices) : Prop := ∀ kind, inputs.grabState kind ≠ some true

/-- Every device in use is grabbed. -/
def AllGrabbed (inputs : EventDevices) : Prop := ∀ kind, inputs.grabState kind ≠ some false

/-- No device in use would refuse to be let go of. -/
def Yields (inputs : EventDevices) : Prop := ∀ kind, (inputs.callOn .release kind).1 = none

/-- Why a device refuses to be let go of while a refused acquire undoes what it did, if one
does. -/
def rollbackFault? (taken : List DeviceKind) : List DeviceKind → EventDevices → Option SystemError
  | [], _ => none
  | kind :: rest, inputs =>
    match inputs.callOn .acquire kind with
    | (none, inputs) => inputs.rollbackFault? (taken ++ [kind]) rest
    | (some _, inputs) => (inputs.releaseEach taken).1

/-- If the next acquire is refused, it can undo what it did. -/
def UndoesCleanly (inputs : EventDevices) : Prop :=
  inputs.rollbackFault? [] inputs.kinds = none

instance (inputs : EventDevices) : Decidable inputs.UndoesCleanly :=
  inferInstanceAs (Decidable (_ = none))

/-! ### A call to one device -/

/-- A call changes the device it is made to, as that device answers, and no other. -/
theorem call_on_get (call : CaptureCall) (kind asked : DeviceKind) (inputs : EventDevices) :
    (inputs.callOn call kind).2.get? asked =
      if asked = kind then (inputs.get? asked).map fun device => (device.perform call).2
      else inputs.get? asked := by
  have put (device : InputNode) : (inputs.put kind device).get? asked =
      if asked = kind then some device else inputs.get? asked :=
    PerDevice.get_modify inputs.devices kind asked fun _ => some device
  cases found : inputs.get? kind with
  | none =>
    simp only [callOn, found]
    split
    next same => rw [same, found]; rfl
    next => rfl
  | some device =>
    have left : (inputs.callOn call kind).2.get? asked =
        (inputs.put kind (device.perform call).2).get? asked := by
      simp only [callOn, found]
      rcases device.perform call with ⟨_ | _ | _, after⟩ <;> rfl
    rw [left, put]
    split
    next same => rw [same, found]; rfl
    next => rfl

/-- What a call answers is up to the device. -/
theorem call_on_fault (call : CaptureCall) (kind : DeviceKind) (inputs : EventDevices) :
    (inputs.callOn call kind).1 =
      (inputs.get? kind).bind fun device => (device.perform call).1.fault? := by
  cases found : inputs.get? kind with
  | none => simp only [callOn, found, Option.bind_none]
  | some device =>
    simp only [callOn, found, Option.bind_some]
    rcases device.perform call with ⟨_ | _ | _, after⟩ <;> rfl

/-- A call that is not refused leaves its device as wanted; nothing else is grabbed or let go
of. -/
theorem call_on_grabs (call : CaptureCall) (kind asked : DeviceKind) (inputs : EventDevices) :
    (inputs.callOn call kind).2.grabState asked =
      if asked = kind ∧ (inputs.callOn call kind).1 = none then
        (inputs.grabState asked).map fun _ => call.grabs
      else inputs.grabState asked := by
  rw [grabState, call_on_get, call_on_fault, grabState]
  by_cases same : asked = kind
  · subst same
    cases inputs.get? asked with
    | none => simp
    | some device =>
      have grabbed := device.perform_grabbed call
      cases fault : (device.perform call).1.fault? <;> simp [grabbed, fault]
  · simp [same]

/-- No call changes which devices are in use. -/
theorem call_on_kinds (call : CaptureCall) (kind : DeviceKind) (inputs : EventDevices) :
    (inputs.callOn call kind).2.kinds = inputs.kinds := by
  refine congrArg DeviceKind.all.filter (funext fun asked => ?_)
  rw [call_on_get]
  split
  · exact Option.isSome_map
  · rfl

/-! ### Releasing -/

/-- Devices let go of in turn: each is asked whatever became of those before it. -/
theorem release_each_cons (kind : DeviceKind) (rest : List DeviceKind) (inputs : EventDevices) :
    inputs.releaseEach (kind :: rest) =
      let first := inputs.callOn .release kind
      let later := first.2.releaseEach rest
      (first.1.or later.1, later.2) := rfl

/-- Letting go of devices in turn leaves the same devices in use. -/
theorem release_each_kinds (kinds : List DeviceKind) (inputs : EventDevices) :
    (inputs.releaseEach kinds).2.kinds = inputs.kinds := by
  induction kinds generalizing inputs with
  | nil => rfl
  | cons kind rest inductionHypothesis =>
    exact (inductionHypothesis _).trans (call_on_kinds .release kind inputs)

/-- A release in which no device refuses frees the devices it is made to. -/
theorem release_each_frees (kinds : List DeviceKind) (inputs : EventDevices)
    (succeeded : (inputs.releaseEach kinds).1 = none) (asked : DeviceKind) :
    (inputs.releaseEach kinds).2.grabState asked =
      if asked ∈ kinds then (inputs.grabState asked).map fun _ => false
      else inputs.grabState asked := by
  induction kinds generalizing inputs with
  | nil => rfl
  | cons kind rest inductionHypothesis =>
    rw [release_each_cons] at succeeded ⊢
    have freed : (inputs.callOn .release kind).1 = none := (Option.or_eq_none_iff.mp succeeded).1
    have first := call_on_grabs .release kind asked inputs
    rw [inductionHypothesis _ (Option.or_eq_none_iff.mp succeeded).2, first]
    by_cases same : asked = kind
    · subst same
      simp [freed, CaptureCall.grabs]
    · simp [same]

/-- If each device lets go when asked first, none refuses when they are asked in turn. -/
theorem release_each_yields (kinds : List DeviceKind) (inputs : EventDevices)
    (once : kinds.Nodup) (yields : ∀ kind ∈ kinds, (inputs.callOn .release kind).1 = none) :
    (inputs.releaseEach kinds).1 = none := by
  induction kinds generalizing inputs with
  | nil => rfl
  | cons kind rest inductionHypothesis =>
    obtain ⟨unnamed, restOnce⟩ := List.nodup_cons.mp once
    rw [release_each_cons]
    refine Option.or_eq_none_iff.mpr ⟨yields kind List.mem_cons_self, ?_⟩
    refine inductionHypothesis _ restOnce fun later named => ?_
    have other : later ≠ kind := fun same => unnamed (same ▸ named)
    rw [call_on_fault, call_on_get, if_neg other, ← call_on_fault]
    exact yields later (List.mem_cons_of_mem _ named)

/-! ### Acquiring -/

/-- Grabbing devices in turn leaves the same devices in use, also if it is undone. -/
theorem acquire_each_kinds (taken kinds : List DeviceKind) (inputs : EventDevices) :
    (inputs.acquireEach taken kinds).2.kinds = inputs.kinds := by
  induction kinds generalizing taken inputs with
  | nil => rfl
  | cons kind rest inductionHypothesis =>
    have same := call_on_kinds .acquire kind inputs
    rcases answer : inputs.callOn .acquire kind with ⟨_ | error, after⟩
    · rw [answer] at same
      simp only [acquireEach, answer]
      exact (inductionHypothesis _ after).trans same
    · rw [answer] at same
      simp only [acquireEach, answer]
      exact (release_each_kinds taken after).trans same

/-- An acquire that is not refused grabs the devices it is made to. -/
theorem acquire_each_grabs (taken kinds : List DeviceKind) (inputs : EventDevices)
    (succeeded : (inputs.acquireEach taken kinds).1 = none) (asked : DeviceKind) :
    (inputs.acquireEach taken kinds).2.grabState asked =
      if asked ∈ kinds then (inputs.grabState asked).map fun _ => true
      else inputs.grabState asked := by
  induction kinds generalizing taken inputs with
  | nil => rfl
  | cons kind rest inductionHypothesis =>
    have first := call_on_grabs .acquire kind asked inputs
    rcases answer : inputs.callOn .acquire kind with ⟨_ | error, after⟩
    · rw [answer] at first
      simp only [acquireEach, answer] at succeeded ⊢
      rw [inductionHypothesis _ after succeeded, first]
      by_cases same : asked = kind
      · subst same
        simp [CaptureCall.grabs]
      · simp [same]
    · simp [acquireEach, answer] at succeeded

/-- An acquire that is refused leaves nothing grabbed, if all that was grabbed before it is what
it has taken so far and if that can be undone. -/
theorem acquire_each_undone (taken kinds : List DeviceKind) (inputs : EventDevices)
    (refused : (inputs.acquireEach taken kinds).1 ≠ none)
    (clean : inputs.rollbackFault? taken kinds = none)
    (held : ∀ asked, inputs.grabState asked = some true → asked ∈ taken) :
    (inputs.acquireEach taken kinds).2.NoneGrabbed := by
  induction kinds generalizing taken inputs with
  | nil => exact absurd rfl refused
  | cons kind rest inductionHypothesis =>
    have first := fun asked => call_on_grabs .acquire kind asked inputs
    rcases answer : inputs.callOn .acquire kind with ⟨_ | error, after⟩
    · simp only [answer] at first
      simp only [acquireEach, rollbackFault?, answer] at refused clean ⊢
      refine inductionHypothesis _ after refused clean fun asked grabbed => ?_
      rw [first asked] at grabbed
      by_cases same : asked = kind
      · exact List.mem_append_right taken (List.mem_singleton.mpr same)
      · rw [if_neg (fun both => same both.1)] at grabbed
        exact List.mem_append_left [kind] (held asked grabbed)
    · simp only [answer] at first
      simp only [acquireEach, rollbackFault?, answer] at clean ⊢
      intro asked grabbed
      have unchanged : after.grabState asked = inputs.grabState asked :=
        (first asked).trans (if_neg fun both => nomatch both.2)
      rw [release_each_frees taken after clean asked, unchanged] at grabbed
      by_cases earlier : asked ∈ taken
      · rw [if_pos earlier] at grabbed
        cases known : inputs.grabState asked <;> simp [known] at grabbed
      · rw [if_neg earlier] at grabbed
        exact earlier (held asked grabbed)

/-! ### Calls to all devices in use -/

/-- The kinds of the devices in use are those of which it is known whether they are grabbed. -/
theorem mem_kinds (inputs : EventDevices) (kind : DeviceKind) :
    kind ∈ inputs.kinds ↔ inputs.grabState kind ≠ none := by
  have all : kind ∈ DeviceKind.all := by cases kind <;> decide
  simp [kinds, grabState, all, Option.isSome_iff_ne_none]

/-- No kind is listed twice among the devices in use. -/
theorem kinds_nodup (inputs : EventDevices) : inputs.kinds.Nodup :=
  List.Pairwise.filter _ (by decide : DeviceKind.all.Nodup)

/-- Capture calls leave the same devices in use. -/
theorem capturing_kinds (call : CaptureCall) (inputs : EventDevices) :
    (capturing call inputs).2.kinds = inputs.kinds := by
  cases call with
  | acquire => exact acquire_each_kinds [] inputs.kinds inputs
  | release => exact release_each_kinds inputs.kinds inputs

/-- An acquire that succeeds grabs every device in use. -/
theorem acquire_grabs_all (inputs : EventDevices)
    (succeeded : (capturing .acquire inputs).1 = none) :
    (capturing .acquire inputs).2.AllGrabbed := by
  intro kind free
  have grabs := acquire_each_grabs [] inputs.kinds inputs (Option.map_eq_none_iff.mp succeeded) kind
  have left : (inputs.acquireEach [] inputs.kinds).2.grabState kind = some false := free
  rw [left] at grabs
  by_cases used : kind ∈ inputs.kinds
  · rw [if_pos used] at grabs
    cases known : inputs.grabState kind <;> simp [known] at grabs
  · rw [if_neg used] at grabs
    exact used ((mem_kinds inputs kind).mpr (grabs ▸ Option.some_ne_none false))

/-- An acquire that is refused leaves no device grabbed, if none was before and if it can undo
what it did. -/
theorem refused_acquire_undone (inputs : EventDevices) (free : inputs.NoneGrabbed)
    (clean : inputs.UndoesCleanly) (refused : (capturing .acquire inputs).1 ≠ none) :
    (capturing .acquire inputs).2.NoneGrabbed := by
  refine acquire_each_undone [] inputs.kinds inputs (fun succeeded => refused ?_) clean
    fun kind grabbed => absurd grabbed (free kind)
  exact Option.map_eq_none_iff.mpr succeeded

/-- A release that succeeds frees every device in use. -/
theorem release_frees_all (inputs : EventDevices)
    (succeeded : (capturing .release inputs).1 = none) :
    (capturing .release inputs).2.NoneGrabbed := by
  intro kind grabbed
  have frees := release_each_frees inputs.kinds inputs (Option.map_eq_none_iff.mp succeeded) kind
  have left : (inputs.releaseEach inputs.kinds).2.grabState kind = some true := grabbed
  rw [left] at frees
  by_cases used : kind ∈ inputs.kinds
  · rw [if_pos used] at frees
    cases known : inputs.grabState kind <;> simp [known] at frees
  · rw [if_neg used] at frees
    exact used ((mem_kinds inputs kind).mpr (frees ▸ Option.some_ne_none true))

/-- A release succeeds if no device refuses, however many of them are grabbed. -/
theorem release_yields (inputs : EventDevices) (yields : inputs.Yields) :
    (capturing .release inputs).1 = none :=
  Option.map_eq_none_iff.mpr
    (release_each_yields inputs.kinds inputs inputs.kinds_nodup fun kind _ => yields kind)

end EventDevices

end InputBridge
