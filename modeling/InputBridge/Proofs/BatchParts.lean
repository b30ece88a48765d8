import InputBridge.Proofs.BridgeJournal
import InputBridge.Proofs.ScriptedEvents
/-!
# The two parts of a batch

A batch first waits and reads, then looks at the combination and reports. The first part
leaves nothing behind but the events taken in; what the second part depends on besides the
state, the devices that answer capture calls and the adapter, it does not touch. So a batch
is given by the events it read and by the rig's state as far as the second part sees it.

Which events a batch reads is said of the rig alone: what the next wait names and what the
devices hand out one after another, whatever is reported in between.
-/
namespace InputBridge

/-- Waiting, reading and reporting change nothing of what `view` shows of the rig's state. -/
structure Rig.ReadsUnseen {σ τ : Type} (rig : Rig σ) (view : σ → τ) : Prop where
  wait : ∀ state, view (rig.wait state).2 = view state
  drain : ∀ device state, view (rig.drain device state).2 = view state
  report : ∀ notice state, view (rig.report notice state) = view state

/-- What `view` shows of the rig's state is all that capture calls and frames depend on: they
are answered as `capturing` and `write` answer them there. -/
structure Rig.AnswersThrough {σ τ : Type} (rig : Rig σ) (view : σ → τ)
    (capturing : Capturing τ) (write : Frame → τ → Option TransportError × τ) : Prop
    extends rig.ReadsUnseen view where
  capturing : rig.capturing.Mirrors capturing view
  write : ∀ frame state,
    ((rig.write frame state).1, view (rig.write frame state).2) = write frame (view state)

namespace Rig

variable {σ τ : Type}

/-- Devices read in this order hand out these events, whatever is reported in between. -/
def HandsOut (rig : Rig σ) : Entries → σ → Prop
  | [], _ => True
  | (device, events) :: rest, state =>
    (rig.drain device state).1 = .events events ∧
      ∀ notices, rig.HandsOut rest (rig.reportAll notices (rig.drain device state).2)

/-- The next wait names devices in this order, and they hand out these events. -/
def Finds (rig : Rig σ) (entries : Entries) (state : σ) : Prop :=
  (rig.wait state).1 = .ready (entries.map Prod.fst) ∧ rig.HandsOut entries (rig.wait state).2

/-- What a rig finds, a rig that remembers more finds too. -/
theorem finds_mirrored (large : Rig σ) (small : Rig τ) (hidden : σ → τ)
    (mirrors : large.Mirrors small hidden) (entries : Entries) (state : σ)
    (finds : small.Finds entries (hidden state)) : large.Finds entries state := by
  have handsOut (entries : Entries) (state : σ) (hands : small.HandsOut entries (hidden state)) :
      large.HandsOut entries state := by
    induction entries generalizing state with
    | nil => trivial
    | cons entry rest inductionHypothesis =>
      obtain ⟨device, events⟩ := entry
      have same := mirrors.drain device state
      obtain ⟨handed, later⟩ := hands
      rw [← same] at handed later
      refine ⟨handed, fun notices => inductionHypothesis _ ?_⟩
      rw [Bridge.report_all_mirrors large small hidden mirrors]
      exact later notices
  have same := mirrors.wait state
  obtain ⟨named, hands⟩ := finds
  rw [← same] at named hands
  exact ⟨named, handsOut entries _ hands⟩

/-- A journal of capture calls only adds to what is seen of the rig. -/
theorem answers_journaled (rig : Rig σ) (view : σ → τ) (capturing : Capturing τ)
    (write : Frame → τ → Option TransportError × τ)
    (answers : rig.AnswersThrough view capturing write) :
    rig.journaled.AnswersThrough (fun state => (view state.1, state.2)) capturing.journaled
      fun frame state => ((write frame state.1).1, (write frame state.1).2, state.2) where
  wait state := Prod.ext (answers.wait state.1) rfl
  drain device state := Prod.ext (answers.drain device state.1) rfl
  report notice state := Prod.ext (answers.report notice state.1) rfl
  capturing call state := by
    have same := answers.capturing call state.1
    simp only [journaled, Capturing.journaled, ← same]
  write frame state := by
    have same := answers.write frame state.1
    simp only [journaled, ← same]

/-- The rig with an adapter that takes every frame and keeps none. -/
def unheard (rig : Rig σ) : Rig σ :=
  { rig with write := fun _ state => (none, state), interrupt := fun _ => none }

/-- A rig that is never ready and has no use for notices. -/
def outward (capturing : Capturing τ) (write : Frame → τ → Option TransportError × τ) : Rig τ where
  wait state := (.never, state)
  drain _ state := (.never, state)
  capturing := capturing
  write := write
  report _ state := state
  interrupt _ := none
  backlog _ := 0

end Rig

namespace Bridge

variable {σ τ : Type}

/-- The bridge once events were taken in and the rig was left in some state. -/
def drained (bridge : Bridge σ) (events : List InputEvent) (devices : σ) : Bridge σ :=
  { bridge with state := bridge.state.absorbAll bridge.keymap events, rigState := devices }

/-- While devices are read, what the adapter answers plays no part. -/
theorem undisturbed_unheard (rig : Rig σ) (view : σ → τ) (unseen : rig.ReadsUnseen view) :
    rig.unheard.Undisturbed view :=
  ⟨unseen.wait, unseen.drain, fun _ _ => rfl, unseen.report, fun _ _ asked => nomatch asked⟩

/-- Devices are read alike, whatever the adapter answers. -/
theorem drain_all_unheard (rig : Rig σ) (devices : List DeviceKind) (updated : Bool)
    (bridge : Bridge σ) :
    bridge.drainAll rig.unheard updated devices = bridge.drainAll rig updated devices := by
  induction devices generalizing updated bridge with
  | nil => rfl
  | cons device rest inductionHypothesis =>
    have same : bridge.drain rig.unheard device = bridge.drain rig device := rfl
    rw [drainAll, drainAll, same]
    rcases bridge.drain rig device with ⟨halt | accepted, after⟩
    · rfl
    · exact inductionHypothesis (updated || accepted) after

/-- The events handed out are taken in, in the order in which the devices are read. -/
theorem drain_all_found (rig : Rig σ) (view : σ → τ) (unseen : rig.ReadsUnseen view)
    (entries : Entries) (updated : Bool) (bridge : Bridge σ)
    (hands : rig.HandsOut entries bridge.rigState) :
    let events := entries.flatMap Prod.snd
    ∃ devices, view devices = view bridge.rigState ∧
      bridge.drainAll rig updated (entries.map Prod.fst) =
        (.ok (updated || events.any (InputEvent.isAccepted bridge.keymap)),
          bridge.drained events devices) := by
  induction entries generalizing updated bridge with
  | nil => exact ⟨bridge.rigState, rfl, by simp [drainAll, drained]⟩
  | cons entry rest inductionHypothesis =>
    obtain ⟨device, events⟩ := entry
    have read := unseen.drain device bridge.rigState
    obtain ⟨handed, later⟩ := hands
    rcases answer : rig.drain device bridge.rigState with ⟨_, rigState⟩
    rw [answer] at read handed later
    subst handed
    let reported := rig.reportAll (.drained device events.length ::
      Notice.ofRejections (Intake.ofEvents bridge.keymap bridge.state events).skipped) rigState
    have first : bridge.drain rig device =
        (.ok (events.any (InputEvent.isAccepted bridge.keymap)),
          bridge.drained events reported) := by
      simp only [drain, answer, Intake.of_events_state, Intake.of_events_updated, reportAll,
        drained, reported]
    have silent : view reported = view rigState :=
      view_report_all rig.unheard view (undisturbed_unheard rig view unseen) _ rigState
    obtain ⟨devices, kept, rest⟩ := inductionHypothesis
      (updated || events.any (InputEvent.isAccepted bridge.keymap))
      (bridge.drained events reported) (later _)
    refine ⟨devices, kept.trans (silent.trans read), ?_⟩
    rw [List.map_cons, drainAll, first]
    refine rest.trans ?_
    simp only [drained, List.flatMap_cons, List.any_append, Bool.or_assoc,
      InputState.absorb_all_append]

/-- A batch that reads known events goes on with its second part. -/
theorem process_batch_found (rig : Rig σ) (view : σ → τ) (unseen : rig.ReadsUnseen view)
    (entries : Entries) (bridge : Bridge σ) (finds : rig.Finds entries bridge.rigState) :
    let events := entries.flatMap Prod.snd
    ∃ devices, view devices = view bridge.rigState ∧
      bridge.processBatch rig =
        (bridge.drained events devices).conclude rig
          (events.any (InputEvent.isAccepted bridge.keymap)) := by
  obtain ⟨named, hands⟩ := finds
  have woken := unseen.wait bridge.rigState
  rcases answer : rig.wait bridge.rigState with ⟨_, rigState⟩
  rw [answer] at named hands woken
  subst named
  obtain ⟨devices, kept, read⟩ :=
    drain_all_found rig view unseen entries false { bridge with rigState } hands
  refine ⟨devices, kept.trans woken, ?_⟩
  simp only [processBatch, answer, read, Bool.false_or]
  rfl

/-- A batch that was completed has read some events and gone on with its second part. -/
theorem completed_concludes (rig : Rig σ) (view : σ → τ) (unseen : rig.ReadsUnseen view)
    (bridge next : Bridge σ) (outcome : BatchOutcome)
    (completed : bridge.processBatch rig = (.ok outcome, next)) :
    ∃ events devices, view devices = view bridge.rigState ∧
      (bridge.drained events devices).conclude rig
          (events.any (InputEvent.isAccepted bridge.keymap)) = (.ok outcome, next) := by
  have woken := unseen.wait bridge.rigState
  rcases answer : rig.wait bridge.rigState with ⟨wakeup, rigState⟩
  rw [answer] at woken
  cases wakeup with
  | never => simp [processBatch, answer] at completed
  | failed error => simp [processBatch, answer] at completed
  | ready devices =>
    obtain ⟨events, drainedState, kept, left, read⟩ :=
      drain_all_spec rig.unheard view (undisturbed_unheard rig view unseen) devices false
        { bridge with rigState }
    rw [drain_all_unheard] at left read
    rcases ends : drainAll rig false devices { bridge with rigState } with ⟨result, after⟩
    rw [ends] at left read
    simp only at left read
    subst left
    rcases read with ⟨halt, _, rfl⟩ | rfl
    · simp [processBatch, answer, ends] at completed
    · simp only [processBatch, answer, ends, Bool.false_or] at completed
      exact ⟨events, drainedState, kept.trans woken, completed⟩

/-- The second part of a batch depends on no more of the rig's state than what is seen. -/
theorem conclude_through (rig : Rig σ) (view : σ → τ) (capturing : Capturing τ)
    (write : Frame → τ → Option TransportError × τ)
    (answers : rig.AnswersThrough view capturing write) (updated : Bool) (bridge : Bridge σ) :
    hideIn view (bridge.conclude rig updated) =
      (bridge.hide view).conclude (.outward capturing write) updated := by
  let deaf : Rig σ :=
    { rig with
      wait := fun state => (.never, state)
      drain := fun _ state => (.never, state)
      interrupt := fun _ => none
      backlog := fun _ => 0 }
  have mirrors : deaf.Mirrors (.outward capturing write) view :=
    { wait := fun _ => rfl
      drain := fun _ _ => rfl
      capturing := answers.capturing
      write := answers.write
      report := answers.report
      interrupt := fun _ => rfl
      backlog := fun _ => rfl }
  exact conclude_mirrors deaf (.outward capturing write) view mirrors updated bridge

end Bridge

/-- If each device is named once, the events that arrived for it are those it is named with. -/
theorem Entries.arrived_of_nodup (entries : Entries) (once : (entries.map Prod.fst).Nodup)
    (entry : DeviceKind × List InputEvent) (present : entry ∈ entries) :
    entries.arrived entry.1 = entry.2 := by
  induction entries with
  | nil => cases present
  | cons named rest inductionHypothesis =>
    obtain ⟨first, head⟩ := named
    obtain ⟨unnamed, restOnce⟩ := List.nodup_cons.mp once
    rw [arrived_cons]
    obtain rfl | later := List.mem_cons.mp present
    · rw [if_pos rfl, arrived_unnamed rest first unnamed, List.append_nil]
    · have other : first ≠ entry.1 := fun same =>
        unnamed (List.mem_map.mpr ⟨entry, later, same.symm⟩)
      rw [if_neg other, inductionHypothesis restOnce later]

namespace Bench

/-- What captures and frames depend on: the answers still to be given, the counts of calls and
the recorder. -/
def outer (bench : Bench) : Bench :=
  { sources :=
      { acquireAnswers := bench.sources.acquireAnswers
        releaseAnswers := bench.sources.releaseAnswers
        refuseGrabs := bench.sources.refuseGrabs
        grabs := bench.sources.grabs
        ungrabs := bench.sources.ungrabs }
    recorder := bench.recorder }

/-- Reports leave the scripted devices alone. -/
theorem report_all_sources (notices : List Notice) (bench : Bench) :
    (Bench.rig.reportAll notices bench).sources = bench.sources := by
  induction notices generalizing bench with
  | nil => rfl
  | cons notice rest inductionHypothesis =>
    exact inductionHypothesis (Bench.rig.report notice bench)

/-- Scripted devices are read without a trace in what captures and frames depend on. -/
theorem answers_outer : Bench.rig.AnswersThrough outer Bench.rig.capturing Bench.rig.write where
  wait bench := by
    simp only [Bench.rig, ScriptedSources.wait]
    split <;> rfl
  drain device bench := by
    simp only [Bench.rig, ScriptedSources.drain]
    split <;> rfl
  report notice bench := rfl
  capturing call bench := by
    cases call with
    | acquire =>
      simp only [Bench.rig, ScriptedSources.capturing, outer]
      split
      · rfl
      · split <;> rfl
    | release =>
      simp only [Bench.rig, ScriptedSources.capturing, outer]
      split <;> rfl
  write frame bench := by
    simp only [Bench.rig, outer]

/-- Scripted devices that do not fail hand out what is pending, each its own events. -/
theorem hands_out_pending (entries : Entries) (bench : Bench)
    (once : (entries.map Prod.fst).Nodup) (sound : bench.sources.fault = none)
    (plugged : bench.sources.unplugged = none)
    (pending : ∀ entry ∈ entries, bench.sources.pending.get entry.1 = entry.2) :
    Bench.rig.HandsOut entries bench := by
  induction entries generalizing bench with
  | nil => trivial
  | cons entry rest inductionHypothesis =>
    obtain ⟨device, events⟩ := entry
    obtain ⟨unnamed, restOnce⟩ := List.nodup_cons.mp once
    have faultless : bench.sources.readFault device = none := by
      simp [ScriptedSources.readFault, sound, plugged]
    have read : Bench.rig.drain device bench =
        (.events events,
          { bench with
            sources :=
              { bench.sources with
                pending := bench.sources.pending.modify device fun _ => []
                drained := bench.sources.drained + 1 } }) := by
      simp only [Bench.rig, ScriptedSources.drain, faultless]
      rw [pending (device, events) List.mem_cons_self]
    refine ⟨by rw [read], fun notices => ?_⟩
    refine inductionHypothesis _ restOnce ?_ ?_ ?_
    · rw [report_all_sources, read]
      exact sound
    · rw [report_all_sources, read]
      exact plugged
    · intro later present
      have other : later.1 ≠ device := fun same =>
        unnamed (List.mem_map.mpr ⟨later, present, same⟩)
      rw [report_all_sources, read]
      refine (PerDevice.get_modify _ _ _ _).trans ?_
      rw [if_neg other]
      exact pending later (List.mem_cons_of_mem _ present)

/-- The next batch of a script is found as it is written if it names each device once and
nothing was left pending. -/
theorem finds_batch (bench : Bench) (entries : Entries) (rest : List Arrival)
    (once : (entries.map Prod.fst).Nodup)
    (script : bench.sources.script = .batch entries none :: rest)
    (nothing : bench.sources.pending = { keyboard := [], mouse := [] })
    (plugged : bench.sources.unplugged = none) : Bench.rig.Finds entries bench := by
  have woken : Bench.rig.wait bench =
      (.ready (entries.map Prod.fst),
        { bench with
          sources :=
            { bench.sources with
              script := rest
              fault := none
              pending := ScriptedSources.receive bench.sources.pending entries } }) := by
    simp only [Bench.rig, ScriptedSources.wait, script]
  rw [Rig.Finds, woken]
  refine ⟨rfl, hands_out_pending entries _ once rfl plugged ?_⟩
  intro entry present
  refine (ScriptedSources.receive_get _ entries entry.1).trans ?_
  rw [nothing, Entries.arrived_of_nodup entries once entry present]
  cases entry.1 <;> rfl

end Bench

end InputBridge
