import InputBridge.Proofs.ScriptedBatch
/-!
# The frames of a whole run

A script of batches determines the frames that are due: for each batch with an accepted
event, the frame of the state with the batch's events taken in, each batch starting from
the state that the one before it left. A run writes just these frames in this order,
after the handshake if one was sent, until the script ends or the recorder takes no more.

Three lemmas carry the argument. A batch either reports nothing or writes one frame, and
leaves a bridge that waits for the rest of the script. Hence a run writes the frames that
are due as if they were written one after another. And a recorder that gets frames one
after another keeps as many as its limit allows.
-/
namespace InputBridge

namespace FrameRecorder

/-- Writes frames in order, up to the first that is refused. -/
def writeAll : List Frame → FrameRecorder → Option TransportError × FrameRecorder
  | [], recorder => (none, recorder)
  | frame :: rest, recorder =>
    match recorder.write frame with
    | (none, recorder) => recorder.writeAll rest
    | (some error, recorder) => (some error, recorder)

/-- What a recorder with a limit keeps of frames written in order. -/
def cutOff (limit : Option Nat) (frames : List Frame) : List Frame :=
  match limit with
  | none => frames
  | some limit => frames.take limit

/-- Not all frames are kept. -/
def Overflows (limit : Option Nat) (frames : List Frame) : Prop :=
  ∃ most, limit = some most ∧ most < frames.length

instance (limit : Option Nat) (frames : List Frame) : Decidable (Overflows limit frames) :=
  match limit with
  | none => isFalse fun ⟨_, limited, _⟩ => nomatch limited
  | some most =>
    decidable_of_iff (most < frames.length)
      ⟨fun exceeds => ⟨most, rfl, exceeds⟩, fun ⟨_, same, exceeds⟩ => Option.some.inj same ▸ exceeds⟩

/-- How a recorder refuses a frame: as an adapter that was unplugged. -/
def unplugged : TransportError :=
  .peripheralNotFound Frame.adapterAddress "Remote I/O error (os error 121)"

/-- A recorder is full exactly if one frame more is too many. -/
theorem is_full_exact (frame : Frame) (recorder : FrameRecorder) :
    recorder.isFull = true ↔ Overflows recorder.limit (recorder.frames ++ [frame]) := by
  obtain ⟨frames, limit⟩ := recorder
  cases limit with
  | none => exact ⟨fun full => (nomatch full), fun ⟨_, limited, _⟩ => nomatch limited⟩
  | some most =>
    rw [isFull, decide_eq_true_iff]
    constructor
    · intro reached
      refine ⟨most, rfl, ?_⟩
      rw [List.length_append]
      exact Nat.lt_succ_of_le reached
    · rintro ⟨limit, same, exceeds⟩
      obtain rfl := Option.some.inj same
      rw [List.length_append] at exceeds
      exact Nat.le_of_lt_succ exceeds

/-- One frame is taken if it is not too many and refused if it is. -/
theorem write_exact (frame : Frame) (recorder : FrameRecorder) :
    recorder.write frame =
      if Overflows recorder.limit (recorder.frames ++ [frame]) then (some unplugged, recorder)
      else (none, { recorder with frames := recorder.frames ++ [frame] }) := by
  by_cases exceeds : Overflows recorder.limit (recorder.frames ++ [frame])
  · rw [if_pos exceeds, write, if_pos ((is_full_exact frame recorder).mpr exceeds)]
    rfl
  · rw [if_neg exceeds, write, if_neg fun full => exceeds ((is_full_exact frame recorder).mp full)]

/-- A frame that is taken is recorded last. -/
theorem write_taken (frame : Frame) (recorder filled : FrameRecorder)
    (taken : recorder.write frame = (none, filled)) :
    filled.frames = recorder.frames ++ [frame] := by
  rw [write_exact] at taken
  split at taken
  · cases taken
  · exact ((Prod.mk.inj taken).2 ▸ rfl)

/-- A frame that is refused leaves no trace. -/
theorem write_refused (frame : Frame) (recorder filled : FrameRecorder) (error : TransportError)
    (refused : recorder.write frame = (some error, filled)) : filled = recorder := by
  rw [write_exact] at refused
  split at refused
  · exact (Prod.mk.inj refused).2.symm
  · cases refused

/-- A recorder that is not over its limit keeps what the limit allows of the frames it
gets, and refuses one exactly if there are more. -/
theorem write_all_exact (due : List Frame) (recorder : FrameRecorder)
    (within : ¬ Overflows recorder.limit recorder.frames) :
    recorder.writeAll due =
      (if Overflows recorder.limit (recorder.frames ++ due) then some unplugged else none,
        { recorder with frames := cutOff recorder.limit (recorder.frames ++ due) }) := by
  induction due generalizing recorder with
  | nil =>
    rw [List.append_nil, if_neg within]
    obtain ⟨frames, limit⟩ := recorder
    cases limit with
    | none => rfl
    | some limit =>
      have kept : frames.take limit = frames :=
        List.take_of_length_le (Nat.le_of_not_lt fun exceeds => within ⟨limit, rfl, exceeds⟩)
      rw [writeAll, cutOff, kept]
  | cons frame rest inductionHypothesis =>
    obtain ⟨frames, limit⟩ := recorder
    rw [writeAll, write_exact]
    by_cases full : Overflows limit (frames ++ [frame])
    · -- The first frame is refused: the limit is what was recorded before.
      rw [if_pos full]
      obtain ⟨most, rfl, exceeds⟩ := full
      have bounded : ¬ most < frames.length := fun exceeds => within ⟨most, rfl, exceeds⟩
      rw [List.length_append, List.length_singleton] at exceeds
      have exact : frames.length = most := by omega
      have overflows : Overflows (some most) (frames ++ frame :: rest) := by
        refine ⟨most, rfl, ?_⟩
        rw [List.length_append, List.length_cons]
        omega
      rw [if_pos overflows, cutOff, ← exact, List.take_left]
    · rw [if_neg full]
      have later := inductionHypothesis { frames := frames ++ [frame], limit } full
      simpa only [List.append_assoc, List.singleton_append] using later

end FrameRecorder

namespace Bridge

/-- The frames that a script of batches calls for, from a state on. -/
def reports (keymap : Keymap) (presence : Presence) : InputState → List Entries → List Frame
  | _, [] => []
  | state, entries :: rest =>
    let after := state.absorbAll keymap entries.events
    let later := reports keymap presence after.finishBatch rest
    if entries.events.any (InputEvent.isAccepted keymap) then
      Frame.ofState after presence :: later
    else later

/-- How a run ends that writes the frames of a script: a refused frame ends it; if none was
refused, the end of the script does, where the devices are closed or never answer again
and the request to shut down comes. -/
def endingOf (refusal : Option TransportError) (hang : Bool) : Ending :=
  match refusal with
  | some error => .failed (.transport error)
  | none => if hang then .shutdown else .failed (.source .closed)

/-- The way out adds nothing to what was sent and recorded. -/
theorem stop_awaiting (keymap : Keymap) (presence : Presence) (state : InputState)
    (framesSent : Nat) (script : List Entries) (hang : Bool) (recorder : FrameRecorder)
    (bridge : Bridge Bench) (halt : Halt)
    (seen : bridge.plain = awaiting keymap presence state framesSent script hang recorder) :
    (bridge.stop Bench.rig halt).1 = (match halt with
        | .failed error => .failed error
        | .never => if hang then .shutdown else .never) ∧
      (bridge.stop Bench.rig halt).2.rigState.recorder = recorder ∧
      (bridge.stop Bench.rig halt).2.framesSent = framesSent := by
  obtain ⟨same, ending⟩ := stop_plain halt bridge
  have left := same.trans seen
  have hangs : bridge.rigState.sources.hang = hang := congrArg (·.rigState.sources.hang) seen
  rw [hangs] at ending
  exact ⟨ending, congrArg (·.rigState.recorder) left, congrArg (·.framesSent) left⟩

/-- Some batches of a run write the frames that their part of the script calls for, as if
one after another. The frames sent and the frames recorded increase together. The run has
not ended if it went through all its batches without a refusal. -/
theorem run_for_scripted (keymap : Keymap) (presence : Presence) (count : Nat)
    (state : InputState) (framesSent : Nat) (script : List Entries) (hang : Bool)
    (recorder : FrameRecorder) (bridge : Bridge Bench)
    (awaits : bridge.plain =
      awaiting keymap presence state framesSent script hang recorder) :
    let (refusal, filled) :=
      recorder.writeAll (reports keymap presence state (script.take count))
    let (ending, final) := bridge.runFor Bench.rig count
    ending = (if refusal = none ∧ count ≤ script.length then .never else endingOf refusal hang) ∧
      final.rigState.recorder = filled ∧
      final.framesSent + recorder.frames.length = framesSent + filled.frames.length := by
  induction count generalizing state framesSent script recorder bridge with
  | zero =>
    have sent : bridge.framesSent = framesSent := congrArg (·.framesSent) awaits
    have records : bridge.rigState.recorder = recorder := congrArg (·.rigState.recorder) awaits
    simp [reports, FrameRecorder.writeAll, runFor, sent, records]
  | succ count inductionHypothesis =>
    cases script with
    | nil =>
      obtain ⟨next, step, left⟩ :=
        batch_exhausted keymap presence state framesSent hang recorder bridge awaits
      obtain ⟨ending, records, sent⟩ := stop_awaiting keymap presence state framesSent [] hang
        recorder next (if hang then .never else .failed (.source .closed)) left
      simp only [runFor, step, List.take_nil, reports, FrameRecorder.writeAll, ending, records,
        sent, and_self, and_true]
      cases hang <;> rfl
    | cons entries rest =>
      cases accepted : entries.events.any (InputEvent.isAccepted keymap) with
      | false =>
        obtain ⟨next, step, left⟩ := batch_idle keymap presence state framesSent entries rest
          hang recorder bridge awaits accepted
        have later := inductionHypothesis _ _ _ _ _ left
        simpa [runFor, step, reports, accepted] using later
      | true =>
        -- The first report decides: it is taken and the rest follows, or it ends the run.
        rcases answer : recorder.write
          (Frame.ofState (state.absorbAll keymap entries.events) presence) with ⟨refusal, filled⟩
        cases refusal with
        | none =>
          obtain ⟨next, step, left⟩ := batch_sent keymap presence state framesSent entries rest
            hang recorder bridge filled awaits accepted answer
          obtain ⟨ending, records, sent⟩ := inductionHypothesis _ _ _ _ _ left
          have recorded : filled.frames.length = recorder.frames.length + 1 := by
            rw [FrameRecorder.write_taken _ recorder filled answer, List.length_append,
              List.length_singleton]
          simp only [runFor, step, List.take_succ_cons, reports, accepted, if_true,
            FrameRecorder.writeAll, answer, ending, records, List.length_cons,
            Nat.add_le_add_iff_right]
          refine ⟨trivial, trivial, ?_⟩
          omega
        | some error =>
          obtain ⟨next, step, left⟩ := batch_refused keymap presence state framesSent entries
            rest hang recorder bridge error filled awaits accepted answer
          obtain ⟨ending, records, sent⟩ := stop_awaiting keymap presence
            (state.absorbAll keymap entries.events) framesSent rest hang filled next
            (.failed (.transport error)) left
          obtain rfl := FrameRecorder.write_refused _ recorder filled error answer
          simp [runFor, step, reports, accepted, FrameRecorder.writeAll, answer, ending, records,
            sent, endingOf]

/-- The bridge after the handshake, if one is to be sent. -/
def opening (rig : Rig Bench) (greeted : Bool) (bridge : Bridge Bench) :
    Except BridgeError Unit × Bridge Bench :=
  if greeted then bridge.handshake rig else (.ok (), bridge)

/-- A bench on which nothing has happened yet: a script of batches, no device at fault, a
recorder with a limit, and devices that answer capture calls in any way. -/
def scripted (script : List Entries) (hang refuseGrabs : Bool)
    (acquireAnswers releaseAnswers : List (Option String)) (limit : Option Nat) : Bench :=
  { sources :=
      { script := script.map fun entries => .batch entries none
        hang, refuseGrabs, acquireAnswers, releaseAnswers }
    recorder := { limit } }

/-- A fresh bridge whose handshake was taken, or that sent none, waits for the whole script
with no more recorded than the handshake. -/
theorem opening_awaits (keymap : Keymap) (presence : Presence) (mode : PointerMode)
    (bounds : ScreenBounds) (script : List Entries) (hang refuseGrabs : Bool)
    (acquireAnswers releaseAnswers : List (Option String)) (limit : Option Nat)
    (greeted : Bool) (ready : Bridge Bench)
    (opened : (fresh keymap presence mode bounds
      (scripted script hang refuseGrabs acquireAnswers releaseAnswers limit)).opening
        Bench.rig greeted = (.ok (), ready)) :
    let greeting := if greeted then [Frame.handshake presence mode] else []
    ready.plain = awaiting keymap presence (.initial mode bounds) 0 script hang
        { frames := greeting, limit } ∧
      ¬ FrameRecorder.Overflows limit greeting := by
  cases greeted with
  | false =>
    obtain rfl := (Prod.mk.inj opened).2
    exact ⟨rfl, fun ⟨_, _, exceeds⟩ => absurd exceeds (Nat.not_lt_zero _)⟩
  | true =>
    have free : ¬ FrameRecorder.Overflows limit [Frame.handshake presence mode] := by
      rintro ⟨most, rfl, exceeds⟩
      obtain rfl : most = 0 := Nat.lt_one_iff.mp exceeds
      cases opened
    have taken := FrameRecorder.write_exact (Frame.handshake presence mode)
      { frames := [], limit }
    rw [List.nil_append, if_neg free] at taken
    refine ⟨?_, free⟩
    simp only [opening, if_true, handshake, report, write, fresh, Bench.rig, scripted,
      InputState.initial, taken] at opened
    obtain rfl := (Prod.mk.inj opened).2
    rfl

/-- The run of a fresh bridge on scripted devices, after a handshake that was taken or after
none. What is due is the handshake, if it was sent, followed by the frame of each batch with
an accepted event. Then

* what is due is written in order, as far as the limit of the recorder allows;
* the run returns the failure of the bus exactly if more is due than the limit allows; if
  not, it returns that the devices are closed or, where they hang instead, that it was asked
  to shut down;
* after any number of batches, what was recorded is what was due so far, as far as the limit
  allows, and the frames sent are the frames recorded apart from the handshake. -/
theorem run_writes_reports (keymap : Keymap) (presence : Presence) (mode : PointerMode)
    (bounds : ScreenBounds) (script : List Entries) (hang refuseGrabs : Bool)
    (acquireAnswers releaseAnswers : List (Option String)) (limit : Option Nat)
    (greeted : Bool) (ready : Bridge Bench)
    (opened : (fresh keymap presence mode bounds
      (scripted script hang refuseGrabs acquireAnswers releaseAnswers limit)).opening
        Bench.rig greeted = (.ok (), ready)) :
    let greeting := if greeted then [Frame.handshake presence mode] else []
    let due := fun script => greeting ++ reports keymap presence (.initial mode bounds) script
    let final := (ready.run Bench.rig).2
    final.rigState.recorder.frames = FrameRecorder.cutOff limit (due script) ∧
      final.framesSent + greeting.length = final.rigState.recorder.frames.length ∧
      (ready.run Bench.rig).1 =
        (if FrameRecorder.Overflows limit (due script) then
          .failed (.transport FrameRecorder.unplugged)
        else if hang then .shutdown
        else .failed (.source .closed)) ∧
      ∀ count, let reached := (ready.runFor Bench.rig count).2
        reached.rigState.recorder.frames = FrameRecorder.cutOff limit (due (script.take count)) ∧
          reached.framesSent + greeting.length = reached.rigState.recorder.frames.length := by
  intro greeting due
  obtain ⟨awaits, within⟩ := opening_awaits keymap presence mode bounds script hang refuseGrabs
    acquireAnswers releaseAnswers limit greeted ready opened
  have reached (count : Nat) := run_for_scripted keymap presence count (.initial mode bounds) 0
    script hang { frames := greeting, limit } ready awaits
  have exact (count : Nat) := FrameRecorder.write_all_exact
    (reports keymap presence (.initial mode bounds) (script.take count))
    { frames := greeting, limit } within
  have backlog : Bench.rig.backlog ready.rigState = script.length := by
    have same : ready.rigState.sources.script = script.map fun entries => .batch entries none :=
      congrArg (·.rigState.sources.script) awaits
    exact (congrArg List.length same).trans (List.length_map _)
  have whole : script.take (script.length + 1) = script :=
    List.take_of_length_le (Nat.le_succ script.length)
  have steps (count : Nat) :
      (ready.runFor Bench.rig count).2.rigState.recorder.frames =
          FrameRecorder.cutOff limit (due (script.take count)) ∧
        (ready.runFor Bench.rig count).2.framesSent + greeting.length =
          (ready.runFor Bench.rig count).2.rigState.recorder.frames.length := by
    obtain ⟨_, records, sent⟩ := reached count
    rw [exact count] at records sent
    rw [records]
    exact ⟨rfl, sent.trans (Nat.zero_add _)⟩
  have ending : (ready.run Bench.rig).1 =
      if FrameRecorder.Overflows limit (due script) then
        .failed (.transport FrameRecorder.unplugged)
      else if hang then .shutdown
      else .failed (.source .closed) := by
    have ends (count : Nat) := (reached count).1
    rw [run, backlog, ends, exact, whole, if_neg (fun bounded => Nat.not_succ_le_self _ bounded.2)]
    by_cases exceeds : FrameRecorder.Overflows limit (due script)
    · rw [if_pos exceeds, if_pos exceeds]
      rfl
    · rw [if_neg exceeds, if_neg exceeds]
      rfl
  obtain ⟨records, sent⟩ := steps (script.length + 1)
  rw [whole] at records
  rw [← backlog] at records sent
  exact ⟨records, sent, ending, steps⟩

/-- Three batches, the second with nothing of use and the last two naming the mouse twice. -/
def jogs : List Entries :=
  [[(.mouse, [.relative Axis.x 3])],
    [(.mouse, []), (.keyboard, [.other 0 0 0]), (.mouse, [])],
    [(.mouse, [.relative Axis.y 1]), (.keyboard, []), (.mouse, [.relative Axis.y 1])]]

/-- A recorder that takes two frames takes the handshake and the first report. The second
report is the one that ends the run. -/
theorem second_report_refused :
    ∃ ready, (fresh {} { mouse := true } .relative .standard
        (scripted jogs true false [] [] (some 2))).opening Bench.rig true = (.ok (), ready) ∧
      (ready.run Bench.rig).2.rigState.recorder.frames =
        [Frame.handshake { mouse := true } .relative,
          { flags := 0x2E, x := 3 }] ∧
      (ready.run Bench.rig).2.framesSent = 1 ∧
      (ready.run Bench.rig).1 = .failed (.transport FrameRecorder.unplugged) := by
  let start := fresh {} { mouse := true } .relative .standard
    (scripted jogs true false [] [] (some 2))
  have opened : start.opening Bench.rig true = (.ok (), (start.opening Bench.rig true).2) :=
    Prod.ext rfl rfl
  obtain ⟨records, sent, ending, _⟩ :=
    run_writes_reports {} { mouse := true } .relative .standard jogs true false [] [] (some 2)
      true _ opened
  refine ⟨_, opened, records.trans ?_, ?_, ending.trans ?_⟩
  · decide
  · rw [records] at sent
    exact Nat.add_right_cancel sent
  · decide

end Bridge

end InputBridge
