import M1k.Streaming.RunCall
import M1k.Streaming.Session

/-! # When a session starts to sample

A start request only asks for the first OUT transfer.  Its callback sets `start_timer` the first time
that it is called, and the timer starts with the frame that the request has named, if that comes
later.  Where an interrupt cuts a run call of the main loop makes no difference. -/

namespace M1k

open Library.Runs

/-! ## The first OUT transfer -/

/-- `main_vendor_bulk_out_received_first` is called, and the transfer has not been aborted. -/
def Obs.endsFirst : Obs → Bool
  | .completed c => c.status = .ok && c.callback = .mainVendorBulkOutReceivedFirst
  | _ => false

/-- The first OUT transfer is among what has been observed to end. -/
def firstEnded (trace : List Obs) : Bool := trace.any Obs.endsFirst

theorem firstEnded_append (first second : List Obs) :
    firstEnded (first ++ second) = (firstEnded first || firstEnded second) := List.any_append

theorem firstEnded_callObs (completion : Option Completion) :
    firstEnded (callObs completion) = completesFirst completion := by
  cases completion with
  | none => rfl
  | some c => simp [firstEnded, callObs, Obs.endsFirst, completesFirst]

theorem firstEnded_iff (trace : List Obs) :
    firstEnded trace = true ↔
      ∃ nbTransfered, .completed ⟨.mainVendorBulkOutReceivedFirst, .ok, nbTransfered⟩ ∈ trace := by
  rw [firstEnded, List.any_eq_true]
  constructor
  · rintro ⟨o, member, ends⟩
    cases o with
    | completed c =>
      obtain ⟨callback, status, nbTransfered⟩ := c
      simp only [Obs.endsFirst, Bool.and_eq_true, decide_eq_true_eq] at ends
      obtain ⟨rfl, rfl⟩ := ends
      exact ⟨nbTransfered, member⟩
    | _ => cases ends
  · rintro ⟨nbTransfered, member⟩
    exact ⟨_, member, rfl⟩

/-! ## What arms the timer -/

/-- From `s` to `s'` the timer is armed if the first OUT transfer of the session has ended, and
    neither the timer nor the frame that it waits for is touched. -/
structure Arms (s s' : Stream) : Prop where
  tc : s'.tc = s.tc
  startFrame : s'.startFrame = s.startFrame
  observed : ∃ obs, s'.trace = s.trace ++ obs ∧
    s'.sentOut = (s.sentOut || firstEnded obs) ∧
    s'.startTimer = (s.startTimer || (firstEnded obs && !s.sentOut))

namespace Arms

variable {s s' s'' : Stream}

theorem of_silent {obs : List Obs} (silent : firstEnded obs = false) (trace : s'.trace = s.trace ++ obs)
    (tc : s'.tc = s.tc) (startFrame : s'.startFrame = s.startFrame)
    (sentOut : s'.sentOut = s.sentOut) (startTimer : s'.startTimer = s.startTimer) : Arms s s' where
  tc := tc
  startFrame := startFrame
  observed := ⟨obs, trace, by rw [silent, Bool.or_false, sentOut],
    by rw [silent, Bool.false_and, Bool.or_false, startTimer]⟩

/-- Nothing of the session is touched. -/
theorem of_frame (trace : s'.trace = s.trace) (tc : s'.tc = s.tc)
    (startFrame : s'.startFrame = s.startFrame) (sentOut : s'.sentOut = s.sentOut)
    (startTimer : s'.startTimer = s.startTimer) : Arms s s' :=
  of_silent rfl (trace.trans (List.append_nil _).symm) tc startFrame sentOut startTimer

theorem refl (s : Stream) : Arms s s := of_frame rfl rfl rfl rfl rfl

theorem trans (first : Arms s s') (second : Arms s' s'') : Arms s s'' := by
  obtain ⟨before, trace, sentOut, startTimer⟩ := first.observed
  obtain ⟨after, trace', sentOut', startTimer'⟩ := second.observed
  refine ⟨second.tc.trans first.tc, second.startFrame.trans first.startFrame,
    before ++ after, by rw [trace', trace, List.append_assoc], ?_, ?_⟩
  · rw [firstEnded_append, sentOut', sentOut, Bool.or_assoc]
  · -- a transfer that ends later arms nothing once one has ended
    rw [firstEnded_append, startTimer', startTimer, sentOut]
    cases s.sentOut <;> cases firstEnded before <;> cases firstEnded after <;> simp

end Arms

theorem arms_callBack (completion : Option Completion) (s : Stream) : Arms s (callBack completion s) := by
  rw [callBack_eq]
  exact ⟨rfl, rfl, callObs completion, rfl, by rw [firstEnded_callObs], by rw [firstEnded_callObs]⟩

theorem arms_setEp (id : EpId) (ep : Endpoint) (s : Stream) : Arms s (s.setEp id ep) := by
  cases id with
  | bulkIn => exact .of_frame rfl rfl rfl rfl rfl
  | bulkOut => exact .of_frame rfl rfl rfl rfl rfl

theorem arms_onEp (id : EpId) (f : Endpoint → Endpoint × Option Completion) (s : Stream) :
    Arms s (onEp id f s) :=
  (arms_setEp id _ s).trans (arms_callBack _ _)

theorem arms_run (id : EpId) (buf : Ptr) (bufSize : Nat) (callback : Callback) (s : Stream) :
    Arms s (udiVendorBulkRun id buf bufSize callback s) := by
  have observed (accepted : Bool) : Arms s (s.observe [.epRun id buf bufSize accepted]) :=
    .of_silent rfl rfl rfl rfl rfl rfl
  exact ((observed _).trans (arms_setEp id _ _)).trans (arms_callBack _ _)

/-! ## The device core -/

theorem arms_disable (ifaceNum : Nat) (s : Stream) : Arms s (udcIfaceDisable ifaceNum s).2 := by
  simp only [udcIfaceDisable]
  split_ifs
  · exact .refl s
  · exact .refl s
  · have freed := (arms_onEp .bulkIn uddEpFree s).trans (arms_onEp .bulkOut uddEpFree _)
    exact freed.trans (.of_frame rfl rfl rfl rfl rfl)
  · exact .refl s

theorem arms_realloc (id : EpId) (s : Stream) : Arms s (uddEpReallocOn id s).2 :=
  (arms_setEp id _ s).trans (arms_callBack _ _)

theorem arms_alloc (id : EpId) (s : Stream) : Arms s (uddEpAlloc id s).2 := by
  cases id with
  | bulkIn =>
    simp only [uddEpAlloc]
    split_ifs
    · exact .refl s
    · exact (arms_setEp .bulkIn _ s).trans (arms_realloc .bulkIn _)
    · exact ((arms_setEp .bulkIn _ s).trans (arms_realloc .bulkIn _)).trans (arms_realloc .bulkOut _)
  | bulkOut =>
    simp only [uddEpAlloc]
    split_ifs
    · exact .refl s
    · exact (arms_setEp .bulkOut _ s).trans (arms_realloc .bulkOut _)

theorem arms_vendorEnable (settingNum : Nat) (s : Stream) : Arms s (udiVendorEnable settingNum s).2 := by
  simp only [udiVendorEnable]
  split_ifs
  · exact .of_frame rfl rfl rfl rfl rfl
  · exact .of_frame rfl rfl rfl rfl rfl

theorem arms_enable (ifaceNum settingNum : Nat) (s : Stream) :
    Arms s (udcIfaceEnable ifaceNum settingNum s).2 := by
  simp only [udcIfaceEnable]
  split_ifs
  · exact .refl s
  · exact arms_alloc _ s
  · exact (arms_alloc _ s).trans (arms_alloc _ _)
  · exact ((arms_alloc _ s).trans (arms_alloc _ _)).trans (arms_vendorEnable _ _)
  · exact arms_vendorEnable _ s

theorem arms_reset (configuration : Nat) (s : Stream) :
    Arms s { udcReset s with udcNumConfiguration := configuration } := by
  have disabled : Arms s (if s.udcNumConfiguration ≠ 0 then (udcIfaceDisable 0 s).2 else s) := by
    split_ifs
    · exact arms_disable 0 s
    · exact .refl s
  exact disabled.trans (.of_frame rfl rfl rfl rfl rfl)

theorem arms_setConfiguration (wValue wLength : UInt16) (s : Stream) :
    Arms s (udcReqStdDevSetConfiguration wValue wLength s).2 := by
  have reset := arms_reset (wValue &&& 0xFF).toNat s
  simp only [udcReqStdDevSetConfiguration]
  split_ifs
  · exact .refl s
  · exact .refl s
  · exact .refl s
  · exact reset
  · exact reset.trans (arms_enable 0 0 _)

theorem arms_setInterface (wValue wIndex wLength : UInt16) (s : Stream) :
    Arms s (udcReqStdIfaceSetSetting wValue wIndex wLength s).2 := by
  simp only [udcReqStdIfaceSetSetting]
  split_ifs
  · exact .refl s
  · exact .refl s
  · exact arms_disable _ s
  · exact (arms_disable _ s).trans (arms_enable _ _ _)

theorem arms_setFeature (wValue wIndex wLength : UInt16) (s : Stream) :
    Arms s (udcReqStdEpSetFeature wValue wIndex wLength s) := by
  simp only [udcReqStdEpSetFeature]
  split_ifs
  · exact .refl s
  · cases EpId.ofAddress wIndex with
    | none => exact .refl s
    | some id => exact (arms_onEp id _ s).trans (arms_setEp id _ _)

theorem arms_clearFeature (wValue wIndex wLength : UInt16) (junk : Status) (s : Stream) :
    Arms s (udcReqStdEpClearFeature wValue wIndex wLength junk s) := by
  simp only [udcReqStdEpClearFeature]
  split_ifs
  · exact .refl s
  · cases EpId.ofAddress wIndex with
    | none => exact .refl s
    | some id => exact arms_onEp id _ s

theorem arms_busReset (highSpeed : Bool) (s : Stream) : Arms s (uddReset highSpeed s) := by
  have killed := (arms_onEp .bulkIn (uddEpFinishJob true) s).trans
    (arms_onEp .bulkOut (uddEpFinishJob true) _)
  exact (killed.trans (arms_reset 0 _)).trans (.of_frame rfl rfl rfl rfl rfl)

/-! ## Events -/

theorem arms_loop (s : Stream) : Arms s (mainLoop s) := by
  simp only [mainLoop]
  cases s.pc with
  | runIn index =>
    have moved : Arms s { s with pc := .testOut } := .of_frame rfl rfl rfl rfl rfl
    exact moved.trans (arms_run _ _ _ _ _)
  | runOut index =>
    have moved : Arms s { s with pc := .watchdog } := .of_frame rfl rfl rfl rfl rfl
    exact moved.trans (arms_run _ _ _ _ _)
  | readIndexIn => exact .of_silent rfl rfl rfl rfl rfl rfl
  | _ => exact .of_frame rfl rfl rfl rfl rfl

theorem arms_advance (call : RunCall) (f : Preemptible) : Arms f.stream (call.advance f).stream := by
  have returned (accepted : Bool) : Arms f.stream (call.returns accepted f.stream) :=
    .of_silent rfl rfl rfl rfl rfl rfl
  rw [RunCall.advance]
  cases f.place with
  | called =>
    dsimp only
    split_ifs
    · exact .refl _
    · exact returned false
  | tested =>
    dsimp only
    split_ifs
    · exact returned false
    · exact arms_setEp _ _ _
  | taken => exact arms_setEp _ _ _
  | filled =>
    dsimp only
    split_ifs
    · exact returned true
    · exact (returned true).trans (arms_onEp _ _ _)
    · exact arms_setEp _ _ _
  | launching nextTrans => exact (returned true).trans (arms_onEp _ _ _)

/-- The number of the frame that begins with the event -/
def Event.frame? : Event → Option UInt32
  | .sof fnum => some fnum
  | _ => none

/-- Outside the requests only a frame moves the timer. -/
theorem arms_event (s : Stream) {event : Event} (notRequest : ¬ event.IsRequest)
    (noFrame : event.frame? = none) : Arms s (step s event) := by
  cases event with
  | tc2 =>
    simp only [step, tc2Interrupt]
    split_ifs
    · exact .refl s
    · exact .of_silent rfl rfl rfl rfl rfl rfl
  | loop => exact arms_loop s
  | sof fnum => cases noFrame
  | request wValue wIndex => exact absurd trivial notRequest
  | outByte value =>
    simp only [step, dmaOutByte]
    split_ifs
    · cases s.epOut.job.buf with
      | packetsOut packet word => exact .of_silent rfl rfl rfl rfl rfl rfl
      | _ => exact .refl s
    · exact .refl s
  | outDone => exact arms_onEp _ _ s
  | outEndTr =>
    simp only [step, outEndTr]
    split_ifs
    · exact .of_frame rfl rfl rfl rfl rfl
    · exact .refl s
  | inDone => exact arms_onEp _ _ s
  | inBanks banks =>
    have counted : Arms s { s with epIn := { s.epIn with busyBanks := banks } } :=
      .of_frame rfl rfl rfl rfl rfl
    simp only [step, inBanks]
    split_ifs
    · exact counted.trans (arms_onEp _ _ _)
    · exact counted
  | busReset highSpeed => exact arms_busReset highSpeed s
  | setAddress wValue => exact .of_frame rfl rfl rfl rfl rfl
  | setConfiguration wValue wLength => exact arms_setConfiguration wValue wLength s
  | setInterface wValue wIndex wLength => exact arms_setInterface wValue wIndex wLength s
  | setFeature wValue wIndex wLength => exact arms_setFeature wValue wIndex wLength s
  | clearFeature wValue wIndex wLength junk => exact arms_clearFeature wValue wIndex wLength junk s

theorem arms_step (f : Preemptible) {event : Event} (notRequest : ¬ event.IsRequest)
    (noFrame : event.frame? = none) : Arms f.stream (f.step event).stream := by
  by_cases cut : event = .loop ∧ ∃ call, f.stream.pc.runCall = some call
  · obtain ⟨rfl, call, inCall⟩ := cut
    rw [f.step_loop inCall]
    exact arms_advance call f
  · have other : event = .loop → f.stream.pc.runCall = none := fun isLoop => by
      by_contra inCall
      exact cut ⟨isLoop, Option.ne_none_iff_exists'.mp inCall⟩
    rw [f.step_else other]
    exact arms_event f.stream notRequest noFrame

/-- The frame that a start request waits for: the next one for `wIndex` 0. -/
def Awaited (wIndex : UInt16) (fnum : UInt32) : Prop := wIndex = 0 ∨ fnum = wIndex.toUInt32

instance (wIndex : UInt16) (fnum : UInt32) : Decidable (Awaited wIndex fnum) :=
  inferInstanceAs (Decidable (_ ∨ _))

theorem sof_eq (fnum : UInt32) (s : Stream) :
    mainSofAction fnum s = { s with
      frameNumber := fnum
      tc := { s.tc with
        running := s.tc.running || (s.startTimer && decide (Awaited s.startFrame fnum)) }
      startTimer := s.startTimer && !decide (Awaited s.startFrame fnum) } := by
  have test : (fnum == s.startFrame.toUInt32 || s.startFrame == 0) =
      decide (Awaited s.startFrame fnum) := by
    rw [Bool.eq_iff_iff, decide_eq_true_iff]
    simp [Awaited, or_comm]
  have fires : (s.startTimer && (fnum == s.startFrame.toUInt32 || s.startFrame == 0)) =
      (s.startTimer && decide (Awaited s.startFrame fnum)) := by rw [test]
  simp only [mainSofAction, fires]
  cases armed : s.startTimer with
  | false => simp
  | true =>
    by_cases awaited : Awaited s.startFrame fnum
    · simp [awaited]
    · simp [awaited]

/-! ## A session -/

/-- The streaming state after the events -/
def Preemptible.after (f : Preemptible) (events : List Event) : Stream :=
  (run Preemptible.step f events).stream

/-- A frame that is awaited has come after the first OUT transfer has ended. -/
def Triggered (f : Preemptible) (wIndex : UInt16) (events : List Event) : Prop :=
  ∃ done fnum later, events = done ++ .sof fnum :: later ∧ Awaited wIndex fnum ∧
    firstEnded (f.after done).trace = true

theorem triggered_concat (f : Preemptible) (wIndex : UInt16) (events : List Event) (event : Event) :
    Triggered f wIndex (events ++ [event]) ↔ Triggered f wIndex events ∨
      ∃ fnum, event = .sof fnum ∧ Awaited wIndex fnum ∧ firstEnded (f.after events).trace = true := by
  constructor
  · rintro ⟨done, fnum, later, split, awaited, ended⟩
    cases later using List.reverseRecOn with
    | nil =>
      obtain ⟨rfl, last⟩ := List.append_inj' split rfl
      exact .inr ⟨fnum, List.singleton_inj.mp last, awaited, ended⟩
    | append_singleton later last =>
      rw [← List.cons_append, ← List.append_assoc] at split
      obtain ⟨rfl, -⟩ := List.append_inj' split rfl
      exact .inl ⟨done, fnum, later, rfl, awaited, ended⟩
  · rintro (⟨done, fnum, later, rfl, awaited, ended⟩ | ⟨fnum, rfl, awaited, ended⟩)
    · exact ⟨done, fnum, later ++ [event], by simp, awaited, ended⟩
    · exact ⟨events, fnum, [], rfl, awaited, ended⟩

/-- The timer runs once it is triggered, and is armed from the end of the first transfer to then. -/
structure Waiting (f : Preemptible) (wIndex : UInt16) (events : List Event) : Prop where
  startFrame : (f.after events).startFrame = wIndex
  set : (f.after events).tc.ra = f.stream.tc.ra ∧ (f.after events).tc.rb = f.stream.tc.rb ∧
    (f.after events).tc.rc = f.stream.tc.rc
  ended : (f.after events).sentOut = firstEnded (f.after events).trace
  running : (f.after events).tc.running = true ↔ Triggered f wIndex events
  armed : (f.after events).startTimer = true ↔
    firstEnded (f.after events).trace = true ∧ ¬ Triggered f wIndex events
  after : Triggered f wIndex events → firstEnded (f.after events).trace = true

/-- With a frame the timer starts if it was armed and the frame is awaited. -/
theorem Waiting.frame {f : Preemptible} {wIndex : UInt16} {events : List Event}
    (waiting : Waiting f wIndex events) (fnum : UInt32) : Waiting f wIndex (events ++ [.sof fnum]) := by
  have triggered : Triggered f wIndex (events ++ [.sof fnum]) ↔ Triggered f wIndex events ∨
      (Awaited wIndex fnum ∧ firstEnded (f.after events).trace = true) := by
    rw [triggered_concat]
    simp
  have now : f.after (events ++ [.sof fnum]) = mainSofAction fnum (f.after events) := by
    rw [Preemptible.after, run_concat]
    rfl
  rw [sof_eq, waiting.startFrame] at now
  have kept : (f.after (events ++ [.sof fnum])).trace = (f.after events).trace := by
    rw [now]
  constructor
  · rw [now]
  · rw [now]
    exact waiting.set
  · rw [kept, now]
    exact waiting.ended
  · rw [triggered, now]
    simp only [Bool.or_eq_true, Bool.and_eq_true, decide_eq_true_eq, waiting.running, waiting.armed]
    tauto
  · rw [triggered, kept, now]
    simp only [Bool.and_eq_true, Bool.not_eq_true', decide_eq_false_iff_not, waiting.armed]
    tauto
  · rw [triggered, kept]
    rintro (earlier | ⟨-, ended⟩)
    · exact waiting.after earlier
    · exact ended

/-- Between the frames the timer is armed by the first transfer that ends. -/
theorem Waiting.between {f : Preemptible} {wIndex : UInt16} {events : List Event}
    (waiting : Waiting f wIndex events) {event : Event} (notRequest : ¬ event.IsRequest)
    (noFrame : event.frame? = none) : Waiting f wIndex (events ++ [event]) := by
  have triggered : Triggered f wIndex (events ++ [event]) ↔ Triggered f wIndex events := by
    rw [triggered_concat]
    refine ⟨fun now => now.elim id ?_, .inl⟩
    rintro ⟨fnum, rfl, -⟩
    cases noFrame
  have arms : Arms (f.after events) (f.after (events ++ [event])) := by
    rw [Preemptible.after, Preemptible.after, run_concat]
    exact arms_step _ notRequest noFrame
  obtain ⟨obs, trace, sentOut, startTimer⟩ := arms.observed
  have ended := firstEnded_append (f.after events).trace obs
  constructor
  · exact arms.startFrame.trans waiting.startFrame
  · rw [arms.tc]
    exact waiting.set
  · rw [sentOut, trace, ended, waiting.ended]
  · rw [arms.tc, triggered, waiting.running]
  · rw [startTimer, trace, ended, triggered, waiting.ended]
    simp only [Bool.or_eq_true, Bool.and_eq_true, Bool.not_eq_true', waiting.armed]
    cases before : firstEnded (f.after events).trace with
    | false =>
      -- nothing has been triggered by a transfer that has not ended
      have untriggered : ¬ Triggered f wIndex events := fun earlier => by
        simp [waiting.after earlier] at before
      simp [untriggered]
    | true => simp
  · rw [triggered, trace, ended]
    intro earlier
    rw [waiting.after earlier, Bool.true_or]

theorem Waiting.step {f : Preemptible} {wIndex : UInt16} {events : List Event}
    (waiting : Waiting f wIndex events) {event : Event} (notRequest : ¬ event.IsRequest) :
    Waiting f wIndex (events ++ [event]) := by
  cases frame : event.frame? with
  | some fnum =>
    have isSof : event = .sof fnum := by
      cases event with
      | sof other => cases frame; rfl
      | _ => cases frame
    rw [isSof]
    exact waiting.frame fnum
  | none => exact waiting.between notRequest frame

theorem firstEnded_start {wValue : UInt16} (start : 1 ≤ wValue) (wIndex : UInt16) (s : Stream) :
    firstEnded (startSession wValue wIndex s).trace = completesFirst (firstRun s.epOut).2.2 := by
  have aborted (dirIn : Bool) (ep : Endpoint) : completesFirst (uddEpAbort dirIn ep).2 = false :=
    completesFirst_abort _
  rw [startSession, configureSampling_start start]
  simp only [List.nil_append, firstEnded_append, firstEnded_callObs, aborted, Bool.or_false]
  exact Bool.false_or _

theorem startSession_timer {wValue : UInt16} (start : 1 ≤ wValue) (wIndex : UInt16) (s : Stream) :
    (startSession wValue wIndex s).tc =
        ⟨s.tc.running, 10, wValue.toUInt32 - 30, wValue.toUInt32⟩ ∧
      (startSession wValue wIndex s).startFrame = wIndex ∧
      (startSession wValue wIndex s).sentOut = firstEnded (startSession wValue wIndex s).trace ∧
      (startSession wValue wIndex s).startTimer =
        (s.startTimer || firstEnded (startSession wValue wIndex s).trace) := by
  rw [firstEnded_start start, startSession, configureSampling_start start]
  exact ⟨rfl, rfl, rfl, rfl⟩

theorem waiting_start {f : Preemptible} (stopped : f.stream.tc.running = false)
    (unarmed : f.stream.startTimer = false) {wValue : UInt16} (start : 1 ≤ wValue) (wIndex : UInt16) :
    Waiting { f with stream := startSession wValue wIndex f.stream } wIndex [] := by
  obtain ⟨tc, startFrame, sentOut, startTimer⟩ := startSession_timer start wIndex f.stream
  have untriggered :
      ¬ Triggered { f with stream := startSession wValue wIndex f.stream } wIndex [] := by
    rintro ⟨done, fnum, later, split, -⟩
    simp at split
  constructor
  · exact startFrame
  · exact ⟨rfl, rfl, rfl⟩
  · exact sentOut
  · simp [untriggered, Preemptible.after, tc, stopped]
  · simp [untriggered, Preemptible.after, startTimer, unarmed]
  · exact fun earlier => absurd earlier untriggered

theorem Waiting.run {f : Preemptible} {wIndex : UInt16} (start : Waiting f wIndex []) {events : List Event}
    (notRequests : ∀ event ∈ events, ¬ event.IsRequest) : Waiting f wIndex events := by
  induction events using List.reverseRecOn with
  | nil => exact start
  | append_singleton events event inductionHypothesis =>
    have waiting := inductionHypothesis fun e member => notRequests e (List.mem_append_left _ member)
    exact waiting.step (notRequests event (by simp))

end M1k
