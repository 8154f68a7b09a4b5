import M1k.Streaming.OutBuffers

/-! # Delivery of the host's samples

The bytes of an OUT transfer land in the packet that is not being played.  When each packet
that the interrupt asks for has arrived before the frame ends, the DAC plays the transfers of
the session word by word, and no byte arrives in a packet that is being read. -/

namespace M1k

open Library Library.Runs Schedule

/-- Every OUT transfer that the driver reports done has brought a whole packet. -/
def WholePackets (trace : List Obs) : Prop :=
  ∀ c, .completed c ∈ trace → c.status = .ok → c.callback.ep = .bulkOut → c.nbTransfered = 1024

/-! ## The interrupt stays behind the host -/

/-- The event belongs to streaming, and if it ends frame `j`, the transfer asked for in frame `j`
    (transfer `j + 1` of the session) has come in. -/
def TimelyOut (s : Stream) (event : Event) : Prop :=
  event.Streams ∧ (event = .tc2 → s.tc.running = true → raisesSendIn s.smp = true →
    framesRaised (ticks s.trace) + 2 ≤ delivered .bulkOut s.trace)

instance (s : Stream) : DecidablePred (TimelyOut s) := fun _ => inferInstanceAs (Decidable (_ ∧ _))

/-- The timer runs, or is armed, only with the frame to be played received. -/
structure Behind (s : Stream) : Prop where
  stopped : s.tc.running = false → ticks s.trace = []
  ahead : s.tc.running = true ∨ s.startTimer = true →
    framesIn (ticks s.trace).length < delivered .bulkOut s.trace

/-- An event that neither starts the timer nor interrupts. -/
theorem Behind.still {s s' : Stream} (behind : Behind s) (tc : s'.tc.running = s.tc.running)
    (armed : s'.startTimer = true → s.startTimer = true) (same : ticks s'.trace = ticks s.trace)
    (delivered : delivered .bulkOut s.trace ≤ delivered .bulkOut s'.trace) : Behind s' where
  stopped := by rw [tc, same]; exact behind.stopped
  ahead := by
    rw [tc, same]
    intro now
    have before := behind.ahead (now.imp_right armed)
    omega

/-- A call of the application: the end of the first OUT transfer arms the timer. -/
theorem Behind.callBack {s : Stream} (behind : Behind s) (completion : Option Completion) :
    Behind (callBack completion s) := by
  have noTick : ticks (M1k.callBack completion s).trace = ticks s.trace := by
    rw [callBack_trace, ticks_append, ticks_callObs, List.append_nil]
  have counted : delivered .bulkOut (M1k.callBack completion s).trace =
      delivered .bulkOut s.trace + (clears .bulkOut completion).toNat := by
    rw [callBack_trace, delivered_append, delivered_callObs]
  have running : (M1k.callBack completion s).tc = s.tc := by rw [callBack_eq]
  constructor
  · rw [noTick, running]; exact behind.stopped
  · rw [noTick, counted, running]
    intro now
    by_cases before : s.tc.running = true ∨ s.startTimer = true
    · have received := behind.ahead before
      omega
    · -- armed by this call: nothing has been played, and one transfer is in
      obtain ⟨notRunning, notArmed⟩ := not_or.mp before
      have first : completesFirst completion = true := by
        rcases now with isRunning | isArmed
        · exact absurd isRunning notRunning
        · rw [callBack_eq, Bool.eq_false_of_not_eq_true notArmed, Bool.false_or,
            Bool.and_eq_true] at isArmed
          exact isArmed.1
      rw [behind.stopped (Bool.eq_false_of_not_eq_true notRunning), clears_of_completesFirst first]
      simp [framesIn]

theorem behind_step {s : Stream} (inSession : InSession s) (behind : Behind s) {event : Event}
    (timely : TimelyOut s event) : Behind (step s event) := by
  obtain ⟨streams, inTime⟩ := timely
  cases event with
  | tc2 =>
    simp only [step, tc2Interrupt]
    split_ifs with stopped
    · exact behind
    · have running : s.tc.running = true := by simpa using stopped
      refine ⟨fun isStopped => absurd isStopped (by simp [running]), fun _ => ?_⟩
      -- a frame that ends has been read whole, and the next is in
      have raised := framesRaised_eq inSession.onTime
      have before := behind.ahead (.inl running)
      rw [ticks_append, ticks_interrupt, List.length_append, List.length_singleton, framesIn_succ,
        delivered_append, delivered_interrupt]
      split_ifs with ends
      · have received := inTime rfl running ((raisesSendIn_iff_endsFrame inSession.follows).mpr ends)
        omega
      · omega
  | loop =>
    have noTick := (loop_sampler s).2
    cases pc : s.pc with
    | runIn index =>
      simp only [step, mainLoop, pc, udiVendorBulkRun_bulkIn]
      apply Behind.callBack
      exact behind.still rfl id (by simp) (by simp)
    | runOut index =>
      simp only [step, mainLoop, pc, udiVendorBulkRun_bulkOut]
      apply Behind.callBack
      exact behind.still rfl id (by simp) (by simp)
    | readIndexIn =>
      simp only [step, mainLoop, pc]
      exact behind.still rfl id (by simp) (by simp)
    | _ =>
      simp only [step, mainLoop, pc]
      exact behind.still rfl id rfl (Nat.le_refl _)
  | sof fnum =>
    simp only [step, mainSofAction]
    split_ifs with now
    · simp only [Bool.and_eq_true] at now
      exact ⟨fun stopped => absurd stopped (by simp), fun _ => behind.ahead (.inr now.1)⟩
    · exact behind.still rfl id rfl (Nat.le_refl _)
  | outByte value =>
    simp only [step, dmaOutByte]
    split_ifs
    · cases s.epOut.job.buf with
      | packetsOut packet word => exact behind.still rfl id (by rw [ticks_append]; exact List.append_nil _) (by rw [delivered_append]; exact Nat.le_refl _)
      | _ => exact behind
    · exact behind
  | outDone =>
    rw [step, onEp_bulkOut]
    apply Behind.callBack
    exact behind.still rfl id rfl (Nat.le_refl _)
  | inDone =>
    rw [step, onEp_bulkIn]
    apply Behind.callBack
    exact behind.still rfl id rfl (Nat.le_refl _)
  | outEndTr =>
    simp only [step, outEndTr]
    split_ifs
    · exact behind.still rfl id rfl (Nat.le_refl _)
    · exact behind
  | _ => exact absurd streams id

/-- A start request that finds the timer stopped and not armed leaves it so, unless the first
    transfer ends at once. -/
theorem behind_start {wValue : UInt16} (start : 1 ≤ wValue) (wIndex : UInt16) {s : Stream}
    (stopped : s.tc.running = false) (unarmed : s.startTimer = false) :
    Behind (startSession wValue wIndex s) := by
  have quiet := ticks_startSession start wIndex s
  have delivered := delivered_startSession start wIndex (s := s) .bulkOut
  have running : (startSession wValue wIndex s).tc.running = s.tc.running := by
    rw [startSession, configureSampling_start start]
  have startTimer : (startSession wValue wIndex s).startTimer =
      (s.startTimer || completesFirst (firstRun s.epOut).2.2) := by
    rw [startSession, configureSampling_start start]
  refine ⟨fun _ => quiet, ?_⟩
  rw [quiet, delivered, running, startTimer, stopped, unarmed]
  rintro (isRunning | isArmed)
  · simp at isRunning
  · rw [clears_of_completesFirst (by simpa using isArmed)]
    simp [framesIn]

/-! ## Feeding the DAC -/

/-- What holds in a session whose host is in time, whatever the lengths of its packets. -/
structure Feeding (s : Stream) : Prop where
  wired : Wired s
  inSession : InSession s
  filled : Filled s
  behind : Behind s
  hands : ∃ box, Mailbox.InOrder box ∧ Hands .bulkOut s box

/-- At most two transfers lie between the DAC and the host. -/
theorem Feeding.payloads_le {s : Stream} (feeding : Feeding s) :
    (payloads s.trace).length ≤ frameOut (ticks s.trace).length + 2 := by
  obtain ⟨box, inOrder, hands⟩ := feeding.hands
  have posted : framesAsked (ticks s.trace) + 1 = box.posted := hands.posted
  have delivered : delivered .bulkOut s.trace = box.delivered := hands.delivered
  have underWay : s.epOut.job.busy = box.underWay := hands.underWay
  have asked := framesAsked_eq feeding.inSession.onTime
  have ahead := framesOut_le (ticks s.trace).length
  rw [feeding.filled.count, delivered, underWay, ← inOrder.sent_length]
  have keepsUp := inOrder.sent_keeps_up.1
  omega

/-- The interrupt sends a word of the buffer of its frame's transfer, which has come in. -/
theorem Feeding.fetches {s : Stream} (feeding : Feeding s) (running : s.tc.running = true) :
    ∃ payload : List UInt8,
      (payloads s.trace)[frameOut (ticks s.trace).length]? = some payload ∧
      frameOut (ticks s.trace).length < delivered .bulkOut s.trace ∧
      (∀ (b : Nat) (value : UInt8), payload[b]? = some value →
        s.packetsOut (frameOut (ticks s.trace).length % 2) b = value) ∧
      (tick s).dac =
        (s.packetsOut (frameOut (ticks s.trace).length % 2) (2 * wordOut (ticks s.trace).length),
          s.packetsOut (frameOut (ticks s.trace).length % 2)
            (2 * wordOut (ticks s.trace).length + 1)) := by
  obtain ⟨t, now⟩ : ∃ t, (ticks s.trace).length = t := ⟨_, rfl⟩
  have follows := feeding.inSession.follows
  have few := feeding.payloads_le
  have before := feeding.behind.ahead (.inl running)
  rw [now] at follows few before ⊢
  -- the frame that is read has come in, and is not older than the last two
  have bound : frameOut t < (payloads s.trace).length := by
    have count := feeding.filled.count
    simp only [framesIn] at before
    simp only [frameOut]
    omega
  have found : (payloads s.trace)[frameOut t]? = some (payloads s.trace)[frameOut t] :=
    List.getElem?_eq_getElem bound
  have loads := loads_of_follows follows
  rw [packetOut_eq, slotOut_eq] at loads
  refine ⟨_, found, before, feeding.filled.memory _ _ found few, ?_⟩
  simp only [tick, loads.2.2.1, Stream.fetch]

theorem feeding_step {s : Stream} (feeding : Feeding s) {event : Event} (timely : TimelyOut s event) :
    Feeding (step s event) ∧ Fills s (step s event) := by
  obtain ⟨wired, inSession, filled, behind, ⟨box, inOrder, hands⟩⟩ := feeding
  have next : ∀ index, s.pc = .runOut index → index.toNat = delivered .bulkOut s.trace % 2 := by
    intro index pc
    have stage := hands.stage
    rw [pc] at stage
    obtain ⟨letter, running, parity⟩ := stage
    rw [parity, (inOrder.running_next running).1, hands.delivered]
  have inTime : event = .tc2 → TimelyPost .bulkOut s := by
    intro _ running raises
    have asks := (raisesSendOut_iff_asksFrame inSession.follows).mp raises
    have before := behind.ahead (.inl running)
    rw [due, framesAsked_eq inSession.onTime, framesOut_of_asksFrame asks]
    exact before
  have fills := fills_step wired filled timely.1 next
  exact ⟨⟨wired_step wired event, inSession_step inSession timely.1.notRequest, fills.filled,
    behind_step inSession behind timely, hands_kept wired inSession inOrder hands timely.1 inTime⟩,
    fills⟩

/-- A session begins so, when the timer is stopped and not armed and the main loop hands no packet
    to the bulk OUT endpoint. -/
theorem feeding_start {wValue : UInt16} (start : 1 ≤ wValue) (wIndex : UInt16) {s : Stream}
    (wired : Wired s) (stopped : s.tc.running = false) (unarmed : s.startTimer = false)
    (outside : s.pc.Stage .bulkOut .rest) : Feeding (startSession wValue wIndex s) where
  wired := wired_startSession wired _ _
  inSession := inSession_start start wIndex _
  filled := filled_start start wIndex s
  behind := behind_start start wIndex stopped unarmed
  hands := hands_start_bulkOut start wIndex outside

/-! ## What has been played -/

/-- The interrupt `t` has played its word of its frame, out of a transfer that had come in. -/
def Played (s : Stream) (t : Nat) (tick : Tick) : Prop :=
  frameOut t < delivered .bulkOut s.trace ∧
    ∃ payload : List UInt8, (payloads s.trace)[frameOut t]? = some payload ∧
      payload[2 * wordOut t]? = some tick.dac.1 ∧ payload[2 * wordOut t + 1]? = some tick.dac.2

theorem Played.fills {s s' : Stream} {t : Nat} {tick : Tick} (played : Played s t tick)
    (fills : Fills s s') : Played s' t tick := by
  obtain ⟨before, payload, found, low, high⟩ := played
  refine ⟨Nat.lt_of_lt_of_le before fills.delivered, payload, ?_, low, high⟩
  rw [fills.stable _ before, found]

/-- Every interrupt has played its word, as the host has sent it. -/
def AllPlayed (s : Stream) : Prop :=
  ∀ (t : Nat) (tick : Tick), (ticks s.trace)[t]? = some tick → Played s t tick

/-- The transfer that the next interrupt reads has brought the word that it reads. -/
def WordArrived (s : Stream) : Prop :=
  ∀ payload ∈ (payloads s.trace)[frameOut (ticks s.trace).length]?,
    2 * wordOut (ticks s.trace).length + 2 ≤ payload.length

instance (s : Stream) : Decidable (WordArrived s) := by
  unfold WordArrived
  infer_instance

/-- An interrupt plays its word exactly if the word has arrived. -/
theorem Feeding.played_iff {s : Stream} (feeding : Feeding s) (running : s.tc.running = true) :
    Played s (ticks s.trace).length (tick s) ↔ WordArrived s := by
  obtain ⟨payload, found, before, memory, dac⟩ := feeding.fetches running
  have at_b (b : Nat) (inside : b < payload.length) : payload[b]? =
      some (s.packetsOut (frameOut (ticks s.trace).length % 2) b) := by
    have value : payload[b]? = some payload[b] := List.getElem?_eq_getElem inside
    rw [value, memory b _ value]
  constructor
  · rintro ⟨-, played, isPlayed, -, high⟩ other isOther
    rw [isPlayed] at isOther
    rw [← Option.some.inj isOther]
    exact (List.getElem?_eq_some_iff.mp high).1
  · intro arrived
    have length := arrived payload found
    refine ⟨before, payload, found, ?_, ?_⟩
    · rw [dac, at_b _ (by omega)]
    · rw [dac, at_b _ (by omega)]

/-- One event keeps what has been played, unless it is an interrupt whose word has not arrived. -/
theorem allPlayed_step {s : Stream} (feeding : Feeding s) (played : AllPlayed s) {event : Event}
    (timely : TimelyOut s event) :
    AllPlayed (step s event) ↔ (event = .tc2 → s.tc.running = true → WordArrived s) := by
  have fills := (feeding_step feeding timely).2
  by_cases interrupts : event = .tc2 ∧ s.tc.running = true
  · obtain ⟨rfl, running⟩ := interrupts
    have now : ticks (step s .tc2).trace = ticks s.trace ++ [tick s] := by
      simp only [step, tc2Interrupt]
      rw [if_neg (by simp [running]), ticks_append, ticks_interrupt]
    -- an interrupt changes nothing of what has come in
    have same : Played (step s .tc2) (ticks s.trace).length (tick s) ↔
        Played s (ticks s.trace).length (tick s) := by
      have unchanged : payloads (step s .tc2).trace = payloads s.trace ∧
          delivered .bulkOut (step s .tc2).trace = delivered .bulkOut s.trace := by
        simp only [step, tc2Interrupt]
        rw [if_neg (by simp [running])]
        exact ⟨payloads_concat _ _, by simp⟩
      rw [Played, Played, unchanged.1, unchanged.2]
    constructor
    · intro all _ _
      have last := all (ticks s.trace).length (tick s) (by rw [now, List.getElem?_concat_length])
      exact (feeding.played_iff running).mp (same.mp last)
    · -- the earlier interrupts stay as they were, and this one plays what has arrived
      intro arrived t tick' at_t
      rw [now, List.getElem?_append] at at_t
      split_ifs at at_t with earlier
      · exact (played t tick' at_t).fills fills
      · obtain ⟨bound, value⟩ := List.getElem?_eq_some_iff.mp at_t
        rw [List.length_singleton] at bound
        have isNow : t = (ticks s.trace).length := by omega
        rw [isNow, ← value, List.getElem_singleton]
        exact same.mpr ((feeding.played_iff running).mpr (arrived rfl running))
  · have noTick : ticks (step s event).trace = ticks s.trace := by
      by_cases isTc2 : event = .tc2
      · have stopped : s.tc.running = false :=
          Bool.eq_false_of_not_eq_true fun running => interrupts ⟨isTc2, running⟩
        rw [isTc2]
        simp [step, tc2Interrupt, stopped]
      · exact ticks_step s timely.1.notRequest isTc2
    constructor
    · intro _ isTc2 running
      exact absurd ⟨isTc2, running⟩ interrupts
    · intro _ t tick' at_t
      rw [noTick] at at_t
      exact (played t tick' at_t).fills fills

/-- An interrupt comes only for a word that has arrived. -/
def Fed (s : Stream) (event : Event) : Prop := event = .tc2 → s.tc.running = true → WordArrived s

instance (s : Stream) : DecidablePred (Fed s) := fun _ => inferInstanceAs (Decidable (_ → _ → _))

/-- In a session whose host is in time, the words are played as sent exactly if each has arrived
    when its interrupt comes. -/
theorem allPlayed_iff_fed {s : Stream} {events : List Event} (feeding : Feeding s)
    (noTick : ticks s.trace = []) (timely : Throughout step TimelyOut s events) :
    Always step AllPlayed s events ↔ Throughout step Fed s events := by
  apply always_iff_throughout_within (D := TimelyOut)
  · exact fun _ _ feeding timely => (feeding_step feeding timely).1
  · exact fun _ _ feeding played timely => allPlayed_step feeding played timely
  · exact feeding
  · intro t tick at_t
    rw [noTick] at at_t
    simp at at_t
  · exact timely

/-! ## Whole packets -/

/-- Transfers that have been reported whole are. -/
theorem Filled.whole {s : Stream} (filled : Filled s) (whole : WholePackets s.trace) {i : Nat}
    {payload : List UInt8} (early : i < delivered .bulkOut s.trace)
    (found : (payloads s.trace)[i]? = some payload) : payload.length = 1024 := by
  obtain ⟨c, member, status, ep, length⟩ := filled.reported i payload early found
  rw [← length, whole c member status ep]

theorem Feeding.fed {s : Stream} (feeding : Feeding s) (whole : WholePackets s.trace)
    (event : Event) : Fed s event := by
  intro _ running payload isPayload
  obtain ⟨fetched, found, before, -⟩ := feeding.fetches running
  rw [found] at isPayload
  have length := feeding.filled.whole whole before found
  rw [Option.mem_some_iff.mp isPayload] at length
  have word := wordOut_lt (ticks s.trace).length
  omega

/-- The DAC has played the transfers of the session word by word, and the transfer under way goes
    to a packet that neither the last interrupt nor the next reads. -/
structure DeliversOut (s : Stream) : Prop where
  plays : ∀ (t : Nat) (tick : Tick), (ticks s.trace)[t]? = some tick →
    ∃ payload : List UInt8, (payloads s.trace)[frameOut t]? = some payload ∧ payload.length = 1024 ∧
      payload[2 * wordOut t]? = some tick.dac.1 ∧ payload[2 * wordOut t + 1]? = some tick.dac.2
  apart : s.tc.running = true → s.epOut.job.busy = true →
    ∃ packet, s.epOut.job.buf = .packetsOut packet 0 ∧ packet ≠ s.smp.packetIndexOut.toNat ∧
      ∀ (t : Nat) (tick : Tick) (word : Nat), (ticks s.trace).length = t + 1 →
        (ticks s.trace)[t]? = some tick → tick.usart0.tnpr ≠ .packetsOut packet word

theorem Feeding.apart {s : Stream} (feeding : Feeding s) (running : s.tc.running = true)
    (busy : s.epOut.job.busy = true) :
    ∃ packet, s.epOut.job.buf = .packetsOut packet 0 ∧ packet ≠ s.smp.packetIndexOut.toNat ∧
      ∀ (t : Nat) (tick : Tick) (word : Nat), (ticks s.trace).length = t + 1 →
        (ticks s.trace)[t]? = some tick → tick.usart0.tnpr ≠ .packetsOut packet word := by
  obtain ⟨buf, -⟩ := feeding.filled.target busy
  obtain ⟨box, inOrder, hands⟩ := feeding.hands
  have posted : framesAsked (ticks s.trace) + 1 = box.posted := hands.posted
  have last := (inOrder.underWay_last (hands.underWay.symm.trans busy)).2.1
  have before := feeding.behind.ahead (.inl running)
  rw [framesAsked_eq feeding.inSession.onTime] at posted
  rw [hands.delivered] at buf before
  have packetOut := feeding.inSession.follows.packetIndexOut
  refine ⟨_, buf, ?_, ?_⟩
  · -- the transfer under way is the one after the frame that is read
    rw [packetOut, packetOut_eq]
    simp only [framesOut] at posted
    simp only [framesIn] at before
    simp only [frameOut]
    omega
  · intro t tick word now found reads
    have loads := (feeding.inSession.onTime t tick found).loads.2.2.1
    rw [packetOut_eq] at loads
    obtain ⟨same, -⟩ := Ptr.packetsOut.inj (reads.symm.trans loads)
    rw [now] at posted before
    simp only [framesOut] at posted
    simp only [framesIn] at before
    simp only [frameOut] at same
    omega

/-- With whole packets, every word has arrived when its interrupt comes. -/
theorem fed_of_whole {s : Stream} (begun : Feeding s) {events : List Event}
    (whole : Always step (fun s => WholePackets s.trace) s events)
    (timely : Throughout step TimelyOut s events) : Throughout step Fed s events := by
  have feeding : Always step Feeding s events :=
    always_of_step (fun _ _ feeding timely => (feeding_step feeding timely).1) begun timely
  intro done event isPrefix
  have before : done <+: events := (List.prefix_append done [event]).trans isPrefix
  exact (feeding done before).fed (whole done before) event

/-- In a session whose host is in time, the DAC plays what the host has sent. -/
theorem out_delivery {wValue : UInt16} (start : 1 ≤ wValue) (wIndex : UInt16) (history : List Event)
    (stopped : (run step {} history).tc.running = false)
    (unarmed : (run step {} history).startTimer = false)
    (outside : (run step {} history).pc.Stage .bulkOut .rest) {events : List Event}
    (whole : Always step (fun s => WholePackets s.trace)
      (startSession wValue wIndex (run step {} history)) events)
    (timely : Throughout step TimelyOut (startSession wValue wIndex (run step {} history)) events) :
    Always step DeliversOut (startSession wValue wIndex (run step {} history)) events := by
  have wired : Wired (run step {} history) := (wired_run wired_boot history).last
  have begun := feeding_start start wIndex wired stopped unarmed outside
  have feeding : Always step Feeding (startSession wValue wIndex (run step {} history)) events :=
    always_of_step (fun _ _ feeding timely => (feeding_step feeding timely).1) begun timely
  have fed := fed_of_whole begun whole timely
  have played := (allPlayed_iff_fed begun (ticks_startSession start wIndex _) timely).mpr fed
  intro done isPrefix
  exact {
    plays := fun t tick found => by
      obtain ⟨before, payload, at_t, low, high⟩ := played done isPrefix t tick found
      have length := (feeding done isPrefix).filled.whole (whole done isPrefix) before at_t
      exact ⟨payload, at_t, length, low, high⟩
    apart := (feeding done isPrefix).apart }

/-! ## Two packets -/

/-- No frame ends in the first 519 interrupts, so nothing is asked of the host. -/
theorem timelyOut_of_few {wValue : UInt16} (start : 1 ≤ wValue) (wIndex : UInt16) (s : Stream)
    {events : List Event} (streams : ∀ event ∈ events, event.Streams)
    (few : events.count .tc2 < 520) :
    Throughout step TimelyOut (startSession wValue wIndex s) events := by
  intro done event isPrefix
  refine ⟨streams event (isPrefix.subset (by simp)), ?_⟩
  rintro rfl running raises
  have noRequest : ∀ event ∈ done, ¬ event.IsRequest := fun e member =>
    (streams e (isPrefix.subset (by simp [member]))).notRequest
  have inSession := inSession_after (inSession_start start wIndex s) done noRequest
  have ends := (raisesSendIn_iff_endsFrame inSession.follows).mp raises
  have bound := ticks_le_count (startSession wValue wIndex s) noRequest
  have counted := isPrefix.sublist.count_le (a := Event.tc2)
  rw [List.count_append, List.count_singleton_self] at counted
  rw [ticks_startSession start, List.length_nil] at bound
  simp only [endsFrame] at ends
  omega

/-- The first frame ends with two transfers in; the second lasts for 512 interrupts more. -/
theorem timelyOut_of_two {wValue : UInt16} (start : 1 ≤ wValue) (wIndex : UInt16) (s : Stream)
    {events : List Event} {n : Nat} (streams : ∀ event ∈ events, event.Streams)
    (few : events.count .tc2 < 520) (total : events.count .tc2 + n < 1032)
    (running : (run step (startSession wValue wIndex s) events).tc.running = true)
    (two : 2 ≤ delivered .bulkOut (run step (startSession wValue wIndex s) events).trace) :
    Throughout step TimelyOut (startSession wValue wIndex s) (events ++ List.replicate n .tc2) := by
  rw [throughout_append]
  refine ⟨timelyOut_of_few start wIndex s streams few, fun done event isPrefix => ?_⟩
  have noRequest : ∀ event ∈ events, ¬ event.IsRequest := fun e member => (streams e member).notRequest
  have bound := ticks_le_count (startSession wValue wIndex s) noRequest
  rw [ticks_startSession start, List.length_nil] at bound
  have inSession := inSession_after (inSession_start start wIndex s) events noRequest
  generalize run step (startSession wValue wIndex s) events = t at *
  -- the events that are left are interrupts, and nothing else
  obtain ⟨m, less, rfl, rfl⟩ : ∃ m < n, done = List.replicate m .tc2 ∧ event = .tc2 := by
    have length := isPrefix.length_le
    have only (e : Event) (member : e ∈ done ++ [event]) : e = .tc2 :=
      List.eq_of_mem_replicate (isPrefix.subset member)
    simp only [List.length_append, List.length_singleton, List.length_replicate] at length
    exact ⟨done.length, by omega, List.eq_replicate_of_mem fun e member => only e (by simp [member]),
      only event (by simp)⟩
  obtain ⟨obs, reached, length⟩ := run_tc2 running m
  have later := inSession_after inSession _ (notRequest_tc2 m)
  rw [reached] at later ⊢
  refine ⟨trivial, fun _ _ raises => ?_⟩
  have ends := (raisesSendIn_iff_endsFrame later.follows).mp raises
  have raised := framesRaised_eq later.onTime
  simp only [ticks_append, List.length_append, length, endsFrame] at ends raised
  simp only [ticks_append, delivered_append, raised, framesIn]
  omega

theorem WholePackets.append {trace obs : List Obs} (whole : WholePackets trace)
    (quiet : ∀ c, .completed c ∉ obs) : WholePackets (trace ++ obs) := by
  intro c member
  rcases List.mem_append.mp member with before | now
  · exact whole c before
  · exact absurd now (quiet c)

theorem WholePackets.completed {trace : List Obs} (whole : WholePackets trace) {completion : Completion}
    (length : completion.nbTransfered = 1024) :
    WholePackets (trace ++ callObs (some completion)) := by
  intro c member
  rcases List.mem_append.mp member with before | now
  · exact whole c before
  · rw [callObs, Option.toList_some, List.map_singleton, List.mem_singleton] at now
    rw [Obs.completed.inj now]
    exact fun _ _ => length

/-- Bytes, starts of frame and interrupts report no transfer. -/
theorem whole_unreported {s : Stream} {event : Event} (whole : WholePackets s.trace)
    (quiet : event ≠ .loop ∧ event ≠ .outDone ∧ event ≠ .inDone) (streams : event.Streams) :
    WholePackets (step s event).trace := by
  have add (o : Obs) (other : ∀ c, o ≠ .completed c) : WholePackets (s.trace ++ [o]) := by
    intro c member
    rcases List.mem_append.mp member with before | now
    · exact whole c before
    · exact absurd (List.mem_singleton.mp now).symm (other c)
  cases event with
  | tc2 =>
    simp only [step, tc2Interrupt]
    split_ifs
    · exact whole
    · exact add _ (by simp)
  | sof fnum =>
    simp only [step, mainSofAction]
    split_ifs <;> exact whole
  | outByte value =>
    simp only [step, dmaOutByte]
    split_ifs
    · cases s.epOut.job.buf with
      | packetsOut packet word => exact add _ (by simp)
      | _ => exact whole
    · exact whole
  | outEndTr =>
    simp only [step, outEndTr]
    split_ifs <;> exact whole
  | loop => exact absurd rfl quiet.1
  | outDone => exact absurd rfl quiet.2.1
  | inDone => exact absurd rfl quiet.2.2
  | _ => exact absurd streams id

theorem whole_run {s : Stream} (whole : WholePackets s.trace) {events : List Event}
    (quiet : ∀ event ∈ events,
      (event ≠ .loop ∧ event ≠ .outDone ∧ event ≠ .inDone) ∧ event.Streams) :
    Always step (fun s => WholePackets s.trace) s events :=
  always_of_events (P := fun s : Stream => WholePackets s.trace)
    (fun _ _ kept unreported => whole_unreported kept unreported.1 unreported.2) whole quiet

/-- Bytes come in one after the other while the channel has room. -/
theorem run_outByte {s : Stream} {packet : Nat} (on : (s.epOut.dmaOn && s.epOut.enabled) = true)
    (buf : s.epOut.job.buf = .packetsOut packet 0) (value : UInt8) {n : Nat}
    (room : s.epOut.dmaCount + n ≤ s.epOut.job.bufLoad) :
    ∃ packetsOut epOut obs, run step s (List.replicate n (.outByte value)) =
        { s with packetsOut := packetsOut, epOut := epOut, trace := s.trace ++ obs } ∧
      epOut = { s.epOut with dmaCount := s.epOut.dmaCount + n } := by
  induction n with
  | zero => exact ⟨s.packetsOut, s.epOut, [], by simp, rfl⟩
  | succ n inductionHypothesis =>
    obtain ⟨packetsOut, epOut, obs, reached, rfl⟩ := inductionHypothesis (by omega)
    have free : s.epOut.dmaCount + n < s.epOut.job.bufLoad := by omega
    rw [List.replicate_succ', run_concat, reached]
    simp only [step, dmaOutByte, on, free, buf, Bool.true_and, decide_true, if_true, List.append_assoc]
    exact ⟨_, _, _, rfl, rfl⟩

/-- A whole packet, and the channel stops with its buffer full. -/
def packet (value : UInt8) : List Event := List.replicate 1024 (.outByte value) ++ [.outDone]

/-- The channel stops with its buffer full: the transfer it reports is whole. -/
theorem dmaOutDone_full {ep : Endpoint} (enabled : ep.enabled = true) (buf : Ptr) (callback : Callback) :
    let done := dmaOutDone { ep.moving buf 1024 callback with dmaCount := 1024 }
    done.2 = some ⟨callback, .ok, 1024⟩ ∧ done.1.ready = ep.ready ∧ done.1.job.busy = false ∧
      done.1.endTrSt = ep.endTrSt := by
  simp [dmaOutDone, Endpoint.moving, Endpoint.ready, enabled, uddEpDmaInterrupt, uddEpTransDone,
    uddEpTransEnd, uddEpFinishJob]

/-- The host sends the packet that the endpoint waits for. -/
theorem run_packet {s : Stream} {ep : Endpoint} {index : Nat} {callback : Callback}
    (enabled : ep.enabled = true)
    (moving : s.epOut = ep.moving (.packetsOut index 0) 1024 callback) (value : UInt8) :
    ∃ packetsOut idle obs, run step s (packet value) = callBack (some ⟨callback, .ok, 1024⟩)
        { s with packetsOut := packetsOut, epOut := idle, trace := s.trace ++ obs } ∧
      idle.ready = ep.ready ∧ idle.job.busy = false ∧ idle.endTrSt = ep.endTrSt ∧
      (WholePackets s.trace → Always step (fun s => WholePackets s.trace) s (packet value)) := by
  have on : (s.epOut.dmaOn && s.epOut.enabled) = true := by simp [moving, Endpoint.moving, enabled]
  have buf : s.epOut.job.buf = .packetsOut index 0 := by rw [moving]; rfl
  have room : s.epOut.dmaCount + 1024 ≤ s.epOut.job.bufLoad := by simp [moving, Endpoint.moving]
  obtain ⟨packetsOut, epOut, obs, reached, full⟩ := run_outByte on buf value room
  have filled : epOut = { ep.moving (.packetsOut index 0) 1024 callback with dmaCount := 1024 } := by
    rw [full, moving, Endpoint.moving]
  obtain ⟨call, ready, idle, clean⟩ := dmaOutDone_full enabled (.packetsOut index 0) callback
  rw [← filled] at call ready idle clean
  have done : run step s (packet value) = callBack (some ⟨callback, .ok, 1024⟩)
      { s with packetsOut := packetsOut, epOut := (dmaOutDone epOut).1, trace := s.trace ++ obs } := by
    rw [packet, run_append, reached, run_cons, run_nil, step, onEp_bulkOut, call]
  refine ⟨packetsOut, _, obs, done, ready, idle, clean, fun whole => ?_⟩
  have bytes : Always step (fun s => WholePackets s.trace) s (List.replicate 1024 (.outByte value)) := by
    apply whole_run whole
    intro event member
    rw [List.eq_of_mem_replicate member]
    exact ⟨by simp, trivial⟩
  have before := bytes.last
  rw [packet, run_append] at done
  rw [packet, always_append, always_cons, always_nil]
  refine ⟨bytes, before, ?_⟩
  rw [run_cons, run_nil] at done
  rw [done, callBack_trace]
  rw [reached] at before
  exact before.completed rfl

/-- The main loop hands over the packet that has been asked for. -/
theorem handOver_out {s : Stream} (pc : s.pc = .testIn) (sendIn : s.smp.sendIn = false)
    (sendOut : s.smp.sendOut = true) (sendingOut : s.sendingOut = false)
    (ready : s.epOut.ready = true) (idle : s.epOut.job.busy = false) (clean : s.epOut.endTrSt = false) :
    ∃ s', run step s (List.replicate 6 .loop) = s' ∧
      s'.epOut = s.epOut.moving (.packetsOut s.smp.packetIndexSendOut.toNat 0) 1024 .mainVendorBulkOutReceived ∧
      s'.tc = s.tc ∧ delivered .bulkOut s'.trace = delivered .bulkOut s.trace ∧
      (WholePackets s.trace → Always step (fun s => WholePackets s.trace) s (List.replicate 6 .loop)) := by
  have taken : uddEpRun false false (.packetsOut s.smp.packetIndexSendOut.toNat 0) 1024
      (some .mainVendorBulkOutReceived) s.epOut = (true, s.epOut.moving
        (.packetsOut s.smp.packetIndexSendOut.toNat 0) 1024 .mainVendorBulkOutReceived, none) := by
    rcases uddEpRun_cases false (.packetsOut s.smp.packetIndexSendOut.toNat 0) .mainVendorBulkOutReceived
      s.epOut (by decide : 0 < 1024) (by decide) with ⟨refused, -⟩ | ⟨-, -, -, run⟩ | ⟨-, -, ended, -⟩
    · simp [ready, idle] at refused
    · exact run
    · rw [clean] at ended
      cases ended
  refine ⟨_, rfl, ?_⟩
  simp only [List.replicate, run_cons, run_nil, always_cons, always_nil, step, mainLoop, pc, sendIn, sendOut,
    sendingOut, Bool.and_false, Bool.not_false, Bool.and_self, Bool.false_eq_true, if_false, if_true,
    udiVendorBulkRun_bulkOut, taken, callBack]
  exact ⟨trivial, trivial, by simp, fun whole =>
    ⟨whole, whole, whole, whole, whole, whole, whole.append (by simp)⟩⟩

/-- The first packet comes in, the timer starts, the second is asked for and comes in. -/
def twoPackets : List Event :=
  packet 7 ++ [.sof 5] ++ List.replicate 270 .tc2 ++ List.replicate 6 .loop ++ packet 9

theorem streams_twoPackets : ∀ event ∈ twoPackets, event.Streams := by decide +kernel

theorem count_twoPackets : twoPackets.count .tc2 = 270 := by decide +kernel

/-- Both packets arrive whole, the second while the first is played. -/
theorem run_twoPackets :
    Always step (fun s => WholePackets s.trace) (startSession 1000 0 (run step {} bringUp)) twoPackets ∧
      (run step (startSession 1000 0 (run step {} bringUp)) twoPackets).tc.running = true ∧
      2 ≤ delivered .bulkOut (run step (startSession 1000 0 (run step {} bringUp)) twoPackets).trace := by
  have begun : WholePackets (startSession 1000 0 (run step {} bringUp)).trace := by
    rw [show (startSession 1000 0 (run step {} bringUp)).trace =
      [.request 1000 0, .epRun .bulkOut (.packetsOut 0 0) 1024 true] by decide]
    intro c member
    simp at member
  have moving : (startSession 1000 0 (run step {} bringUp)).epOut =
      Endpoint.moving (.packetsOut 0 0) 1024 .mainVendorBulkOutReceivedFirst
        { enabled := true, size := 64 } := by decide
  have asked : (tc2Handler^[270] (startSession 1000 0 (run step {} bringUp)).smp).sendOut = true ∧
      (tc2Handler^[270] (startSession 1000 0 (run step {} bringUp)).smp).sendIn = false := by
    decide +kernel
  have pc : (startSession 1000 0 (run step {} bringUp)).pc = .testIn := by decide
  have frame : (startSession 1000 0 (run step {} bringUp)).startFrame = 0 := by decide
  have unsent : (startSession 1000 0 (run step {} bringUp)).sentOut = false := by decide
  generalize startSession 1000 0 (run step {} bringUp) = s at *
  obtain ⟨packetsOut, ep, obs, first, ready, idle, clean, whole⟩ := run_packet rfl moving 7
  simp only [twoPackets, run_append, always_append]
  have whole₀ := whole begun
  -- the end of the first packet arms the timer, and the next frame starts it
  obtain ⟨s₁, started⟩ : ∃ s₁, run step (run step s (packet 7)) [.sof 5] = s₁ := ⟨_, rfl⟩
  have whole₁ : Always step (fun s => WholePackets s.trace) (run step s (packet 7)) [.sof 5] :=
    whole_run whole₀.last fun event member => by
      rw [List.mem_singleton.mp member]
      exact ⟨by simp, trivial⟩
  obtain ⟨smp₁, pc₁, running₁, sendingOut₁, epOut₁, delivered₁⟩ : s₁.smp = s.smp ∧ s₁.pc = .testIn ∧
      s₁.tc.running = true ∧ s₁.sendingOut = false ∧ s₁.epOut = ep ∧ 1 ≤ delivered .bulkOut s₁.trace := by
    rw [← started, first, run_cons, run_nil, step, mainSofAction, callBack_eq]
    simp [completesFirst, clearsOut, frame, unsent, pc, delivered_callObs, clears, Callback.ep]
    omega
  rw [started]
  -- the interrupts of the warm-up ask for the second
  obtain ⟨obs₂, reached, -⟩ := run_tc2 running₁ 270
  have whole₂ : Always step (fun s => WholePackets s.trace) s₁ (List.replicate 270 .tc2) :=
    whole_run (started ▸ whole₁.last) fun event member => by
      rw [List.eq_of_mem_replicate member]
      exact ⟨by simp, trivial⟩
  have last₂ := whole₂.last
  rw [reached] at last₂ ⊢
  -- the main loop hands it over, and the host sends it
  obtain ⟨s₃, handed, moving₃, tc₃, delivered₃, whole₃⟩ := handOver_out
    (s := { s₁ with smp := tc2Handler^[270] s₁.smp, trace := s₁.trace ++ obs₂ }) pc₁
    (by rw [smp₁]; exact asked.2) (by rw [smp₁]; exact asked.1) sendingOut₁ (by rw [epOut₁, ready]; rfl)
    (by rw [epOut₁, idle]) (by rw [epOut₁, clean])
  have whole₃ := whole₃ last₂
  have last₃ := whole₃.last
  rw [handed] at last₃ ⊢
  have enabled : s₁.epOut.enabled = true := by
    simp only [Endpoint.ready, Bool.not_false, Bool.and_true, Bool.and_eq_true] at ready
    rw [epOut₁]
    exact ready.1.1
  obtain ⟨packetsOut₄, ep₄, obs₄, second, -, -, -, whole₄⟩ := run_packet enabled moving₃ 9
  refine ⟨⟨⟨⟨⟨whole₀, whole₁⟩, whole₂⟩, whole₃⟩, whole₄ last₃⟩, ?_⟩
  rw [second, callBack_eq]
  refine ⟨tc₃ ▸ running₁, ?_⟩
  simp only [delivered_append, delivered_callObs, delivered₃]
  rw [show clears .bulkOut (some ⟨.mainVendorBulkOutReceived, .ok, 1024⟩) = true from rfl, Bool.toNat_true]
  omega

theorem timely_twoPackets : Throughout step TimelyOut (startSession 1000 0 (run step {} bringUp))
    (twoPackets ++ List.replicate 260 .tc2) :=
  timelyOut_of_two (by decide) 0 _ streams_twoPackets (by rw [count_twoPackets]; decide)
    (by rw [count_twoPackets]; decide) run_twoPackets.2.1 run_twoPackets.2.2

theorem whole_twoPackets :
    Always step (fun s => WholePackets s.trace) (startSession 1000 0 (run step {} bringUp))
      (twoPackets ++ List.replicate 260 .tc2) := by
  rw [always_append]
  refine ⟨run_twoPackets.1, whole_run run_twoPackets.1.last fun event member => ?_⟩
  rw [List.eq_of_mem_replicate member]
  exact ⟨by simp, trivial⟩

theorem out_delivery_two_packets :
    Always step DeliversOut (startSession 1000 0 (run step {} bringUp))
      (twoPackets ++ List.replicate 260 .tc2) :=
  out_delivery (by decide) 0 bringUp (by decide) (by decide) rfl whole_twoPackets timely_twoPackets

end M1k
