import M1k.Library.Packets
import M1k.Library.Runs
import M1k.Usb.Endpoint

/-! # Transfers of any size

`udd_ep_run` takes a buffer of any size.  The driver hands it to the DMA channel in parts of 64 KiB
at most, each at the interrupt that ends the one before, and sends an empty packet at the end when it
has been asked to and the data has no short one. -/

namespace M1k

open Library.Packets Library.Runs

/-! ## An IN endpoint -/

/-- What a channel puts on the bus for a part.  Without `END_B_EN` only full packets are sent. -/
def channelPackets (size load : Nat) (endB : Bool) : List Nat :=
  List.replicate (load / size) size ++ if endB && load % size != 0 then [load % size] else []

/-- A job on an IN endpoint, with the lengths of the packets handed to the banks, which the host has
    yet to take, and the calls made for it -/
structure InTransfer where
  ep : Endpoint
  wire : List Nat := []
  calls : List Completion := []

inductive InTransfer.Event where
  /-- The channel has sent its part. -/
  | dma
  /-- A bank came free. -/
  | bank

namespace InTransfer

def step (t : InTransfer) : Event → InTransfer
  | .dma =>
    if t.ep.dmaOn then
      let done := uddEpDmaInterrupt true { t.ep with dmaCount := t.ep.job.bufLoad }
      { ep := done.1
        -- `END_B_EN` is set for a part that does not end with a full packet
        wire := t.wire ++
          channelPackets t.ep.size t.ep.job.bufLoad (decide (t.ep.job.bufLoad % t.ep.size ≠ 0))
        calls := t.calls ++ done.2.toList }
    else t
  | .bank =>
    let done := uddEpBankInterrupt t.ep
    { ep := done.1
      wire := t.wire ++ if t.ep.txPktReadyInt then [0] else []
      calls := t.calls ++ done.2.toList }

/-- A job that `udd_ep_run` has taken -/
def start (bShortpacket : Bool) (buf : Ptr) (bufSize : Nat) (callback : Callback) (ep : Endpoint) :
    InTransfer :=
  let run := uddEpRun true bShortpacket buf bufSize (some callback) ep
  { ep := run.2.1, calls := run.2.2.toList }

end InTransfer

theorem channelPackets_eq (size load : Nat) :
    channelPackets size load (decide (load % size ≠ 0)) = frame size load := by
  by_cases exact : load % size = 0
  · simp [channelPackets, frame, exact]
  · simp [channelPackets, frame, exact]

/-- The endpoint is free to take a job. -/
structure Endpoint.Free (ep : Endpoint) : Prop where
  ready : ep.ready = true
  idle : ep.job.busy = false
  ended : ep.endTrSt = false
  noZlp : ep.txPktReadyInt = false
  stopped : ep.dmaOn = false
  positive : 0 < ep.size
  /-- The sizes of endpoints are powers of two. -/
  divides : ep.size ∣ uddEndpointMaxTrans

/-! ## The stages of a job -/

/-- An empty packet belongs to the end of a job. -/
def needsZlp (size bufSize : Nat) (bShortpacket : Bool) : Bool :=
  (bShortpacket || decide (bufSize = 0)) && decide (bufSize % size = 0)

/-- All the packets of a job -/
def jobPackets (size bufSize : Nat) (bShortpacket : Bool) : List Nat :=
  frame size bufSize ++ if needsZlp size bufSize bShortpacket then [0] else []

namespace InTransfer

/-- What is the same throughout a job -/
structure Job (size bufSize : Nat) (callback : Callback) (t : InTransfer) : Prop where
  epSize : t.ep.size = size
  jobSize : t.ep.job.bufSize = bufSize
  registered : t.ep.job.callTrans = some callback
  unhalted : t.ep.job.stallRequested = false
  ended : t.ep.endTrSt = false
  busy : t.ep.job.busy = true
  calls : t.calls = []

/-- The channel is at the part behind the first `sent` bytes. -/
structure Sends (size bufSize : Nat) (bShortpacket : Bool) (callback : Callback) (sent : Nat)
    (t : InTransfer) : Prop extends t.Job size bufSize callback where
  whole : uddEndpointMaxTrans ∣ sent
  more : sent < bufSize
  moving : t.ep.dmaOn = true
  load : t.ep.job.bufLoad = min (bufSize - sent) uddEndpointMaxTrans
  count : t.ep.job.bufCnt = sent + min (bufSize - sent) uddEndpointMaxTrans
  short : t.ep.job.bShortpacket =
    (bShortpacket && decide (min (bufSize - sent) uddEndpointMaxTrans % size = 0))
  noZlp : t.ep.txPktReadyInt = false
  wire : t.wire = frame size sent

/-- Everything but the empty packet has been sent. -/
structure Waits (size bufSize : Nat) (callback : Callback) (t : InTransfer) : Prop
    extends t.Job size bufSize callback where
  moving : t.ep.dmaOn = false
  zlp : t.ep.txPktReadyInt = true
  wire : t.wire = frame size bufSize

structure Ended (size bufSize : Nat) (bShortpacket : Bool) (callback : Callback) (t : InTransfer) :
    Prop where
  moving : t.ep.dmaOn = false
  noZlp : t.ep.txPktReadyInt = false
  unhalted : t.ep.job.stallRequested = false
  wire : t.wire = jobPackets size bufSize bShortpacket
  calls : t.calls = [⟨callback, .ok, bufSize⟩]

/-- The parts that the channel has still to send -/
def partsLeft (bufSize sent : Nat) : Nat :=
  (bufSize - sent + (uddEndpointMaxTrans - 1)) / uddEndpointMaxTrans

inductive Stage (size bufSize : Nat) (bShortpacket : Bool) (callback : Callback) (t : InTransfer) :
    Nat → Prop where
  | sends (sent : Nat) (sends : t.Sends size bufSize bShortpacket callback sent) :
    Stage size bufSize bShortpacket callback t (partsLeft bufSize sent)
  | waits (waits : t.Waits size bufSize callback)
    (zlp : needsZlp size bufSize bShortpacket = true) : Stage size bufSize bShortpacket callback t 0
  | ended (ended : t.Ended size bufSize bShortpacket callback) :
    Stage size bufSize bShortpacket callback t 0

end InTransfer

/-- `udd_ep_trans_done` with data left hands the next part to the channel. -/
theorem uddEpTransDone_next (ep : Endpoint) (busy : ep.job.busy = true)
    (more : ep.job.bufCnt ≠ ep.job.bufSize) (ended : ep.endTrSt = false) :
    uddEpTransDone true ep =
      ({ ep with
          dmaOn := true
          dmaCount := 0
          job := { ep.job with
            bufCnt := ep.job.bufCnt + min (ep.job.bufSize - ep.job.bufCnt) uddEndpointMaxTrans
            bufLoad := min (ep.job.bufSize - ep.job.bufCnt) uddEndpointMaxTrans
            bShortpacket := ep.job.bShortpacket &&
              decide (min (ep.job.bufSize - ep.job.bufCnt) uddEndpointMaxTrans % ep.size = 0) } },
        none) := by
  simp [uddEpTransDone, busy, more, ended]

section Job

variable {size bufSize sent : Nat} {bShortpacket : Bool} {callback : Callback} {t : InTransfer}

theorem start_stage {ep : Endpoint} (free : ep.Free) (bShortpacket : Bool) (buf : Ptr) (bufSize : Nat)
    (callback : Callback) :
    (InTransfer.start bShortpacket buf bufSize callback ep).Stage ep.size bufSize bShortpacket callback
      (InTransfer.partsLeft bufSize 0) := by
  obtain ⟨ready, idle, ended, noZlp, stopped, positive, divides⟩ := free
  have unhalted : ep.job.stallRequested = false := by
    simp only [Endpoint.ready, Bool.and_eq_true, Bool.not_eq_true'] at ready
    exact ready.2
  have taken : uddEpRun true bShortpacket buf bufSize (some callback) ep =
      (true, uddEpTransDone true { ep with
        job := { ep.job with
          busy := true
          buf := buf
          bufSize := bufSize
          bufCnt := 0
          bufLoad := 0
          callTrans := some callback
          bShortpacket := bShortpacket || decide (bufSize = 0) } }) := by
    simp [uddEpRun, ready, idle]
  by_cases empty : bufSize = 0
  · -- no data: the job waits for a bank at once
    subst empty
    have parts : InTransfer.partsLeft 0 0 = 0 := by decide
    rw [parts]
    refine .waits ?_ (by simp [needsZlp])
    simp only [InTransfer.start, taken]
    simp only [uddEpTransDone, uddEpTransEnd, decide_true, Bool.or_true, Bool.and_self, if_true,
      Bool.true_eq_false, if_false, Option.toList_none]
    exact {
      epSize := rfl
      jobSize := rfl
      registered := rfl
      unhalted := unhalted
      ended := ended
      busy := rfl
      calls := rfl
      moving := stopped
      zlp := rfl
      wire := by simp [frame] }
  · refine .sends 0 ?_
    have next := uddEpTransDone_next { ep with
      job := { ep.job with
        busy := true
        buf := buf
        bufSize := bufSize
        bufCnt := 0
        bufLoad := 0
        callTrans := some callback
        bShortpacket := bShortpacket || decide (bufSize = 0) } } rfl (Ne.symm empty) ended
    simp only [InTransfer.start, taken, next]
    exact {
      epSize := rfl
      jobSize := rfl
      registered := rfl
      unhalted := unhalted
      ended := ended
      busy := rfl
      calls := rfl
      whole := Nat.dvd_zero _
      more := Nat.pos_of_ne_zero empty
      moving := rfl
      load := rfl
      count := rfl
      short := by simp [empty]
      noZlp := noZlp
      wire := by simp [frame] }

namespace InTransfer

/-- The DMA interrupt after a whole part -/
theorem Sends.dma (sends : t.Sends size bufSize bShortpacket callback sent) :
    t.step .dma =
      let done := uddEpTransDone true
        { t.ep with dmaCount := min (bufSize - sent) uddEndpointMaxTrans, dmaOn := false }
      { ep := done.1
        wire := t.wire ++ frame size (min (bufSize - sent) uddEndpointMaxTrans)
        calls := t.calls ++ done.2.toList } := by
  have moved : uddEpDmaInterrupt true { t.ep with dmaCount := t.ep.job.bufLoad } =
      uddEpTransDone true { t.ep with dmaCount := t.ep.job.bufLoad, dmaOn := false } := by
    simp [uddEpDmaInterrupt, sends.moving]
  rw [step, if_pos sends.moving]
  simp only [moved, channelPackets_eq]
  rw [sends.epSize, sends.load]

theorem Sends.last (sends : t.Sends size bufSize bShortpacket callback sent) (positive : 0 < size)
    (divides : size ∣ uddEndpointMaxTrans) (last : bufSize - sent ≤ uddEndpointMaxTrans) :
    (t.step .dma).Stage size bufSize bShortpacket callback 0 := by
  have whole : size ∣ sent := divides.trans sends.whole
  have all : sent + (bufSize - sent) = bufSize := by
    have := sends.more
    omega
  have load : min (bufSize - sent) uddEndpointMaxTrans = bufSize - sent := Nat.min_eq_left last
  have rest : (bufSize - sent) % size = bufSize % size := by
    obtain ⟨k, rfl⟩ := whole
    have same := Nat.mul_add_mod size k (bufSize - size * k)
    rw [all] at same
    exact same.symm
  have nonempty : bufSize ≠ 0 := by
    have := sends.more
    omega
  have wire : t.wire ++ frame size (bufSize - sent) = frame size bufSize := by
    rw [sends.wire, ← frame_add positive whole, all]
  have count := sends.count
  have short := sends.short
  rw [load, all] at count
  rw [load, rest] at short
  have zlp : needsZlp size bufSize bShortpacket = t.ep.job.bShortpacket := by
    simp [needsZlp, nonempty, short]
  rw [sends.dma, load, wire]
  simp only [uddEpTransDone, sends.busy, Bool.true_eq_false, if_false, count, sends.jobSize, if_true,
    uddEpTransEnd, Bool.true_and]
  cases flag : t.ep.job.bShortpacket with
  | true =>
    refine .waits ?_ (zlp.trans flag)
    simp only [if_true, Option.toList_none, List.append_nil]
    exact { sends.toJob with
      moving := rfl
      zlp := rfl
      wire := rfl }
  | false =>
    refine .ended ?_
    simp only [Bool.false_eq_true, if_false, uddEpFinishJob, sends.busy, Bool.true_eq_false,
      sends.registered, sends.jobSize, Option.map_some, Option.toList_some, sends.calls, List.nil_append]
    exact {
      moving := rfl
      noZlp := sends.noZlp
      unhalted := sends.unhalted
      wire := by simp [jobPackets, zlp, flag]
      calls := rfl }

theorem Sends.next (sends : t.Sends size bufSize bShortpacket callback sent) (positive : 0 < size)
    (divides : size ∣ uddEndpointMaxTrans) (more : uddEndpointMaxTrans < bufSize - sent) :
    (t.step .dma).Sends size bufSize bShortpacket callback (sent + uddEndpointMaxTrans) := by
  have load : min (bufSize - sent) uddEndpointMaxTrans = uddEndpointMaxTrans :=
    Nat.min_eq_right (Nat.le_of_lt more)
  have count := sends.count
  have short := sends.short
  have full : uddEndpointMaxTrans % size = 0 := Nat.mod_eq_zero_of_dvd divides
  rw [load] at count
  rw [load, full, decide_eq_true rfl, Bool.and_true] at short
  have left : bufSize - (sent + uddEndpointMaxTrans) = bufSize - sent - uddEndpointMaxTrans :=
    Nat.sub_add_eq _ _ _
  have notDone : t.ep.job.bufCnt ≠ t.ep.job.bufSize := by
    rw [count, sends.jobSize]
    omega
  have next := uddEpTransDone_next { t.ep with dmaCount := uddEndpointMaxTrans, dmaOn := false }
    sends.busy notDone sends.ended
  rw [sends.dma, load]
  simp only [next, Option.toList_none, List.append_nil]
  exact {
    epSize := sends.epSize
    jobSize := sends.jobSize
    registered := sends.registered
    unhalted := sends.unhalted
    ended := sends.ended
    busy := sends.busy
    calls := sends.calls
    whole := Nat.dvd_add sends.whole (dvd_refl _)
    more := by omega
    moving := rfl
    load := by rw [count, sends.jobSize]
    count := by rw [count, sends.jobSize]
    short := by rw [count, sends.jobSize, sends.epSize, short]
    noZlp := sends.noZlp
    wire := by rw [sends.wire, ← frame_add positive (divides.trans sends.whole)] }

/-- An interrupt for a free bank changes nothing while no empty packet is to be sent. -/
theorem step_bank (noZlp : t.ep.txPktReadyInt = false) (unhalted : t.ep.job.stallRequested = false) :
    t.step .bank = t := by
  simp [step, uddEpBankInterrupt, noZlp, unhalted]

theorem step_stopped (stopped : t.ep.dmaOn = false) : t.step .dma = t := by
  simp [step, stopped]

theorem Waits.bank (waits : t.Waits size bufSize callback)
    (zlp : needsZlp size bufSize bShortpacket = true) :
    (t.step .bank).Ended size bufSize bShortpacket callback := by
  have sent : uddEpBankInterrupt t.ep =
      ({ t.ep with txPktReadyInt := false, job := { t.ep.job with busy := false } },
        some ⟨callback, .ok, bufSize⟩) := by
    simp [uddEpBankInterrupt, waits.zlp, uddEpFinishJob, waits.busy, waits.registered, waits.jobSize]
  simp only [step, sent, waits.zlp, if_true, Option.toList_some, waits.calls, List.nil_append]
  exact {
    moving := waits.moving
    noZlp := rfl
    unhalted := waits.unhalted
    wire := by rw [waits.wire, jobPackets, zlp, if_pos rfl]
    calls := rfl }

theorem partsLeft_next {bufSize sent : Nat} (more : sent < bufSize) :
    partsLeft bufSize (sent + uddEndpointMaxTrans) = partsLeft bufSize sent - 1 := by
  simp only [partsLeft, uddEndpointMaxTrans]
  omega

theorem partsLeft_last {bufSize sent : Nat} (more : sent < bufSize)
    (last : bufSize - sent ≤ uddEndpointMaxTrans) : partsLeft bufSize sent = 1 := by
  simp only [partsLeft, uddEndpointMaxTrans] at last ⊢
  omega

theorem Stage.step {left : Nat} (stage : t.Stage size bufSize bShortpacket callback left)
    (positive : 0 < size) (divides : size ∣ uddEndpointMaxTrans) :
    (t.step .dma).Stage size bufSize bShortpacket callback (left - 1) ∧
      (t.step .bank).Stage size bufSize bShortpacket callback left := by
  cases stage with
  | sends sent sends =>
    have bank := step_bank sends.noZlp sends.unhalted
    refine ⟨?_, by rw [bank]; exact .sends sent sends⟩
    by_cases last : bufSize - sent ≤ uddEndpointMaxTrans
    · rw [partsLeft_last sends.more last]
      exact sends.last positive divides last
    · rw [← partsLeft_next sends.more]
      exact .sends _ (sends.next positive divides (Nat.not_le.mp last))
  | waits waits zlp =>
    rw [step_stopped waits.moving]
    exact ⟨.waits waits zlp, .ended (waits.bank zlp)⟩
  | ended ended =>
    rw [step_stopped ended.moving, step_bank ended.noZlp ended.unhalted]
    exact ⟨.ended ended, .ended ended⟩

def Event.isDma : Event → Bool
  | .dma => true
  | .bank => false

theorem Stage.run {left : Nat} (stage : t.Stage size bufSize bShortpacket callback left)
    (positive : 0 < size) (divides : size ∣ uddEndpointMaxTrans) (events : List Event) :
    (Library.Runs.run InTransfer.step t events).Stage size bufSize bShortpacket callback
      (left - events.countP Event.isDma) := by
  induction events generalizing t left with
  | nil => exact stage
  | cons event events inductionHypothesis =>
    obtain ⟨dma, bank⟩ := stage.step positive divides
    rw [run_cons, List.countP_cons]
    cases event with
    | dma =>
      have later := inductionHypothesis dma
      rw [Event.isDma, if_pos rfl, Nat.add_comm, Nat.sub_add_eq]
      exact later
    | bank => exact inductionHypothesis bank

/-- At every stage a first part of the packets has been sent, and the call is made at the end. -/
theorem Stage.wired {left : Nat} (stage : t.Stage size bufSize bShortpacket callback left)
    (positive : 0 < size) (divides : size ∣ uddEndpointMaxTrans) :
    t.wire <+: jobPackets size bufSize bShortpacket ∧
      (t.calls = [] ∨ t.calls = [⟨callback, .ok, bufSize⟩] ∧
        t.wire = jobPackets size bufSize bShortpacket) := by
  cases stage with
  | sends sent sends =>
    have all : sent + (bufSize - sent) = bufSize := by
      have := sends.more
      omega
    have parts := frame_add positive (divides.trans sends.whole) (bufSize - sent)
    rw [all] at parts
    refine ⟨?_, .inl sends.calls⟩
    rw [sends.wire, jobPackets, parts, List.append_assoc]
    exact List.prefix_append _ _
  | waits waits zlp =>
    refine ⟨?_, .inl waits.calls⟩
    rw [waits.wire]
    exact List.prefix_append _ _
  | ended ended =>
    rw [ended.wire]
    exact ⟨List.prefix_refl _, .inr ⟨ended.calls, rfl⟩⟩

end InTransfer

end Job

/-- A receiver finds the end of a job where a packet shows it. -/
theorem receive_jobPackets {size : Nat} (positive : 0 < size) (bufSize : Nat) (bShortpacket : Bool) :
    receive size (jobPackets size bufSize bShortpacket) =
      if bufSize % size ≠ 0 ∨ bShortpacket = true ∨ bufSize = 0 then some (bufSize, []) else none := by
  have shown := receive_frame positive bufSize []
  rw [List.append_nil] at shown
  by_cases rest : bufSize % size = 0
  · by_cases zlp : bShortpacket = true ∨ bufSize = 0
    · have needs : needsZlp size bufSize bShortpacket = true := by simpa [needsZlp, rest] using zlp
      rw [jobPackets, needs, if_pos rfl, if_pos (.inr zlp)]
      rwa [if_pos rest] at shown
    · have none : needsZlp size bufSize bShortpacket = false := by
        simpa [needsZlp, rest, not_or] using zlp
      have unseen : ¬ (bufSize % size ≠ 0 ∨ bShortpacket = true ∨ bufSize = 0) := by
        rintro (short | asked)
        · exact short rest
        · exact zlp asked
      rw [jobPackets, none, if_neg Bool.false_ne_true, List.append_nil, if_neg unseen]
      exact receive_frame_whole rest
  · have none : needsZlp size bufSize bShortpacket = false := by simp [needsZlp, rest]
    rw [jobPackets, none, if_neg Bool.false_ne_true, if_pos (.inl rest)]
    rwa [if_neg rest] at shown

/-- A buffer of any size that an idle IN endpoint takes goes over the bus in full packets and a rest,
    with an empty packet behind them where one is needed; in whatever order the channel and the banks
    answer, nothing else is ever sent, and the callback comes once, when all has been sent.  It comes
    with the next free bank at the latest, once the channel has sent all its parts.  A host that reads
    up to a short packet gets exactly the buffer, unless the data has none and none was asked for. -/
theorem in_transfer_framed {ep : Endpoint} (free : ep.Free) (bShortpacket : Bool) (buf : Ptr)
    (bufSize : Nat) (callback : Callback) (events : List InTransfer.Event) :
    let start := InTransfer.start bShortpacket buf bufSize callback ep
    let packets := jobPackets ep.size bufSize bShortpacket
    Always InTransfer.step (fun t => t.wire <+: packets ∧
        (t.calls = [] ∨ t.calls = [⟨callback, .ok, bufSize⟩] ∧ t.wire = packets)) start events ∧
      (InTransfer.partsLeft bufSize 0 ≤ events.countP InTransfer.Event.isDma →
        (run InTransfer.step start (events ++ [.bank])).calls = [⟨callback, .ok, bufSize⟩]) ∧
      receive ep.size packets =
        if bufSize % ep.size ≠ 0 ∨ bShortpacket = true ∨ bufSize = 0 then some (bufSize, []) else none := by
  intro start packets
  have stage := start_stage free bShortpacket buf bufSize callback
  refine ⟨fun done _ => ?_, fun enough => ?_, receive_jobPackets free.positive bufSize bShortpacket⟩
  · exact (stage.run free.positive free.divides done).wired free.positive free.divides
  · have last := stage.run free.positive free.divides events
    rw [Nat.sub_eq_zero_of_le enough] at last
    have closed : (run InTransfer.step start (events ++ [.bank])).Ended ep.size bufSize bShortpacket
        callback := by
      rw [run_concat]
      generalize run InTransfer.step start events = t at last
      generalize left : 0 = n at last
      cases last with
      | sends sent sends =>
        have more := sends.more
        simp only [InTransfer.partsLeft, uddEndpointMaxTrans] at left
        omega
      | waits waits zlp => exact waits.bank zlp
      | ended ended => rwa [InTransfer.step_bank ended.noZlp ended.unhalted]
    exact closed.calls

theorem in_transfer_framed_zlp :
    let start := InTransfer.start true .null 131072 .mainVendorBulkInReceived
      { enabled := true, size := 512 }
    let packets := jobPackets 512 131072 true
    Always InTransfer.step (fun t => t.wire <+: packets ∧
        (t.calls = [] ∨ t.calls = [⟨.mainVendorBulkInReceived, .ok, 131072⟩] ∧ t.wire = packets)) start
        [.dma, .bank, .dma] ∧
      (run InTransfer.step start ([.dma, .bank, .dma] ++ [.bank])).calls =
        [⟨.mainVendorBulkInReceived, .ok, 131072⟩] ∧
      receive 512 packets = some (131072, []) := by
  have free : Endpoint.Free { enabled := true, size := 512 } := {
    ready := rfl
    idle := rfl
    ended := rfl
    noZlp := rfl
    stopped := rfl
    positive := by decide
    divides := by decide }
  obtain ⟨framed, ends, read⟩ :=
    in_transfer_framed free true .null 131072 .mainVendorBulkInReceived [.dma, .bank, .dma]
  exact ⟨framed, ends (by decide), read.trans (if_pos (.inr (.inl rfl)))⟩

end M1k
