import M1k.Sampling.Handler

/-! # Bulk endpoints and their jobs

The part of the USB device driver that moves data on an endpoint other than the control
endpoint.  A job is what `udd_ep_run` registers; the driver ends it through
`udd_ep_finish_job`, which calls the job's callback.  A function that ends a job returns the
call it makes, because the callbacks belong to the application. -/

namespace M1k

/-- The two endpoints of the vendor interface: `1 | USB_EP_DIR_IN` and `2 | USB_EP_DIR_OUT`. -/
inductive EpId where
  | bulkIn
  | bulkOut
  deriving DecidableEq

/-- `Is_udd_endpoint_in` -/
def EpId.isIn : EpId → Bool
  | .bulkIn => true
  | .bulkOut => false

/-- `&buf[bytes]`: every part of a job starts at a word of its buffer. -/
def Ptr.advance (bytes : Nat) : Ptr → Ptr
  | .packetsIn packet word => .packetsIn packet (word + bytes / 2)
  | .packetsOut packet word => .packetsOut packet (word + bytes / 2)
  | other => other

/-- `udd_ep_status_t` -/
inductive Status where
  | ok
  | abort
  deriving DecidableEq

/-- The functions this firmware registers as `call_trans`. -/
inductive Callback where
  | mainVendorBulkInReceived
  | mainVendorBulkOutReceived
  | mainVendorBulkOutReceivedFirst
  deriving DecidableEq

/-- A call of a registered callback. -/
structure Completion where
  callback : Callback
  status : Status
  nbTransfered : Nat
  deriving DecidableEq

/-- `udd_ep_job_t` -/
structure EpJob where
  callTrans : Option Callback := none
  buf : Ptr := .null
  bufSize : Nat := 0
  bufCnt : Nat := 0
  bufLoad : Nat := 0
  busy : Bool := false
  bShortpacket : Bool := false
  stallRequested : Bool := false
  deriving DecidableEq

/-- The entry of `udd_ep_job` for an endpoint, with the endpoint's registers. -/
structure Endpoint where
  job : EpJob := {}
  enabled : Bool := false
  /-- `FRCESTALL`: every packet is answered with a STALL. -/
  stall : Bool := false
  size : Nat := 0
  busyBanks : Nat := 0
  /-- `CHANN_ENB`: the DMA channel is moving data for a job. -/
  dmaOn : Bool := false
  /-- Bytes the channel has moved since it was enabled. -/
  dmaCount : Nat := 0
  /-- `END_TR_ST`: a packet ended the transfer before the channel was enabled. -/
  endTrSt : Bool := false
  /-- The interrupt that waits for a free bank to send a zero-length packet in. -/
  txPktReadyInt : Bool := false
  deriving DecidableEq

def uddEndpointMaxTrans : Nat := 0x10000

/-- `udd_ep_finish_job` -/
def uddEpFinishJob (bAbort : Bool) (ep : Endpoint) : Endpoint × Option Completion :=
  if ep.job.busy = false then (ep, none)
  else
    ({ ep with job := { ep.job with busy := false } },
      ep.job.callTrans.map fun callback => ⟨callback, if bAbort then .abort else .ok, ep.job.bufSize⟩)

/-- The end of `udd_ep_trans_done`: no data is left to move. -/
def uddEpTransEnd (isIn : Bool) (ep : Endpoint) : Endpoint × Option Completion :=
  if isIn && ep.job.bShortpacket then ({ ep with txPktReadyInt := true }, none)
  else uddEpFinishJob false ep

/-- `udd_ep_trans_done` -/
def uddEpTransDone (isIn : Bool) (ep : Endpoint) : Endpoint × Option Completion :=
  if ep.job.busy = false then (ep, none)
  else if ep.job.bufCnt = ep.job.bufSize then uddEpTransEnd isIn ep
  else
    let nextTrans := min (ep.job.bufSize - ep.job.bufCnt) uddEndpointMaxTrans
    let bShortpacket := ep.job.bShortpacket && !(isIn && decide (nextTrans % ep.size ≠ 0))
    if ep.endTrSt = false then
      ({ ep with
          dmaOn := true
          dmaCount := 0
          job := { ep.job with
            bufCnt := ep.job.bufCnt + nextTrans
            bufLoad := nextTrans
            bShortpacket := bShortpacket } }, none)
    else
      -- a zero-length packet came in already: the status is read, and the job ends here
      uddEpTransEnd isIn { ep with
        endTrSt := false
        job := { ep.job with bufSize := ep.job.bufCnt, bShortpacket := bShortpacket } }

/-- Neither disabled nor halted: what `udd_ep_run` asks of the endpoint. -/
def Endpoint.ready (ep : Endpoint) : Bool := ep.enabled && !ep.stall && !ep.job.stallRequested

/-- `udd_ep_run`: whether the job was taken, the endpoint, and a call made at once -/
def uddEpRun (isIn bShortpacket : Bool) (buf : Ptr) (bufSize : Nat) (callback : Option Callback)
    (ep : Endpoint) : Bool × Endpoint × Option Completion :=
  if ep.ready = false then (false, ep, none)
  else if ep.job.busy then (false, ep, none)
  else
    (true, uddEpTransDone isIn { ep with
      job := { ep.job with
        busy := true
        buf := buf
        bufSize := bufSize
        bufCnt := 0
        bufLoad := 0
        callTrans := callback
        bShortpacket := bShortpacket || decide (bufSize = 0) } })

/-- `udd_ep_abort`, called with `dirIn` the direction bit of the address it is given -/
def uddEpAbort (dirIn : Bool) (ep : Endpoint) : Endpoint × Option Completion :=
  uddEpFinishJob true { ep with
    dmaOn := false
    busyBanks := if dirIn then 0 else ep.busyBanks }

/-- `udd_ep_free` -/
def uddEpFree (ep : Endpoint) : Endpoint × Option Completion :=
  let aborted := uddEpFinishJob true { ep with enabled := false, busyBanks := 0 }
  ({ aborted.1 with job := { aborted.1.job with stallRequested := false } }, aborted.2)

/-- What `udd_ep_alloc` does to an enabled endpoint whose memory it moves: its banks are
    mapped again, and a running job is started over with the part that is left. -/
def uddEpRealloc (isIn : Bool) (ep : Endpoint) : Bool × Endpoint × Option Completion :=
  if ep.enabled = false then (true, ep, none)
  else if ep.job.busy = false then (true, { ep with busyBanks := 0 }, none)
  else
    let bufCnt := ep.job.bufCnt - ep.job.bufLoad
    uddEpRun isIn ep.job.bShortpacket (ep.job.buf.advance bufCnt) (ep.job.bufSize - bufCnt)
      ep.job.callTrans
      { ep with busyBanks := 0, job := { ep.job with busy := false, bufCnt := bufCnt } }

/-- `udd_ep_set_halt` -/
def uddEpSetHalt (dirIn : Bool) (ep : Endpoint) : Bool × Endpoint :=
  if ep.stall || ep.job.stallRequested then (true, ep)
  else if ep.job.busy then (false, ep)
  else if dirIn && decide (ep.busyBanks ≠ 0) then
    (true, { ep with job := { ep.job with stallRequested := true } })
  else (true, { ep with stall := true })

/-- `udd_ep_clear_halt`.  A job that is still registered is called through `call_nohalt`, which
    shares its storage with `call_trans`: the callback finds `junk` where its status should be. -/
def uddEpClearHalt (junk : Status) (ep : Endpoint) : Endpoint × Option Completion :=
  if (ep.stall || ep.job.stallRequested) && ep.job.busy then
    ({ ep with stall := false, job := { ep.job with stallRequested := false, busy := false } },
      ep.job.callTrans.map fun callback => ⟨callback, junk, 0⟩)
  else
    ({ ep with stall := false, job := { ep.job with stallRequested := false } }, none)

/-- The DMA interrupt of `udd_ep_interrupt`: the channel has stopped, full or on a short packet. -/
def uddEpDmaInterrupt (isIn : Bool) (ep : Endpoint) : Endpoint × Option Completion :=
  if ep.dmaOn = false then (ep, none)
  else
    let nbRemaining := ep.job.bufLoad - ep.dmaCount
    uddEpTransDone isIn { ep with
      dmaOn := false
      job := if nbRemaining = 0 then ep.job else
        { ep.job with
          bufCnt := ep.job.bufCnt - nbRemaining
          bufSize := ep.job.bufCnt - nbRemaining } }

/-- The bank interrupts of `udd_ep_interrupt`: a bank came free. -/
def uddEpBankInterrupt (ep : Endpoint) : Endpoint × Option Completion :=
  if ep.txPktReadyInt then uddEpFinishJob false { ep with txPktReadyInt := false }
  else if ep.job.stallRequested then
    ({ ep with busyBanks := 0, stall := true, job := { ep.job with stallRequested := false } }, none)
  else (ep, none)

/-! ## Ending a job -/

@[simp] theorem uddEpFinishJob_busy (bAbort : Bool) (ep : Endpoint) :
    (uddEpFinishJob bAbort ep).1.job.busy = false := by
  cases busy : ep.job.busy <;> simp [uddEpFinishJob, busy]

@[simp] theorem uddEpFinishJob_idle (bAbort : Bool) {ep : Endpoint} (idle : ep.job.busy = false) :
    uddEpFinishJob bAbort ep = (ep, none) := by
  simp [uddEpFinishJob, idle]

theorem uddEpFinishJob_fst (bAbort : Bool) (ep : Endpoint) :
    (uddEpFinishJob bAbort ep).1 = { ep with job := { ep.job with busy := false } } := by
  cases busy : ep.job.busy with
  | false => rw [uddEpFinishJob_idle bAbort busy]; simp [← busy]
  | true => simp [uddEpFinishJob, busy]

/-- Ending a job with an abort makes no call that reports success. -/
theorem uddEpFinishJob_aborts {ep : Endpoint} {c : Completion}
    (called : (uddEpFinishJob true ep).2 = some c) : c.status = .abort := by
  cases busy : ep.job.busy <;> cases call : ep.job.callTrans <;>
    simp [uddEpFinishJob, busy, call] at called
  rw [← called]

/-! ## Starting a job -/

/-- The endpoint whose channel moves the whole of a buffer for a job. -/
def Endpoint.moving (buf : Ptr) (bufSize : Nat) (callback : Callback) (ep : Endpoint) : Endpoint :=
  { ep with
    dmaOn := true
    dmaCount := 0
    job := { ep.job with
      busy := true
      buf := buf
      bufSize := bufSize
      bufCnt := bufSize
      bufLoad := bufSize
      callTrans := some callback
      bShortpacket := false } }

/-- The endpoint after a job that a waiting zero-length packet ended at once. -/
def Endpoint.ended (buf : Ptr) (callback : Callback) (ep : Endpoint) : Endpoint :=
  { ep with
    endTrSt := false
    job := { ep.job with
      busy := false
      buf := buf
      bufSize := 0
      bufCnt := 0
      bufLoad := 0
      callTrans := some callback
      bShortpacket := false } }

/-- All that `udd_ep_run` can do with a buffer of a size the channel moves at once. -/
theorem uddEpRun_cases (isIn : Bool) (buf : Ptr) {bufSize : Nat} (callback : Callback)
    (ep : Endpoint) (positive : 0 < bufSize) (small : bufSize ≤ uddEndpointMaxTrans) :
    ((ep.ready = false ∨ ep.job.busy = true) ∧
        uddEpRun isIn false buf bufSize (some callback) ep = (false, ep, none)) ∨
      (ep.ready = true ∧ ep.job.busy = false ∧ ep.endTrSt = false ∧
        uddEpRun isIn false buf bufSize (some callback) ep =
          (true, ep.moving buf bufSize callback, none)) ∨
      (ep.ready = true ∧ ep.job.busy = false ∧ ep.endTrSt = true ∧
        uddEpRun isIn false buf bufSize (some callback) ep =
          (true, ep.ended buf callback, some ⟨callback, .ok, 0⟩)) := by
  have nonempty : ¬ 0 = bufSize := by omega
  have notZero : bufSize ≠ 0 := by omega
  cases ready : ep.ready with
  | false => exact .inl ⟨.inl rfl, by simp [uddEpRun, ready]⟩
  | true =>
    cases busy : ep.job.busy with
    | true => exact .inl ⟨.inr rfl, by simp [uddEpRun, ready, busy]⟩
    | false =>
      cases ended : ep.endTrSt with
      | false =>
        refine .inr (.inl ⟨rfl, rfl, rfl, ?_⟩)
        simp [uddEpRun, ready, busy, uddEpTransDone, nonempty, notZero, ended, Endpoint.moving,
          Nat.min_eq_left small]
      | true =>
        refine .inr (.inr ⟨rfl, rfl, rfl, ?_⟩)
        simp [uddEpRun, ready, busy, uddEpTransDone, nonempty, notZero, ended, Endpoint.ended,
          uddEpTransEnd, uddEpFinishJob]

/-! ## Jobs that can end -/

/-- The callbacks registered on an endpoint. -/
def EpId.Owns : EpId → Callback → Prop
  | .bulkIn, callback => callback = .mainVendorBulkInReceived
  | .bulkOut, callback =>
    callback = .mainVendorBulkOutReceived ∨ callback = .mainVendorBulkOutReceivedFirst

/-- A registered job runs on an endpoint that lets it run, was handed to the channel whole, and
    ends in a call of one of the endpoint's callbacks. -/
structure Endpoint.Sound (id : EpId) (ep : Endpoint) : Prop where
  ready : ep.job.busy = true → ep.ready = true
  owned : ep.job.busy = true → ∃ callback, ep.job.callTrans = some callback ∧ id.Owns callback
  whole : ep.job.busy = true → ep.job.bufCnt = ep.job.bufSize
  short : ep.job.busy = true → ep.job.bShortpacket = false
  noZlp : ep.txPktReadyInt = false

theorem Endpoint.Sound.of_idle {id : EpId} {ep : Endpoint} (idle : ep.job.busy = false)
    (noZlp : ep.txPktReadyInt = false) : ep.Sound id := by
  constructor <;> simp [idle, noZlp]

theorem Endpoint.Sound.moving {id : EpId} {ep : Endpoint} (sound : ep.Sound id)
    (ready : ep.ready = true) (buf : Ptr) (bufSize : Nat) {callback : Callback}
    (owns : id.Owns callback) : (ep.moving buf bufSize callback).Sound id where
  ready _ := ready
  owned _ := ⟨callback, rfl, owns⟩
  whole _ := rfl
  short _ := rfl
  noZlp := sound.noZlp

/-- The number of bytes that a channel has moved for a job when it stops. -/
def Endpoint.moved (ep : Endpoint) : Nat := ep.job.bufCnt - (ep.job.bufLoad - ep.dmaCount)

/-- On a job handed over whole, the DMA interrupt is the end of the job. -/
theorem uddEpDmaInterrupt_sound {id : EpId} {ep : Endpoint} (sound : ep.Sound id) (isIn : Bool)
    (on : ep.dmaOn = true) :
    uddEpDmaInterrupt isIn ep =
      if ep.job.busy then
        ({ ep with
            dmaOn := false
            job := { ep.job with busy := false, bufCnt := ep.moved, bufSize := ep.moved } },
          ep.job.callTrans.map fun callback => ⟨callback, .ok, ep.moved⟩)
      else
        ({ ep with
            dmaOn := false
            job := if ep.job.bufLoad - ep.dmaCount = 0 then ep.job else
              { ep.job with bufCnt := ep.moved, bufSize := ep.moved } }, none) := by
  cases busy : ep.job.busy with
  | false =>
    by_cases full : ep.job.bufLoad - ep.dmaCount = 0
    · simp [uddEpDmaInterrupt, on, uddEpTransDone, busy, full]
    · simp [uddEpDmaInterrupt, on, uddEpTransDone, busy, full, Endpoint.moved]
  | true =>
    have whole := sound.whole busy
    have short := sound.short busy
    by_cases full : ep.job.bufLoad - ep.dmaCount = 0
    · simp [uddEpDmaInterrupt, on, uddEpTransDone, uddEpTransEnd, uddEpFinishJob, busy, full, whole,
        short, Endpoint.moved]
    · simp [uddEpDmaInterrupt, on, uddEpTransDone, uddEpTransEnd, uddEpFinishJob, busy, full, whole,
        short, Endpoint.moved]

/-- A running job's endpoint is not halted, so clearing its halt does not touch the job. -/
theorem uddEpClearHalt_sound {id : EpId} {ep : Endpoint} (sound : ep.Sound id) (junk : Status) :
    uddEpClearHalt junk ep =
      ({ ep with stall := false, job := { ep.job with stallRequested := false } }, none) := by
  cases busy : ep.job.busy with
  | false => simp [uddEpClearHalt, busy]
  | true =>
    have ready := sound.ready busy
    simp only [Endpoint.ready, Bool.and_eq_true, Bool.not_eq_true'] at ready
    simp [uddEpClearHalt, busy, ready]

@[simp] theorem uddEpFree_enabled (ep : Endpoint) : (uddEpFree ep).1.enabled = false := by
  simp [uddEpFree, uddEpFinishJob_fst]

@[simp] theorem uddEpFree_busy (ep : Endpoint) : (uddEpFree ep).1.job.busy = false := by
  simp [uddEpFree]

theorem uddEpFree_sound {id : EpId} {ep : Endpoint} (sound : ep.Sound id) :
    (uddEpFree ep).1.Sound id :=
  .of_idle (uddEpFree_busy ep) (by simpa [uddEpFree, uddEpFinishJob_fst] using sound.noZlp)

theorem uddEpAbort_fst (dirIn : Bool) (ep : Endpoint) :
    (uddEpAbort dirIn ep).1 = { ep with
      dmaOn := false
      busyBanks := if dirIn then 0 else ep.busyBanks
      job := { ep.job with busy := false } } := by
  rw [uddEpAbort, uddEpFinishJob_fst]

theorem uddEpSetHalt_job (dirIn : Bool) {ep : Endpoint} (idle : ep.job.busy = false) :
    (uddEpSetHalt dirIn ep).2.job.busy = false ∧
      (uddEpSetHalt dirIn ep).2.txPktReadyInt = ep.txPktReadyInt ∧
      (uddEpSetHalt dirIn ep).2.enabled = ep.enabled ∧
      (uddEpSetHalt dirIn ep).2.endTrSt = ep.endTrSt := by
  simp only [uddEpSetHalt]
  split_ifs <;> simp [idle]

theorem uddEpBankInterrupt_sound {id : EpId} {ep : Endpoint} (sound : ep.Sound id) :
    uddEpBankInterrupt ep = if ep.job.stallRequested then
      ({ ep with busyBanks := 0, stall := true, job := { ep.job with stallRequested := false } }, none)
    else (ep, none) := by
  simp [uddEpBankInterrupt, sound.noZlp]

theorem Endpoint.Sound.idle_of_stallRequested {id : EpId} {ep : Endpoint} (sound : ep.Sound id)
    (requested : ep.job.stallRequested = true) : ep.job.busy = false := by
  cases busy : ep.job.busy with
  | false => rfl
  | true => simpa [Endpoint.ready, requested] using sound.ready busy

theorem uddEpDmaInterrupt_keeps {id : EpId} {ep : Endpoint} (sound : ep.Sound id) (isIn : Bool)
    (on : ep.dmaOn = true) :
    (uddEpDmaInterrupt isIn ep).1.job.busy = false ∧
      (uddEpDmaInterrupt isIn ep).1.txPktReadyInt = false ∧
      (uddEpDmaInterrupt isIn ep).1.enabled = ep.enabled ∧
      (uddEpDmaInterrupt isIn ep).1.endTrSt = ep.endTrSt := by
  rw [uddEpDmaInterrupt_sound sound isIn on]
  cases busy : ep.job.busy with
  | true => simp [sound.noZlp]
  | false =>
    simp only [Bool.false_eq_true, if_false]
    split_ifs <;> simp [busy, sound.noZlp]

theorem uddEpRun_sound {id : EpId} {ep : Endpoint} (sound : ep.Sound id) (isIn : Bool) (buf : Ptr)
    {bufSize : Nat} {callback : Callback} (owns : id.Owns callback) (positive : 0 < bufSize)
    (small : bufSize ≤ uddEndpointMaxTrans) :
    (uddEpRun isIn false buf bufSize (some callback) ep).2.1.Sound id ∧
      (uddEpRun isIn false buf bufSize (some callback) ep).2.1.enabled = ep.enabled ∧
      (ep.endTrSt = false → (uddEpRun isIn false buf bufSize (some callback) ep).2.1.endTrSt = false) := by
  obtain ⟨-, run⟩ | ⟨ready, -, -, run⟩ | ⟨-, -, -, run⟩ :=
    uddEpRun_cases isIn buf callback ep positive small
  · rw [run]
    exact ⟨sound, rfl, fun still => still⟩
  · rw [run]
    exact ⟨sound.moving ready buf bufSize owns, rfl, fun still => still⟩
  · rw [run]
    exact ⟨.of_idle rfl sound.noZlp, rfl, fun _ => rfl⟩

end M1k
