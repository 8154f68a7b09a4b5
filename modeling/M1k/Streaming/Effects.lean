import M1k.Streaming.Machine

/-! # What each handler changes

Every handler ends in at most one call of the application, and a call only touches the flags.
`callBack_eq` says so once; the lemmas after it give each handler as one record update, so
that a later proof reads off the field it needs. -/

namespace M1k

/-! ## Calls of the application -/

/-- The call clears `sending_in`. -/
def clearsIn (completion : Option Completion) : Bool :=
  completion.any fun c => c.status = .ok && c.callback = .mainVendorBulkInReceived

/-- The call clears `sending_out`. -/
def clearsOut (completion : Option Completion) : Bool :=
  completion.any fun c => c.status = .ok && c.callback ≠ .mainVendorBulkInReceived

/-- The call ends the first OUT transfer of a session. -/
def completesFirst (completion : Option Completion) : Bool :=
  completion.any fun c => c.status = .ok && c.callback = .mainVendorBulkOutReceivedFirst

def callObs (completion : Option Completion) : List Obs := completion.toList.map .completed

theorem callBack_eq (completion : Option Completion) (s : Stream) :
    callBack completion s = { s with
      sendingIn := s.sendingIn && !clearsIn completion
      sendingOut := s.sendingOut && !clearsOut completion
      startTimer := s.startTimer || (completesFirst completion && !s.sentOut)
      sentOut := s.sentOut || completesFirst completion
      trace := s.trace ++ callObs completion } := by
  cases completion with
  | none => simp [callBack, clearsIn, clearsOut, completesFirst, callObs]
  | some c =>
    obtain ⟨callback, status, nbTransfered⟩ := c
    cases status with
    | abort =>
      cases callback <;>
        simp [callBack, callTrans, mainVendorBulkInReceived, mainVendorBulkOutReceived,
          mainVendorBulkOutReceivedFirst, Stream.observe, clearsIn, clearsOut, completesFirst, callObs]
    | ok =>
      cases callback with
      | mainVendorBulkInReceived =>
        simp [callBack, callTrans, mainVendorBulkInReceived, Stream.observe, clearsIn, clearsOut,
          completesFirst, callObs]
      | mainVendorBulkOutReceived =>
        simp [callBack, callTrans, mainVendorBulkOutReceived, Stream.observe, clearsIn, clearsOut,
          completesFirst, callObs]
      | mainVendorBulkOutReceivedFirst =>
        cases sent : s.sentOut <;>
          simp [callBack, callTrans, mainVendorBulkOutReceivedFirst, Stream.observe, clearsIn,
            clearsOut, completesFirst, callObs, sent]

@[simp] theorem clearsIn_none : clearsIn none = false := rfl
@[simp] theorem clearsOut_none : clearsOut none = false := rfl
@[simp] theorem completesFirst_none : completesFirst none = false := rfl
@[simp] theorem callObs_none : callObs none = [] := rfl

section Aborted

variable (ep : Endpoint)

@[simp] theorem clearsIn_abort : clearsIn (uddEpFinishJob true ep).2 = false := by
  cases busy : ep.job.busy <;> cases call : ep.job.callTrans <;>
    simp [uddEpFinishJob, clearsIn, busy, call]

@[simp] theorem clearsOut_abort : clearsOut (uddEpFinishJob true ep).2 = false := by
  cases busy : ep.job.busy <;> cases call : ep.job.callTrans <;>
    simp [uddEpFinishJob, clearsOut, busy, call]

@[simp] theorem completesFirst_abort : completesFirst (uddEpFinishJob true ep).2 = false := by
  cases busy : ep.job.busy <;> cases call : ep.job.callTrans <;>
    simp [uddEpFinishJob, completesFirst, busy, call]

@[simp] theorem clearsIn_uddEpAbort (dirIn : Bool) : clearsIn (uddEpAbort dirIn ep).2 = false := by
  simp [uddEpAbort]

@[simp] theorem clearsOut_uddEpAbort (dirIn : Bool) : clearsOut (uddEpAbort dirIn ep).2 = false := by
  simp [uddEpAbort]

end Aborted

/-! ## Endpoints -/

theorem onEp_bulkIn (f : Endpoint → Endpoint × Option Completion) (s : Stream) :
    onEp .bulkIn f s = callBack (f s.epIn).2 { s with epIn := (f s.epIn).1 } := rfl

theorem onEp_bulkOut (f : Endpoint → Endpoint × Option Completion) (s : Stream) :
    onEp .bulkOut f s = callBack (f s.epOut).2 { s with epOut := (f s.epOut).1 } := rfl

theorem udiVendorBulkRun_bulkIn (buf : Ptr) (bufSize : Nat) (callback : Callback) (s : Stream) :
    udiVendorBulkRun .bulkIn buf bufSize callback s =
      let result := uddEpRun true false buf bufSize (some callback) s.epIn
      callBack result.2.2 { s with
        epIn := result.2.1
        trace := s.trace ++ [.epRun .bulkIn buf bufSize result.1] } := rfl

theorem udiVendorBulkRun_bulkOut (buf : Ptr) (bufSize : Nat) (callback : Callback) (s : Stream) :
    udiVendorBulkRun .bulkOut buf bufSize callback s =
      let result := uddEpRun false false buf bufSize (some callback) s.epOut
      callBack result.2.2 { s with
        epOut := result.2.1
        trace := s.trace ++ [.epRun .bulkOut buf bufSize result.1] } := rfl

/-- The IN channel that has sent the whole of a buffer ends its job. -/
theorem dmaInDone_moving {ep : Endpoint} (enabled : ep.enabled = true) (buf : Ptr) (bufSize : Nat)
    (callback : Callback) :
    dmaInDone (ep.moving buf bufSize callback) =
      ({ ep.moving buf bufSize callback with
          dmaOn := false
          dmaCount := bufSize
          job := { (ep.moving buf bufSize callback).job with busy := false } },
        some ⟨callback, .ok, bufSize⟩) := by
  simp [dmaInDone, Endpoint.moving, enabled, uddEpDmaInterrupt, uddEpTransDone, uddEpTransEnd,
    uddEpFinishJob]

/-- `sending_in` or `sending_out` -/
def Stream.sending (s : Stream) : EpId → Bool
  | .bulkIn => s.sendingIn
  | .bulkOut => s.sendingOut

/-! ## Request 0xC5 -/

/-- The sampler after the assignments of a start request. -/
def Sampler.restart (s : Sampler) : Sampler :=
  { s with
    currentChan := .A
    slotOffsetIn := 254
    slotOffsetOut := 0
    packetIndexIn := 0
    packetIndexOut := 0
    packetIndexSendIn := 0
    packetIndexSendOut := 0
    sendIn := false
    sendOut := false
    notANewTransfer := 4 }

/-- The first OUT transfer of a session is asked for on an endpoint whose job was aborted. -/
def firstRun (epOut : Endpoint) : Bool × Endpoint × Option Completion :=
  uddEpRun false false (.packetsOut 0 0) 1024 (some .mainVendorBulkOutReceivedFirst)
    (uddEpAbort false epOut).1

theorem configureSampling_stop {wValue : UInt16} (stop : wValue < 1) (wIndex : UInt16)
    (s : Stream) :
    configureSampling wValue wIndex s = { s with
      tc := { s.tc with running := false }
      trace := s.trace ++ [.request wValue wIndex] } := by
  simp [configureSampling, stop, tcStop, Stream.observe]

theorem configureSampling_start {wValue : UInt16} (start : 1 ≤ wValue) (wIndex : UInt16)
    (s : Stream) :
    configureSampling wValue wIndex s = { s with
      smp := s.smp.restart
      sentIn := false
      sendingIn := false
      tc := { s.tc with ra := 10, rb := wValue.toUInt32 - 30, rc := wValue.toUInt32 }
      startFrame := wIndex
      sentOut := completesFirst (firstRun s.epOut).2.2
      sendingOut := !clearsOut (firstRun s.epOut).2.2
      startTimer := s.startTimer || completesFirst (firstRun s.epOut).2.2
      epIn := (uddEpAbort true s.epIn).1
      epOut := (firstRun s.epOut).2.1
      trace := s.trace ++ ([.request wValue wIndex] ++ callObs (uddEpAbort true s.epIn).2 ++
        callObs (uddEpAbort false s.epOut).2 ++
        [.epRun .bulkOut (.packetsOut 0 0) 1024 (firstRun s.epOut).1] ++
        callObs (firstRun s.epOut).2.2) } := by
  have notStop : ¬ wValue < 1 := UInt16.not_lt.mpr start
  simp [configureSampling, notStop, startStatements, udiVendorBulkRun, onEp, callBack_eq,
    Stream.observe, Stream.ep, Stream.setEp, EpId.isIn, uddEpAbort, firstRun, Sampler.restart]

end M1k
