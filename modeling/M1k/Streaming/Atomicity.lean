import M1k.Library.Refinement
import M1k.Streaming.FlagAgreement

/-! # Run calls that are not disturbed

As long as no interrupt concerns the endpoint that a run call of the main loop is at work on, it does
not matter where the call is cut: it might as well be made at once, when it returns.  The run is then
one of the streaming machine, which takes the call in one step. -/

namespace M1k

open Library.Runs

/-! ## Events that do not concern an endpoint -/

/-- The host takes the endpoint down, or halts it. -/
def TakesDown (id : EpId) (s : Stream) : Event → Prop
  | .busReset _ => True
  | .setConfiguration wValue wLength =>
    wLength = 0 ∧ s.address ≠ 0 ∧ (wValue &&& 0xFF).toNat ≤ 1
  | .setInterface _ wIndex wLength =>
    wLength = 0 ∧ s.udcNumConfiguration ≠ 0 ∧ (wIndex &&& 0xFF).toNat = 0
  | .setFeature wValue wIndex wLength =>
    (wLength = 0 ∧ wValue = 0) ∧ EpId.ofAddress wIndex = some id
  | _ => False

/-- The event registers a job, or comes from a channel of the endpoint that still runs. -/
def UsesJob (id : EpId) (s : Stream) : Event → Prop
  | .request wValue _ => 1 ≤ wValue
  | .outByte _ | .outDone => id = .bulkOut ∧ s.epOut.dmaOn = true
  | .inDone => id = .bulkIn ∧ s.epIn.dmaOn = true
  | _ => False

/-- No interrupt takes the endpoint of a run call from under it, or uses its job. -/
def SparesCall (f : Preemptible) (event : Event) : Prop :=
  ∀ call, f.stream.pc.runCall = some call → f.place ≠ .called →
    ¬ TakesDown call.id f.stream event ∧ (f.place ≠ .tested → ¬ UsesJob call.id f.stream event)

instance (id : EpId) (s : Stream) : DecidablePred (TakesDown id s)
  | .busReset _ => inferInstanceAs (Decidable True)
  | .setConfiguration .. => inferInstanceAs (Decidable (_ ∧ _))
  | .setInterface .. => inferInstanceAs (Decidable (_ ∧ _))
  | .setFeature .. => inferInstanceAs (Decidable (_ ∧ _))
  | .tc2 | .loop | .sof _ | .request .. | .outByte _ | .outDone | .outEndTr | .inDone | .inBanks _
  | .setAddress _ | .clearFeature .. => inferInstanceAs (Decidable False)

instance (id : EpId) (s : Stream) : DecidablePred (UsesJob id s)
  | .request wValue _ => inferInstanceAs (Decidable (1 ≤ wValue))
  | .outByte _ | .outDone => inferInstanceAs (Decidable (_ ∧ _))
  | .inDone => inferInstanceAs (Decidable (_ ∧ _))
  | .tc2 | .loop | .sof _ | .outEndTr | .inBanks _ | .busReset _ | .setAddress _
  | .setConfiguration .. | .setInterface .. | .setFeature .. | .clearFeature .. =>
    inferInstanceAs (Decidable False)

instance (f : Preemptible) : DecidablePred (SparesCall f) := fun event =>
  inferInstanceAs (Decidable (∀ call ∈ f.stream.pc.runCall, f.place ≠ .called →
    ¬ TakesDown call.id f.stream event ∧ (f.place ≠ .tested → ¬ UsesJob call.id f.stream event)))

section Refused

variable {s : Stream}

theorem setConfiguration_refused {id : EpId} {wValue wLength : UInt16}
    (stays : ¬ TakesDown id s (.setConfiguration wValue wLength)) :
    udcReqStdDevSetConfiguration wValue wLength s = (false, s) := by
  simp only [udcReqStdDevSetConfiguration]
  split_ifs with length address number
  · rfl
  · rfl
  · rfl
  · exact absurd ⟨not_not.mp length, address, by omega⟩ stays
  · exact absurd ⟨not_not.mp length, address, by omega⟩ stays

theorem setInterface_refused {id : EpId} {wValue wIndex wLength : UInt16}
    (stays : ¬ TakesDown id s (.setInterface wValue wIndex wLength)) :
    udcReqStdIfaceSetSetting wValue wIndex wLength s = (false, s) := by
  simp only [udcReqStdIfaceSetSetting]
  by_cases accepted : wLength = 0 ∧ s.udcNumConfiguration ≠ 0
  · have other : (wIndex &&& 0xFF).toNat ≠ 0 := fun iface => stays ⟨accepted.1, accepted.2, iface⟩
    rw [if_neg (by simp [accepted]), if_neg accepted.2, udcIfaceDisable_other other, if_pos rfl]
  · by_cases length : wLength = 0
    · have unconfigured : s.udcNumConfiguration = 0 := by
        by_contra configured
        exact accepted ⟨length, configured⟩
      simp [length, unconfigured]
    · simp [length]

end Refused

/-- A channel that ends its buffer leaves the endpoint as ready as it was. -/
theorem uddEpDmaInterrupt_ready {id : EpId} {ep : Endpoint} (sound : ep.Sound id) (isIn : Bool) :
    (uddEpDmaInterrupt isIn ep).1.ready = ep.ready := by
  cases on : ep.dmaOn with
  | false => rw [uddEpDmaInterrupt, if_pos on]
  | true =>
    rw [uddEpDmaInterrupt_sound sound isIn on]
    split_ifs <;> rfl

/-- A start request aborts the jobs and asks for a transfer, which is nothing to the halts. -/
theorem ready_start {wValue : UInt16} (start : 1 ≤ wValue) (wIndex : UInt16) (s : Stream) (id : EpId) :
    ((configureSampling wValue wIndex s).ep id).ready = (s.ep id).ready := by
  rw [configureSampling_start start]
  cases id with
  | bulkIn =>
    show (uddEpAbort true s.epIn).1.ready = s.epIn.ready
    rw [uddEpAbort_fst]
    rfl
  | bulkOut =>
    have still : (uddEpAbort false s.epOut).1.ready = s.epOut.ready := by
      rw [uddEpAbort_fst]
      rfl
    show (firstRun s.epOut).2.1.ready = s.epOut.ready
    rw [firstRun, ← still]
    obtain ⟨-, run⟩ | ⟨-, -, -, run⟩ | ⟨-, -, -, run⟩ :=
      uddEpRun_cases false (.packetsOut 0 0) .mainVendorBulkOutReceivedFirst
        (uddEpAbort false s.epOut).1 (by decide : 0 < 1024) (by decide)
    · rw [run]
    · rw [run]
      rfl
    · rw [run]
      rfl

/-- An event that does not take the endpoint down leaves it ready. -/
theorem ready_event {s : Stream} (wired : Wired s) (id : EpId) {event : Event} (noLoop : event ≠ .loop)
    (stays : ¬ TakesDown id s event) (ready : (s.ep id).ready = true) :
    ((step s event).ep id).ready = true := by
  cases event with
  | tc2 =>
    simp only [step, tc2Interrupt]
    split_ifs
    · exact ready
    · cases id <;> exact ready
  | loop => exact absurd rfl noLoop
  | sof fnum =>
    simp only [step, mainSofAction]
    split_ifs <;> cases id <;> exact ready
  | request wValue wIndex =>
    rw [step]
    by_cases stop : wValue < 1
    · rw [configureSampling_stop stop]
      cases id <;> exact ready
    · rw [ready_start (UInt16.not_lt.mp stop)]
      exact ready
  | outByte value =>
    simp only [step, dmaOutByte]
    split_ifs
    · cases s.epOut.job.buf with
      | packetsOut packet word => cases id <;> exact ready
      | _ => exact ready
    · exact ready
  | outDone =>
    cases id with
    | bulkIn =>
      rw [step, onEp_ep_other _ _ _ (by decide)]
      exact ready
    | bulkOut =>
      rw [step, onEp_ep, dmaOutDone]
      split_ifs
      · exact (uddEpDmaInterrupt_ready wired.soundOut false).trans ready
      · exact ready
  | outEndTr =>
    simp only [step, outEndTr]
    split_ifs
    · cases id <;> exact ready
    · exact ready
  | inDone =>
    cases id with
    | bulkIn =>
      have full : Endpoint.Sound .bulkIn { s.epIn with dmaCount := s.epIn.job.bufLoad } :=
        { wired.soundIn with }
      rw [step, onEp_ep, dmaInDone]
      split_ifs
      · exact (uddEpDmaInterrupt_ready full true).trans ready
      · exact ready
    | bulkOut =>
      rw [step, onEp_ep_other _ _ _ (by decide)]
      exact ready
  | inBanks banks =>
    have sound : Endpoint.Sound .bulkIn { s.epIn with busyBanks := banks } := { wired.soundIn with }
    simp only [step, inBanks]
    split_ifs
    · cases id with
      | bulkIn =>
        have isReady : s.epIn.ready = true := ready
        have unasked : s.epIn.job.stallRequested = false := by
          simp only [Endpoint.ready, Bool.and_eq_true, Bool.not_eq_true'] at isReady
          exact isReady.2
        have bank := uddEpBankInterrupt_sound sound
        rw [if_neg (by simp [unasked])] at bank
        rw [onEp_ep, Stream.ep, bank]
        exact isReady
      | bulkOut =>
        rw [onEp_ep_other _ _ _ (by decide)]
        exact ready
    · cases id <;> exact ready
  | busReset highSpeed => exact absurd trivial stays
  | setAddress wValue => cases id <;> exact ready
  | setConfiguration wValue wLength =>
    rw [step, setConfiguration_refused stays]
    exact ready
  | setInterface wValue wIndex wLength =>
    rw [step, setInterface_refused stays]
    exact ready
  | setFeature wValue wIndex wLength =>
    simp only [step, udcReqStdEpSetFeature]
    split_ifs with refused
    · exact ready
    · have accepted : wLength = 0 ∧ wValue = 0 := by simpa [not_or] using refused
      cases selected : EpId.ofAddress wIndex with
      | none => exact ready
      | some halted =>
        have different : id ≠ halted := fun same => stays ⟨accepted, same ▸ selected⟩
        dsimp only
        rw [setEp_ep_other _ _ _ different, onEp_ep_other _ _ _ different]
        exact ready
  | clearFeature wValue wIndex wLength junk =>
    simp only [step, udcReqStdEpClearFeature]
    split_ifs with refused
    · exact ready
    · cases EpId.ofAddress wIndex with
      | none => exact ready
      | some cleared =>
        by_cases same : id = cleared
        · rw [same] at ready ⊢
          dsimp only
          rw [onEp_ep, uddEpClearHalt_sound (wired.sound cleared)]
          simp only [Endpoint.ready, Bool.and_eq_true] at ready ⊢
          simp [ready.1.1]
        · dsimp only
          rw [onEp_ep_other _ _ _ same]
          exact ready

/-! ## A job that nobody looks at -/

section WithJob

variable (s : Stream) (id : EpId) (change : EpJob → EpJob)

theorem callBack_withJob (completion : Option Completion) :
    callBack completion (s.withJob id change) = (callBack completion s).withJob id change := by
  rw [callBack_eq, callBack_eq]
  cases id <;> rfl

theorem setEp_withJob {other : EpId} (different : other ≠ id) (ep : Endpoint) :
    (s.withJob id change).setEp other ep = (s.setEp other ep).withJob id change := by
  cases id <;> cases other <;> first | rfl | exact absurd rfl different

theorem onEp_withJob {other : EpId} (different : other ≠ id)
    (f : Endpoint → Endpoint × Option Completion) :
    onEp other f (s.withJob id change) = (onEp other f s).withJob id change := by
  rw [onEp, onEp, Stream.withJob_ep_other _ different, setEp_withJob _ _ _ different,
    callBack_withJob]

theorem takesDown_withJob (other : EpId) (event : Event) :
    TakesDown other (s.withJob id change) event ↔ TakesDown other s event := by
  cases id <;> exact Iff.rfl

theorem usesJob_withJob (other : EpId) (event : Event) :
    UsesJob other (s.withJob id change) event ↔ UsesJob other s event := by
  cases id <;> exact Iff.rfl

/-- A handler that does nothing to an endpoint, whatever its job -/
theorem onEp_ignored {f : Endpoint → Endpoint × Option Completion} {s : Stream} {id : EpId}
    (ignored : f (s.ep id) = (s.ep id, none)) : onEp id f s = s := by
  rw [onEp, ignored]
  cases id <;> rfl

end WithJob

/-- What is done to the job of a ready endpoint makes no difference to an event that neither takes
    the endpoint down nor uses its job. -/
theorem step_withJob {s : Stream} (wired : Wired s) (id : EpId) {change : EpJob → EpJob}
    (keeps : ∀ job, (change job).stallRequested = job.stallRequested) {event : Event}
    (noLoop : event ≠ .loop) (stays : ¬ TakesDown id s event) (unused : ¬ UsesJob id s event)
    (ready : (s.ep id).ready = true) :
    step (s.withJob id change) event = (step s event).withJob id change := by
  have staysStill : ¬ TakesDown id (s.withJob id change) event :=
    mt (takesDown_withJob s id change id event).mp stays
  have unhalted : (s.ep id).stall = false ∧ (s.ep id).job.stallRequested = false := by
    simp only [Endpoint.ready, Bool.and_eq_true, Bool.not_eq_true'] at ready
    exact ⟨ready.1.2, ready.2⟩
  cases event with
  | tc2 =>
    have running : (s.withJob id change).tc = s.tc := by cases id <;> rfl
    simp only [step, tc2Interrupt, running]
    split_ifs
    · rfl
    · cases id <;> rfl
  | loop => exact absurd rfl noLoop
  | sof fnum =>
    have timer : (s.withJob id change).startTimer = s.startTimer ∧
        (s.withJob id change).startFrame = s.startFrame := by cases id <;> exact ⟨rfl, rfl⟩
    simp only [step, mainSofAction, timer]
    split_ifs
    · cases id <;> rfl
    · cases id <;> rfl
  | request wValue wIndex =>
    have stop : wValue < 1 := UInt16.not_le.mp unused
    rw [step, step, configureSampling_stop stop, configureSampling_stop stop]
    cases id <;> rfl
  | outByte value =>
    cases id with
    | bulkIn =>
      have same : (s.withJob .bulkIn change).epOut = s.epOut := rfl
      simp only [step, dmaOutByte, same]
      split_ifs
      · cases s.epOut.job.buf <;> rfl
      · rfl
    | bulkOut =>
      have off : s.epOut.dmaOn = false := Bool.eq_false_of_not_eq_true fun on => unused ⟨rfl, on⟩
      have offStill : (s.withJob .bulkOut change).epOut.dmaOn = false := off
      simp only [step, dmaOutByte, off, offStill, Bool.false_and, Bool.false_eq_true, if_false]
  | outDone =>
    cases id with
    | bulkIn => exact onEp_withJob s .bulkIn change (by decide) dmaOutDone
    | bulkOut =>
      have off : s.epOut.dmaOn = false := Bool.eq_false_of_not_eq_true fun on => unused ⟨rfl, on⟩
      have ignored {s : Stream} (off : s.epOut.dmaOn = false) :
          dmaOutDone (s.ep .bulkOut) = (s.ep .bulkOut, none) := by
        rw [dmaOutDone, if_neg (by simp [Stream.ep, off])]
      rw [step, step, onEp_ignored (ignored off), onEp_ignored (ignored _)]
      exact off
  | outEndTr =>
    have same : (s.withJob id change).epOut.dmaOn = s.epOut.dmaOn := by cases id <;> rfl
    simp only [step, outEndTr, same]
    split_ifs
    · cases id <;> rfl
    · rfl
  | inDone =>
    cases id with
    | bulkIn =>
      have off : s.epIn.dmaOn = false := Bool.eq_false_of_not_eq_true fun on => unused ⟨rfl, on⟩
      have ignored {s : Stream} (off : s.epIn.dmaOn = false) :
          dmaInDone (s.ep .bulkIn) = (s.ep .bulkIn, none) := by
        rw [dmaInDone, if_neg (by simp [Stream.ep, off])]
      rw [step, step, onEp_ignored (ignored off), onEp_ignored (ignored _)]
      exact off
    | bulkOut => exact onEp_withJob s .bulkOut change (by decide) dmaInDone
  | inBanks banks =>
    have filled : ({ s.withJob id change with
          epIn := { (s.withJob id change).epIn with busyBanks := banks } } : Stream) =
        ({ s with epIn := { s.epIn with busyBanks := banks } } : Stream).withJob id change := by
      cases id <;> rfl
    simp only [step, inBanks, filled]
    split_ifs
    · cases id with
      | bulkIn =>
        -- there is neither a halt to make nor an empty packet to send
        have ignored {ep : Endpoint} (noZlp : ep.txPktReadyInt = false)
            (unasked : ep.job.stallRequested = false) : uddEpBankInterrupt ep = (ep, none) := by
          rw [uddEpBankInterrupt, if_neg (by simp [noZlp]), if_neg (by simp [unasked])]
        rw [onEp_ignored (ignored _ _), onEp_ignored (ignored _ _)]
        · exact wired.soundIn.noZlp
        · exact unhalted.2
        · exact wired.soundIn.noZlp
        · exact (keeps _).trans unhalted.2
      | bulkOut => exact onEp_withJob _ .bulkOut change (by decide) uddEpBankInterrupt
    · rfl
  | busReset highSpeed => exact absurd trivial stays
  | setAddress wValue => cases id <;> rfl
  | setConfiguration wValue wLength =>
    rw [step, step, setConfiguration_refused stays, setConfiguration_refused staysStill]
  | setInterface wValue wIndex wLength =>
    rw [step, step, setInterface_refused stays, setInterface_refused staysStill]
  | setFeature wValue wIndex wLength =>
    simp only [step, udcReqStdEpSetFeature]
    split_ifs with refused
    · rfl
    · have accepted : wLength = 0 ∧ wValue = 0 := by simpa [not_or] using refused
      cases selected : EpId.ofAddress wIndex with
      | none => rfl
      | some halted =>
        have different : halted ≠ id := fun same => stays ⟨accepted, same ▸ selected⟩
        dsimp only
        rw [onEp_withJob _ _ _ different, Stream.withJob_ep_other _ different,
          setEp_withJob _ _ _ different]
  | clearFeature wValue wIndex wLength junk =>
    simp only [step, udcReqStdEpClearFeature]
    split_ifs with refused
    · rfl
    · cases EpId.ofAddress wIndex with
      | none => rfl
      | some cleared =>
        by_cases same : cleared = id
        · have ignored {ep : Endpoint} (stall : ep.stall = false)
              (unasked : ep.job.stallRequested = false) : uddEpClearHalt junk ep = (ep, none) := by
            have job : { ep.job with stallRequested := false } = ep.job := by rw [← unasked]
            rw [uddEpClearHalt, if_neg (by simp [stall, unasked]), job, ← stall]
          subst same
          dsimp only
          rw [onEp_ignored (ignored unhalted.1 unhalted.2), onEp_ignored (ignored _ _)]
          · rw [Stream.withJob_ep]
            exact unhalted.1
          · rw [Stream.withJob_ep]
            exact (keeps _).trans unhalted.2
        · exact onEp_withJob s id change same _

/-! ## The call as one step -/

/-- The job as the call has it when it comes to `udd_ep_trans_done` -/
def RunCall.registered (call : RunCall) (job : EpJob) : EpJob := call.fill job.take

/-- What `udd_ep_trans_done` has to move for it first -/
def RunCall.firstTrans (call : RunCall) : Nat := min call.bufSize uddEndpointMaxTrans

theorem runCall_positive {pc : MainPc} {call : RunCall} (inCall : pc.runCall = some call) :
    0 < call.bufSize := by
  cases pc with
  | runIn index =>
    rw [← Option.some.inj inCall]
    exact Nat.succ_pos 2047
  | runOut index =>
    rw [← Option.some.inj inCall]
    exact Nat.succ_pos 1023
  | _ => cases inCall

/-- The job is full of data to move, so that no empty packet is due. -/
theorem RunCall.registered_shorten {call : RunCall} (positive : 0 < call.bufSize) (isIn : Bool)
    (size : Nat) (job : EpJob) : (call.registered job).shorten isIn size = call.registered job := by
  have some : decide (call.bufSize = 0) = false := decide_eq_false (Nat.pos_iff_ne_zero.mp positive)
  rw [EpJob.shorten, RunCall.registered, RunCall.fill, some, Bool.false_and]

/-- `udd_ep_trans_done` finds the job busy, and comes to its masked section with it. -/
theorem RunCall.transDone_registered {call : RunCall} (positive : 0 < call.bufSize) {ep : Endpoint}
    {job : EpJob} (registered : ep.job = call.registered job) :
    uddEpTransDone call.id.isIn ep = uddEpLaunch call.id.isIn call.firstTrans ep := by
  have busy : ep.job.busy = true := by rw [registered]; rfl
  have unmoved : ep.job.bufCnt ≠ ep.job.bufSize := by
    rw [registered]
    exact Nat.ne_of_lt positive
  have same : ep.job.shorten call.id.isIn ep.size = ep.job := by
    rw [registered, RunCall.registered_shorten positive]
  have first : ep.job.nextTrans = call.firstTrans := by rw [registered]; rfl
  rw [uddEpTransDone_parts, if_neg (by simp [busy]), if_neg unmoved, same, first]

/-- How the state in a run call stands to the state before it -/
inductive Within : Preemptible → Stream → Prop
  | called (s : Stream) : Within { stream := s } s
  | tested {s : Stream} {call : RunCall} (inCall : s.pc.runCall = some call)
      (ready : (s.ep call.id).ready = true) : Within { stream := s, place := .tested } s
  | taken {s : Stream} {call : RunCall} (inCall : s.pc.runCall = some call)
      (ready : (s.ep call.id).ready = true) (idle : (s.ep call.id).job.busy = false) :
      Within { stream := s.withJob call.id EpJob.take, place := .taken } s
  | filled {s : Stream} {call : RunCall} (inCall : s.pc.runCall = some call)
      (ready : (s.ep call.id).ready = true) (idle : (s.ep call.id).job.busy = false) :
      Within { stream := s.withJob call.id call.registered, place := .filled } s
  | launching {s : Stream} {call : RunCall} (inCall : s.pc.runCall = some call)
      (ready : (s.ep call.id).ready = true) (idle : (s.ep call.id).job.busy = false) :
      Within { stream := s.withJob call.id call.registered, place := .launching call.firstTrans } s

/-- The call returns with its next part. -/
def RunCall.Returns (call : RunCall) (f : Preemptible) : Prop :=
  match f.place with
  | .called => (f.stream.ep call.id).ready = false
  | .tested => (f.stream.ep call.id).job.busy = true
  | .taken => False
  | .filled => (f.stream.ep call.id).job.busy = false ∨
      (f.stream.ep call.id).job.bufCnt = (f.stream.ep call.id).job.bufSize
  | .launching _ => True

instance (call : RunCall) (f : Preemptible) : Decidable (call.Returns f) := by
  unfold RunCall.Returns
  cases f.place <;> infer_instance

/-- The streaming machine takes a run call when it returns. -/
def Preemptible.means (f : Preemptible) (event : Event) : List Event :=
  match event, f.stream.pc.runCall with
  | .loop, some call => if call.Returns f then [.loop] else []
  | event, _ => [event]

theorem means_loop {f : Preemptible} {call : RunCall} (inCall : f.stream.pc.runCall = some call) :
    f.means .loop = if call.Returns f then [.loop] else [] := by
  simp only [Preemptible.means, inCall]

theorem means_else (f : Preemptible) {event : Event} (other : event = .loop → f.stream.pc.runCall = none) :
    f.means event = [event] := by
  cases event with
  | loop => simp only [Preemptible.means, other rfl]
  | _ => rfl

section Returned

variable {s : Stream} {call : RunCall} (inCall : s.pc.runCall = some call)

include inCall

/-- The streaming machine is refused as the call is. -/
theorem mainLoop_refused (refused : (s.ep call.id).ready = false ∨ (s.ep call.id).job.busy = true) :
    mainLoop s = call.returns false s := by
  have run := uddEpRun_refused call.id.isIn false call.buf call.bufSize (some call.callback) refused
  rw [mainLoop_runCall inCall, udiVendorBulkRun]
  have same : ({ s with pc := call.next } : Stream).ep call.id = s.ep call.id := by
    cases call.id <;> rfl
  rw [same, run]
  simp only [RunCall.returns, callBack]
  cases call.id <;> rfl

/-- The streaming machine takes the job that the call has filled in. -/
theorem mainLoop_taken (ready : (s.ep call.id).ready = true) (idle : (s.ep call.id).job.busy = false) :
    mainLoop s = onEp call.id (uddEpTransDone call.id.isIn)
      (call.returns true (s.withJob call.id call.registered)) := by
  have run := uddEpRun_taken call.id.isIn false call.buf call.bufSize (some call.callback) ready idle
  rw [mainLoop_runCall inCall, udiVendorBulkRun]
  have same : ({ s with pc := call.next } : Stream).ep call.id = s.ep call.id := by
    cases call.id <;> rfl
  have overwritten (ep : Endpoint) :
      (call.returns true (s.withJob call.id call.registered)).setEp call.id ep =
        (({ s with pc := call.next } : Stream).observe
          [.epRun call.id call.buf call.bufSize true]).setEp call.id ep := by
    rw [RunCall.returns]
    cases call.id <;> rfl
  rw [same, run, onEp, call.returns_ep, Stream.withJob_ep, overwritten]
  simp only [Bool.false_or]
  rfl

end Returned

/-- What is in a run call goes on with it, however the interrupts come. -/
theorem within_loop {f : Preemptible} {s : Stream} (within : Within f s) {call : RunCall}
    (inCall : f.stream.pc.runCall = some call) :
    Within (call.advance f) (run M1k.step s (f.means .loop)) := by
  rw [means_loop inCall]
  cases within with
  | called =>
    cases ready : (s.ep call.id).ready with
    | false =>
      have returns : call.Returns { stream := s } := ready
      rw [if_pos returns, run_cons, run_nil, step, mainLoop_refused inCall (.inl ready), RunCall.advance]
      simp only [ready, Bool.false_eq_true, if_false]
      exact .called _
    | true =>
      have stays : ¬ call.Returns { stream := s } := by simp [RunCall.Returns, ready]
      rw [if_neg stays, run_nil, RunCall.advance]
      simp only [ready, if_true]
      exact .tested inCall ready
  | @tested _ call' found ready =>
    obtain rfl : call' = call := Option.some.inj (found.symm.trans inCall)
    cases busy : (s.ep call'.id).job.busy with
    | true =>
      have returns : call'.Returns { stream := s, place := .tested } := busy
      rw [if_pos returns, run_cons, run_nil, step, mainLoop_refused found (.inr busy), RunCall.advance]
      simp only [busy, if_true]
      exact .called _
    | false =>
      have stays : ¬ call'.Returns { stream := s, place := .tested } := by simp [RunCall.Returns, busy]
      rw [if_neg stays, run_nil, RunCall.advance]
      simp only [busy, Bool.false_eq_true, if_false]
      exact .taken found ready busy
  | @taken _ call' found ready idle =>
    rw [Stream.withJob_pc] at inCall
    obtain rfl : call' = call := Option.some.inj (found.symm.trans inCall)
    have filled : (s.withJob call'.id EpJob.take).withJob call'.id call'.fill =
        s.withJob call'.id call'.registered := by
      cases call'.id <;> rfl
    have stays : ¬ call'.Returns { stream := s.withJob call'.id EpJob.take, place := .taken } := not_false
    rw [if_neg stays, run_nil, RunCall.advance]
    dsimp only
    rw [filled]
    exact .filled found ready idle
  | @filled _ call' found ready idle =>
    rw [Stream.withJob_pc] at inCall
    obtain rfl : call' = call := Option.some.inj (found.symm.trans inCall)
    have positive := runCall_positive found
    have job : ((s.withJob call'.id call'.registered).ep call'.id).job =
        call'.registered (s.ep call'.id).job := by rw [Stream.withJob_ep]
    have busy : ((s.withJob call'.id call'.registered).ep call'.id).job.busy = true := by rw [job]; rfl
    have unmoved : ((s.withJob call'.id call'.registered).ep call'.id).job.bufCnt ≠
        ((s.withJob call'.id call'.registered).ep call'.id).job.bufSize := by
      rw [job]
      exact Nat.ne_of_lt positive
    have stays :
        ¬ call'.Returns { stream := s.withJob call'.id call'.registered, place := .filled } := by
      rintro (idle | whole)
      · rw [busy] at idle
        cases idle
      · exact unmoved whole
    have launching : call'.advance { stream := s.withJob call'.id call'.registered, place := .filled } =
        { stream := s.withJob call'.id call'.registered, place := .launching call'.firstTrans } := by
      have same : (s.withJob call'.id call'.registered).withJob call'.id
          (EpJob.shorten call'.id.isIn ((s.withJob call'.id call'.registered).ep call'.id).size) =
            s.withJob call'.id call'.registered := by
        rw [Stream.withJob, job, RunCall.registered_shorten positive, ← job]
        cases call'.id <;> rfl
      have first : ((s.withJob call'.id call'.registered).ep call'.id).job.nextTrans =
          call'.firstTrans := by
        rw [job]
        rfl
      rw [RunCall.advance]
      dsimp only
      rw [if_neg (Bool.ne_false_iff.mpr busy), if_neg unmoved, same, first]
    rw [if_neg stays, run_nil, launching]
    exact .launching found ready idle
  | @launching _ call' found ready idle =>
    rw [Stream.withJob_pc] at inCall
    obtain rfl : call' = call := Option.some.inj (found.symm.trans inCall)
    have returns : call'.Returns
        { stream := s.withJob call'.id call'.registered, place := .launching call'.firstTrans } := trivial
    have job : ((call'.returns true (s.withJob call'.id call'.registered)).ep call'.id).job =
        call'.registered (s.ep call'.id).job := by rw [call'.returns_ep, Stream.withJob_ep]
    have parts := RunCall.transDone_registered (runCall_positive found) job
    rw [if_pos returns, run_cons, run_nil, step, mainLoop_taken found ready idle, onEp, parts,
      RunCall.advance]
    exact .called _

theorem pc_event {s : Stream} (owned : Owned s) {event : Event} (noLoop : event ≠ .loop) :
    (M1k.step s event).pc = s.pc := by
  by_cases starts : ∃ wValue wIndex, event = .request wValue wIndex ∧ 1 ≤ wValue
  · obtain ⟨wValue, wIndex, rfl, start⟩ := starts
    rw [step, configureSampling_start start]
  · have outcome := event_outcome owned .bulkIn noLoop fun wValue wIndex request =>
      UInt16.not_le.mp fun start => starts ⟨wValue, wIndex, request, start⟩
    by_cases taken : Aborts .bulkIn s event
    · exact (outcome.loses taken).pc
    · exact (outcome.keeps taken).pc

/-- An event that does not use the job of an endpoint registers none there. -/
theorem idle_event {s : Stream} (owned : Owned s) {id : EpId} {event : Event} (noLoop : event ≠ .loop)
    (unused : ¬ UsesJob id s event) (idle : (s.ep id).job.busy = false) :
    ((M1k.step s event).ep id).job.busy = false := by
  have outcome := event_outcome owned id noLoop fun wValue wIndex request =>
    UInt16.not_le.mp fun start => unused (request ▸ start)
  by_cases taken : Aborts id s event
  · exact (outcome.loses taken).idle
  · rw [Bool.eq_false_iff]
    exact fun busy => Bool.eq_false_iff.mp idle ((outcome.keeps taken).busy busy)

/-- What the call does to its endpoint commutes with an event that does not disturb it. -/
theorem taken_event {s : Stream} (wired : Wired s) (owned : Owned s) {call : RunCall}
    (found : s.pc.runCall = some call) (ready : (s.ep call.id).ready = true)
    (idle : (s.ep call.id).job.busy = false) (change : EpJob → EpJob)
    (keeps : ∀ job, (change job).stallRequested = job.stallRequested) {place : RunPlace}
    (late : place ≠ .called ∧ place ≠ .tested) {event : Event} (noLoop : event ≠ .loop)
    (calm : SparesCall { stream := s.withJob call.id change, place := place } event) :
    M1k.step (s.withJob call.id change) event = (M1k.step s event).withJob call.id change ∧
      (M1k.step s event).pc.runCall = some call ∧ ((M1k.step s event).ep call.id).ready = true ∧
      ((M1k.step s event).ep call.id).job.busy = false := by
  have inCall : (s.withJob call.id change).pc.runCall = some call := by
    rw [Stream.withJob_pc, found]
  obtain ⟨staysThere, unusedThere⟩ := calm call inCall late.1
  have stays : ¬ TakesDown call.id s event := mt (takesDown_withJob s call.id change _ event).mpr staysThere
  have unused : ¬ UsesJob call.id s event :=
    mt (usesJob_withJob s call.id change _ event).mpr (unusedThere late.2)
  exact ⟨step_withJob wired call.id keeps noLoop stays unused ready, pc_event owned noLoop ▸ found,
    ready_event wired call.id noLoop stays ready, idle_event owned noLoop unused idle⟩

/-- An event that does not disturb the run call might as well come before it. -/
theorem within_event {f : Preemptible} {s : Stream} (wired : Wired s) (owned : Owned s)
    (within : Within f s) {event : Event} (noLoop : event ≠ .loop) (calm : SparesCall f event) :
    Within { f with stream := M1k.step f.stream event } (M1k.step s event) := by
  cases within with
  | called => exact .called _
  | @tested _ call found ready =>
    obtain ⟨stays, -⟩ := calm call found (fun called => by cases called)
    exact .tested (pc_event owned noLoop ▸ found) (ready_event wired call.id noLoop stays ready)
  | @taken _ call found ready idle =>
    obtain ⟨commutes, found', ready', idle'⟩ := taken_event wired owned found ready idle EpJob.take
      (fun _ => rfl) (by decide) noLoop calm
    dsimp only
    rw [commutes]
    exact .taken found' ready' idle'
  | @filled _ call found ready idle =>
    obtain ⟨commutes, found', ready', idle'⟩ := taken_event wired owned found ready idle call.registered
      (fun _ => rfl) (by decide) noLoop calm
    dsimp only
    rw [commutes]
    exact .filled found' ready' idle'
  | @launching _ call found ready idle =>
    obtain ⟨commutes, found', ready', idle'⟩ := taken_event wired owned found ready idle call.registered
      (fun _ => rfl) ⟨RunPlace.noConfusion, RunPlace.noConfusion⟩ noLoop calm
    dsimp only
    rw [commutes]
    exact .launching found' ready' idle'

theorem Within.eq_of_called {f : Preemptible} {s : Stream} (within : Within f s)
    (place : f.place = .called) : f = { stream := s } := by
  cases within with
  | called => rfl
  | tested => cases place
  | taken => cases place
  | filled => cases place
  | launching => cases place

theorem place_of_returns {f : Preemptible} {call : RunCall} (returns : call.Returns f) :
    (call.advance f).place = .called := by
  cases place : f.place with
  | called =>
    have refused : (f.stream.ep call.id).ready = false := by simpa [RunCall.Returns, place] using returns
    simp [RunCall.advance, place, refused]
  | tested =>
    have refused : (f.stream.ep call.id).job.busy = true := by
      simpa [RunCall.Returns, place] using returns
    simp [RunCall.advance, place, refused]
  | taken => simp [RunCall.Returns, place] at returns
  | filled =>
    have ended : (f.stream.ep call.id).job.busy = false ∨
        (f.stream.ep call.id).job.bufCnt = (f.stream.ep call.id).job.bufSize := by
      simpa [RunCall.Returns, place] using returns
    rw [RunCall.advance, place]
    dsimp only
    split_ifs with idle whole
    · rfl
    · rfl
    · exact absurd ended (not_or.mpr ⟨idle, whole⟩)
  | launching nextTrans => rw [RunCall.advance, place]

/-- The state of the main loop in a run call, and the state of the streaming machine before the call,
    with what is known of both -/
structure Stands (f : Preemptible) (s : Stream) : Prop where
  within : Within f s
  wired : Wired s
  registers : Registers f
  before : Registers { stream := s }

theorem stands_loop {f : Preemptible} {s : Stream} (stands : Stands f s) {call : RunCall}
    (inCall : f.stream.pc.runCall = some call) :
    Stands (call.advance f) (run M1k.step s (f.means .loop)) := by
  have within := within_loop stands.within inCall
  have registers := registers_advance inCall stands.registers
  refine ⟨within, (wired_run stands.wired _).last, registers, ?_⟩
  by_cases returns : call.Returns f
  · rw [← within.eq_of_called (place_of_returns returns)]
    exact registers
  · rw [means_loop inCall, if_neg returns]
    exact stands.before

/-- Events between the parts of the call, and statements outside the calls -/
theorem stands_else {f : Preemptible} {s : Stream} (stands : Stands f s) {event : Event}
    (other : event = .loop → f.stream.pc.runCall = none) (calm : SparesCall f event) :
    Stands (f.step event) (M1k.step s event) := by
  have before (outside : event = .loop → s.pc.runCall = none) :
      Registers { stream := M1k.step s event } := by
    have kept := (flags_step stands.before event).1
    rw [Preemptible.step_else _ outside] at kept
    exact kept
  have registers := (flags_step stands.registers event).1
  rw [f.step_else other] at registers ⊢
  by_cases isLoop : event = .loop
  · -- the main loop is in no call, and stands where the streaming machine does
    have place : f.place = .called := by
      by_contra inside
      exact stands.registers.inside inside (other isLoop)
    have equal := stands.within.eq_of_called place
    rw [equal] at other ⊢
    exact ⟨.called _, wired_step stands.wired event, before other, before other⟩
  · exact ⟨within_event stands.wired stands.before.owned stands.within isLoop calm,
      wired_step stands.wired event, registers, before fun loop => absurd loop isLoop⟩

/-- An undisturbed run is one of the streaming machine, which takes the run calls in one step. -/
theorem simulates_calls :
    Simulates Preemptible.step M1k.step Stands SparesCall Preemptible.means where
  agrees f s event stands calm := by
    by_cases cut : event = .loop ∧ ∃ call, f.stream.pc.runCall = some call
    · obtain ⟨rfl, call, inCall⟩ := cut
      rw [f.step_loop inCall]
      exact stands_loop stands inCall
    · have other : event = .loop → f.stream.pc.runCall = none := fun isLoop => by
        by_contra inCall
        exact cut ⟨isLoop, Option.ne_none_iff_exists'.mp inCall⟩
      rw [means_else f other, run_cons, run_nil]
      exact stands_else stands other calm

theorem stands_boot : Stands {} {} := ⟨.called {}, wired_boot, registers_boot, registers_boot⟩

/-- Whenever the main loop is outside its run calls, an undisturbed run has come to where the
    streaming machine comes on the same events with the run calls as one. -/
theorem run_calls_atomic {events : List Event}
    (calm : Throughout Preemptible.step SparesCall {} events)
    (outside : (run Preemptible.step {} events).place = .called) :
    (run Preemptible.step {} events).stream =
      run M1k.step {} (translate Preemptible.step Preemptible.means {} events) :=
  congrArg Preemptible.stream ((simulates_calls.run stands_boot calm).within.eq_of_called outside)

end M1k
