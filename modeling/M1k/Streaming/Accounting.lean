import M1k.Library.Ledger
import M1k.Streaming.Atomicity

/-! # Every transfer is reported once

Whatever the host does to the device while it streams, the driver calls the application once
for each transfer that it has taken, in the order in which it took them, with no more bytes than
were asked for: aborted transfers, bus resets and changes of the setting included. -/

namespace M1k

open Library.Ledger Library.Runs

/-- A call of the application for a transfer of the endpoint. -/
def Obs.call? (id : EpId) : Obs → Option Completion
  | .completed completion => if completion.callback.ep = id then some completion else none
  | .request .. | .interrupt _ | .indexInRead | .epRun .. | .outByte _ => none

def calls (id : EpId) (trace : List Obs) : List Completion := trace.filterMap (Obs.call? id)

@[simp] theorem calls_append (id : EpId) (first second : List Obs) :
    calls id (first ++ second) = calls id first ++ calls id second :=
  List.filterMap_append

/-- The transfer that the driver has taken and not reported. -/
def Endpoint.running (ep : Endpoint) : List (Ptr × Nat) :=
  if ep.job.busy then [(ep.job.buf, ep.job.bufSize)] else []

theorem Endpoint.running_idle {ep : Endpoint} (idle : ep.job.busy = false) : ep.running = [] := by
  simp [Endpoint.running, idle]

theorem Endpoint.running_busy {ep : Endpoint} (busy : ep.job.busy = true) :
    ep.running = [(ep.job.buf, ep.job.bufSize)] := by
  simp [Endpoint.running, busy]

/-- The call counts no more bytes than the transfer has, and an IN transfer reported done has
    been sent in full. -/
def Reports (id : EpId) (transfer : Ptr × Nat) (c : Completion) : Prop :=
  c.nbTransfered ≤ transfer.2 ∧ (id = .bulkIn → c.status = .ok → c.nbTransfered = transfer.2)

/-- From `s` to `s'` the driver has reported its transfers in order, on each endpoint. -/
def Accounts (s s' : Stream) : Prop :=
  ∃ obs, s'.trace = s.trace ++ obs ∧ ∀ id,
    Settles (Reports id) (s.ep id).running (transfers id obs) (calls id obs) (s'.ep id).running

namespace Accounts

variable {s s' s'' : Stream}

theorem refl (s : Stream) : Accounts s s := ⟨[], by simp, fun _ => .refl _ _⟩

theorem trans (first : Accounts s s') (second : Accounts s' s'') : Accounts s s'' := by
  obtain ⟨before, trace, settles⟩ := first
  obtain ⟨after, trace', settles'⟩ := second
  refine ⟨before ++ after, by rw [trace', trace, List.append_assoc], fun id => ?_⟩
  rw [transfers_append, calls_append]
  exact (settles id).trans (settles' id)

/-- A step that touches neither the jobs nor what the driver shows. -/
theorem of_same {obs : List Obs} (trace : s'.trace = s.trace ++ obs)
    (silent : ∀ id, transfers id obs = [] ∧ calls id obs = [])
    (same : ∀ id, (s'.ep id).running = (s.ep id).running) : Accounts s s' := by
  refine ⟨obs, trace, fun id => ?_⟩
  rw [(silent id).1, (silent id).2, same id]
  exact .refl _ _

theorem of_frame (trace : s'.trace = s.trace) (same : ∀ id, (s'.ep id).running = (s.ep id).running) :
    Accounts s s' :=
  of_same (trace.trans (List.append_nil _).symm) (fun _ => ⟨rfl, rfl⟩) same

end Accounts

/-! ## What the driver does to one endpoint -/

/-- A driver function reports the job that it ends, and takes none. -/
structure Settling (id : EpId) (ep : Endpoint) (result : Endpoint × Option Completion) : Prop where
  settles : Settles (Reports id) ep.running [] result.2.toList result.1.running
  call : ∀ c, result.2 = some c → c.callback.ep = id

theorem Settling.silent {id : EpId} {ep ep' : Endpoint} (same : ep'.running = ep.running) :
    Settling id ep (ep', none) where
  settles := by
    simp only [Option.toList_none, same]
    exact .refl _ _
  call c called := by cases called

/-- The running job is ended, and reported. -/
theorem Settling.ended {id : EpId} {ep ep' : Endpoint} {c : Completion} (busy : ep.job.busy = true)
    (idle : ep'.job.busy = false) (owner : c.callback.ep = id)
    (reports : Reports id (ep.job.buf, ep.job.bufSize) c) : Settling id ep (ep', some c) where
  settles := by
    rw [Endpoint.running_busy busy, Endpoint.running_idle idle]
    exact .answer reports
  call c' called := by
    cases called
    exact owner

theorem settling_finishJob {id : EpId} {ep : Endpoint} (sound : ep.Sound id) :
    Settling id ep (uddEpFinishJob true ep) := by
  cases busy : ep.job.busy with
  | false =>
    rw [uddEpFinishJob_idle true busy]
    exact .silent rfl
  | true =>
    obtain ⟨callback, registered, owns⟩ := sound.owned busy
    simp only [uddEpFinishJob, busy, registered, Bool.true_eq_false, if_false, if_true,
      Option.map_some]
    exact .ended busy rfl owns.ep ⟨le_refl _, fun _ ok => by cases ok⟩

theorem settling_abort {id : EpId} {ep : Endpoint} (sound : ep.Sound id) (dirIn : Bool) :
    Settling id ep (uddEpAbort dirIn ep) := by
  have stopped : Endpoint.Sound id { ep with
      dmaOn := false, busyBanks := if dirIn then 0 else ep.busyBanks } := { sound with }
  exact { settling_finishJob stopped with }

theorem settling_free {id : EpId} {ep : Endpoint} (sound : ep.Sound id) :
    Settling id ep (uddEpFree ep) := by
  cases busy : ep.job.busy with
  | false =>
    have freed : (uddEpFree ep).2 = none := by simp [uddEpFree, uddEpFinishJob, busy]
    have idle := uddEpFree_busy ep
    rw [← Prod.mk.eta (p := uddEpFree ep), freed]
    exact .silent (by rw [Endpoint.running_idle idle, Endpoint.running_idle busy])
  | true =>
    obtain ⟨callback, registered, owns⟩ := sound.owned busy
    have freed : (uddEpFree ep).2 = some ⟨callback, .abort, ep.job.bufSize⟩ := by
      simp [uddEpFree, uddEpFinishJob, busy, registered]
    rw [← Prod.mk.eta (p := uddEpFree ep), freed]
    exact .ended busy (uddEpFree_busy ep) owns.ep ⟨le_refl _, fun _ ok => by cases ok⟩

/-- The channel has moved no more than the buffer holds. -/
theorem settling_dmaInterrupt {id : EpId} {ep : Endpoint} (sound : ep.Sound id) (isIn : Bool)
    (on : ep.dmaOn = true) (full : id = .bulkIn → ep.job.busy = true → ep.job.bufLoad ≤ ep.dmaCount) :
    Settling id ep (uddEpDmaInterrupt isIn ep) := by
  rw [uddEpDmaInterrupt_sound sound isIn on]
  cases busy : ep.job.busy with
  | false =>
    simp only [Bool.false_eq_true, if_false]
    split_ifs
    · exact .silent rfl
    · exact .silent (by simp [Endpoint.running, busy])
  | true =>
    obtain ⟨callback, registered, owns⟩ := sound.owned busy
    have whole := sound.whole busy
    simp only [if_true, registered, Option.map_some]
    refine .ended busy rfl owns.ep ⟨?_, fun isBulkIn _ => ?_⟩
    · simp only [Endpoint.moved, whole]
      exact Nat.sub_le _ _
    · have sent := full isBulkIn busy
      simp only [Endpoint.moved, whole]
      omega

theorem settling_outDone {ep : Endpoint} (sound : ep.Sound .bulkOut) :
    Settling .bulkOut ep (dmaOutDone ep) := by
  simp only [dmaOutDone]
  split_ifs with on
  · simp only [Bool.and_eq_true] at on
    exact settling_dmaInterrupt sound false on.1 (fun isIn => by cases isIn)
  · exact .silent rfl

theorem settling_inDone {ep : Endpoint} (sound : ep.Sound .bulkIn) :
    Settling .bulkIn ep (dmaInDone ep) := by
  simp only [dmaInDone]
  split_ifs with on
  · simp only [Bool.and_eq_true] at on
    have sent : Endpoint.Sound .bulkIn { ep with dmaCount := ep.job.bufLoad } := { sound with }
    exact { settling_dmaInterrupt sent true on.1 (fun _ _ => le_refl _) with }
  · exact .silent rfl

theorem settling_clearHalt {id : EpId} {ep : Endpoint} (sound : ep.Sound id) (junk : Status) :
    Settling id ep (uddEpClearHalt junk ep) := by
  rw [uddEpClearHalt_sound sound junk]
  exact .silent rfl

theorem settling_bankInterrupt {id : EpId} {ep : Endpoint} (sound : ep.Sound id) :
    Settling id ep (uddEpBankInterrupt ep) := by
  rw [uddEpBankInterrupt_sound sound]
  split_ifs
  · exact .silent rfl
  · exact .silent rfl

/-! ## What an event does to both endpoints -/

theorem calls_callObs_of_ep {id : EpId} {completion : Option Completion}
    (owner : ∀ c, completion = some c → c.callback.ep = id) :
    calls id (callObs completion) = completion.toList := by
  cases completion with
  | none => rfl
  | some c => simp [calls, callObs, Obs.call?, owner c rfl]

theorem calls_callObs_other {id other : EpId} (different : id ≠ other)
    {completion : Option Completion} (owner : ∀ c, completion = some c → c.callback.ep = other) :
    calls id (callObs completion) = [] := by
  cases completion with
  | none => rfl
  | some c => simp [calls, callObs, Obs.call?, owner c rfl, different.symm]

theorem accounts_onEp {f : Endpoint → Endpoint × Option Completion} {id : EpId} {s : Stream}
    (settling : Settling id (s.ep id) (f (s.ep id))) : Accounts s (onEp id f s) := by
  refine ⟨_, onEp_trace id f s, fun other => ?_⟩
  rw [transfers_callObs]
  by_cases same : other = id
  · rw [same, calls_callObs_of_ep settling.call, onEp_ep]
    exact settling.settles
  · rw [calls_callObs_other same settling.call, onEp_ep_other id f s same]
    exact .refl _ _

theorem udiVendorBulkRun_eq (id : EpId) (buf : Ptr) (bufSize : Nat) (callback : Callback)
    (s : Stream) :
    udiVendorBulkRun id buf bufSize callback s =
      onEp id (fun ep => (uddEpRun id.isIn false buf bufSize (some callback) ep).2)
        (s.observe [.epRun id buf bufSize
          (uddEpRun id.isIn false buf bufSize (some callback) (s.ep id)).1]) := by
  cases id <;> rfl

/-- `udd_ep_run` refuses the transfer, takes it, or takes it and ends it at once. -/
theorem accounts_run {id : EpId} (buf : Ptr) {bufSize : Nat} {callback : Callback} {s : Stream}
    (owns : id.Owns callback) (positive : 0 < bufSize) (small : bufSize ≤ uddEndpointMaxTrans)
    (noEnd : id = .bulkIn → (s.ep id).endTrSt = false) :
    Accounts s (udiVendorBulkRun id buf bufSize callback s) := by
  have epKept (obs : List Obs) (other : EpId) : (s.observe obs).ep other = s.ep other := by
    cases other <;> rfl
  have silent (accepted : Bool) (other : EpId) : calls other [.epRun id buf bufSize accepted] = [] :=
    rfl
  rw [udiVendorBulkRun_eq]
  refine ⟨[.epRun id buf bufSize (uddEpRun id.isIn false buf bufSize (some callback) (s.ep id)).1] ++
    callObs (uddEpRun id.isIn false buf bufSize (some callback) (s.ep id)).2.2, ?_, fun other => ?_⟩
  · rw [onEp_trace, epKept, Stream.observe, List.append_assoc]
  rw [transfers_append, calls_append, transfers_callObs, transfers_epRun, silent, List.append_nil,
    List.nil_append]
  have outcomes := uddEpRun_cases id.isIn buf callback (s.ep id) positive small
  by_cases same : other = id
  · subst same
    rw [onEp_ep, epKept]
    obtain ⟨-, run⟩ | ⟨-, idle, -, run⟩ | ⟨-, idle, ended, run⟩ := outcomes
    · -- refused
      simp only [run, Bool.false_eq_true, and_false, if_false]
      exact .refl _ _
    · -- taken: the channel moves the buffer
      simp only [run, and_self, if_true]
      rw [Endpoint.running_idle idle]
      exact .ask _
    · -- taken, and ended by the packet that had come before; nothing ends an IN transfer so
      simp only [run, and_self, if_true]
      rw [Endpoint.running_idle idle, Endpoint.running_idle (rfl : (Endpoint.ended ..).job.busy = false),
        calls_callObs_of_ep (fun c called => by cases called; exact owns.ep)]
      have answered : Reports other (buf, bufSize) ⟨callback, .ok, 0⟩ :=
        ⟨Nat.zero_le _, fun isIn => absurd ended (by simp [noEnd isIn])⟩
      exact Settles.trans (.ask (buf, bufSize)) (.answer answered)
  · have elsewhere : ¬ (id = other ∧
        (uddEpRun id.isIn false buf bufSize (some callback) (s.ep id)).1 = true) :=
      fun both => same both.1.symm
    rw [if_neg elsewhere, onEp_ep_other _ _ _ same, epKept, calls_callObs_other same]
    · exact .refl _ _
    · intro c called
      obtain ⟨-, run⟩ | ⟨-, -, -, run⟩ | ⟨-, -, -, run⟩ := outcomes <;> rw [run] at called
      · cases called
      · cases called
      · cases called
        exact owns.ep

/-! ## Events -/

section Events

variable {s : Stream} (wired : Wired s)

include wired

theorem accounts_shut : Accounts s (shut s) := by
  have freedIn : Accounts s (onEp .bulkIn uddEpFree s) :=
    accounts_onEp (settling_free wired.soundIn)
  have out : (onEp .bulkIn uddEpFree s).ep .bulkOut = s.epOut :=
    onEp_ep_other .bulkIn uddEpFree s (by decide)
  have freedOut : Accounts (onEp .bulkIn uddEpFree s)
      (onEp .bulkOut uddEpFree (onEp .bulkIn uddEpFree s)) :=
    accounts_onEp (by rw [out]; exact settling_free wired.soundOut)
  exact (freedIn.trans freedOut).trans (.of_frame rfl fun id => by cases id <;> rfl)

theorem accounts_disable (configured : s.udcNumConfiguration ≠ 0) :
    Accounts s (udcIfaceDisable 0 s).2 := by
  rw [udcIfaceDisable_eq wired configured]
  split_ifs
  · exact accounts_shut wired
  · exact .refl s

theorem accounts_reset (configuration : Nat) :
    Accounts s { udcReset s with udcNumConfiguration := configuration } := by
  have taken : Accounts s (if s.udcNumConfiguration ≠ 0 then (udcIfaceDisable 0 s).2 else s) := by
    split_ifs with configured
    · exact accounts_disable wired configured
    · exact .refl s
  exact taken.trans (.of_frame rfl fun id => by cases id <;> rfl)

omit wired in
theorem accounts_enable (down : Down s) (configured : s.udcNumConfiguration ≠ 0) (settingNum : Nat) :
    Accounts s (udcIfaceEnable 0 settingNum s).2 := by
  by_cases one : settingNum = 1
  · rw [one, udcIfaceEnable_one down configured]
    exact .of_frame rfl fun id => by cases id <;> rfl
  · rw [udcIfaceEnable_other one configured]
    split_ifs
    · exact .of_frame rfl fun id => by cases id <;> rfl
    · exact .refl s

theorem accounts_setConfiguration (wValue wLength : UInt16) :
    Accounts s (udcReqStdDevSetConfiguration wValue wLength s).2 := by
  have reset := (takenDown_reset wired).configure (wValue &&& 0xFF).toNat
  have settled := accounts_reset wired (wValue &&& 0xFF).toNat
  simp only [udcReqStdDevSetConfiguration]
  split_ifs with length address number empty
  · exact .refl s
  · exact .refl s
  · exact .refl s
  · exact settled
  · exact settled.trans (accounts_enable reset.down empty 0)

theorem accounts_setInterface (wValue wIndex wLength : UInt16) :
    Accounts s (udcReqStdIfaceSetSetting wValue wIndex wLength s).2 := by
  simp only [udcReqStdIfaceSetSetting]
  by_cases iface : (wIndex &&& 0xFF).toNat = 0
  · rw [iface]
    split_ifs with length configured disabled
    · exact .refl s
    · exact .refl s
    · exact accounts_disable wired configured
    · obtain ⟨taken, number⟩ := takenDown_disable wired configured
      exact (accounts_disable wired configured).trans
        (accounts_enable taken.down (number ▸ configured) _)
  · rw [udcIfaceDisable_other iface]
    split_ifs with length configured disabled
    · exact .refl s
    · exact .refl s
    · exact .refl s
    · exact absurd rfl disabled

theorem accounts_setFeature (wValue wIndex wLength : UInt16) :
    Accounts s (udcReqStdEpSetFeature wValue wIndex wLength s) := by
  simp only [udcReqStdEpSetFeature]
  split_ifs
  · exact .refl s
  · cases EpId.ofAddress wIndex with
    | none => exact .refl s
    | some id =>
      -- the abort has left no job, and a halt is no report
      have aborted : Accounts s (onEp id (uddEpAbort (addressIsIn wIndex)) s) :=
        accounts_onEp (settling_abort (wired.sound id) _)
      have idle : ((onEp id (uddEpAbort (addressIsIn wIndex)) s).ep id).job.busy = false := by
        rw [onEp_ep, uddEpAbort_fst]
      obtain ⟨busy, -⟩ := uddEpSetHalt_job (addressIsIn wIndex) idle
      refine aborted.trans (.of_frame (by cases id <;> rfl) fun other => ?_)
      cases id with
      | bulkIn =>
        cases other with
        | bulkIn => exact (Endpoint.running_idle busy).trans (Endpoint.running_idle idle).symm
        | bulkOut => rfl
      | bulkOut =>
        cases other with
        | bulkIn => rfl
        | bulkOut => exact (Endpoint.running_idle busy).trans (Endpoint.running_idle idle).symm

theorem accounts_clearFeature (wValue wIndex wLength : UInt16) (junk : Status) :
    Accounts s (udcReqStdEpClearFeature wValue wIndex wLength junk s) := by
  simp only [udcReqStdEpClearFeature]
  split_ifs
  · exact .refl s
  · cases EpId.ofAddress wIndex with
    | none => exact .refl s
    | some id => exact accounts_onEp (settling_clearHalt (wired.sound id) junk)

theorem accounts_inBanks (banks : Nat) : Accounts s (inBanks banks s) := by
  have filled : Accounts s { s with epIn := { s.epIn with busyBanks := banks } } :=
    .of_frame rfl fun id => by cases id <;> rfl
  simp only [inBanks]
  split_ifs
  · have sound : Endpoint.Sound .bulkIn { s.epIn with busyBanks := banks } := { wired.soundIn with }
    exact filled.trans (accounts_onEp (settling_bankInterrupt sound))
  · exact filled

theorem accounts_busReset (highSpeed : Bool) : Accounts s (uddReset highSpeed s) := by
  have killedIn : Accounts s (onEp .bulkIn (uddEpFinishJob true) s) :=
    accounts_onEp (settling_finishJob wired.soundIn)
  have killedOut := killedIn.trans
    (accounts_onEp (settling_finishJob ((wired.kill .bulkIn).sound .bulkOut)))
  have reset := accounts_reset ((wired.kill .bulkIn).kill .bulkOut) 0
  exact (killedOut.trans reset).trans (.of_frame rfl fun id => by cases id <;> rfl)

theorem accounts_request (wValue wIndex : UInt16) : Accounts s (configureSampling wValue wIndex s) := by
  have asked : Accounts s (s.observe [.request wValue wIndex]) :=
    .of_same rfl (fun _ => ⟨rfl, rfl⟩) fun id => by cases id <;> rfl
  have wiredAsked : Wired (s.observe [.request wValue wIndex]) := { wired with }
  by_cases stop : wValue < 1
  · rw [configureSampling_stop stop]
    exact .of_same rfl (fun _ => ⟨rfl, rfl⟩) fun id => by cases id <;> rfl
  · have start : 1 ≤ wValue := UInt16.not_lt.mp stop
    have abortedIn : Accounts (s.observe [.request wValue wIndex])
        (onEp .bulkIn (uddEpAbort true) (s.observe [.request wValue wIndex])) :=
      accounts_onEp (settling_abort wired.soundIn true)
    have abortedOut := accounts_onEp (settling_abort
      ((wiredAsked.abort .bulkIn true).sound .bulkOut) false)
    have first : Accounts _ (udiVendorBulkRun .bulkOut (.packetsOut 0 0) 1024
        .mainVendorBulkOutReceivedFirst (onEp .bulkOut (uddEpAbort false)
          (onEp .bulkIn (uddEpAbort true) (s.observe [.request wValue wIndex])))) :=
      accounts_run _ (.inr rfl) (by decide) (by decide) fun isIn => by cases isIn
    -- the assignments in between concern neither the endpoints nor the trace
    refine ((asked.trans (abortedIn.trans abortedOut)).trans first).trans (.of_frame ?_ fun id => ?_)
    · rw [configureSampling_start start, udiVendorBulkRun_bulkOut, callBack_eq, onEp_bulkOut,
        callBack_eq, onEp_bulkIn, callBack_eq]
      simp [Stream.observe, firstRun]
    · rw [configureSampling_start start, udiVendorBulkRun_bulkOut, callBack_eq, onEp_bulkOut,
        callBack_eq, onEp_bulkIn, callBack_eq]
      cases id <;> rfl

/-- Every event reports its transfers in order. -/
theorem accounts_step (event : Event) : Accounts s (step s event) := by
  cases event with
  | tc2 =>
    simp only [step, tc2Interrupt]
    split_ifs
    · exact .refl s
    · exact .of_same rfl (fun _ => ⟨rfl, rfl⟩) fun id => by cases id <;> rfl
  | loop =>
    simp only [step, mainLoop]
    cases s.pc with
    | runIn index =>
      have moved : Accounts s { s with pc := .testOut } :=
        .of_frame rfl fun id => by cases id <;> rfl
      exact moved.trans (accounts_run _ rfl (by decide) (by decide) fun _ => wired.endTrStIn)
    | runOut index =>
      have moved : Accounts s { s with pc := .watchdog } :=
        .of_frame rfl fun id => by cases id <;> rfl
      exact moved.trans (accounts_run _ (.inl rfl) (by decide) (by decide) fun isIn => by cases isIn)
    | readIndexIn => exact .of_same rfl (fun _ => ⟨rfl, rfl⟩) fun id => by cases id <;> rfl
    | _ => exact .of_frame rfl fun id => by cases id <;> rfl
  | sof fnum =>
    simp only [step, mainSofAction]
    split_ifs <;> exact .of_frame rfl fun id => by cases id <;> rfl
  | request wValue wIndex => exact accounts_request wired wValue wIndex
  | outByte value =>
    simp only [step, dmaOutByte]
    split_ifs with moves
    · cases s.epOut.job.buf with
      | packetsOut packet word =>
        exact .of_same rfl (fun _ => ⟨rfl, rfl⟩) fun id => by cases id <;> rfl
      | _ => exact .refl s
    · exact .refl s
  | outDone => exact accounts_onEp (settling_outDone wired.soundOut)
  | outEndTr =>
    simp only [step, outEndTr]
    split_ifs
    · exact .of_frame rfl fun id => by cases id <;> rfl
    · exact .refl s
  | inDone => exact accounts_onEp (settling_inDone wired.soundIn)
  | inBanks banks => exact accounts_inBanks wired banks
  | busReset highSpeed => exact accounts_busReset wired highSpeed
  | setAddress wValue => exact .of_frame rfl fun id => by cases id <;> rfl
  | setConfiguration wValue wLength => exact accounts_setConfiguration wired wValue wLength
  | setInterface wValue wIndex wLength => exact accounts_setInterface wired wValue wIndex wLength
  | setFeature wValue wIndex wLength => exact accounts_setFeature wired wValue wIndex wLength
  | clearFeature wValue wIndex wLength junk =>
    exact accounts_clearFeature wired wValue wIndex wLength junk

end Events

/-- The calls of an endpoint answer its transfers, one each and in order; at most the last
    transfer is unanswered, and it is so exactly while its job is registered. -/
structure AnswersEach (id : EpId) (s : Stream) : Prop where
  inOrder : List.Forall₂ (Reports id) ((transfers id s.trace).take (calls id s.trace).length)
    (calls id s.trace)
  exactly : (transfers id s.trace).length = (calls id s.trace).length + (s.ep id).job.busy.toNat

/-- Every run of the streaming machine reports its transfers. -/
theorem answersEach_run (events : List Event) (id : EpId) : AnswersEach id (run step {} events) := by
  have accounted : Always step (fun s => Wired s ∧ Accounts {} s) {} events :=
    always_of_events (C := fun _ => True)
      (fun s event ⟨wired, accounts⟩ _ =>
        ⟨wired_step wired event, accounts.trans (accounts_step wired event)⟩)
      ⟨wired_boot, .refl _⟩ (fun _ _ => trivial)
  obtain ⟨-, obs, trace, settles⟩ := accounted.last
  generalize run step {} events = s at trace settles ⊢
  rw [List.nil_append] at trace
  have settled : Settles (Reports id) [] (transfers id s.trace) (calls id s.trace)
      (s.ep id).running := by
    rw [trace]
    have start : (Stream.ep {} id).running = [] := by cases id <;> rfl
    exact start ▸ settles id
  refine ⟨settled.inOrder, ?_⟩
  rw [settled.length]
  cases busy : (s.ep id).job.busy with
  | false => rw [Endpoint.running_idle busy]; rfl
  | true => rw [Endpoint.running_busy busy]; rfl

/-- At every moment of a run of the device whose run calls are not disturbed, the calls of the main
    loop apart, each transfer that the driver has taken has been reported once, or is the one that
    is under way. -/
theorem transfers_answered {events : List Event}
    (calm : Throughout Preemptible.step SparesCall {} events) (id : EpId) :
    Always Preemptible.step (fun f => f.place = .called → AnswersEach id f.stream) {} events := by
  intro done isPrefix outside
  obtain ⟨rest, rfl⟩ := isPrefix
  rw [run_calls_atomic ((throughout_append _ _ _ _ _).mp calm).1 outside]
  exact answersEach_run _ id

/-- A sample interrupt cuts the run call that hands the first frame over. -/
theorem transfers_answered_cut :
    Always Preemptible.step (fun f => f.place = .called → AnswersEach .bulkIn f.stream) {}
      (bringUp ++ [.request 1000 0, .outDone, .sof 5] ++ List.replicate 520 .tc2 ++
        List.replicate 6 .loop ++ [.tc2] ++ List.replicate 3 .loop ++ [.inDone]) :=
  transfers_answered (by decide +kernel) .bulkIn

end M1k
