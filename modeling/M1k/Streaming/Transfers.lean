import M1k.Library.Mailbox
import M1k.Streaming.Session

/-! # Transfers in a trace

The transfers that the driver has taken on an endpoint and those it has reported done, and
what the data events do to them. -/

namespace M1k

open Library.Runs

/-- The endpoint that a callback is registered on. -/
def Callback.ep : Callback → EpId
  | .mainVendorBulkInReceived => .bulkIn
  | .mainVendorBulkOutReceived | .mainVendorBulkOutReceivedFirst => .bulkOut

theorem EpId.Owns.ep {id : EpId} {callback : Callback} (owns : id.Owns callback) :
    callback.ep = id := by
  cases id with
  | bulkIn => rw [show callback = .mainVendorBulkInReceived from owns]; rfl
  | bulkOut =>
    rcases owns with rfl | rfl
    · rfl
    · rfl

/-- The buffer and the size of a transfer that the driver takes. -/
def Obs.transfer? (id : EpId) : Obs → Option (Ptr × Nat)
  | .epRun ep buf bufSize accepted => if ep = id ∧ accepted = true then some (buf, bufSize) else none
  | .request .. | .interrupt _ | .indexInRead | .outByte _ | .completed _ => none

def transfers (id : EpId) (trace : List Obs) : List (Ptr × Nat) := trace.filterMap (Obs.transfer? id)

/-- A transfer is reported with `UDD_EP_TRANSFER_OK`. -/
def Obs.delivers (id : EpId) : Obs → Bool
  | .completed completion => completion.status = .ok && completion.callback.ep = id
  | .request .. | .interrupt _ | .indexInRead | .outByte _ | .epRun .. => false

def delivered (id : EpId) (trace : List Obs) : Nat := trace.countP (Obs.delivers id)

section Append

variable (id : EpId) (first second : List Obs)

@[simp] theorem transfers_append :
    transfers id (first ++ second) = transfers id first ++ transfers id second :=
  List.filterMap_append

@[simp] theorem delivered_append :
    delivered id (first ++ second) = delivered id first + delivered id second :=
  List.countP_append

end Append

section Single

variable (id ep : EpId) (buf : Ptr) (bufSize : Nat) (accepted : Bool) (tick : Tick)
  (wValue wIndex : UInt16)

@[simp] theorem ticks_epRun : ticks [.epRun ep buf bufSize accepted] = [] := rfl
@[simp] theorem ticks_interrupt : ticks [.interrupt tick] = [tick] := rfl
@[simp] theorem ticks_indexInRead : ticks [.indexInRead] = [] := rfl
@[simp] theorem transfers_request : transfers id [.request wValue wIndex] = [] := rfl
@[simp] theorem transfers_interrupt : transfers id [.interrupt tick] = [] := rfl
@[simp] theorem transfers_indexInRead : transfers id [.indexInRead] = [] := rfl
@[simp] theorem delivered_request : delivered id [.request wValue wIndex] = 0 := rfl
@[simp] theorem delivered_epRun : delivered id [.epRun ep buf bufSize accepted] = 0 := rfl
@[simp] theorem delivered_interrupt : delivered id [.interrupt tick] = 0 := rfl
@[simp] theorem delivered_indexInRead : delivered id [.indexInRead] = 0 := rfl

@[simp] theorem transfers_epRun : transfers id [.epRun ep buf bufSize accepted] =
    if ep = id ∧ accepted = true then [(buf, bufSize)] else [] := by
  simp only [transfers, List.filterMap_cons, Obs.transfer?, List.filterMap_nil]
  split_ifs <;> rfl

end Single

@[simp] theorem transfers_callObs (id : EpId) (completion : Option Completion) :
    transfers id (callObs completion) = [] := by
  cases completion <;> rfl

/-- The call ends a transfer of the endpoint. -/
def clears (id : EpId) (completion : Option Completion) : Bool :=
  completion.any fun c => c.status = .ok && c.callback.ep = id

@[simp] theorem clears_none (id : EpId) : clears id none = false := rfl

theorem clears_bulkIn (completion : Option Completion) :
    clears .bulkIn completion = clearsIn completion := by
  cases completion with
  | none => rfl
  | some c =>
    obtain ⟨callback, status, nbTransfered⟩ := c
    cases callback <;> cases status <;> rfl

theorem clears_bulkOut (completion : Option Completion) :
    clears .bulkOut completion = clearsOut completion := by
  cases completion with
  | none => rfl
  | some c =>
    obtain ⟨callback, status, nbTransfered⟩ := c
    cases callback <;> cases status <;> rfl

/-! ## Fields -/

section Fields

variable (id : EpId) (s : Stream) (ep : Endpoint) (completion : Option Completion)

@[simp] theorem setEp_smp : (s.setEp id ep).smp = s.smp := by cases id <;> rfl
@[simp] theorem setEp_pc : (s.setEp id ep).pc = s.pc := by cases id <;> rfl
@[simp] theorem setEp_trace : (s.setEp id ep).trace = s.trace := by cases id <;> rfl
@[simp] theorem setEp_ep : (s.setEp id ep).ep id = ep := by cases id <;> rfl

@[simp] theorem setEp_sending (other : EpId) : (s.setEp id ep).sending other = s.sending other := by
  cases id <;> cases other <;> rfl

theorem setEp_ep_other {other : EpId} (different : other ≠ id) : (s.setEp id ep).ep other = s.ep other := by
  cases id <;> cases other <;> first | rfl | exact absurd rfl different

@[simp] theorem callBack_smp : (callBack completion s).smp = s.smp := by rw [callBack_eq]
@[simp] theorem callBack_pc : (callBack completion s).pc = s.pc := by rw [callBack_eq]

@[simp] theorem callBack_trace :
    (callBack completion s).trace = s.trace ++ callObs completion := by rw [callBack_eq]

@[simp] theorem callBack_ep : (callBack completion s).ep id = s.ep id := by
  rw [callBack_eq]; cases id <;> rfl

@[simp] theorem callBack_sending :
    (callBack completion s).sending id = (s.sending id && !clears id completion) := by
  rw [callBack_eq]
  cases id with
  | bulkIn => simp [Stream.sending, clears_bulkIn]
  | bulkOut => simp [Stream.sending, clears_bulkOut]

end Fields

section OnEp

variable (id : EpId) (f : Endpoint → Endpoint × Option Completion) (s : Stream)

theorem onEp_trace : (onEp id f s).trace = s.trace ++ callObs (f (s.ep id)).2 := by
  rw [onEp, callBack_eq]
  cases id <;> rfl

theorem onEp_ep : (onEp id f s).ep id = (f (s.ep id)).1 := by
  rw [onEp, callBack_eq]
  cases id <;> rfl

theorem onEp_ep_other {other : EpId} (different : other ≠ id) : (onEp id f s).ep other = s.ep other := by
  rw [onEp, callBack_ep, setEp_ep_other _ _ _ different]

end OnEp

/-- The end of the first OUT transfer is the end of an OUT transfer. -/
theorem clears_of_completesFirst {completion : Option Completion}
    (first : completesFirst completion = true) : clears .bulkOut completion = true := by
  cases completion with
  | none => simp at first
  | some c =>
    simp only [completesFirst, Option.any_some, Bool.and_eq_true, decide_eq_true_eq] at first
    simp [clears, first.1, first.2, Callback.ep]

theorem delivered_callObs (id : EpId) (completion : Option Completion) :
    delivered id (callObs completion) = (clears id completion).toNat := by
  cases completion with
  | none => rfl
  | some c =>
    simp only [callObs, Option.toList_some, List.map_cons, List.map_nil, delivered,
      List.countP_singleton, Obs.delivers, clears, Option.any_some]
    split_ifs with delivers <;> simp [delivers]

/-- A transfer of one endpoint ends none of the other. -/
theorem clears_other {id other : EpId} (different : id ≠ other) {completion : Option Completion}
    (owned : ∀ c, completion = some c → c.callback.ep = other) : clears id completion = false := by
  cases completion with
  | none => rfl
  | some c =>
    have ep := owned c rfl
    simp [clears, ep, different.symm]

/-! ## Transfers that end -/

/-- A driver function ends the registered job with an OK, if any, or leaves it. -/
structure Ending (id : EpId) (ep : Endpoint) (result : Endpoint × Option Completion) : Prop where
  job : result.1.job.busy = (ep.job.busy && !result.2.isSome)
  call : ∀ c, result.2 = some c → ep.job.busy = true ∧ c.status = .ok ∧ c.callback.ep = id

theorem Ending.clears {id : EpId} {ep : Endpoint} {result : Endpoint × Option Completion}
    (ending : Ending id ep result) : clears id result.2 = result.2.isSome := by
  cases called : result.2 with
  | none => rfl
  | some c =>
    obtain ⟨-, status, owner⟩ := ending.call c called
    simp [M1k.clears, status, owner]

theorem ending_dmaInterrupt {id : EpId} {ep : Endpoint} (sound : ep.Sound id) (isIn : Bool)
    (on : ep.dmaOn = true) : Ending id ep (uddEpDmaInterrupt isIn ep) := by
  rw [uddEpDmaInterrupt_sound sound isIn on]
  cases busy : ep.job.busy with
  | false =>
    simp only [Bool.false_eq_true, if_false]
    refine ⟨?_, by simp⟩
    split_ifs <;> simp [busy]
  | true =>
    obtain ⟨callback, registered, owns⟩ := sound.owned busy
    refine ⟨by simp [registered, busy], ?_⟩
    intro c called
    simp only [if_true, registered, Option.map_some, Option.some.injEq] at called
    rw [← called]
    exact ⟨busy, rfl, owns.ep⟩

theorem ending_inDone {ep : Endpoint} (sound : ep.Sound .bulkIn) :
    Ending .bulkIn ep (dmaInDone ep) := by
  have full : Endpoint.Sound .bulkIn { ep with dmaCount := ep.job.bufLoad } := { sound with }
  simp only [dmaInDone]
  split_ifs with on
  · exact { ending_dmaInterrupt full true (by simp only [Bool.and_eq_true] at on; exact on.1) with }
  · exact ⟨by simp, by simp⟩

theorem ending_outDone {ep : Endpoint} (sound : ep.Sound .bulkOut) :
    Ending .bulkOut ep (dmaOutDone ep) := by
  simp only [dmaOutDone]
  split_ifs with on
  · exact ending_dmaInterrupt sound false (by simp only [Bool.and_eq_true] at on; exact on.1)
  · exact ⟨by simp, by simp⟩

end M1k
