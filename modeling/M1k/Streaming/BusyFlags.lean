import M1k.Streaming.Wiring

/-! # The busy flags and the registered jobs

`sending_in` and `sending_out` stand for a transfer that is on its way: set before the job is
registered, cleared by the callback of a job that completed.  An abort calls the callback too,
but clears nothing, and the result of the call that registers a job is not looked at. -/

namespace M1k

/-- The main loop has set the flag of a direction and its run call has not returned. -/
def MainPc.handingOver (pc : MainPc) : EpId → Bool
  | .bulkIn =>
    match pc with
    | .readIndexIn | .runIn _ => true
    | _ => false
  | .bulkOut =>
    match pc with
    | .readIndexOut | .runOut _ => true
    | _ => false

/-- A job is registered whose completion clears the flag. -/
def Endpoint.Pending (id : EpId) (ep : Endpoint) : Prop :=
  ep.job.busy = true ∧ ∃ callback, ep.job.callTrans = some callback ∧ id.Owns callback

/-- Outside a hand-over a set flag has a job. -/
def FlagAgrees (id : EpId) (s : Stream) : Prop :=
  s.pc.handingOver id = false → s.sending id = true → (s.ep id).Pending id

/-- No flag outside a hand-over would outlive a job of the direction that is aborted now. -/
def Spared (id : EpId) (s : Stream) : Prop := s.sending id = true → s.pc.handingOver id = true

/-! ## Flags and jobs side by side -/

theorem Endpoint.Sound.pending {id : EpId} {ep : Endpoint} (sound : ep.Sound id)
    (busy : ep.job.busy = true) : ep.Pending id := ⟨busy, sound.owned busy⟩

/-- Without a job, agreement is that no flag is exposed. -/
theorem flagAgrees_of_idle {id : EpId} {s : Stream} (idle : (s.ep id).job.busy = false) :
    FlagAgrees id s ↔ Spared id s := by
  constructor
  · intro agrees sending
    cases handing : s.pc.handingOver id with
    | true => rfl
    | false => exact absurd (agrees handing sending).1 (by simp [idle])
  · intro spared handing sending
    rw [spared sending] at handing
    simp at handing

theorem flagAgrees_of_clear {id : EpId} {s : Stream} (clear : s.sending id = false) :
    FlagAgrees id s := fun _ sending => absurd sending (by simp [clear])

theorem flagAgrees_of_busy {id : EpId} {s : Stream} (wired : Wired s)
    (busy : (s.ep id).job.busy = true) : FlagAgrees id s :=
  fun _ _ => (wired.sound id).pending busy

/-- Agreement depends on the hand-over, the flag and the job only. -/
theorem FlagAgrees.same {id : EpId} {s s' : Stream} (agrees : FlagAgrees id s)
    (handing : s'.pc.handingOver id = false → s.pc.handingOver id = false)
    (sending : s'.sending id = true → s.sending id = true)
    (job : s.sending id = true → (s.ep id).Pending id → (s'.ep id).Pending id) :
    FlagAgrees id s' :=
  fun free flag => job (sending flag) (agrees (handing free) (sending flag))

theorem spared_congr {id : EpId} {s s' : Stream} (pc : s'.pc = s.pc)
    (sending : s'.sending id = s.sending id) : Spared id s' ↔ Spared id s := by
  simp only [Spared, pc, sending]

/-- A refused call leaves the flag to the job that was there, if the endpoint is ready. -/
theorem flagAgrees_of_refused {id : EpId} {s s' : Stream} (wired : Wired s)
    (refused : (s.ep id).ready = false ∨ (s.ep id).job.busy = true)
    (free : s'.pc.handingOver id = false) (flag : s'.sending id = s.sending id)
    (same : s'.ep id = s.ep id) :
    FlagAgrees id s' ↔ (s.sending id = true → (s.ep id).ready = true) := by
  constructor
  · intro agrees sending
    have pending := agrees free (flag.trans sending)
    rw [same] at pending
    exact (wired.sound id).ready pending.1
  · intro ready _ sending
    have isReady := ready (flag.symm.trans sending)
    have busy : (s.ep id).job.busy = true := by
      obtain notReady | busy := refused
      · rw [isReady] at notReady; simp at notReady
      · exact busy
    rw [same]
    exact (wired.sound id).pending busy

/-! ## The events one by one -/

theorem flagIn_runIn {s : Stream} (wired : Wired s) {index : UInt32} (pc : s.pc = .runIn index) :
    FlagAgrees .bulkIn (step s .loop) ↔ (s.sendingIn = true → s.epIn.ready = true) := by
  have free : (step s .loop).pc.handingOver .bulkIn = false := by
    simp only [step, mainLoop, pc, udiVendorBulkRun_bulkIn, callBack_eq]; rfl
  have kept := wired_step wired .loop
  obtain ⟨refused, run⟩ | ⟨ready, -, -, run⟩ | ⟨-, -, ended, -⟩ :=
    uddEpRun_cases true (.packetsIn index.toNat 0) .mainVendorBulkInReceived s.epIn
      (by decide : 0 < 2048) (by decide)
  · have flag : (step s .loop).sending .bulkIn = s.sendingIn := by
      simp [step, mainLoop, pc, udiVendorBulkRun_bulkIn, callBack_eq, run, Stream.sending]
    have same : (step s .loop).ep .bulkIn = s.epIn := by
      simp [step, mainLoop, pc, udiVendorBulkRun_bulkIn, callBack_eq, run, Stream.ep]
    exact flagAgrees_of_refused wired refused free flag same
  · refine iff_of_true (flagAgrees_of_busy kept ?_) fun _ => ready
    simp [step, mainLoop, pc, udiVendorBulkRun_bulkIn, callBack_eq, run, Stream.ep, Endpoint.moving]
  · rw [wired.endTrStIn] at ended; simp at ended

/-- A run call of the OUT direction. -/
theorem FlagAgrees.runOut {s : Stream} (agrees : FlagAgrees .bulkIn s) {index : UInt32}
    (pc : s.pc = .runOut index) : FlagAgrees .bulkIn (step s .loop) := by
  refine agrees.same ?_ ?_ ?_ <;>
    simp only [step, mainLoop, pc, udiVendorBulkRun_bulkOut, callBack_eq, MainPc.handingOver,
      Stream.sending, Stream.ep, implies_true, Bool.and_eq_true]
  · exact fun both => both.1
  · exact fun _ pending => pending

theorem FlagAgrees.outDone {s : Stream} (agrees : FlagAgrees .bulkIn s) :
    FlagAgrees .bulkIn (step s .outDone) := by
  simp only [step, onEp_bulkOut, callBack_eq]
  refine agrees.same id ?_ fun _ pending => pending
  simp only [Stream.sending, Bool.and_eq_true]
  exact And.left

theorem FlagAgrees.inDone {s : Stream} (wired : Wired s) (agrees : FlagAgrees .bulkIn s) :
    FlagAgrees .bulkIn (step s .inDone) := by
  simp only [step, onEp_bulkIn, callBack_eq]
  cases busy : s.epIn.job.busy with
  | false =>
    refine agrees.same id ?_ fun _ pending => ?_
    · simp only [Stream.sending, Bool.and_eq_true]
      exact And.left
    · exact absurd pending.1 (by simp [Stream.ep, busy])
  | true =>
    obtain ⟨callback, call, owns⟩ := wired.soundIn.owned busy
    change callback = .mainVendorBulkInReceived at owns
    simp only [dmaInDone]
    split_ifs with on
    · have running : s.epIn.dmaOn = true := by simp only [Bool.and_eq_true] at on; exact on.1
      have full : Endpoint.Sound .bulkIn { s.epIn with dmaCount := s.epIn.job.bufLoad } :=
        { wired.soundIn with }
      refine flagAgrees_of_clear ?_
      rw [uddEpDmaInterrupt_sound full true running]
      simp [busy, call, owns, clearsIn, Stream.sending]
    · exact agrees.same id (by simp [Stream.sending]) fun _ pending => pending

/-! ## Events that leave the job alone -/

/-- Clearing a halt leaves a running job alone. -/
theorem pending_clearFeature {s : Stream} (wired : Wired s) (wValue wIndex wLength : UInt16)
    (junk : Status) (id : EpId) (pending : (s.ep id).Pending id) :
    ((udcReqStdEpClearFeature wValue wIndex wLength junk s).ep id).Pending id := by
  simp only [udcReqStdEpClearFeature]
  split_ifs with refused
  · exact pending
  · cases EpId.ofAddress wIndex with
    | none => exact pending
    | some selected =>
      cases selected with
      | bulkIn =>
        simp only [onEp_bulkIn, callBack_eq, uddEpClearHalt_sound wired.soundIn junk]
        cases id <;> exact pending
      | bulkOut =>
        simp only [onEp_bulkOut, callBack_eq, uddEpClearHalt_sound wired.soundOut junk]
        cases id <;> exact pending

/-- So does a bank that comes free. -/
theorem pending_inBanks {s : Stream} (wired : Wired s) (banks : Nat) (id : EpId)
    (pending : (s.ep id).Pending id) : ((inBanks banks s).ep id).Pending id := by
  have sound : Endpoint.Sound .bulkIn { s.epIn with busyBanks := banks } := { wired.soundIn with }
  simp only [inBanks]
  split_ifs with empty
  · simp only [onEp_bulkIn, callBack_eq, uddEpBankInterrupt_sound sound]
    split_ifs <;> cases id <;> exact pending
  · cases id <;> exact pending

theorem FlagAgrees.quiet {id : EpId} {s s' : Stream} (agrees : FlagAgrees id s) (quiet : Quiet s s')
    (kept : (s.ep id).Pending id → (s'.ep id).Pending id) : FlagAgrees id s' := by
  apply agrees.same (fun free => quiet.pc ▸ free) ?_ fun _ => kept
  cases id with
  | bulkIn => exact quiet.sendingIn
  | bulkOut => exact fun flag => quiet.sendingOut.symm.trans flag

end M1k
