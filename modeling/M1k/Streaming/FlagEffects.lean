import M1k.Streaming.BusyFlags
import M1k.Streaming.RunCall
import M1k.Streaming.Transfers

/-! # What an event does to a flag and its job

Of a job that ends, the callback clears the flag; of a job that is aborted it does not.  For each
event and each direction, the job either is kept, or ends in a call that clears the flag, or is lost
and the flag stands as it stood.  Nothing is assumed of the state but that the callbacks belong to
their endpoints, so that an interrupt in the middle of a run call is an event like any other. -/

namespace M1k

/-! ## Events that take a job -/

/-- A job is registered on a halted endpoint, which `udd_ep_run` refuses to start it over on. -/
def Endpoint.Stuck (ep : Endpoint) : Prop :=
  ep.job.busy = true ∧ (ep.stall = true ∨ ep.job.stallRequested = true)

/-- Enabling setting 1 comes to the endpoint of the direction, and is refused to start its job over. -/
def LosesRestart (id : EpId) (s : Stream) : Prop :=
  s.epIn.enabled = false ∧ (s.ep id).Stuck ∧ (id = .bulkOut → ¬ s.epIn.Stuck)

/-- The event takes the job of the direction, if there is one, and clears no flag for it. -/
def Aborts (id : EpId) (s : Stream) : Event → Prop
  | .busReset _ => True
  | .setConfiguration wValue wLength =>
    wLength = 0 ∧ s.address ≠ 0 ∧ (wValue &&& 0xFF).toNat ≤ 1 ∧ s.udcNumConfiguration ≠ 0 ∧
      s.udiVendorAlternateSetting = 1
  | .setInterface wValue wIndex wLength =>
    (wLength = 0 ∧ s.udcNumConfiguration ≠ 0 ∧ (wIndex &&& 0xFF).toNat = 0) ∧
      -- enabling setting 1 clears `sending_in`, and starts over what is registered outside it
      (s.udiVendorAlternateSetting = 1 ∧ ((wValue &&& 0xFF).toNat = 1 → id = .bulkOut) ∨
        s.udiVendorAlternateSetting = 0 ∧ (wValue &&& 0xFF).toNat = 1 ∧ LosesRestart id s)
  | .setFeature wValue wIndex wLength =>
    (wLength = 0 ∧ wValue = 0) ∧ EpId.ofAddress wIndex = some id
  | .clearFeature wValue wIndex wLength junk =>
    (wLength = 0 ∧ wValue = 0) ∧ EpId.ofAddress wIndex = some id ∧ (s.ep id).Stuck ∧ junk = .abort
  | _ => False

/-! ## What an event does to one direction -/

/-- The job goes on, or has ended with a call that clears the flag. -/
structure Keeps (id : EpId) (s s' : Stream) : Prop where
  pc : s'.pc = s.pc
  sending : s'.sending id = true → s.sending id = true
  callTrans : (s'.ep id).job.callTrans = (s.ep id).job.callTrans
  job : (s'.ep id).job.busy = (s.ep id).job.busy ∨ (s'.ep id).job.busy = false ∧
    ∀ callback, (s.ep id).job.callTrans = some callback → id.Owns callback → s'.sending id = false

/-- The job is gone, and the flag stands as it stood. -/
structure Loses (id : EpId) (s s' : Stream) : Prop where
  pc : s'.pc = s.pc
  sending : s'.sending id = s.sending id
  callTrans : (s'.ep id).job.callTrans = (s.ep id).job.callTrans
  idle : (s'.ep id).job.busy = false

section Direction

variable {id : EpId} {s s' s'' : Stream}

theorem Keeps.of_same (pc : s'.pc = s.pc) (sending : s'.sending id = s.sending id)
    (ep : (s'.ep id).job = (s.ep id).job) : Keeps id s s' where
  pc := pc
  sending flag := sending ▸ flag
  callTrans := congrArg EpJob.callTrans ep
  job := .inl (congrArg EpJob.busy ep)

theorem Keeps.refl (id : EpId) (s : Stream) : Keeps id s s := .of_same rfl rfl rfl

theorem Keeps.trans (first : Keeps id s s') (second : Keeps id s' s'') : Keeps id s s'' where
  pc := second.pc.trans first.pc
  sending flag := first.sending (second.sending flag)
  callTrans := second.callTrans.trans first.callTrans
  job := by
    obtain goesOn | ⟨idle, cleared⟩ := second.job
    · obtain still | ⟨idle, cleared⟩ := first.job
      · exact .inl (goesOn.trans still)
      · refine .inr ⟨goesOn.trans idle, fun callback called owns => ?_⟩
        rw [Bool.eq_false_iff]
        exact fun flag => Bool.eq_false_iff.mp (cleared callback called owns) (second.sending flag)
    · exact .inr ⟨idle, fun callback called => cleared callback (first.callTrans.trans called)⟩

theorem Keeps.busy (keeps : Keeps id s s') (busy : (s'.ep id).job.busy = true) :
    (s.ep id).job.busy = true := by
  obtain goesOn | ⟨idle, -⟩ := keeps.job
  · exact goesOn.symm.trans busy
  · exact absurd busy (Bool.eq_false_iff.mp idle)

theorem Keeps.agrees (keeps : Keeps id s s') (agrees : FlagAgrees id s) : FlagAgrees id s' := by
  intro free sending
  rw [keeps.pc] at free
  obtain ⟨busy, callback, called, owns⟩ := agrees free (keeps.sending sending)
  refine ⟨?_, callback, keeps.callTrans.trans called, owns⟩
  obtain goesOn | ⟨-, cleared⟩ := keeps.job
  · exact goesOn.trans busy
  · exact absurd sending (Bool.eq_false_iff.mp (cleared callback called owns))

theorem Loses.trans (first : Loses id s s') (second : Loses id s' s'') : Loses id s s'' where
  pc := second.pc.trans first.pc
  sending := second.sending.trans first.sending
  callTrans := second.callTrans.trans first.callTrans
  idle := second.idle

/-- What does not concern the direction does not bring its job back. -/
theorem Loses.of_same (loses : Loses id s s') (pc : s''.pc = s'.pc)
    (sending : s''.sending id = s'.sending id) (ep : (s''.ep id).job = (s'.ep id).job) :
    Loses id s s'' where
  pc := pc.trans loses.pc
  sending := sending.trans loses.sending
  callTrans := (congrArg EpJob.callTrans ep).trans loses.callTrans
  idle := (congrArg EpJob.busy ep).trans loses.idle

/-- What does not concern the direction may come first. -/
theorem Loses.after (loses : Loses id s' s'') (pc : s'.pc = s.pc) (sending : s'.sending id = s.sending id)
    (ep : (s'.ep id).job = (s.ep id).job) : Loses id s s'' where
  pc := loses.pc.trans pc
  sending := loses.sending.trans sending
  callTrans := loses.callTrans.trans (congrArg EpJob.callTrans ep)
  idle := loses.idle

/-- A loss that clears the flag as well is none. -/
theorem Loses.keeps (loses : Loses id s s') (pc : s''.pc = s'.pc) (clear : s''.sending id = false)
    (ep : (s''.ep id).job = (s'.ep id).job) : Keeps id s s'' where
  pc := pc.trans loses.pc
  sending flag := absurd flag (Bool.eq_false_iff.mp clear)
  callTrans := (congrArg EpJob.callTrans ep).trans loses.callTrans
  job := .inr ⟨(congrArg EpJob.busy ep).trans loses.idle, fun _ _ _ => clear⟩

theorem Loses.agrees_iff (loses : Loses id s s') : FlagAgrees id s' ↔ Spared id s :=
  (flagAgrees_of_idle loses.idle).trans (spared_congr loses.pc loses.sending)

end Direction

/-! ## What the driver does to a job -/

/-- The driver leaves the job registered, or ends it with a call that reports success. -/
structure Finishes (ep : Endpoint) (result : Endpoint × Option Completion) : Prop where
  callTrans : result.1.job.callTrans = ep.job.callTrans
  call : ∀ c, result.2 = some c → ep.job.callTrans = some c.callback
  job : result.1.job.busy = ep.job.busy ∨ result.1.job.busy = false ∧
    ∀ callback, ep.job.callTrans = some callback →
      ∃ nbTransfered, result.2 = some ⟨callback, .ok, nbTransfered⟩

namespace Finishes

variable {ep : Endpoint}

/-- What the function does first does not matter if the job keeps its callback. -/
theorem of_job {ep' : Endpoint} {result : Endpoint × Option Completion} (finishes : Finishes ep' result)
    (callTrans : ep'.job.callTrans = ep.job.callTrans) (busy : ep'.job.busy = ep.job.busy) :
    Finishes ep result where
  callTrans := finishes.callTrans.trans callTrans
  call c called := callTrans.symm.trans (finishes.call c called)
  job := by
    rw [← callTrans, ← busy]
    exact finishes.job

theorem silent {ep' : Endpoint} (callTrans : ep'.job.callTrans = ep.job.callTrans)
    (busy : ep'.job.busy = ep.job.busy) : Finishes ep (ep', none) :=
  ⟨callTrans, fun _ called => absurd called (Option.some_ne_none _).symm, .inl busy⟩

theorem finishJob (ep : Endpoint) : Finishes ep (uddEpFinishJob false ep) := by
  cases busy : ep.job.busy with
  | false =>
    rw [uddEpFinishJob_idle false busy]
    exact .silent rfl rfl
  | true =>
    simp only [uddEpFinishJob, busy, Bool.true_eq_false, if_false]
    refine ⟨rfl, fun c called => ?_, .inr ⟨rfl, fun callback called => ?_⟩⟩
    · obtain ⟨callback, registered, rfl⟩ := Option.map_eq_some_iff.mp called
      exact registered
    · exact ⟨ep.job.bufSize, by rw [called]; rfl⟩

theorem transEnd (isIn : Bool) (ep : Endpoint) : Finishes ep (uddEpTransEnd isIn ep) := by
  rw [uddEpTransEnd]
  split_ifs
  · exact .silent rfl rfl
  · exact finishJob ep

theorem transDone (isIn : Bool) (ep : Endpoint) : Finishes ep (uddEpTransDone isIn ep) := by
  rw [uddEpTransDone]
  split_ifs
  · exact .silent rfl rfl
  · exact transEnd isIn ep
  · exact .silent rfl rfl
  · exact (transEnd isIn _).of_job rfl rfl

theorem launch (isIn : Bool) (nextTrans : Nat) (ep : Endpoint) :
    Finishes ep (uddEpLaunch isIn nextTrans ep) := by
  rw [uddEpLaunch]
  split_ifs
  · exact .silent rfl rfl
  · exact (transEnd isIn _).of_job rfl rfl

theorem dmaInterrupt (isIn : Bool) (ep : Endpoint) : Finishes ep (uddEpDmaInterrupt isIn ep) := by
  rw [uddEpDmaInterrupt]
  split_ifs
  · exact .silent rfl rfl
  · apply (transDone isIn _).of_job
    · dsimp only
      split_ifs <;> rfl
    · dsimp only
      split_ifs <;> rfl

theorem outDone (ep : Endpoint) : Finishes ep (dmaOutDone ep) := by
  rw [dmaOutDone]
  split_ifs
  · exact dmaInterrupt false ep
  · exact .silent rfl rfl

theorem inDone (ep : Endpoint) : Finishes ep (dmaInDone ep) := by
  rw [dmaInDone]
  split_ifs
  · exact (dmaInterrupt true _).of_job rfl rfl
  · exact .silent rfl rfl

theorem bankInterrupt (ep : Endpoint) : Finishes ep (uddEpBankInterrupt ep) := by
  rw [uddEpBankInterrupt]
  split_ifs
  · exact (finishJob _).of_job rfl rfl
  · exact .silent rfl rfl
  · exact .silent rfl rfl

/-- `call_nohalt` is the callback: with a status that happens to be OK it ends the job. -/
theorem clearHalt {junk : Status} (fine : ep.Stuck → junk = .ok) :
    Finishes ep (uddEpClearHalt junk ep) := by
  rw [uddEpClearHalt]
  split_ifs with halted
  · simp only [Bool.and_eq_true, Bool.or_eq_true] at halted
    rw [fine ⟨halted.2, halted.1⟩]
    refine ⟨rfl, fun c called => ?_, .inr ⟨rfl, fun callback called => ⟨0, ?_⟩⟩⟩
    · obtain ⟨callback, registered, rfl⟩ := Option.map_eq_some_iff.mp called
      exact registered
    · rw [called]
      rfl
  · exact .silent rfl rfl

/-- A job that is started over is registered again. -/
theorem realloc (isIn : Bool) (loose : ¬ ep.Stuck) : Finishes ep (uddEpRealloc isIn ep).2 := by
  rw [uddEpRealloc]
  split_ifs with disabled idle
  · exact .silent rfl rfl
  · exact .silent rfl rfl
  · have busy : ep.job.busy = true := Bool.not_eq_false _ ▸ idle
    have enabled : ep.enabled = true := Bool.not_eq_false _ ▸ disabled
    have loosened : ep.stall = false ∧ ep.job.stallRequested = false := by
      simpa [Endpoint.Stuck, busy] using loose
    rw [uddEpRun_taken _ _ _ _ _ (by simp [Endpoint.ready, enabled, loosened]) rfl]
    dsimp only
    apply (transDone isIn _).of_job
    · rfl
    · exact busy.symm

end Finishes

/-- Starting it over fails on a halted endpoint, and the job is gone without a call. -/
theorem uddEpRealloc_stuck {ep : Endpoint} (isIn : Bool) (enabled : ep.enabled = true)
    (stuck : ep.Stuck) :
    (uddEpRealloc isIn ep).1 = false ∧ (uddEpRealloc isIn ep).2.2 = none ∧
      (uddEpRealloc isIn ep).2.1.job.callTrans = ep.job.callTrans ∧
      (uddEpRealloc isIn ep).2.1.job.busy = false := by
  have halted : (ep.enabled && !ep.stall && !ep.job.stallRequested) = false := by
    obtain ⟨-, stall | requested⟩ := stuck
    · simp [stall]
    · simp [requested]
  rw [uddEpRealloc, if_neg (by simp [enabled]), if_neg (by simp [stuck.1])]
  dsimp only
  rw [uddEpRun_refused]
  · exact ⟨rfl, rfl, rfl, rfl⟩
  · exact .inl halted

/-! ## Handlers -/

theorem EpId.Owns.clears {id : EpId} {callback : Callback} (owns : id.Owns callback)
    (nbTransfered : Nat) (s : Stream) :
    (callBack (some ⟨callback, .ok, nbTransfered⟩) s).sending id = false := by
  cases id with
  | bulkIn =>
    rw [show callback = .mainVendorBulkInReceived from owns]
    rfl
  | bulkOut =>
    obtain rfl | rfl := owns
    · rfl
    · rfl

/-- A call for one endpoint leaves the other as it is. -/
theorem keeps_other (id : EpId) (completion : Option Completion) (ep : Endpoint) (s : Stream)
    {other : EpId} (different : other ≠ id) : Keeps other s (callBack completion (s.setEp id ep)) where
  pc := by simp
  sending flag := by simp only [callBack_sending, setEp_sending, Bool.and_eq_true] at flag; exact flag.1
  callTrans := by rw [callBack_ep, setEp_ep_other _ _ _ different]
  job := .inl (by rw [callBack_ep, setEp_ep_other _ _ _ different])

theorem Finishes.keeps {id : EpId} {s : Stream} {result : Endpoint × Option Completion}
    (finishes : Finishes (s.ep id) result) (other : EpId) :
    Keeps other s (callBack result.2 (s.setEp id result.1)) := by
  by_cases same : other = id
  · subst same
    refine ⟨by simp, ?_, ?_, ?_⟩
    · intro flag
      simp only [callBack_sending, setEp_sending, Bool.and_eq_true] at flag
      exact flag.1
    · simpa using finishes.callTrans
    · rw [callBack_ep, setEp_ep]
      obtain goesOn | ⟨idle, ends⟩ := finishes.job
      · exact .inl goesOn
      · refine .inr ⟨idle, fun callback called owns => ?_⟩
        obtain ⟨nbTransfered, call⟩ := ends callback called
        rw [call]
        exact owns.clears nbTransfered _
  · exact keeps_other id _ _ s same

/-- The callbacks belong to the endpoints that they are registered on. -/
def Owned (s : Stream) : Prop :=
  ∀ id callback, (s.ep id).job.callTrans = some callback → id.Owns callback

theorem Finishes.sending_other {id other : EpId} {s : Stream} {result : Endpoint × Option Completion}
    (finishes : Finishes (s.ep id) result) (owned : Owned s) (different : other ≠ id) :
    (callBack result.2 (s.setEp id result.1)).sending other = s.sending other := by
  have silent : clears other result.2 = false :=
    clears_other different fun c called => (owned id c.callback (finishes.call c called)).ep
  rw [callBack_sending, setEp_sending, silent, Bool.not_false, Bool.and_true]

/-- A handler that may end the job of an endpoint loses none of either. -/
theorem keeps_onEp {id : EpId} {f : Endpoint → Endpoint × Option Completion} {s : Stream}
    (finishes : Finishes (s.ep id) (f (s.ep id))) (other : EpId) : Keeps other s (onEp id f s) :=
  finishes.keeps other

/-- A handler that aborts the job of an endpoint loses that of no other. -/
theorem loses_onEp {id : EpId} {f : Endpoint → Endpoint × Option Completion} {s : Stream}
    (aborting : Aborting f (s.ep id)) (idle : (f (s.ep id)).1.job.busy = false)
    (called : (f (s.ep id)).1.job.callTrans = (s.ep id).job.callTrans) :
    Loses id s (onEp id f s) where
  pc := by simp [onEp]
  sending := by
    obtain ⟨silentIn, silentOut, -⟩ := aborting.silent
    rw [onEp, callBack_eq, silentIn, silentOut]
    cases id <;> simp [Stream.sending, Stream.setEp]
  callTrans := by simpa [onEp] using called
  idle := by simpa [onEp] using idle

theorem loses_shut (id : EpId) (s : Stream) : Loses id s (shut s) := by
  rw [shut_eq]
  cases id with
  | bulkIn => exact ⟨rfl, rfl, by simp [Stream.ep, uddEpFree, uddEpFinishJob_fst], by simp [Stream.ep]⟩
  | bulkOut => exact ⟨rfl, rfl, by simp [Stream.ep, uddEpFree, uddEpFinishJob_fst], by simp [Stream.ep]⟩

/-- The interface is disabled with its endpoints in setting 1, and has none in setting 0. -/
theorem udcIfaceDisable_configured {s : Stream} (configured : s.udcNumConfiguration ≠ 0) :
    (s.udiVendorAlternateSetting = 1 → udcIfaceDisable 0 s = (true, shut s)) ∧
      (s.udiVendorAlternateSetting = 0 → udcIfaceDisable 0 s = (true, s)) ∧
      (2 ≤ s.udiVendorAlternateSetting → udcIfaceDisable 0 s = (false, s)) := by
  refine ⟨fun setting => ?_, fun setting => ?_, fun setting => ?_⟩
  · simp [udcIfaceDisable, udcUpdateIfaceDesc, configured, setting, shut]
  · simp [udcIfaceDisable, udcUpdateIfaceDesc, configured, setting]
  · have unknown : udcUpdateIfaceDesc 0 s.udiVendorAlternateSetting s = false := by
      rw [udcUpdateIfaceDesc, decide_eq_false (Nat.not_lt.mpr setting), Bool.and_false]
    rw [udcIfaceDisable, if_pos unknown, ite_self]

/-! ## Endpoints that are set up again -/

theorem uddEpFinishJob_enabled (bAbort : Bool) (ep : Endpoint) :
    (uddEpFinishJob bAbort ep).1.enabled = ep.enabled := by
  rw [uddEpFinishJob_fst]

theorem uddEpTransDone_enabled (isIn : Bool) (ep : Endpoint) :
    (uddEpTransDone isIn ep).1.enabled = ep.enabled := by
  have atEnd (ep : Endpoint) : (uddEpTransEnd isIn ep).1.enabled = ep.enabled := by
    rw [uddEpTransEnd]
    split_ifs
    · rfl
    · exact uddEpFinishJob_enabled false ep
  rw [uddEpTransDone]
  split_ifs
  · rfl
  · exact atEnd ep
  · rfl
  · exact atEnd _

theorem uddEpRealloc_enabled (isIn : Bool) (ep : Endpoint) :
    (uddEpRealloc isIn ep).2.1.enabled = ep.enabled := by
  simp only [uddEpRealloc, uddEpRun]
  split_ifs
  · rfl
  · rfl
  · rfl
  · rfl
  · rw [uddEpTransDone_enabled]

theorem uddEpRealloc_accepts {ep : Endpoint} (isIn : Bool) (loose : ¬ ep.Stuck) :
    (uddEpRealloc isIn ep).1 = true := by
  rw [uddEpRealloc]
  split_ifs with disabled idle
  · rfl
  · rfl
  · have busy : ep.job.busy = true := Bool.not_eq_false _ ▸ idle
    have enabled : ep.enabled = true := Bool.not_eq_false _ ▸ disabled
    have loosened : ep.stall = false ∧ ep.job.stallRequested = false := by
      simpa [Endpoint.Stuck, busy] using loose
    rw [uddEpRun_taken _ _ _ _ _ (by simp [Endpoint.ready, enabled, loosened]) rfl]

section Realloc

variable (id : EpId) {s : Stream}

theorem reallocOn_loose (loose : ¬ (s.ep id).Stuck) :
    (uddEpReallocOn id s).1 = true ∧ ∀ other, Keeps other s (uddEpReallocOn id s).2 :=
  ⟨uddEpRealloc_accepts id.isIn loose, (Finishes.realloc id.isIn loose).keeps⟩

theorem reallocOn_stuck (enabled : (s.ep id).enabled = true) (stuck : (s.ep id).Stuck) :
    (uddEpReallocOn id s).1 = false ∧ Loses id s (uddEpReallocOn id s).2 := by
  obtain ⟨refused, silent, called, idle⟩ := uddEpRealloc_stuck id.isIn enabled stuck
  refine ⟨refused, ?_⟩
  rw [uddEpReallocOn, silent]
  exact ⟨setEp_pc id s _, setEp_sending id s _ id, by simpa [callBack] using called,
    by simpa [callBack] using idle⟩

theorem reallocOn_other {other : EpId} (different : other ≠ id) :
    Keeps other s (uddEpReallocOn id s).2 ∧ (uddEpReallocOn id s).2.ep other = s.ep other :=
  ⟨keeps_other id _ _ s different, by rw [uddEpReallocOn, callBack_ep, setEp_ep_other _ _ _ different]⟩

theorem reallocOn_enabled : ((uddEpReallocOn id s).2.ep id).enabled = (s.ep id).enabled := by
  rw [uddEpReallocOn, callBack_ep, setEp_ep, uddEpRealloc_enabled]

theorem reallocOn_disabled (disabled : (s.ep id).enabled = false) : uddEpReallocOn id s = (true, s) := by
  rw [uddEpReallocOn, uddEpRealloc, if_pos disabled]
  cases id <;> rfl

end Realloc

/-- The endpoint with its packets of the size of the bus speed -/
def Stream.enable (s : Stream) (id : EpId) : Stream :=
  s.setEp id { s.ep id with enabled := true, size := s.bulkSize }

theorem Stream.enable_stuck (s : Stream) (id : EpId) : ((s.enable id).ep id).Stuck ↔ (s.ep id).Stuck := by
  rw [Stream.enable, setEp_ep]
  exact Iff.rfl

theorem Stream.enable_job (s : Stream) (id other : EpId) :
    ((s.enable id).ep other).job = (s.ep other).job := by
  by_cases same : other = id
  · rw [same, Stream.enable, setEp_ep]
  · rw [Stream.enable, setEp_ep_other _ _ _ same]

theorem keeps_enable (s : Stream) (id other : EpId) : Keeps other s (s.enable id) :=
  .of_same (setEp_pc id s _) (setEp_sending id s _ other) (s.enable_job id other)

/-- `udd_ep_alloc` for the OUT endpoint -/
theorem alloc_bulkOut (s : Stream) :
    Keeps .bulkIn s (uddEpAlloc .bulkOut s).2 ∧
      (s.epOut.enabled = true → uddEpAlloc .bulkOut s = (false, s)) ∧
      (¬ s.epOut.Stuck → Keeps .bulkOut s (uddEpAlloc .bulkOut s).2) ∧
      (s.epOut.enabled = false → s.epOut.Stuck →
        (uddEpAlloc .bulkOut s).1 = false ∧ Loses .bulkOut s (uddEpAlloc .bulkOut s).2) := by
  cases enabled : s.epOut.enabled with
  | true =>
    have refused : uddEpAlloc .bulkOut s = (false, s) := by
      rw [uddEpAlloc, if_pos (show (s.ep .bulkOut).enabled = true from enabled)]
    rw [refused]
    exact ⟨.refl _ s, fun _ => rfl, fun _ => .refl _ s, fun disabled => by simp at disabled⟩
  | false =>
    have alloc : uddEpAlloc .bulkOut s = uddEpReallocOn .bulkOut (s.enable .bulkOut) := by
      rw [uddEpAlloc, if_neg (show ¬ (s.ep .bulkOut).enabled = true by simp [Stream.ep, enabled])]
      rfl
    have on : ((s.enable .bulkOut).ep .bulkOut).enabled = true := by rw [Stream.enable, setEp_ep]
    rw [alloc]
    refine ⟨?_, fun absent => absurd absent Bool.false_ne_true, fun loose => ?_, fun _ stuck => ?_⟩
    · exact (keeps_enable s _ _).trans (reallocOn_other _ (by decide)).1
    · have kept := (reallocOn_loose .bulkOut (mt (s.enable_stuck .bulkOut).mp loose)).2 .bulkOut
      exact (keeps_enable s _ _).trans kept
    · obtain ⟨refused, lost⟩ := reallocOn_stuck .bulkOut on ((s.enable_stuck .bulkOut).mpr stuck)
      exact ⟨refused, lost.after (setEp_pc _ s _) (setEp_sending _ s _ _) (s.enable_job _ _)⟩

theorem keeps_vendorEnable (s : Stream) (settingNum : Nat) (id : EpId) :
    Keeps id s (udiVendorEnable settingNum s).2 := by
  rw [udiVendorEnable]
  split_ifs
  · cases id with
    | bulkIn => exact ⟨rfl, fun flag => absurd flag Bool.false_ne_true, rfl, .inl rfl⟩
    | bulkOut => exact .of_same rfl rfl rfl
  · cases id <;> exact .of_same rfl rfl rfl

theorem udcIfaceEnable_allocates {s : Stream} (configured : s.udcNumConfiguration ≠ 0) :
    (udcIfaceEnable 0 1 s).2 =
      if (uddEpAlloc .bulkIn s).1 = false then (uddEpAlloc .bulkIn s).2
      else if (uddEpAlloc .bulkOut (uddEpAlloc .bulkIn s).2).1 = false then
        (uddEpAlloc .bulkOut (uddEpAlloc .bulkIn s).2).2
      else (udiVendorEnable 1 (uddEpAlloc .bulkOut (uddEpAlloc .bulkIn s).2).2).2 := by
  have found : udcUpdateIfaceDesc 0 1 s = true := by simp [udcUpdateIfaceDesc, configured]
  rw [udcIfaceEnable, if_neg (by simp [found]), if_pos rfl]
  dsimp only
  split_ifs <;> rfl

/-- The endpoint IN is there already, and setting 1 is refused. -/
theorem enable_one_enabled {s : Stream} (configured : s.udcNumConfiguration ≠ 0)
    (enabled : s.epIn.enabled = true) : (udcIfaceEnable 0 1 s).2 = s := by
  have refused : uddEpAlloc .bulkIn s = (false, s) := by
    rw [uddEpAlloc, if_pos (show (s.ep .bulkIn).enabled = true from enabled)]
  rw [udcIfaceEnable_allocates configured, refused, if_pos rfl]

theorem alloc_bulkIn {s : Stream} (disabled : s.epIn.enabled = false) :
    uddEpAlloc .bulkIn s =
      if (uddEpReallocOn .bulkIn (s.enable .bulkIn)).1 = false then
        uddEpReallocOn .bulkIn (s.enable .bulkIn)
      else uddEpReallocOn .bulkOut (uddEpReallocOn .bulkIn (s.enable .bulkIn)).2 := by
  rw [uddEpAlloc, if_neg (show ¬ (s.ep .bulkIn).enabled = true by simp [Stream.ep, disabled])]
  rfl

/-- The job of the endpoint IN cannot be started over, and the endpoint OUT is not reached. -/
theorem enable_one_stuck {s : Stream} (configured : s.udcNumConfiguration ≠ 0)
    (disabled : s.epIn.enabled = false) (stuck : s.epIn.Stuck) :
    Loses .bulkIn s (udcIfaceEnable 0 1 s).2 ∧ Keeps .bulkOut s (udcIfaceEnable 0 1 s).2 := by
  have on : ((s.enable .bulkIn).ep .bulkIn).enabled = true := by rw [Stream.enable, setEp_ep]
  obtain ⟨refused, lost⟩ := reallocOn_stuck .bulkIn on ((s.enable_stuck .bulkIn).mpr stuck)
  have alloc := alloc_bulkIn disabled
  rw [if_pos refused] at alloc
  rw [udcIfaceEnable_allocates configured, alloc, if_pos refused]
  exact ⟨lost.after (setEp_pc _ s _) (setEp_sending _ s _ _) (s.enable_job _ _),
    (keeps_enable s _ _).trans (reallocOn_other _ (by decide)).1⟩

/-- What enabling setting 1 has left to do once the endpoint IN is set up -/
def enableRest (s : Stream) : Stream :=
  if (uddEpReallocOn .bulkOut s).1 = false then (uddEpReallocOn .bulkOut s).2
  else if (uddEpAlloc .bulkOut (uddEpReallocOn .bulkOut s).2).1 = false then
    (uddEpAlloc .bulkOut (uddEpReallocOn .bulkOut s).2).2
  else (udiVendorEnable 1 (uddEpAlloc .bulkOut (uddEpReallocOn .bulkOut s).2).2).2

/-- The endpoint OUT is moved if it is there, and set up otherwise. -/
theorem enableRest_effect (s : Stream) :
    Keeps .bulkIn s (enableRest s) ∧ (s.epOut.Stuck → Loses .bulkOut s (enableRest s)) ∧
      (¬ s.epOut.Stuck → Keeps .bulkOut s (enableRest s)) := by
  have moved : Keeps .bulkIn s (uddEpReallocOn .bulkOut s).2 := (reallocOn_other _ (by decide)).1
  cases enabled : s.epOut.enabled with
  | true =>
    by_cases stuck : s.epOut.Stuck
    · obtain ⟨refused, lost⟩ := reallocOn_stuck .bulkOut enabled stuck
      rw [enableRest, if_pos refused]
      exact ⟨moved, fun _ => lost, fun loose => absurd stuck loose⟩
    · obtain ⟨accepts, kept⟩ := reallocOn_loose .bulkOut stuck
      have still : (uddEpReallocOn .bulkOut s).2.epOut.enabled = true :=
        (reallocOn_enabled .bulkOut).trans enabled
      have there := (alloc_bulkOut (uddEpReallocOn .bulkOut s).2).2.1 still
      rw [enableRest, if_neg (by simp [accepts]), there, if_pos rfl]
      exact ⟨moved, fun lost => absurd lost stuck, fun _ => kept .bulkOut⟩
  | false =>
    rw [enableRest, reallocOn_disabled .bulkOut enabled, if_neg Bool.true_eq_false.mp]
    obtain ⟨keepsIn, -, loose, lost⟩ := alloc_bulkOut s
    refine ⟨?_, fun stuck => ?_, fun notStuck => ?_⟩
    · split_ifs
      · exact keepsIn
      · exact keepsIn.trans (keeps_vendorEnable _ 1 _)
    · obtain ⟨refused, loses⟩ := lost enabled stuck
      rw [if_pos refused]
      exact loses
    · split_ifs
      · exact loose notStuck
      · exact (loose notStuck).trans (keeps_vendorEnable _ 1 _)

theorem enable_one_loose {s : Stream} (owned : Owned s) (configured : s.udcNumConfiguration ≠ 0)
    (disabled : s.epIn.enabled = false) (loose : ¬ s.epIn.Stuck) :
    Keeps .bulkIn s (udcIfaceEnable 0 1 s).2 ∧
      (s.epOut.Stuck → Loses .bulkOut s (udcIfaceEnable 0 1 s).2) ∧
      (¬ s.epOut.Stuck → Keeps .bulkOut s (udcIfaceEnable 0 1 s).2) := by
  have looseStill : ¬ ((s.enable .bulkIn).ep .bulkIn).Stuck := mt (s.enable_stuck .bulkIn).mp loose
  obtain ⟨accepts, kept⟩ := reallocOn_loose .bulkIn looseStill
  have alloc := alloc_bulkIn disabled
  rw [if_neg (by simp [accepts])] at alloc
  have rest : (udcIfaceEnable 0 1 s).2 = enableRest (uddEpReallocOn .bulkIn (s.enable .bulkIn)).2 := by
    rw [udcIfaceEnable_allocates configured, alloc]
    rfl
  have keeps (id : EpId) : Keeps id s (uddEpReallocOn .bulkIn (s.enable .bulkIn)).2 :=
    (keeps_enable s .bulkIn id).trans (kept id)
  have sameOut : (uddEpReallocOn .bulkIn (s.enable .bulkIn)).2.epOut = s.epOut :=
    (reallocOn_other .bulkIn (by decide : EpId.bulkOut ≠ .bulkIn)).2
  have ownedStill : Owned (s.enable .bulkIn) := fun id callback called =>
    owned id callback ((congrArg EpJob.callTrans (s.enable_job .bulkIn id)).symm.trans called)
  have sending : (uddEpReallocOn .bulkIn (s.enable .bulkIn)).2.sending .bulkOut = s.sending .bulkOut :=
    ((Finishes.realloc true looseStill).sending_other ownedStill (by decide)).trans
      (setEp_sending .bulkIn s _ .bulkOut)
  obtain ⟨keepsIn, lost, keepsOut⟩ := enableRest_effect (uddEpReallocOn .bulkIn (s.enable .bulkIn)).2
  rw [sameOut] at lost keepsOut
  rw [rest]
  refine ⟨(keeps .bulkIn).trans keepsIn, fun stuck => ?_, fun notStuck => ?_⟩
  · exact (lost stuck).after (keeps .bulkOut).pc sending (congrArg Endpoint.job sameOut)
  · exact (keeps .bulkOut).trans (keepsOut notStuck)

/-- Enabling setting 1 outside it loses the jobs that it cannot start over. -/
theorem enable_one {s : Stream} (owned : Owned s) (configured : s.udcNumConfiguration ≠ 0) (id : EpId) :
    (LosesRestart id s → Loses id s (udcIfaceEnable 0 1 s).2) ∧
      (¬ LosesRestart id s → Keeps id s (udcIfaceEnable 0 1 s).2) := by
  cases enabled : s.epIn.enabled with
  | true =>
    rw [enable_one_enabled configured enabled]
    exact ⟨fun loses => absurd (loses.1.symm.trans enabled) Bool.false_ne_true, fun _ => .refl id s⟩
  | false =>
    by_cases stuck : s.epIn.Stuck
    · obtain ⟨lost, kept⟩ := enable_one_stuck configured enabled stuck
      cases id with
      | bulkIn =>
        have reached : LosesRestart .bulkIn s := ⟨enabled, stuck, fun isOut => by cases isOut⟩
        exact ⟨fun _ => lost, fun spared => absurd reached spared⟩
      | bulkOut => exact ⟨fun reached => absurd stuck (reached.2.2 rfl), fun _ => kept⟩
    · obtain ⟨keptIn, lost, kept⟩ := enable_one_loose owned configured enabled stuck
      cases id with
      | bulkIn => exact ⟨fun reached => absurd reached.2.1 stuck, fun _ => keptIn⟩
      | bulkOut => exact ⟨fun reached => lost reached.2.1,
          fun spared => kept fun reached => spared ⟨enabled, reached, fun _ => stuck⟩⟩

/-! ## Events -/

/-- What an event does to a direction -/
structure Outcome (id : EpId) (aborts : Prop) (s s' : Stream) : Prop where
  loses : aborts → Loses id s s'
  keeps : ¬ aborts → Keeps id s s'

section Outcome

variable {id : EpId} {aborts aborts' : Prop} {s s' : Stream}

theorem Keeps.outcome (keeps : Keeps id s s') (spares : ¬ aborts) : Outcome id aborts s s' :=
  ⟨fun taken => absurd taken spares, fun _ => keeps⟩

theorem Loses.outcome (loses : Loses id s s') (taken : aborts) : Outcome id aborts s s' :=
  ⟨fun _ => loses, fun spares => absurd taken spares⟩

theorem Outcome.congr (outcome : Outcome id aborts s s') (same : aborts' ↔ aborts) :
    Outcome id aborts' s s' :=
  ⟨fun taken => outcome.loses (same.mp taken), fun spares => outcome.keeps (mt same.mpr spares)⟩

theorem Outcome.agrees_iff (outcome : Outcome id aborts s s') (agrees : FlagAgrees id s) :
    FlagAgrees id s' ↔ (aborts → Spared id s) := by
  by_cases taken : aborts
  · rw [imp_iff_right taken]
    exact (outcome.loses taken).agrees_iff
  · exact iff_of_true ((outcome.keeps taken).agrees agrees) fun taken' => absurd taken' taken

end Outcome

theorem udcReset_eq (s : Stream) (configuration : Nat) :
    { udcReset s with udcNumConfiguration := configuration } =
      { (if s.udcNumConfiguration ≠ 0 ∧ s.udiVendorAlternateSetting = 1 then shut s else s) with
        udcNumConfiguration := configuration } := by
  by_cases configured : s.udcNumConfiguration = 0
  · simp [udcReset, configured]
  · obtain ⟨one, zero, more⟩ := udcIfaceDisable_configured configured
    simp only [udcReset, configured, ne_eq, not_false_eq_true, if_true, true_and]
    by_cases setting : s.udiVendorAlternateSetting = 1
    · rw [one setting, if_pos setting]
    · rw [if_neg setting]
      by_cases none : s.udiVendorAlternateSetting = 0
      · rw [zero none]
      · rw [more (by omega)]

/-- The configuration is taken down with the endpoints of setting 1. -/
theorem reset_outcome (id : EpId) (s : Stream) (configuration : Nat) :
    Outcome id (s.udcNumConfiguration ≠ 0 ∧ s.udiVendorAlternateSetting = 1) s
      { udcReset s with udcNumConfiguration := configuration } := by
  rw [udcReset_eq]
  split_ifs with up
  · refine Loses.outcome ((loses_shut id s).of_same rfl ?_ ?_) up
    · cases id <;> rfl
    · cases id <;> rfl
  · refine Keeps.outcome ?_ up
    cases id <;> exact .of_same rfl rfl rfl

theorem busReset_loses (id : EpId) (highSpeed : Bool) (s : Stream) :
    Loses id s (uddReset highSpeed s) := by
  obtain ⟨killed, at'⟩ : ∃ killed,
      onEp .bulkOut (uddEpFinishJob true) (onEp .bulkIn (uddEpFinishJob true) s) = killed := ⟨_, rfl⟩
  have lost : Loses id s killed := by
    rw [← at', onEp_bulkOut, callBack_eq, onEp_bulkIn, callBack_eq]
    cases id with
    | bulkIn => constructor <;> simp [Stream.sending, Stream.ep, uddEpFinishJob_fst]
    | bulkOut => constructor <;> simp [Stream.sending, Stream.ep, uddEpFinishJob_fst]
  have reset := udcReset_eq killed (udcReset killed).udcNumConfiguration
  have eta : { udcReset killed with udcNumConfiguration := (udcReset killed).udcNumConfiguration } =
      udcReset killed := rfl
  simp only [uddReset, at']
  rw [← eta, reset]
  split_ifs
  · refine (lost.trans (loses_shut id killed)).of_same rfl ?_ ?_
    · cases id <;> rfl
    · cases id <;> rfl
  · refine lost.of_same rfl ?_ ?_
    · cases id <;> rfl
    · cases id <;> rfl

theorem setConfiguration_outcome (id : EpId) (s : Stream) (wValue wLength : UInt16) :
    Outcome id (Aborts id s (.setConfiguration wValue wLength)) s
      (udcReqStdDevSetConfiguration wValue wLength s).2 := by
  simp only [udcReqStdDevSetConfiguration, Aborts]
  have reset := reset_outcome id s (wValue &&& 0xFF).toNat
  split_ifs with length address number empty
  · exact (Keeps.refl id s).outcome fun taken => length taken.1
  · exact (Keeps.refl id s).outcome fun taken => taken.2.1 address
  · exact (Keeps.refl id s).outcome fun taken => absurd taken.2.2.1 (by omega)
  · exact reset.congr ⟨fun taken => taken.2.2.2,
      fun up => ⟨not_not.mp length, address, by omega, up⟩⟩
  · rw [udcIfaceEnable_other (by decide) empty, if_pos rfl]
    have same : Outcome id (s.udcNumConfiguration ≠ 0 ∧ s.udiVendorAlternateSetting = 1) s
        { udcReset s with
          udcNumConfiguration := (wValue &&& 0xFF).toNat, udiVendorAlternateSetting := 0 } := by
      refine ⟨fun up => (reset.loses up).of_same rfl ?_ ?_, fun down => (reset.keeps down).trans ?_⟩
      · cases id <;> rfl
      · cases id <;> rfl
      · cases id <;> exact .of_same rfl rfl rfl
    exact same.congr ⟨fun taken => taken.2.2.2,
      fun up => ⟨not_not.mp length, address, by omega, up⟩⟩

/-- Another setting is chosen for the interface. -/
theorem setSetting_outcome {s : Stream} (owned : Owned s) (configured : s.udcNumConfiguration ≠ 0)
    (id : EpId) (settingNum : Nat) :
    Outcome id (s.udiVendorAlternateSetting = 1 ∧ (settingNum = 1 → id = .bulkOut) ∨
        s.udiVendorAlternateSetting = 0 ∧ settingNum = 1 ∧ LosesRestart id s) s
      (if (udcIfaceDisable 0 s).1 = false then udcIfaceDisable 0 s
        else udcIfaceEnable 0 settingNum (udcIfaceDisable 0 s).2).2 := by
  obtain ⟨one, zero, more⟩ := udcIfaceDisable_configured configured
  by_cases setting : s.udiVendorAlternateSetting = 1
  · rw [one setting, if_neg Bool.true_eq_false.mp]
    have lost := loses_shut id s
    have still : (shut s).udcNumConfiguration ≠ 0 := by rwa [shut_eq]
    by_cases enables : settingNum = 1
    · rw [enables, udcIfaceEnable_one (down_shut s) still]
      cases id with
      | bulkIn =>
        -- `main_vendor_enable` clears `sending_in`, and only that
        refine Keeps.outcome (lost.keeps rfl rfl rfl) ?_
        rintro (⟨-, only⟩ | ⟨zero, -⟩)
        · cases only rfl
        · omega
      | bulkOut => exact Loses.outcome (lost.of_same rfl rfl rfl) (.inl ⟨setting, fun _ => rfl⟩)
    · rw [udcIfaceEnable_other enables still]
      refine Loses.outcome ?_ (.inl ⟨setting, fun isOne => absurd isOne enables⟩)
      split_ifs
      · refine lost.of_same rfl ?_ ?_
        · cases id <;> rfl
        · cases id <;> rfl
      · exact lost
  · by_cases none : s.udiVendorAlternateSetting = 0
    · rw [zero none, if_neg Bool.true_eq_false.mp]
      by_cases enables : settingNum = 1
      · obtain ⟨loses, keeps⟩ := enable_one owned configured id
        rw [enables]
        refine Outcome.congr ⟨loses, keeps⟩ ?_
        simp [none]
      · rw [udcIfaceEnable_other enables configured]
        have kept : Keeps id s (if settingNum = 0 then { s with udiVendorAlternateSetting := 0 } else s) := by
          split_ifs
          · cases id <;> exact .of_same rfl rfl rfl
          · exact .refl id s
        exact kept.outcome (by simp [setting, enables])
    · rw [more (by omega), if_pos rfl]
      exact (Keeps.refl id s).outcome (by simp [setting, none])

theorem setInterface_outcome {s : Stream} (owned : Owned s) (id : EpId)
    (wValue wIndex wLength : UInt16) :
    Outcome id (Aborts id s (.setInterface wValue wIndex wLength)) s
      (udcReqStdIfaceSetSetting wValue wIndex wLength s).2 := by
  simp only [udcReqStdIfaceSetSetting, Aborts]
  by_cases length : wLength = 0
  · by_cases configured : s.udcNumConfiguration = 0
    · simp only [length, configured, ne_eq, not_true_eq_false, if_false, if_true]
      exact (Keeps.refl id s).outcome (by simp)
    · by_cases iface : (wIndex &&& 0xFF).toNat = 0
      · simp only [length, configured, iface, ne_eq, not_true_eq_false, not_false_eq_true, if_false,
          true_and]
        exact setSetting_outcome owned configured id _
      · rw [udcIfaceDisable_other iface]
        simp only [length, configured, ne_eq, not_true_eq_false, if_false, if_true]
        exact (Keeps.refl id s).outcome fun taken => iface taken.1.2.2
  · rw [if_pos length]
    exact (Keeps.refl id s).outcome fun taken => length taken.1.1

theorem uddEpSetHalt_callTrans (dirIn : Bool) (ep : Endpoint) :
    (uddEpSetHalt dirIn ep).2.job.callTrans = ep.job.callTrans := by
  simp only [uddEpSetHalt]
  split_ifs <;> rfl

theorem setFeature_outcome (id : EpId) (s : Stream) (wValue wIndex wLength : UInt16) :
    Outcome id (Aborts id s (.setFeature wValue wIndex wLength)) s
      (udcReqStdEpSetFeature wValue wIndex wLength s) := by
  simp only [udcReqStdEpSetFeature, Aborts]
  split_ifs with refused
  · exact (Keeps.refl id s).outcome fun taken => by simp [taken.1] at refused
  · have accepted : wLength = 0 ∧ wValue = 0 := by simpa [not_or] using refused
    cases selected : EpId.ofAddress wIndex with
    | none => exact (Keeps.refl id s).outcome (by simp)
    | some halted =>
      by_cases same : halted = id
      · subst same
        have aborted : Loses halted s (onEp halted (uddEpAbort (addressIsIn wIndex)) s) :=
          loses_onEp (aborting_abort _ _) (by rw [uddEpAbort_fst]) (by rw [uddEpAbort_fst])
        refine Loses.outcome ⟨?_, ?_, ?_, ?_⟩ ⟨accepted, rfl⟩
        · exact (setEp_pc _ _ _).trans aborted.pc
        · exact (setEp_sending _ _ _ _).trans aborted.sending
        · rw [setEp_ep, uddEpSetHalt_callTrans]
          exact aborted.callTrans
        · rw [setEp_ep]
          exact (uddEpSetHalt_job _ aborted.idle).1
      · have different : id ≠ halted := fun equal => same equal.symm
        refine Keeps.outcome ?_ fun taken => same (Option.some.inj taken.2)
        refine (keeps_other halted _ _ s different).trans (.of_same (setEp_pc _ _ _) ?_ ?_)
        · exact setEp_sending _ _ _ _
        · rw [setEp_ep_other _ _ _ different]
          rfl

theorem clearFeature_outcome (id : EpId) (s : Stream) (wValue wIndex wLength : UInt16) (junk : Status) :
    Outcome id (Aborts id s (.clearFeature wValue wIndex wLength junk)) s
      (udcReqStdEpClearFeature wValue wIndex wLength junk s) := by
  simp only [udcReqStdEpClearFeature, Aborts]
  split_ifs with refused
  · exact (Keeps.refl id s).outcome fun taken => by simp [taken.1] at refused
  · have accepted : wLength = 0 ∧ wValue = 0 := by simpa [not_or] using refused
    cases selected : EpId.ofAddress wIndex with
    | none => exact (Keeps.refl id s).outcome (by simp)
    | some cleared =>
      by_cases same : cleared = id
      · subst same
        by_cases lost : (s.ep cleared).Stuck ∧ junk = .abort
        · -- `call_nohalt` is the callback, which finds a status that is not OK
          obtain ⟨⟨busy, halted⟩, rfl⟩ := lost
          have clears : uddEpClearHalt .abort (s.ep cleared) =
              ({ s.ep cleared with
                  stall := false
                  job := { (s.ep cleared).job with stallRequested := false, busy := false } },
                (s.ep cleared).job.callTrans.map fun callback => ⟨callback, .abort, 0⟩) := by
            rw [uddEpClearHalt, if_pos (by simp [busy, halted])]
          refine Loses.outcome (loses_onEp ⟨fun c called => ?_, ?_⟩ ?_ ?_)
            ⟨accepted, rfl, ⟨busy, halted⟩, rfl⟩
          · rw [clears] at called
            obtain ⟨callback, -, rfl⟩ := Option.map_eq_some_iff.mp called
            rfl
          · rw [clears]
            exact fun absent => absurd absent Bool.false_ne_true
          · rw [clears]
          · rw [clears]
        · refine Keeps.outcome (keeps_onEp (Finishes.clearHalt fun stuck => ?_) cleared)
            fun taken => lost taken.2.2
          cases junk with
          | ok => rfl
          | abort => exact absurd ⟨stuck, rfl⟩ lost
      · have different : id ≠ cleared := fun equal => same equal.symm
        exact Keeps.outcome (keeps_other cleared _ _ s different)
          fun taken => same (Option.some.inj taken.2.1)

/-- An event that is neither a statement of the main loop nor a start request -/
theorem event_outcome {s : Stream} (owned : Owned s) (id : EpId) {event : Event}
    (noLoop : event ≠ .loop) (noStart : ∀ wValue wIndex, event = .request wValue wIndex → wValue < 1) :
    Outcome id (Aborts id s event) s (step s event) := by
  cases event with
  | tc2 =>
    refine Keeps.outcome ?_ not_false
    simp only [step, tc2Interrupt]
    split_ifs
    · exact .refl id s
    · cases id <;> exact .of_same rfl rfl rfl
  | loop => exact absurd rfl noLoop
  | sof fnum =>
    refine Keeps.outcome ?_ not_false
    simp only [step, mainSofAction]
    split_ifs <;> cases id <;> exact .of_same rfl rfl rfl
  | request wValue wIndex =>
    refine Keeps.outcome ?_ not_false
    rw [step, configureSampling_stop (noStart wValue wIndex rfl)]
    cases id <;> exact .of_same rfl rfl rfl
  | outByte value =>
    refine Keeps.outcome ?_ not_false
    simp only [step, dmaOutByte]
    split_ifs
    · cases s.epOut.job.buf with
      | packetsOut packet word => cases id <;> exact .of_same rfl rfl rfl
      | _ => exact .refl id s
    · exact .refl id s
  | outDone => exact (keeps_onEp (.outDone _) id).outcome not_false
  | outEndTr =>
    refine Keeps.outcome ?_ not_false
    simp only [step, outEndTr]
    split_ifs
    · cases id <;> exact .of_same rfl rfl rfl
    · exact .refl id s
  | inDone => exact (keeps_onEp (.inDone _) id).outcome not_false
  | inBanks banks =>
    refine Keeps.outcome ?_ not_false
    have filled : Keeps id s { s with epIn := { s.epIn with busyBanks := banks } } := by
      cases id <;> exact .of_same rfl rfl rfl
    simp only [step, inBanks]
    split_ifs
    · exact filled.trans (keeps_onEp (.bankInterrupt _) id)
    · exact filled
  | busReset highSpeed => exact (busReset_loses id highSpeed s).outcome trivial
  | setAddress wValue =>
    refine Keeps.outcome ?_ not_false
    cases id <;> exact .of_same rfl rfl rfl
  | setConfiguration wValue wLength => exact setConfiguration_outcome id s wValue wLength
  | setInterface wValue wIndex wLength => exact setInterface_outcome owned id wValue wIndex wLength
  | setFeature wValue wIndex wLength => exact setFeature_outcome id s wValue wIndex wLength
  | clearFeature wValue wIndex wLength junk => exact clearFeature_outcome id s wValue wIndex wLength junk

end M1k
