import M1k.Streaming.Wiring

/-! # When the sample timer may run

A start request queues the first OUT transfer, its callback arms `start_timer`, and the SOF
handler starts the timer.  The three are joined by `start_timer` and the callback of the job
alone, and request 0xC5 clears neither: a session is torn down completely only when nothing
of it is left armed. -/

namespace M1k

open Library.Runs

/-! ## The session a trace ends in -/

def sessionStep : Option (UInt16 × List Obs) → Obs → Option (UInt16 × List Obs)
  | _, .request wValue _ => some (wValue, [])
  | session, obs => session.map fun (wValue, since) => (wValue, since ++ [obs])

/-- `wValue` of the last request 0xC5, and what has been observed since. -/
def session (trace : List Obs) : Option (UInt16 × List Obs) := trace.foldl sessionStep none

/-- The last request was a start. -/
def Asked (trace : List Obs) : Prop :=
  ∃ wValue since, session trace = some (wValue, since) ∧ 1 ≤ wValue

/-- The last request was a start, and its first OUT transfer has completed. -/
def Live (trace : List Obs) : Prop :=
  ∃ wValue since, session trace = some (wValue, since) ∧ 1 ≤ wValue ∧
    ∃ nbTransfered, .completed ⟨.mainVendorBulkOutReceivedFirst, .ok, nbTransfered⟩ ∈ since

def Obs.IsRequest : Obs → Prop
  | .request .. => True
  | _ => False

theorem session_append {obs : List Obs} (none : ∀ o ∈ obs, ¬ o.IsRequest) (trace : List Obs) :
    session (trace ++ obs) =
      (session trace).map fun (wValue, since) => (wValue, since ++ obs) := by
  induction obs generalizing trace with
  | nil => cases last : session trace <;> simp [last]
  | cons o obs inductionHypothesis =>
    have noneLater : ∀ o ∈ obs, ¬ o.IsRequest := fun o member => none o (by simp [member])
    have step : session (trace ++ [o]) = sessionStep (session trace) o := by
      simp [session]
    have notRequest := none o (by simp)
    rw [List.append_cons, inductionHypothesis noneLater, step]
    cases o with
    | request wValue wIndex => exact absurd trivial notRequest
    | _ => cases session trace <;> simp [sessionStep]

theorem session_request {obs : List Obs} (none : ∀ o ∈ obs, ¬ o.IsRequest) (trace : List Obs)
    (wValue wIndex : UInt16) :
    session (trace ++ .request wValue wIndex :: obs) = some (wValue, obs) := by
  have now : session (trace ++ [.request wValue wIndex]) = some (wValue, []) := by
    simp [session, sessionStep]
  rw [List.append_cons, session_append none, now]
  simp

theorem Asked.append {trace obs : List Obs} (asked : Asked trace)
    (none : ∀ o ∈ obs, ¬ o.IsRequest) : Asked (trace ++ obs) := by
  obtain ⟨wValue, since, last, start⟩ := asked
  exact ⟨wValue, since ++ obs, by rw [session_append none, last]; rfl, start⟩

theorem Live.append {trace obs : List Obs} (live : Live trace)
    (none : ∀ o ∈ obs, ¬ o.IsRequest) : Live (trace ++ obs) := by
  obtain ⟨wValue, since, last, start, nbTransfered, member⟩ := live
  refine ⟨wValue, since ++ obs, by rw [session_append none, last]; rfl, start, nbTransfered, ?_⟩
  exact List.mem_append_left _ member

theorem completed_mem {completion : Option Completion} (completes : completesFirst completion = true) :
    ∃ nbTransfered, .completed ⟨.mainVendorBulkOutReceivedFirst, .ok, nbTransfered⟩ ∈
      callObs completion := by
  cases completion with
  | none => simp at completes
  | some c =>
    obtain ⟨callback, status, nbTransfered⟩ := c
    simp only [completesFirst, Option.any_some, Bool.and_eq_true, decide_eq_true_eq] at completes
    obtain ⟨rfl, rfl⟩ := completes
    exact ⟨nbTransfered, by simp [callObs]⟩

theorem callObs_notRequest (completion : Option Completion) :
    ∀ o ∈ callObs completion, ¬ o.IsRequest := by
  cases completion <;> simp [callObs, Obs.IsRequest]

/-- The call that ends a first transfer makes the session live. -/
theorem Asked.live {trace : List Obs} {completion : Option Completion} (asked : Asked trace)
    (completes : completesFirst completion = true) : Live (trace ++ callObs completion) := by
  obtain ⟨wValue, since, last, start⟩ := asked
  obtain ⟨nbTransfered, member⟩ := completed_mem completes
  refine ⟨wValue, since ++ callObs completion, ?_, start, nbTransfered, ?_⟩
  · rw [session_append (callObs_notRequest completion), last]; rfl
  · exact List.mem_append_right _ member

/-! ## The invariant -/

/-- The first OUT transfer of a session is registered and has not ended. -/
def Endpoint.FirstPending (ep : Endpoint) : Prop :=
  ep.job.busy = true ∧ ep.job.callTrans = some .mainVendorBulkOutReceivedFirst

instance (ep : Endpoint) : Decidable ep.FirstPending := inferInstanceAs (Decidable (_ ∧ _))

structure TimerInv (s : Stream) : Prop where
  live : s.tc.running = true ∨ s.startTimer = true → Live s.trace
  asked : s.epOut.FirstPending → Asked s.trace

/-- A 0xC5 request finds nothing armed that it would leave armed: a start finds the timer
    stopped and `start_timer` clear, a stop finds `start_timer` clear and no first OUT transfer
    registered. -/
def MeetsTimer (s : Stream) : Event → Prop
  | .request wValue _ =>
    s.startTimer = false ∧ if 1 ≤ wValue then s.tc.running = false else ¬ s.epOut.FirstPending
  | _ => True

instance (s : Stream) : ∀ event, Decidable (MeetsTimer s event)
  | .request .. => inferInstanceAs (Decidable (_ ∧ _))
  | .tc2 | .loop | .sof _ | .outByte _ | .outDone | .outEndTr | .inDone | .inBanks _ | .busReset _
  | .setAddress _ | .setConfiguration .. | .setInterface .. | .setFeature ..
  | .clearFeature .. => inferInstanceAs (Decidable True)

/-- A step that arms nothing, observes no request and registers no first transfer. -/
theorem TimerInv.still {s s' : Stream} (inv : TimerInv s)
    (armed : s'.tc.running = true ∨ s'.startTimer = true →
      s.tc.running = true ∨ s.startTimer = true)
    (pending : s'.epOut.FirstPending → s.epOut.FirstPending) {obs : List Obs}
    (trace : s'.trace = s.trace ++ obs) (none : ∀ o ∈ obs, ¬ o.IsRequest) : TimerInv s' where
  live now := by rw [trace]; exact (inv.live (armed now)).append none
  asked now := by rw [trace]; exact (inv.asked (pending now)).append none

/-- A call that ends a first transfer, if at all, in a session that asked for it. -/
theorem TimerInv.callBack {s : Stream} (inv : TimerInv s) {completion : Option Completion}
    (asked : completesFirst completion = true → Asked s.trace) :
    TimerInv (M1k.callBack completion s) := by
  have none := callObs_notRequest completion
  rw [callBack_eq]
  refine ⟨fun now => ?_, fun pending => (inv.asked pending).append none⟩
  cases completes : completesFirst completion with
  | true => exact (asked completes).live completes
  | false =>
    simp only [completes, Bool.false_and, Bool.or_false] at now
    exact (inv.live now).append none

theorem TimerInv.quiet {s s' : Stream} (inv : TimerInv s) (quiet : Quiet s s') : TimerInv s' := by
  obtain ⟨aborted, -, trace⟩ := quiet.trace
  refine inv.still ?_ ?_ trace ?_
  · rw [quiet.tc, quiet.startTimer]; exact fun armed => armed
  · rintro ⟨busy, call⟩
    have job : s'.epOut.job = s.epOut.job := quiet.job .bulkOut busy
    exact ⟨job ▸ busy, job ▸ call⟩
  · simp [Obs.IsRequest]

theorem timer_runIn {s : Stream} (inv : TimerInv s) (buf : Ptr) :
    TimerInv (udiVendorBulkRun .bulkIn buf 2048 .mainVendorBulkInReceived s) := by
  rw [udiVendorBulkRun_bulkIn]
  refine TimerInv.callBack ?_ fun completes => ?_
  · exact inv.still id id rfl (by simp [Obs.IsRequest])
  obtain ⟨-, run⟩ | ⟨-, -, -, run⟩ | ⟨-, -, -, run⟩ :=
    uddEpRun_cases true buf .mainVendorBulkInReceived s.epIn (by decide : 0 < 2048) (by decide) <;>
    simp [run, completesFirst] at completes

theorem timer_runOut {s : Stream} (inv : TimerInv s) (buf : Ptr) :
    TimerInv (udiVendorBulkRun .bulkOut buf 1024 .mainVendorBulkOutReceived s) := by
  rw [udiVendorBulkRun_bulkOut]
  obtain ⟨-, run⟩ | ⟨-, -, -, run⟩ | ⟨-, -, -, run⟩ :=
    uddEpRun_cases false buf .mainVendorBulkOutReceived s.epOut (by decide : 0 < 1024) (by decide)
  · simp only [run]
    refine TimerInv.callBack ?_ (by simp)
    exact inv.still id id rfl (by simp [Obs.IsRequest])
  · simp only [run]
    refine TimerInv.callBack ?_ (by simp)
    exact inv.still id (by simp [Endpoint.FirstPending, Endpoint.moving]) rfl
      (by simp [Obs.IsRequest])
  · simp only [run]
    refine TimerInv.callBack ?_ (by simp [completesFirst])
    exact inv.still id (by simp [Endpoint.FirstPending, Endpoint.ended]) rfl
      (by simp [Obs.IsRequest])

/-- A start request with nothing armed: whatever becomes armed is armed by its own transfer. -/
theorem timer_request {s : Stream} {wValue wIndex : UInt16}
    (meets : MeetsTimer s (.request wValue wIndex)) :
    TimerInv (configureSampling wValue wIndex s) := by
  obtain ⟨unarmed, meets⟩ := meets
  by_cases stop : wValue < 1
  · have notStart : ¬ 1 ≤ wValue := UInt16.not_le.mpr stop
    rw [if_neg notStart] at meets
    rw [configureSampling_stop stop]
    exact ⟨by simp [unarmed], fun pending => absurd pending meets⟩
  · have start : 1 ≤ wValue := UInt16.not_lt.mp stop
    rw [if_pos start] at meets
    -- what the start branch observes is no request
    have aborts : ∀ o ∈ callObs (uddEpAbort true s.epIn).2 ++ callObs (uddEpAbort false s.epOut).2 ++
        [.epRun .bulkOut (.packetsOut 0 0) 1024 (firstRun s.epOut).1], ¬ o.IsRequest := by
      intro o member
      simp only [List.mem_append, List.mem_singleton] at member
      obtain (member | member) | rfl := member
      · exact callObs_notRequest _ o member
      · exact callObs_notRequest _ o member
      · exact id
    have asked : Asked (s.trace ++ .request wValue wIndex ::
        (callObs (uddEpAbort true s.epIn).2 ++ callObs (uddEpAbort false s.epOut).2 ++
          [.epRun .bulkOut (.packetsOut 0 0) 1024 (firstRun s.epOut).1])) :=
      ⟨wValue, _, session_request aborts _ _ _, start⟩
    have trace : (configureSampling wValue wIndex s).trace = (s.trace ++ .request wValue wIndex ::
        (callObs (uddEpAbort true s.epIn).2 ++ callObs (uddEpAbort false s.epOut).2 ++
          [.epRun .bulkOut (.packetsOut 0 0) 1024 (firstRun s.epOut).1])) ++
        callObs (firstRun s.epOut).2.2 := by
      rw [configureSampling_start start]; simp
    constructor
    · rw [trace]
      intro armed
      rw [configureSampling_start start] at armed
      -- what is armed now, the first transfer has armed by ending at once
      simp only [unarmed, Bool.false_or, meets, Bool.false_eq_true, false_or] at armed
      exact asked.live armed
    · rw [trace]
      exact fun _ => asked.append (callObs_notRequest _)

/-- Only the end of the registered job completes it. -/
theorem dmaOutDone_completesFirst {ep : Endpoint} (sound : ep.Sound .bulkOut) :
    (completesFirst (dmaOutDone ep).2 = true → ep.FirstPending) ∧
      ((dmaOutDone ep).1.FirstPending → ep.FirstPending) := by
  simp only [dmaOutDone]
  split_ifs with on
  · have running : ep.dmaOn = true := by simp only [Bool.and_eq_true] at on; exact on.1
    rw [uddEpDmaInterrupt_sound sound false running]
    cases busy : ep.job.busy with
    | false =>
      -- the channel of no job: nothing is called
      refine ⟨by simp, ?_⟩
      rintro ⟨now, -⟩
      simp only [Bool.false_eq_true, if_false] at now
      split_ifs at now <;> simp [busy] at now
    | true =>
      refine ⟨fun completes => ?_, by simp [Endpoint.FirstPending]⟩
      obtain ⟨callback, call, -⟩ := sound.owned busy
      simp only [if_true, call, Option.map_some, completesFirst, Option.any_some, Bool.and_eq_true,
        decide_eq_true_eq] at completes
      exact ⟨busy, by rw [call, completes.2]⟩
  · exact ⟨by simp, id⟩

theorem dmaInDone_completesFirst {ep : Endpoint} (sound : ep.Sound .bulkIn) :
    completesFirst (dmaInDone ep).2 = false := by
  simp only [dmaInDone]
  split_ifs with on
  · have running : ep.dmaOn = true := by simp only [Bool.and_eq_true] at on; exact on.1
    have full : Endpoint.Sound .bulkIn { ep with dmaCount := ep.job.bufLoad } := { sound with }
    rw [uddEpDmaInterrupt_sound full true running]
    cases busy : ep.job.busy with
    | false => simp
    | true =>
      obtain ⟨callback, call, owns⟩ := sound.owned busy
      change callback = .mainVendorBulkInReceived at owns
      simp [call, owns, completesFirst]
  · rfl

theorem timer_step {s : Stream} (wired : Wired s) (inv : TimerInv s) {event : Event}
    (meets : MeetsTimer s event) : TimerInv (step s event) := by
  cases event with
  | tc2 =>
    simp only [step, tc2Interrupt]
    split_ifs
    · exact inv
    · exact inv.still id id rfl (by simp [Obs.IsRequest])
  | loop =>
    have unobserved : s.trace = s.trace ++ [] := by simp
    simp only [step, mainLoop]
    cases s.pc with
    | readIndexIn => exact inv.still id id rfl (by simp [Obs.IsRequest])
    | runIn index =>
      have moved : TimerInv { s with pc := .testOut } := ⟨inv.live, inv.asked⟩
      exact timer_runIn moved _
    | runOut index =>
      have moved : TimerInv { s with pc := .watchdog } := ⟨inv.live, inv.asked⟩
      exact timer_runOut moved _
    | _ => exact inv.still id id unobserved (by simp)
  | sof fnum =>
    simp only [step, mainSofAction]
    split_ifs with fires
    · -- what starts the timer is `start_timer`, which only a live session has set
      simp only [Bool.and_eq_true] at fires
      exact ⟨fun _ => inv.live (.inr fires.1), inv.asked⟩
    · exact ⟨inv.live, inv.asked⟩
  | request wValue wIndex => exact timer_request meets
  | outByte value =>
    simp only [step, dmaOutByte]
    split_ifs with moves
    · cases s.epOut.job.buf with
      | packetsOut packet word => exact inv.still id id rfl (by simp [Obs.IsRequest])
      | _ => exact inv
    · exact inv
  | outDone =>
    obtain ⟨completes, pending⟩ := dmaOutDone_completesFirst wired.soundOut
    have ended : TimerInv { s with epOut := (dmaOutDone s.epOut).1 } :=
      ⟨inv.live, fun first => inv.asked (pending first)⟩
    exact ended.callBack fun first => inv.asked (completes first)
  | outEndTr =>
    simp only [step, outEndTr]
    split_ifs
    · exact ⟨inv.live, inv.asked⟩
    · exact inv
  | inDone =>
    have ended : TimerInv { s with epIn := (dmaInDone s.epIn).1 } := ⟨inv.live, inv.asked⟩
    refine ended.callBack fun first => ?_
    exact absurd first (by simp [Stream.ep, dmaInDone_completesFirst wired.soundIn])
  | _ => exact inv.quiet (manage_step wired (by trivial)).1

/-! ## Every run -/

theorem timer_boot : TimerInv {} := ⟨by simp, by simp [Endpoint.FirstPending]⟩

/-- In a run from power-up whose 0xC5 requests find nothing armed, the timer runs, and
    `start_timer` is set, only while the last request was a start whose first OUT transfer has
    completed. -/
theorem timer_runs_in_live_session (events : List Event)
    (meets : Throughout step MeetsTimer {} events) :
    Always step (fun s => s.tc.running = true ∨ s.startTimer = true → Live s.trace) {} events := by
  have start : Wired {} ∧ TimerInv {} := ⟨wired_boot, timer_boot⟩
  have always : Always step (fun s => Wired s ∧ TimerInv s) {} events :=
    always_of_step (fun _ event inv now => ⟨wired_step inv.1 event, timer_step inv.1 inv.2 now⟩)
      start meets
  exact always.mono fun _ inv => inv.2.live

theorem timer_runs_in_live_session_once :
    Always step (fun s => s.tc.running = true ∨ s.startTimer = true → Live s.trace) {}
      (bringUp ++ [.request 1000 0, .outDone, .sof 5, .tc2, .request 0 0, .sof 6]) :=
  timer_runs_in_live_session _ (by decide)

/-- A stop between the first OUT transfer and the SOF it waits for: the timer starts after it. -/
theorem stop_leaves_start_armed :
    let s := run step {} (bringUp ++ [.request 1000 0, .outDone, .request 0 0, .sof 5])
    s.tc.running = true ∧ ¬ Live s.trace := by
  intro s
  have last : session s.trace = some (0, []) := by decide
  refine ⟨by decide, ?_⟩
  rintro ⟨wValue, since, found, start, -⟩
  rw [last] at found
  obtain ⟨rfl, -⟩ := Prod.mk.inj (Option.some.inj found)
  exact absurd start (by decide)

end M1k
