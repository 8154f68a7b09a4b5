import M1k.Streaming.FlagEffects

/-! # Where a flag loses its job

The flags agree with the jobs exactly in the runs where no event aborts a job under a set flag, and
where no run call of the main loop returns with its flag set and nothing registered, be it that the
endpoint has refused it or that an interrupt has aborted the job before `udd_ep_trans_done`, or
between its test of `busy` and its masked section. -/

namespace M1k

open Library.Runs

def FlagsAgree (s : Stream) : Prop := ∀ id, FlagAgrees id s

/-- The call has come to `udd_ep_trans_done`. -/
def RunPlace.inTransDone : RunPlace → Bool
  | .called | .tested | .taken => false
  | .filled | .launching _ => true

/-- The call returns with the next part, and no job is registered. -/
def RunCall.Fails (call : RunCall) (f : Preemptible) : Prop :=
  (f.stream.ep call.id).job.busy = false ∧
    (f.place = .called ∧ (f.stream.ep call.id).ready = false ∨ f.place.inTransDone = true)

/-- The event leaves no flag set whose job is gone. -/
def MeetsFlags (f : Preemptible) : Event → Prop
  | .loop => ∀ call, f.stream.pc.runCall = some call → call.Fails f → f.stream.sending call.id = false
  | .request wValue _ =>
    1 ≤ wValue → f.stream.epOut.ready = true ∨ f.stream.pc.handingOver .bulkOut = true
  | event => ∀ id, Aborts id f.stream event → Spared id f.stream

/-! ## Run calls -/

section RunCall

variable {pc : MainPc} {call : RunCall} (inCall : pc.runCall = some call)

include inCall

theorem handingOver_of_runCall (id : EpId) : pc.handingOver id = true ↔ id = call.id := by
  cases pc with
  | runIn index =>
    rw [← Option.some.inj inCall]
    cases id <;> simp [MainPc.handingOver]
  | runOut index =>
    rw [← Option.some.inj inCall]
    cases id <;> simp [MainPc.handingOver]
  | _ => cases inCall

theorem runCall_next (id : EpId) : call.next.handingOver id = false ∧ call.next.runCall = none := by
  cases pc with
  | runIn index =>
    rw [← Option.some.inj inCall]
    cases id <;> exact ⟨rfl, rfl⟩
  | runOut index =>
    rw [← Option.some.inj inCall]
    cases id <;> exact ⟨rfl, rfl⟩
  | _ => cases inCall

theorem runCall_owns : call.id.Owns call.callback := by
  cases pc with
  | runIn index =>
    rw [← Option.some.inj inCall]
    rfl
  | runOut index =>
    rw [← Option.some.inj inCall]
    exact .inl rfl
  | _ => cases inCall

end RunCall

/-! ## Registered jobs -/

/-- A registered job has a callback of its endpoint, but for the moment before the run call that has
    taken it fills it in. -/
structure Registers (f : Preemptible) : Prop where
  owned : Owned f.stream
  called : ∀ id, (f.stream.ep id).job.busy = true → (f.stream.ep id).job.callTrans ≠ none ∨
    f.place = .taken ∧ f.stream.pc.handingOver id = true
  inside : f.place ≠ .called → f.stream.pc.runCall ≠ none

theorem registers_boot : Registers {} where
  owned id callback called := by cases id <;> cases called
  called id busy := by cases id <;> cases busy
  inside outside := absurd rfl outside

theorem Registers.pending {f : Preemptible} (registers : Registers f) {id : EpId}
    (busy : (f.stream.ep id).job.busy = true) (notTaken : f.place ≠ .taken) :
    (f.stream.ep id).Pending id := by
  obtain called | ⟨taken, -⟩ := registers.called id busy
  · obtain ⟨callback, registered⟩ := Option.ne_none_iff_exists'.mp called
    exact ⟨busy, callback, registered, registers.owned id callback registered⟩
  · exact absurd taken notTaken

/-- What neither moves the main loop nor registers a job keeps the jobs registered. -/
theorem Registers.still {f f' : Preemptible} (registers : Registers f) (place : f'.place = f.place)
    (pc : f'.stream.pc = f.stream.pc)
    (callTrans : ∀ id, (f'.stream.ep id).job.callTrans = (f.stream.ep id).job.callTrans)
    (busy : ∀ id, (f'.stream.ep id).job.busy = true → (f.stream.ep id).job.busy = true) :
    Registers f' where
  owned id callback called := registers.owned id callback ((callTrans id).symm.trans called)
  called id registered := by
    rw [callTrans id, place, pc]
    exact registers.called id (busy id registered)
  inside := by
    rw [place, pc]
    exact registers.inside

theorem Outcome.registers {f : Preemptible} (registers : Registers f) {s' : Stream} {aborts : EpId → Prop}
    (outcome : ∀ id, Outcome id (aborts id) f.stream s') : Registers { f with stream := s' } := by
  have pc : s'.pc = f.stream.pc := by
    by_cases taken : aborts .bulkIn
    · exact ((outcome .bulkIn).loses taken).pc
    · exact ((outcome .bulkIn).keeps taken).pc
  refine registers.still rfl pc (fun id => ?_) fun id => ?_
  · by_cases taken : aborts id
    · exact ((outcome id).loses taken).callTrans
    · exact ((outcome id).keeps taken).callTrans
  · by_cases taken : aborts id
    · exact fun busy => absurd busy (Bool.eq_false_iff.mp ((outcome id).loses taken).idle)
    · exact ((outcome id).keeps taken).busy

/-- A start request registers the first transfer, or leaves nothing registered. -/
theorem registers_start {f : Preemptible} (registers : Registers f) {wValue : UInt16}
    (start : 1 ≤ wValue) (wIndex : UInt16) :
    Registers { f with stream := configureSampling wValue wIndex f.stream } := by
  have outcomes := uddEpRun_cases false (.packetsOut 0 0) .mainVendorBulkOutReceivedFirst
    (uddEpAbort false f.stream.epOut).1 (by decide : 0 < 1024) (by decide)
  have idle : (uddEpAbort false f.stream.epOut).1.job.busy = false := by rw [uddEpAbort_fst]
  have first : ((firstRun f.stream.epOut).2.1.job.callTrans = f.stream.epOut.job.callTrans ∧
      (firstRun f.stream.epOut).2.1.job.busy = false) ∨
      (firstRun f.stream.epOut).2.1.job.callTrans = some .mainVendorBulkOutReceivedFirst := by
    obtain ⟨-, run⟩ | ⟨-, -, -, run⟩ | ⟨-, -, -, run⟩ := outcomes
    · rw [firstRun, run]
      exact .inl ⟨by rw [uddEpAbort_fst], idle⟩
    · rw [firstRun, run]
      exact .inr rfl
    · rw [firstRun, run]
      exact .inr rfl
  rw [configureSampling_start start]
  refine ⟨fun id callback called => ?_, fun id busy => ?_, registers.inside⟩
  · cases id with
    | bulkIn =>
      change (uddEpAbort true f.stream.epIn).1.job.callTrans = some callback at called
      rw [uddEpAbort_fst] at called
      exact registers.owned .bulkIn callback called
    | bulkOut =>
      change (firstRun f.stream.epOut).2.1.job.callTrans = some callback at called
      obtain ⟨same, -⟩ | asked := first
      · exact registers.owned .bulkOut callback (same.symm.trans called)
      · rw [asked] at called
        exact .inr (Option.some.inj called).symm
  · cases id with
    | bulkIn =>
      change (uddEpAbort true f.stream.epIn).1.job.busy = true at busy
      rw [uddEpAbort_fst] at busy
      cases busy
    | bulkOut =>
      change (firstRun f.stream.epOut).2.1.job.busy = true at busy
      obtain ⟨-, notBusy⟩ | asked := first
      · exact absurd busy (Bool.eq_false_iff.mp notBusy)
      · left
        show (firstRun f.stream.epOut).2.1.job.callTrans ≠ none
        rw [asked]
        exact Option.some_ne_none _

/-! ## The main loop -/

section MainLoop

variable {f : Preemptible} {call : RunCall}

/-- A statement of the main loop outside the run calls moves a flag at most into a hand-over. -/
theorem agrees_loop (outside : f.stream.pc.runCall = none) (agree : FlagsAgree f.stream) :
    FlagsAgree (mainLoop f.stream) := by
  intro id
  have agrees := agree id
  cases pc : f.stream.pc with
  | runIn index => rw [pc] at outside; cases outside
  | runOut index => rw [pc] at outside; cases outside
  | _ =>
    simp only [FlagAgrees, pc] at agrees
    simp only [FlagAgrees, mainLoop, pc]
    cases id <;> simp only [Stream.sending, Stream.ep] at agrees ⊢ <;> grind [MainPc.handingOver]

theorem registers_loop (registers : Registers f) (outside : f.stream.pc.runCall = none) :
    Registers { f with stream := mainLoop f.stream } := by
  have atStart : f.place = .called := by
    by_contra inside
    exact registers.inside inside outside
  have same (id : EpId) : (mainLoop f.stream).ep id = f.stream.ep id := by
    cases pc : f.stream.pc with
    | runIn index => rw [pc] at outside; cases outside
    | runOut index => rw [pc] at outside; cases outside
    | _ => rw [mainLoop, pc]; cases id <;> rfl
  refine ⟨fun id callback called => ?_, fun id busy => ?_, fun inside => absurd atStart inside⟩
  · exact registers.owned id callback (congrArg (fun ep => ep.job.callTrans) (same id) ▸ called)
  · have pending := registers.pending (same id ▸ busy) (by rw [atStart]; decide)
    obtain ⟨callback, registered, -⟩ := pending.2
    left
    show ((mainLoop f.stream).ep id).job.callTrans ≠ none
    rw [same id, registered]
    exact Option.some_ne_none _

/-- The call returns without having touched an endpoint. -/
theorem Registers.returns (registers : Registers f) (notTaken : f.place ≠ .taken) (accepted : Bool) :
    Registers { stream := call.returns accepted f.stream } where
  owned id callback called := registers.owned id callback (call.returns_ep accepted _ id ▸ called)
  called id busy := by
    obtain ⟨callback, registered, -⟩ :=
      (registers.pending (call.returns_ep accepted _ id ▸ busy) notTaken).2
    left
    rw [call.returns_ep, registered]
    exact Option.some_ne_none _
  inside outside := absurd rfl outside

variable (inCall : f.stream.pc.runCall = some call)

include inCall

/-- The call changes the job of its endpoint, which keeps a callback of its own once there is one. -/
theorem Registers.withJob (registers : Registers f) {change : EpJob → EpJob} {place : RunPlace}
    (owned : ∀ callback, (change (f.stream.ep call.id).job).callTrans = some callback →
      call.id.Owns callback)
    (called : (change (f.stream.ep call.id).job).busy = true →
      (change (f.stream.ep call.id).job).callTrans ≠ none ∨ place = .taken) :
    Registers { stream := f.stream.withJob call.id change, place := place } := by
  refine ⟨fun id callback registered => ?_, fun id busy => ?_, fun _ => ?_⟩
  · by_cases same : id = call.id
    · subst same
      rw [Stream.withJob_ep] at registered
      exact owned callback registered
    · rw [Stream.withJob_ep_other _ same] at registered
      exact registers.owned id callback registered
  · by_cases same : id = call.id
    · subst same
      rw [Stream.withJob_ep] at busy ⊢
      refine (called busy).imp_right fun taken => ⟨taken, ?_⟩
      rw [Stream.withJob_pc]
      exact (handingOver_of_runCall inCall _).mpr rfl
    · rw [Stream.withJob_ep_other _ same] at busy ⊢
      refine .inl ((registers.called id busy).resolve_right ?_)
      rintro ⟨-, handing⟩
      exact same ((handingOver_of_runCall inCall id).mp handing)
  · rw [Stream.withJob_pc, inCall]
    exact Option.some_ne_none _

theorem registers_advance (registers : Registers f) : Registers (call.advance f) := by
  have called (notTaken : f.place ≠ .taken) {id : EpId} (busy : (f.stream.ep id).job.busy = true) :
      (f.stream.ep id).job.callTrans ≠ none := by
    obtain ⟨callback, registered, -⟩ := (registers.pending busy notTaken).2
    exact ne_of_eq_of_ne registered (Option.some_ne_none _)
  cases place : f.place with
  | called =>
    have notTaken : f.place ≠ .taken := by rw [place]; decide
    rw [RunCall.advance, place]
    dsimp only
    split_ifs
    · refine ⟨registers.owned, fun id busy => .inl (called notTaken busy), fun _ => ?_⟩
      rw [inCall]
      exact Option.some_ne_none _
    · exact registers.returns notTaken false
  | tested =>
    rw [RunCall.advance, place]
    dsimp only
    split_ifs
    · exact registers.returns (by rw [place]; decide) false
    · exact registers.withJob inCall (registers.owned call.id) fun _ => .inr rfl
  | taken =>
    rw [RunCall.advance, place]
    refine registers.withJob inCall (fun callback registered => ?_) fun _ => .inl (Option.some_ne_none _)
    rw [← Option.some.inj registered]
    exact runCall_owns inCall
  | filled =>
    have notTaken : f.place ≠ .taken := by rw [place]; decide
    have returned : Registers { stream := call.returns true f.stream } :=
      registers.returns notTaken true
    rw [RunCall.advance, place]
    dsimp only
    split_ifs
    · exact returned
    · exact Outcome.registers returned fun id => (keeps_onEp (.transEnd _ _) id).outcome not_false
    · exact registers.withJob inCall (registers.owned call.id) fun busy => .inl (called notTaken busy)
  | launching nextTrans =>
    have returned : Registers { stream := call.returns true f.stream } :=
      registers.returns (by rw [place]; exact RunPlace.noConfusion) true
    rw [RunCall.advance, place]
    exact Outcome.registers returned fun id => (keeps_onEp (.launch _ _ _) id).outcome not_false

/-- The direction that is not handed over does not notice the call. -/
theorem agrees_advance_other {id : EpId} (other : id ≠ call.id) (agrees : FlagAgrees id f.stream) :
    FlagAgrees id (call.advance f).stream := by
  have free : f.stream.pc.handingOver id = false := by
    rw [Bool.eq_false_iff]
    exact mt (handingOver_of_runCall inCall id).mp other
  have returned (accepted : Bool) : FlagAgrees id (call.returns accepted f.stream) := by
    refine agrees.same (fun _ => free) ?_ ?_
    · rw [call.returns_sending]
      exact fun flag => flag
    · rw [call.returns_ep]
      exact fun _ pending => pending
  have rejobbed (change : EpJob → EpJob) : FlagAgrees id (f.stream.withJob call.id change) := by
    refine agrees.same (fun _ => free) ?_ ?_
    · rw [Stream.withJob_sending]
      exact fun flag => flag
    · rw [Stream.withJob_ep_other _ other]
      exact fun _ pending => pending
  rw [RunCall.advance]
  cases f.place with
  | called =>
    dsimp only
    split_ifs
    · exact agrees
    · exact returned false
  | tested =>
    dsimp only
    split_ifs
    · exact returned false
    · exact rejobbed _
  | taken => exact rejobbed _
  | filled =>
    dsimp only
    split_ifs
    · exact returned true
    · exact (keeps_onEp (.transEnd _ _) id).agrees (returned true)
    · exact rejobbed _
  | launching nextTrans => exact (keeps_onEp (.launch _ _ _) id).agrees (returned true)

/-- The direction that is handed over loses its job if the call returns without one. -/
theorem agrees_advance (registers : Registers f) :
    FlagAgrees call.id (call.advance f).stream ↔
      (call.Fails f → f.stream.sending call.id = false) := by
  have handing : f.stream.pc.handingOver call.id = true := (handingOver_of_runCall inCall _).mpr rfl
  have within {s : Stream} (pc : s.pc = f.stream.pc) : FlagAgrees call.id s := fun free => by
    rw [pc, handing] at free
    cases free
  have free (accepted : Bool) : (call.returns accepted f.stream).pc.handingOver call.id = false :=
    (runCall_next inCall call.id).1
  -- a call that returns leaves the flag to the job that is there
  have returned (accepted : Bool) (notTaken : f.place ≠ .taken) :
      FlagAgrees call.id (call.returns accepted f.stream) ↔
        ((f.stream.ep call.id).job.busy = false → f.stream.sending call.id = false) := by
    cases busy : (f.stream.ep call.id).job.busy with
    | true =>
      refine iff_of_true (fun _ _ => ?_) fun idle => by cases idle
      rw [call.returns_ep]
      exact registers.pending busy notTaken
    | false =>
      have idle : ((call.returns accepted f.stream).ep call.id).job.busy = false := by
        rw [call.returns_ep, busy]
      rw [flagAgrees_of_idle idle, Spared, free, call.returns_sending, imp_iff_right rfl]
      simp
  cases place : f.place with
  | called =>
    cases ready : (f.stream.ep call.id).ready with
    | true =>
      refine iff_of_true (within ?_) fun fails => ?_
      · rw [RunCall.advance, place]
        simp only [ready, if_true]
      · obtain ⟨-, ⟨-, refused⟩ | last⟩ := fails
        · rw [ready] at refused
          cases refused
        · rw [place] at last
          cases last
    | false =>
      have advanced : (call.advance f).stream = call.returns false f.stream := by
        rw [RunCall.advance, place]
        simp only [ready, Bool.false_eq_true, if_false]
      have fails : call.Fails f ↔ (f.stream.ep call.id).job.busy = false := by
        simp [RunCall.Fails, RunPlace.inTransDone, place, ready]
      rw [advanced, fails]
      exact returned false (by rw [place]; decide)
  | tested =>
    have notFails : ¬ call.Fails f := by simp [RunCall.Fails, RunPlace.inTransDone, place]
    refine iff_of_true ?_ fun fails => absurd fails notFails
    cases busy : (f.stream.ep call.id).job.busy with
    | true =>
      have advanced : (call.advance f).stream = call.returns false f.stream := by
        rw [RunCall.advance, place]
        simp only [busy, if_true]
      rw [advanced]
      exact (returned false (by rw [place]; decide)).mpr fun idle => by rw [busy] at idle; cases idle
    | false =>
      apply within
      rw [RunCall.advance, place]
      simp only [busy, Bool.false_eq_true, if_false]
      exact Stream.withJob_pc _ _ _
  | taken =>
    have notFails : ¬ call.Fails f := by simp [RunCall.Fails, RunPlace.inTransDone, place]
    refine iff_of_true (within ?_) fun fails => absurd fails notFails
    rw [RunCall.advance, place]
    exact Stream.withJob_pc _ _ _
  | filled =>
    have notTaken : f.place ≠ .taken := by rw [place]; decide
    have fails : call.Fails f ↔ (f.stream.ep call.id).job.busy = false := by
      simp [RunCall.Fails, RunPlace.inTransDone, place]
    rw [fails]
    cases busy : (f.stream.ep call.id).job.busy with
    | false =>
      have advanced : (call.advance f).stream = call.returns true f.stream := by
        rw [RunCall.advance, place]
        simp only [busy, if_true]
      rw [advanced, returned true notTaken, busy]
    | true =>
      refine iff_of_true ?_ fun idle => by cases idle
      by_cases whole : (f.stream.ep call.id).job.bufCnt = (f.stream.ep call.id).job.bufSize
      · have advanced : (call.advance f).stream =
            onEp call.id (uddEpTransEnd call.id.isIn) (call.returns true f.stream) := by
          rw [RunCall.advance, place]
          simp only [busy, whole, Bool.true_eq_false, if_false, if_true]
        rw [advanced]
        refine (keeps_onEp (.transEnd _ _) call.id).agrees ((returned true notTaken).mpr fun idle => ?_)
        rw [busy] at idle
        cases idle
      · apply within
        rw [RunCall.advance, place]
        simp only [busy, whole, Bool.true_eq_false, if_false]
        exact Stream.withJob_pc _ _ _
  | launching nextTrans =>
    have atReturn := returned true (by rw [place]; exact RunPlace.noConfusion)
    have fails : call.Fails f ↔ (f.stream.ep call.id).job.busy = false := by
      simp [RunCall.Fails, RunPlace.inTransDone, place]
    have advanced : (call.advance f).stream =
        onEp call.id (uddEpLaunch call.id.isIn nextTrans) (call.returns true f.stream) := by
      rw [RunCall.advance, place]
    rw [advanced, fails, ← atReturn]
    have keeps : Keeps call.id (call.returns true f.stream)
        (onEp call.id (uddEpLaunch call.id.isIn nextTrans) (call.returns true f.stream)) :=
      keeps_onEp (.launch _ _ _) call.id
    refine ⟨fun agrees => ?_, keeps.agrees⟩
    -- a job that is gone does not come back with the channel, and its flag stands
    rw [atReturn]
    intro idle
    have gone : ((call.returns true f.stream).ep call.id).job.busy = false := by
      rw [call.returns_ep, idle]
    have silent := uddEpLaunch_idle call.id.isIn nextTrans gone
    have lost : Loses call.id (call.returns true f.stream)
        (onEp call.id (uddEpLaunch call.id.isIn nextTrans) (call.returns true f.stream)) := by
      refine ⟨keeps.pc, ?_, keeps.callTrans, ?_⟩
      · rw [onEp, silent.2, callBack, setEp_sending]
      · rw [onEp_ep, silent.1]
    have spared := lost.agrees_iff.mp agrees
    rw [Spared, free, call.returns_sending] at spared
    exact Bool.eq_false_of_not_eq_true fun flag => absurd (spared flag) Bool.false_ne_true

end MainLoop

/-! ## Every run -/

/-- A start request clears `sending_in` and sets `sending_out` for the transfer it asks for. -/
theorem agrees_start {s : Stream} {wValue : UInt16} (start : 1 ≤ wValue) (wIndex : UInt16) :
    FlagsAgree (configureSampling wValue wIndex s) ↔
      s.epOut.ready = true ∨ s.pc.handingOver .bulkOut = true := by
  have input : FlagAgrees .bulkIn (configureSampling wValue wIndex s) := by
    refine flagAgrees_of_clear ?_
    rw [configureSampling_start start]
    rfl
  have output : FlagAgrees .bulkOut (configureSampling wValue wIndex s) ↔
      s.epOut.ready = true ∨ s.pc.handingOver .bulkOut = true := by
    have ready : (uddEpAbort false s.epOut).1.ready = s.epOut.ready := by rw [uddEpAbort_fst]; rfl
    obtain ⟨refused, run⟩ | ⟨isReady, -, -, run⟩ | ⟨isReady, -, -, run⟩ :=
      uddEpRun_cases false (.packetsOut 0 0) .mainVendorBulkOutReceivedFirst
        (uddEpAbort false s.epOut).1 (by decide : 0 < 1024) (by decide)
    · -- the endpoint refuses the first transfer, after the request has set its flag
      have idle : (uddEpAbort false s.epOut).1.job.busy = false := by rw [uddEpAbort_fst]
      have notReady : s.epOut.ready = false := by simpa [ready, idle] using refused
      have agrees : FlagAgrees .bulkOut (configureSampling wValue wIndex s) ↔
          Spared .bulkOut (configureSampling wValue wIndex s) := by
        refine flagAgrees_of_idle ?_
        rw [configureSampling_start start, firstRun, run]
        exact idle
      rw [agrees, notReady, configureSampling_start start, firstRun, run]
      simp [Spared, Stream.sending]
    · refine iff_of_true (fun _ _ => ?_) (.inl (ready ▸ isReady))
      rw [configureSampling_start start, firstRun, run]
      exact ⟨rfl, .mainVendorBulkOutReceivedFirst, rfl, .inr rfl⟩
    · refine iff_of_true (flagAgrees_of_clear ?_) (.inl (ready ▸ isReady))
      rw [configureSampling_start start, firstRun, run]
      rfl
  rw [← output]
  constructor
  · exact fun agree => agree .bulkOut
  · intro agrees id
    cases id with
    | bulkIn => exact input
    | bulkOut => exact agrees

/-- What `MeetsFlags` asks of an event that is neither of the main loop nor a start request -/
theorem meetsFlags_iff (f : Preemptible) {event : Event} (noLoop : event ≠ .loop)
    (noStart : ∀ wValue wIndex, event = .request wValue wIndex → wValue < 1) :
    MeetsFlags f event ↔ ∀ id, Aborts id f.stream event → Spared id f.stream := by
  cases event with
  | loop => exact absurd rfl noLoop
  | request wValue wIndex =>
    have stop := noStart wValue wIndex rfl
    refine iff_of_true (fun start => absurd start (UInt16.not_le.mpr stop)) fun id taken => ?_
    exact False.elim taken
  | _ => exact Iff.rfl

/-- One event keeps what is registered, and keeps the agreement exactly if it meets the condition. -/
theorem flags_step {f : Preemptible} (registers : Registers f) (event : Event) :
    Registers (f.step event) ∧
      (FlagsAgree f.stream → (FlagsAgree (f.step event).stream ↔ MeetsFlags f event)) := by
  by_cases isLoop : event = .loop
  · subst isLoop
    cases inCall : f.stream.pc.runCall with
    | none =>
      rw [f.step_else fun _ => inCall]
      refine ⟨registers_loop registers inCall, fun agree => iff_of_true (agrees_loop inCall agree) ?_⟩
      intro call found
      rw [inCall] at found
      cases found
    | some call =>
      rw [f.step_loop inCall]
      refine ⟨registers_advance inCall registers, fun agree => ?_⟩
      have meets : MeetsFlags f .loop ↔ (call.Fails f → f.stream.sending call.id = false) := by
        simp [MeetsFlags, inCall]
      rw [meets, ← agrees_advance inCall registers]
      refine ⟨fun agrees => agrees call.id, fun agrees id => ?_⟩
      by_cases same : id = call.id
      · rw [same]
        exact agrees
      · exact agrees_advance_other inCall same (agree id)
  · rw [f.step_else fun loop => absurd loop isLoop]
    by_cases starts : ∃ wValue wIndex, event = .request wValue wIndex ∧ 1 ≤ wValue
    · obtain ⟨wValue, wIndex, rfl, start⟩ := starts
      refine ⟨registers_start registers start wIndex, fun _ => ?_⟩
      rw [MeetsFlags, imp_iff_right start]
      exact agrees_start start wIndex
    · have noStart (wValue wIndex : UInt16) (request : event = .request wValue wIndex) : wValue < 1 :=
        UInt16.not_le.mp fun start => starts ⟨wValue, wIndex, request, start⟩
      have outcome (id : EpId) : Outcome id (Aborts id f.stream event) f.stream (M1k.step f.stream event) :=
        event_outcome registers.owned id isLoop noStart
      refine ⟨Outcome.registers registers outcome, fun agree => ?_⟩
      rw [meetsFlags_iff f isLoop noStart]
      exact forall_congr' fun id => (outcome id).agrees_iff (agree id)

theorem flags_boot : FlagsAgree {} := fun id => by
  cases id with
  | bulkIn => exact flagAgrees_of_clear rfl
  | bulkOut => exact flagAgrees_of_clear rfl

/-- A bus reset that comes before or in `udd_ep_trans_done` in a run call leaves the flag of its
    direction without a job, although it comes in the hand-over. -/
theorem busReset_strands_call {f : Preemptible} (registers : Registers f) {call : RunCall}
    (inCall : f.stream.pc.runCall = some call) (place : f.place.inTransDone = true)
    (sending : f.stream.sending call.id = true) (highSpeed : Bool) :
    ¬ FlagAgrees call.id ((f.step (.busReset highSpeed)).step .loop).stream := by
  have reset : f.step (.busReset highSpeed) = { f with stream := uddReset highSpeed f.stream } := rfl
  have kept := (flags_step registers (.busReset highSpeed)).1
  have lost := busReset_loses call.id highSpeed f.stream
  rw [reset] at kept ⊢
  have stillInCall : (uddReset highSpeed f.stream).pc.runCall = some call := by rw [lost.pc, inCall]
  rw [Preemptible.step_loop _ stillInCall, agrees_advance stillInCall kept]
  intro spared
  have clear := spared ⟨lost.idle, .inr place⟩
  exact absurd (lost.sending.symm.trans clear) (by simp [sending])

end M1k
