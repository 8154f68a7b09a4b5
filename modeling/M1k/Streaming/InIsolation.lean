import M1k.Streaming.Alignment
import M1k.Streaming.BusyFlags
import M1k.Streaming.Directions
import M1k.Streaming.FrameOrder

/-! # Sessions kept apart on the IN side

A start request drops the frame that waits to be handed over and the transfer that is under way.
It cannot drop what the main loop has already decided: interrupted between the test of `send_in`
and the run call, the main loop goes on and starts a transfer that no frame of the new session
stands for. -/

namespace M1k

open Library.Runs Schedule

/-- The first transfer on the bulk IN endpoint is started when one frame has been raised, from the
    packet of frame 0, which has received nothing of any other frame. -/
def OpensWithFrameZero (trace : List Obs) : Prop :=
  ∀ earlier buf bufSize, earlier ++ [.epRun .bulkIn buf bufSize true] <+: trace →
    transfers .bulkIn earlier = [] →
    framesRaised (ticks earlier) = 1 ∧ (buf, bufSize) = buffer .bulkIn 0 ∧
      ∀ (t : Nat) (tick : Tick) (word : Nat), (ticks earlier)[t]? = some tick → tick.Receives 0 word →
        frameIn t = none ∨ frameIn t = some 0

/-- On the bulk IN endpoint the session shows nothing of an earlier one. -/
structure IsolatedIn (s : Stream) : Prop where
  first : OpensWithFrameZero s.trace
  /-- `sending_in` stands for a frame of the session that is handed over, or for its transfer. -/
  sendingIn : s.sendingIn = true →
    (s.pc.handingOver .bulkIn = true ∧ 0 < framesRaised (ticks s.trace)) ∨
      (s.epIn.job.busy = true ∧ transfers .bulkIn s.trace ≠ [])

/-- A start request -/
def Event.Starts : Event → Prop
  | .request wValue _ => 1 ≤ wValue
  | _ => False

instance : DecidablePred Event.Starts
  | .request wValue _ => inferInstanceAs (Decidable (1 ≤ wValue))
  | .tc2 | .loop | .sof _ | .outByte _ | .outDone | .outEndTr | .inDone | .inBanks _ | .busReset _
  | .setAddress _ | .setConfiguration .. | .setInterface .. | .setFeature .. | .clearFeature .. =>
    inferInstanceAs (Decidable False)

/-- The event aborts no IN transfer under `sending_in`, and starts none where it is refused. -/
def MeetsFlagIn (s : Stream) : Event → Prop
  | .loop =>
    match s.pc with
    | .runIn _ => s.sendingIn = true → s.epIn.ready = true
    | _ => True
  | .busReset _ => Spared .bulkIn s
  | .setConfiguration wValue wLength =>
    wLength = 0 ∧ s.address ≠ 0 ∧ (wValue &&& 0xFF).toNat ≤ 1 → Spared .bulkIn s
  | .setInterface wValue wIndex wLength =>
    wLength = 0 ∧ s.udcNumConfiguration ≠ 0 ∧ (wIndex &&& 0xFF).toNat = 0 ∧
      (wValue &&& 0xFF).toNat ≠ 1 → Spared .bulkIn s
  | .setFeature wValue wIndex wLength =>
    wLength = 0 ∧ wValue = 0 ∧ EpId.ofAddress wIndex = some .bulkIn → Spared .bulkIn s
  | _ => True

/-- The event begins no session, keeps `sending_in` with its transfer, and raises no second frame
    before the first transfer is started. -/
def MeetsIn (s : Stream) (event : Event) : Prop :=
  ¬ event.Starts ∧ MeetsFlagIn s event ∧
    (event = .tc2 → s.tc.running = true → raisesSendIn s.smp = true →
      framesRaised (ticks s.trace) = 0 ∨ transfers .bulkIn s.trace ≠ [])

instance (id : EpId) (s : Stream) : Decidable (Spared id s) := inferInstanceAs (Decidable (_ → _))

instance (s : Stream) : DecidablePred (MeetsFlagIn s)
  | .loop => by
    unfold MeetsFlagIn
    cases s.pc <;> infer_instance
  | .busReset _ => inferInstanceAs (Decidable (Spared .bulkIn s))
  | .setConfiguration .. => inferInstanceAs (Decidable (_ → _))
  | .setInterface .. => inferInstanceAs (Decidable (_ → _))
  | .setFeature .. => inferInstanceAs (Decidable (_ → _))
  | .tc2 | .sof _ | .request .. | .outByte _ | .outDone | .outEndTr | .inDone | .inBanks _
  | .setAddress _ | .clearFeature .. => inferInstanceAs (Decidable True)

instance (s : Stream) : DecidablePred (MeetsIn s) := fun _ => inferInstanceAs (Decidable (_ ∧ _))

/-! ## The first transfer in a trace -/

theorem OpensWithFrameZero.append {trace : List Obs} (first : OpensWithFrameZero trace)
    {obs : List Obs} (none : transfers .bulkIn obs = []) : OpensWithFrameZero (trace ++ obs) := by
  induction obs generalizing trace with
  | nil => rwa [List.append_nil]
  | cons o obs inductionHypothesis =>
    have split : transfers .bulkIn [o] ++ transfers .bulkIn obs = [] := by
      rw [← transfers_append]
      exact none
    obtain ⟨noneNow, noneLater⟩ := List.append_eq_nil_iff.mp split
    rw [List.append_cons]
    apply inductionHypothesis ?_ noneLater
    intro earlier buf bufSize isPrefix
    rcases List.prefix_concat_iff.mp isPrefix with last | before
    · have isRun : o = .epRun .bulkIn buf bufSize true := by
        have both := List.append_inj' last rfl
        exact (List.cons_eq_cons.mp both.2).1.symm
      rw [isRun] at noneNow
      simp at noneNow
    · exact first earlier buf bufSize before

/-- A run call at the end of the trace. -/
theorem OpensWithFrameZero.run {trace : List Obs} (first : OpensWithFrameZero trace) {buf : Ptr}
    {bufSize : Nat} {accepted : Bool}
    (now : transfers .bulkIn trace = [] → framesRaised (ticks trace) = 1 ∧
      (buf, bufSize) = buffer .bulkIn 0 ∧
      ∀ (t : Nat) (tick : Tick) (word : Nat), (ticks trace)[t]? = some tick → tick.Receives 0 word →
        frameIn t = none ∨ frameIn t = some 0) :
    OpensWithFrameZero (trace ++ [.epRun .bulkIn buf bufSize accepted]) := by
  intro earlier buf' bufSize' isPrefix
  rcases List.prefix_concat_iff.mp isPrefix with last | before
  · obtain ⟨same, run⟩ := List.append_inj' last rfl
    obtain ⟨-, rfl, rfl, -⟩ := Obs.epRun.inj (List.cons_eq_cons.mp run).1
    rw [same]
    exact now
  · exact first earlier buf' bufSize' before

/-- While one frame has been raised, its packet has received nothing of another. -/
theorem frameIn_of_receives {ticks : List Tick}
    (onTime : ∀ t tick, ticks[t]? = some tick → OnTime t tick) (one : framesRaised ticks = 1)
    {t word : Nat} {tick : Tick} (found : ticks[t]? = some tick) (receives : tick.Receives 0 word) :
    frameIn t = none ∨ frameIn t = some 0 := by
  have bound := (List.getElem?_eq_some_iff.mp found).1
  have packet := ((onTime t tick found).receives receives).1
  rw [framesRaised_eq onTime, framesIn] at one
  simp only [packetIn, pair] at packet
  simp only [frameIn, pair]
  split_ifs at packet ⊢ <;> simp <;> omega

/-! ## The flag of the direction -/

/-- A handler of the host's that spares the flag leaves it no transfer to lose. -/
theorem flagIn_spared {s s' : Stream} (quiet : Quiet s s') (spared : Spared .bulkIn s) :
    FlagAgrees .bulkIn s' := by
  intro free sending
  have handing := spared (quiet.sendingIn sending)
  rw [quiet.pc, handing] at free
  simp at free

theorem flagIn_setConfiguration {s : Stream} (wired : Wired s) (agrees : FlagAgrees .bulkIn s)
    {wValue wLength : UInt16} (meets : MeetsFlagIn s (.setConfiguration wValue wLength)) :
    FlagAgrees .bulkIn (step s (.setConfiguration wValue wLength)) := by
  by_cases accepted : wLength = 0 ∧ s.address ≠ 0 ∧ (wValue &&& 0xFF).toNat ≤ 1
  · exact flagIn_spared (manage_setConfiguration wired wValue wLength).1 (meets accepted)
  · simp only [step, udcReqStdDevSetConfiguration]
    split_ifs with length address number empty
    · exact agrees
    · exact agrees
    · exact agrees
    · exact absurd ⟨not_not.mp length, address, by omega⟩ accepted
    · exact absurd ⟨not_not.mp length, address, by omega⟩ accepted

theorem flagIn_setInterface {s : Stream} (wired : Wired s) (agrees : FlagAgrees .bulkIn s)
    {wValue wIndex wLength : UInt16} (meets : MeetsFlagIn s (.setInterface wValue wIndex wLength)) :
    FlagAgrees .bulkIn (step s (.setInterface wValue wIndex wLength)) := by
  by_cases spared : Spared .bulkIn s
  · exact flagIn_spared (manage_setInterface wired wValue wIndex wLength).1 spared
  · simp only [step, udcReqStdIfaceSetSetting]
    split_ifs with length configured disabled
    · exact agrees
    · exact agrees
    · by_cases iface : (wIndex &&& 0xFF).toNat = 0
      · rw [iface, udcIfaceDisable_eq wired configured] at disabled
        simp at disabled
      · rw [udcIfaceDisable_other iface]
        exact agrees
    · by_cases iface : (wIndex &&& 0xFF).toNat = 0
      · by_cases one : (wValue &&& 0xFF).toNat = 1
        · -- enabling setting 1 clears `sending_in`
          obtain ⟨taken, number⟩ := takenDown_disable wired configured
          rw [iface, one, udcIfaceEnable_one taken.down (number ▸ configured)]
          exact flagAgrees_of_clear rfl
        · exact absurd (meets ⟨not_not.mp length, configured, iface, one⟩) spared
      · rw [udcIfaceDisable_other iface] at disabled
        simp at disabled

theorem flagIn_setFeature {s : Stream} (wired : Wired s) (agrees : FlagAgrees .bulkIn s)
    {wValue wIndex wLength : UInt16} (meets : MeetsFlagIn s (.setFeature wValue wIndex wLength)) :
    FlagAgrees .bulkIn (step s (.setFeature wValue wIndex wLength)) := by
  have quiet := (manage_setFeature wired wValue wIndex wLength).1
  by_cases spared : Spared .bulkIn s
  · exact flagIn_spared quiet spared
  · apply agrees.quiet quiet
    intro pending
    simp only [udcReqStdEpSetFeature]
    split_ifs with refused
    · exact pending
    · have accepted : wLength = 0 ∧ wValue = 0 := by simpa [not_or] using refused
      cases selected : EpId.ofAddress wIndex with
      | none => exact pending
      | some id =>
        cases id with
        | bulkIn => exact absurd (meets ⟨accepted.1, accepted.2, selected⟩) spared
        | bulkOut =>
          simp only [onEp_bulkOut, callBack_eq]
          exact pending

theorem flagIn_loop {s : Stream} (wired : Wired s) (agrees : FlagAgrees .bulkIn s)
    (meets : MeetsFlagIn s .loop) : FlagAgrees .bulkIn (step s .loop) := by
  cases pc : s.pc with
  | runIn index =>
    simp only [MeetsFlagIn, pc] at meets
    exact (flagIn_runIn wired pc).mpr meets
  | runOut index => exact agrees.runOut pc
  | _ =>
    simp only [FlagAgrees, pc, MainPc.handingOver, Stream.sending, Stream.ep] at agrees
    simp only [FlagAgrees, step, mainLoop, pc, MainPc.handingOver, Stream.sending, Stream.ep]
    grind [MainPc.handingOver]

theorem flagIn_step {s : Stream} (wired : Wired s) (agrees : FlagAgrees .bulkIn s) {event : Event}
    (noStart : ¬ event.Starts) (meets : MeetsFlagIn s event) : FlagAgrees .bulkIn (step s event) := by
  cases event with
  | tc2 =>
    simp only [step, tc2Interrupt]
    split_ifs
    · exact agrees
    · exact agrees
  | loop => exact flagIn_loop wired agrees meets
  | sof fnum =>
    simp only [step, mainSofAction]
    split_ifs <;> exact agrees
  | request wValue wIndex =>
    rw [step, configureSampling_stop (UInt16.not_le.mp noStart)]
    exact agrees
  | outByte value =>
    simp only [step, dmaOutByte]
    split_ifs with moves
    · cases s.epOut.job.buf <;> exact agrees
    · exact agrees
  | outDone => exact agrees.outDone
  | outEndTr =>
    simp only [step, outEndTr]
    split_ifs <;> exact agrees
  | inDone => exact agrees.inDone wired
  | inBanks banks =>
    exact agrees.quiet (manage_inBanks wired banks).1 (pending_inBanks wired banks .bulkIn)
  | busReset highSpeed => exact flagIn_spared (manage_busReset wired highSpeed).1 meets
  | setAddress wValue => exact agrees
  | setConfiguration wValue wLength => exact flagIn_setConfiguration wired agrees meets
  | setInterface wValue wIndex wLength => exact flagIn_setInterface wired agrees meets
  | setFeature wValue wIndex wLength => exact flagIn_setFeature wired agrees meets
  | clearFeature wValue wIndex wLength junk =>
    exact agrees.quiet (manage_clearFeature wired wValue wIndex wLength junk).1
      (pending_clearFeature wired wValue wIndex wLength junk .bulkIn)

/-! ## From the request to the first transfer -/

theorem handingOver_of_rest {pc : MainPc} (rest : pc.Stage .bulkIn .rest) :
    pc.handingOver .bulkIn = false := by
  cases pc <;> simp_all [MainPc.Stage, MainPc.handingOver]

/-- A session that began with the main loop outside its hand-over, whatever has happened since. -/
structure Opening (s : Stream) : Prop where
  wired : Wired s
  inSession : InSession s
  agrees : FlagAgrees .bulkIn s
  early : transfers .bulkIn s.trace = [] → framesRaised (ticks s.trace) ≤ 1
  pending : s.smp.sendIn = true → 0 < framesRaised (ticks s.trace)
  taken : ¬ s.pc.Stage .bulkIn .rest → 0 < framesRaised (ticks s.trace)
  index : ∀ index, s.pc = .runIn index → transfers .bulkIn s.trace = [] → index.toNat = 0
  started : s.epIn.job.busy = true → transfers .bulkIn s.trace ≠ []
  first : OpensWithFrameZero s.trace

theorem Opening.isolated {s : Stream} (opening : Opening s) : IsolatedIn s where
  first := opening.first
  sendingIn sending := by
    cases handing : s.pc.handingOver .bulkIn with
    -- the flag was set by a hand-over, which takes a frame that has been raised
    | true =>
      refine .inl ⟨rfl, opening.taken fun rest => ?_⟩
      rw [handingOver_of_rest rest] at handing
      simp at handing
    | false =>
      have busy : s.epIn.job.busy = true := (opening.agrees handing sending).1
      exact .inr ⟨busy, opening.started busy⟩

/-- A step that raises no frame and starts no transfer. -/
theorem Opening.still {s s' : Stream} (opening : Opening s) (wired : Wired s')
    (inSession : InSession s') (agrees : FlagAgrees .bulkIn s')
    (pending : s'.smp.sendIn = true → s.smp.sendIn = true)
    (taken : s'.pc.Stage .bulkIn .rest ∨ 0 < framesRaised (ticks s.trace))
    (index : ∀ index, s'.pc = .runIn index → transfers .bulkIn s.trace = [] → index.toNat = 0)
    (started : s'.epIn.job.busy = true → s.epIn.job.busy = true)
    (trace : ∃ obs, s'.trace = s.trace ++ obs ∧ ticks obs = [] ∧ transfers .bulkIn obs = []) :
    Opening s' := by
  obtain ⟨obs, grown, noTick, noTransfer⟩ := trace
  have sameTicks : ticks s'.trace = ticks s.trace := by
    rw [grown, ticks_append, noTick, List.append_nil]
  have sameTransfers : transfers .bulkIn s'.trace = transfers .bulkIn s.trace := by
    rw [grown, transfers_append, noTransfer, List.append_nil]
  exact {
    wired := wired
    inSession := inSession
    agrees := agrees
    early := by rw [sameTicks, sameTransfers]; exact opening.early
    pending := fun flag => by rw [sameTicks]; exact opening.pending (pending flag)
    taken := fun inside => by rw [sameTicks]; exact taken.resolve_left inside
    index := by rw [sameTransfers]; exact index
    started := fun busy => by rw [sameTransfers]; exact opening.started (started busy)
    first := by rw [grown]; exact opening.first.append noTransfer }

theorem transfers_ofData (id : EpId) {obs : List Obs} (data : ∀ o ∈ obs, o.OfData) :
    transfers id obs = [] := by
  rw [transfers, List.filterMap_eq_nil_iff]
  intro o member
  have ofData := data o member
  cases o with
  | epRun ep buf bufSize accepted => exact False.elim ofData
  | _ => rfl

/-- A step in which neither the sampler nor the main loop moves. -/
theorem Opening.background {s s' : Stream} (opening : Opening s) (background : Background s s')
    (wired : Wired s') (agrees : FlagAgrees .bulkIn s')
    (started : s'.epIn.job.busy = true → s.epIn.job.busy = true) : Opening s' := by
  obtain ⟨obs, grown, data⟩ := background.trace
  apply opening.still wired (opening.inSession.background background) agrees ?_ ?_ ?_ started
  · exact ⟨obs, grown, ticks_of_data data, transfers_ofData .bulkIn data⟩
  · rw [background.smp]
    exact id
  · rw [background.pc]
    exact (Classical.em _).imp_right opening.taken
  · rw [background.pc]
    exact opening.index

theorem opening_tc2 {s : Stream} (opening : Opening s) (wired : Wired (step s .tc2))
    (inSession : InSession (step s .tc2)) (agrees : FlagAgrees .bulkIn (step s .tc2))
    (inTime : s.tc.running = true → raisesSendIn s.smp = true →
      framesRaised (ticks s.trace) = 0 ∨ transfers .bulkIn s.trace ≠ []) :
    Opening (step s .tc2) := by
  simp only [step, tc2Interrupt] at wired inSession agrees ⊢
  split_ifs at wired inSession agrees ⊢ with stopped
  · exact opening
  · have running : s.tc.running = true := by simpa using stopped
    have counted : framesRaised (ticks (s.trace ++ [.interrupt (tick s)])) =
        framesRaised (ticks s.trace) + (raisesSendIn s.smp).toNat := due_tick .bulkIn s
    have same : transfers .bulkIn (s.trace ++ [.interrupt (tick s)]) = transfers .bulkIn s.trace := by
      simp
    exact {
      wired := wired
      inSession := inSession
      agrees := agrees
      early := by
        rw [same, counted]
        intro none
        cases raises : raisesSendIn s.smp with
        | false => exact opening.early none
        | true =>
          -- in time: this is frame 0
          have zero := (inTime running raises).resolve_right (not_not.mpr none)
          rw [zero, Bool.toNat_true]
      pending := by
        rw [counted]
        intro flag
        rw [tc2Handler_sendIn, Bool.or_eq_true] at flag
        rcases flag with before | now
        · exact Nat.add_pos_left (opening.pending before) _
        · rw [now]
          exact Nat.succ_pos _
      taken := fun inside => by rw [counted]; exact Nat.add_pos_left (opening.taken inside) _
      index := by rw [same]; exact opening.index
      started := by rw [same]; exact opening.started
      first := opening.first.append rfl }

/-- Before the first transfer the index that is read is that of frame 0. -/
theorem Opening.reads_zero {s : Stream} (opening : Opening s) (inside : ¬ s.pc.Stage .bulkIn .rest)
    (none : transfers .bulkIn s.trace = []) :
    framesRaised (ticks s.trace) = 1 ∧ s.smp.packetIndexSendIn.toNat = 0 := by
  have early := opening.early none
  have taken := opening.taken inside
  have one : framesRaised (ticks s.trace) = 1 := by omega
  have index := opening.inSession.follows.packetIndexSendIn
  rw [← framesRaised_eq opening.inSession.onTime, one] at index
  exact ⟨one, index⟩

theorem opening_runIn {s : Stream} (opening : Opening s) {index : UInt32} (pc : s.pc = .runIn index)
    (wired : Wired (step s .loop)) (inSession : InSession (step s .loop))
    (agrees : FlagAgrees .bulkIn (step s .loop)) : Opening (step s .loop) := by
  have inside : ¬ s.pc.Stage .bulkIn .rest := by simp [pc, MainPc.Stage]
  -- a first transfer takes frame 0, and no other has come into its packet
  have now : transfers .bulkIn s.trace = [] → framesRaised (ticks s.trace) = 1 ∧
      (Ptr.packetsIn index.toNat 0, 2048) = buffer .bulkIn 0 ∧
      ∀ (t : Nat) (tick : Tick) (word : Nat), (ticks s.trace)[t]? = some tick → tick.Receives 0 word →
        frameIn t = none ∨ frameIn t = some 0 := by
    intro none
    have one := (opening.reads_zero inside none).1
    refine ⟨one, by rw [opening.index index pc none]; rfl, ?_⟩
    intro t tick word found receives
    exact frameIn_of_receives opening.inSession.onTime one found receives
  simp only [step, mainLoop, pc, udiVendorBulkRun_bulkIn, callBack_eq] at wired inSession agrees ⊢
  generalize ran : uddEpRun true false (.packetsIn index.toNat 0) 2048
    (some .mainVendorBulkInReceived) s.epIn = result at *
  have sameTicks : ticks (s.trace ++ [.epRun .bulkIn (.packetsIn index.toNat 0) 2048 result.1] ++
      callObs result.2.2) = ticks s.trace := by
    simp only [ticks_append, ticks_epRun, ticks_callObs, List.append_nil]
  have grown : transfers .bulkIn (s.trace ++ [.epRun .bulkIn (.packetsIn index.toNat 0) 2048 result.1] ++
      callObs result.2.2) = transfers .bulkIn s.trace ++
        if result.1 = true then [(.packetsIn index.toNat 0, 2048)] else [] := by
    simp only [transfers_append, transfers_epRun, transfers_callObs, List.append_nil, true_and]
  exact {
    wired := wired
    inSession := inSession
    agrees := agrees
    early := by
      rw [sameTicks, grown]
      exact fun none => opening.early (List.append_eq_nil_iff.mp none).1
    pending := by rw [sameTicks]; exact opening.pending
    taken := fun still => absurd rfl still
    index := by simp
    started := by
      rw [grown]
      intro busy none
      obtain ⟨noneBefore, refused⟩ := List.append_eq_nil_iff.mp none
      obtain ⟨-, run⟩ | ⟨-, -, -, run⟩ | ⟨-, -, -, run⟩ :=
        uddEpRun_cases true (.packetsIn index.toNat 0) .mainVendorBulkInReceived s.epIn
          (by decide : 0 < 2048) (by decide)
      · rw [← ran, run] at busy
        exact opening.started busy noneBefore
      · rw [← ran, run] at refused
        simp at refused
      · rw [← ran, run] at refused
        simp at refused
    first := (opening.first.run now).append (transfers_callObs .bulkIn _) }

theorem opening_loop {s : Stream} (opening : Opening s) (wired : Wired (step s .loop))
    (inSession : InSession (step s .loop)) (agrees : FlagAgrees .bulkIn (step s .loop)) :
    Opening (step s .loop) := by
  cases pc : s.pc with
  | runIn index => exact opening_runIn opening pc wired inSession agrees
  | testIn =>
    simp only [step, mainLoop, pc] at wired inSession agrees ⊢
    apply opening.still wired inSession agrees id ?_ ?_ id ⟨[], by simp, rfl, rfl⟩
    · -- a hand-over begins only on a flag that an interrupt has raised
      cases send : s.smp.sendIn with
      | true => exact .inr (opening.pending send)
      | false =>
        left
        rw [Bool.and_false]
        rfl
    · split_ifs <;> simp
  | clearSendIn =>
    have inside : ¬ s.pc.Stage .bulkIn .rest := by simp [pc, MainPc.Stage]
    simp only [step, mainLoop, pc] at wired inSession agrees ⊢
    apply opening.still wired inSession agrees ?_ (.inr (opening.taken inside)) ?_ id
      ⟨[], by simp, rfl, rfl⟩
    · simp
    · simp
  | setSendingIn =>
    have inside : ¬ s.pc.Stage .bulkIn .rest := by simp [pc, MainPc.Stage]
    simp only [step, mainLoop, pc] at wired inSession agrees ⊢
    apply opening.still wired inSession agrees id (.inr (opening.taken inside)) ?_ id
      ⟨[], by simp, rfl, rfl⟩
    simp
  | readIndexIn =>
    have inside : ¬ s.pc.Stage .bulkIn .rest := by simp [pc, MainPc.Stage]
    simp only [step, mainLoop, pc] at wired inSession agrees ⊢
    apply opening.still wired inSession agrees id (.inr (opening.taken inside)) ?_ id
      ⟨[.indexInRead], rfl, rfl, rfl⟩
    -- the index that is read is that of frame 0, unless a transfer came before
    intro index reads none
    obtain rfl := MainPc.runIn.inj reads
    exact (opening.reads_zero inside none).2
  | runOut index =>
    simp only [step, mainLoop, pc, udiVendorBulkRun_bulkOut, callBack_eq, List.append_assoc]
      at wired inSession agrees ⊢
    apply opening.still wired inSession agrees id (.inl rfl) ?_ id ⟨_, rfl, ?_, ?_⟩
    · simp
    · rw [ticks_append, ticks_epRun, ticks_callObs, List.append_nil]
    · rw [transfers_append, transfers_epRun, transfers_callObs]
      simp
  | testOut =>
    simp only [step, mainLoop, pc] at wired inSession agrees ⊢
    apply opening.still wired inSession agrees id ?_ ?_ id ⟨[], by simp, rfl, rfl⟩
    · left
      split_ifs
      · rfl
      · rfl
    · split_ifs <;> simp
  | _ =>
    simp only [step, mainLoop, pc] at wired inSession agrees ⊢
    apply opening.still wired inSession agrees id (.inl rfl) ?_ id ⟨[], by simp, rfl, rfl⟩
    simp

/-- A session goes on while no other is started. -/
theorem inSession_noStart {s : Stream} (inSession : InSession s) {event : Event}
    (noStart : ¬ event.Starts) : InSession (step s event) := by
  cases event with
  | request wValue wIndex =>
    rw [step, configureSampling_stop (UInt16.not_le.mp noStart)]
    have same : ticks (s.trace ++ [.request wValue wIndex]) = ticks s.trace := by
      rw [ticks_append]
      exact List.append_nil _
    constructor
    · simp only [same]
      exact inSession.follows
    · simp only [same]
      exact inSession.onTime
  | _ => exact inSession_step inSession id

/-- Only the main loop registers an IN transfer. -/
theorem busyIn_step {s : Stream} (wired : Wired s) {event : Event} (notLoop : event ≠ .loop)
    (noStart : ¬ event.Starts) (busy : (step s event).epIn.job.busy = true) :
    s.epIn.job.busy = true := by
  by_cases manages : event.Manages
  · -- requests of the host end jobs, and register none
    have kept := (manage_step wired manages).1.job .bulkIn busy
    rw [show s.epIn.job = (step s event).epIn.job from kept.symm]
    exact busy
  · cases event with
    | tc2 =>
      simp only [step, tc2Interrupt] at busy
      split_ifs at busy <;> exact busy
    | loop => exact absurd rfl notLoop
    | sof fnum =>
      simp only [step, mainSofAction] at busy
      split_ifs at busy <;> exact busy
    | request wValue wIndex =>
      rw [step, configureSampling_stop (UInt16.not_le.mp noStart)] at busy
      exact busy
    | outByte value =>
      simp only [step, dmaOutByte] at busy
      split_ifs at busy
      · cases buf : s.epOut.job.buf <;> rw [buf] at busy <;> exact busy
      · exact busy
    | outDone =>
      simp only [step, onEp_bulkOut, callBack_eq] at busy
      exact busy
    | outEndTr =>
      simp only [step, outEndTr] at busy
      split_ifs at busy <;> exact busy
    | inDone =>
      simp only [step, onEp_bulkIn, callBack_eq] at busy
      rw [(ending_inDone wired.soundIn).job, Bool.and_eq_true] at busy
      exact busy.1
    | _ => exact absurd trivial manages

theorem opening_step {s : Stream} (opening : Opening s) {event : Event} (meets : MeetsIn s event) :
    Opening (step s event) := by
  obtain ⟨noStart, flag, inTime⟩ := meets
  have wired := wired_step opening.wired event
  have inSession := inSession_noStart opening.inSession noStart
  have agrees := flagIn_step opening.wired opening.agrees noStart flag
  by_cases isTc2 : event = .tc2
  · rw [isTc2] at wired inSession agrees ⊢
    exact opening_tc2 opening wired inSession agrees (inTime isTc2)
  by_cases isLoop : event = .loop
  · rw [isLoop] at wired inSession agrees ⊢
    exact opening_loop opening wired inSession agrees
  have started := busyIn_step opening.wired isLoop noStart
  by_cases isRequest : event.IsRequest
  · cases event with
    | request wValue wIndex =>
      -- a request that starts no session only stops the timer
      have stopped := configureSampling_stop (UInt16.not_le.mp noStart) wIndex s
      apply opening.still wired inSession agrees <;> rw [step, stopped]
      · exact id
      · exact (Classical.em _).imp_right opening.taken
      · exact opening.index
      · exact id
      · exact ⟨[.request wValue wIndex], rfl, rfl, rfl⟩
    | _ => exact absurd isRequest id
  · exact opening.background (background_step s isTc2 isLoop isRequest) wired agrees started

theorem opening_start {wValue : UInt16} (start : 1 ≤ wValue) (wIndex : UInt16) {s : Stream}
    (wired : Wired s) (outside : s.pc.Stage .bulkIn .rest) :
    Opening (startSession wValue wIndex s) := by
  have hands := hands_start_bulkIn start wIndex outside
  have noTransfer : transfers .bulkIn (startSession wValue wIndex s).trace = [] := hands.sent
  have noFrame : framesRaised (ticks (startSession wValue wIndex s).trace) = 0 := hands.posted
  have clear : (startSession wValue wIndex s).smp.sendIn = false := hands.flag
  have rest : (startSession wValue wIndex s).pc.Stage .bulkIn .rest := hands.stage
  have idle : (startSession wValue wIndex s).epIn.job.busy = false := hands.underWay
  have nothing : OpensWithFrameZero [] := fun earlier buf bufSize isPrefix => by simp at isPrefix
  exact {
    wired := wired_startSession wired wValue wIndex
    inSession := inSession_start start wIndex s
    agrees := flagAgrees_of_clear hands.busy
    early := fun _ => by rw [noFrame]; exact Nat.zero_le 1
    pending := by simp [clear]
    taken := fun inside => absurd rest inside
    index := fun index inside => by rw [inside] at rest; simp [MainPc.Stage] at rest
    started := by simp [idle]
    first := nothing.append noTransfer }

/-! ## A hand-over that the request interrupts -/

/-- No frame has been raised and no transfer started, and the endpoint would take one. -/
structure Untouched (s : Stream) : Prop where
  ready : s.epIn.ready = true
  idle : s.epIn.job.busy = false
  endTrSt : s.epIn.endTrSt = false
  noFrame : ticks s.trace = []
  noTransfer : transfers .bulkIn s.trace = []

/-- A run that meets the conditions ends in a transfer for which no frame has been raised. -/
def StartsStale (s : Stream) : Prop :=
  ∃ events, Throughout step MeetsIn s events ∧ ∃ earlier buf,
    (run step s events).trace = earlier ++ [.epRun .bulkIn buf 2048 true] ∧ ticks earlier = [] ∧
      transfers .bulkIn earlier = []

theorem StartsStale.of_step {s : Stream} {event : Event} (meets : MeetsIn s event)
    (later : StartsStale (step s event)) : StartsStale s := by
  obtain ⟨events, throughout, found⟩ := later
  exact ⟨event :: events, (throughout_cons ..).mpr ⟨meets, throughout⟩, found⟩

theorem meetsIn_loop {s : Stream} (meets : MeetsFlagIn s .loop) : MeetsIn s .loop :=
  ⟨id, meets, fun isTc2 => Event.noConfusion isTc2⟩

theorem stale_runIn {s : Stream} (untouched : Untouched s) {index : UInt32}
    (pc : s.pc = .runIn index) : StartsStale s := by
  refine ⟨[.loop], (throughout_cons ..).mpr ⟨meetsIn_loop ?_, throughout_nil _ _ _⟩, s.trace,
    .packetsIn index.toNat 0, ?_, untouched.noFrame, untouched.noTransfer⟩
  · simp only [MeetsFlagIn, pc]
    exact fun _ => untouched.ready
  · obtain ⟨refused, -⟩ | ⟨-, -, -, taken⟩ | ⟨-, -, ended, -⟩ :=
      uddEpRun_cases true (.packetsIn index.toNat 0) .mainVendorBulkInReceived s.epIn
        (by decide : 0 < 2048) (by decide)
    · simp [untouched.ready, untouched.idle] at refused
    · simp [step, mainLoop, pc, udiVendorBulkRun_bulkIn, taken, callBack]
    · simp [untouched.endTrSt] at ended

theorem stale_readIndexIn {s : Stream} (untouched : Untouched s) (pc : s.pc = .readIndexIn) :
    StartsStale s := by
  apply StartsStale.of_step (meetsIn_loop (by simp [MeetsFlagIn, pc]))
  have read : Untouched (step s .loop) := by
    simp only [step, mainLoop, pc]
    exact { untouched with
      noFrame := by simp [untouched.noFrame]
      noTransfer := by simp [untouched.noTransfer] }
  have runs : (step s .loop).pc = .runIn s.smp.packetIndexSendIn := by
    simp only [step, mainLoop, pc]
  exact stale_runIn read runs

theorem stale_setSendingIn {s : Stream} (untouched : Untouched s) (pc : s.pc = .setSendingIn) :
    StartsStale s := by
  apply StartsStale.of_step (meetsIn_loop (by simp [MeetsFlagIn, pc]))
  apply stale_readIndexIn <;> simp only [step, mainLoop, pc]
  exact { untouched with }

/-- Wherever the main loop is inside its hand-over, it goes on and starts a transfer. -/
theorem stale_hand_over {s : Stream} (untouched : Untouched s) (inside : ¬ s.pc.Stage .bulkIn .rest) :
    StartsStale s := by
  cases pc : s.pc with
  | clearSendIn =>
    apply StartsStale.of_step (meetsIn_loop (by simp [MeetsFlagIn, pc]))
    apply stale_setSendingIn <;> simp only [step, mainLoop, pc]
    exact { untouched with }
  | setSendingIn => exact stale_setSendingIn untouched pc
  | readIndexIn => exact stale_readIndexIn untouched pc
  | runIn index => exact stale_runIn untouched pc
  | _ =>
    rw [pc] at inside
    exact absurd rfl inside

/-- The host configures the device anew and clears the halt of the IN endpoint. -/
def revive : List Event := bringUp ++ [.clearFeature 0 0x81 0 .ok]

/-- SET_CONFIGURATION 1 of a device with an address takes the interface to setting 0. -/
theorem step_setConfiguration_one {s : Stream} (address : s.address ≠ 0) :
    step s (.setConfiguration 1 0) =
      { udcReset s with udcNumConfiguration := 1, udiVendorAlternateSetting := 0 } := by
  have number : ((1 : UInt16) &&& 0xFF).toNat = 1 := rfl
  have configured : { udcReset s with udcNumConfiguration := 1 }.udcNumConfiguration ≠ 0 :=
    Nat.one_ne_zero
  simp only [step, udcReqStdDevSetConfiguration, number, address, ne_eq, not_true_eq_false, if_false,
    Nat.lt_irrefl, gt_iff_lt, one_ne_zero, udcIfaceEnable_other zero_ne_one configured, if_true]

/-- SET_INTERFACE 1 of a device at setting 0 enables the endpoints. -/
theorem step_setInterface_one {s : Stream} (wired : Wired s) (down : Down s)
    (configured : s.udcNumConfiguration ≠ 0) (setting : s.udiVendorAlternateSetting = 0) :
    step s (.setInterface 1 0 0) = { s with
      epIn := { s.epIn with enabled := true, size := s.bulkSize, busyBanks := 0 }
      epOut := { s.epOut with enabled := true, size := s.bulkSize, busyBanks := 0 }
      udiVendorAlternateSetting := 1
      mainBVendorEnable := true
      sendingIn := false } := by
  have number : ((1 : UInt16) &&& 0xFF).toNat = 1 := rfl
  have iface : ((0 : UInt16) &&& 0xFF).toNat = 0 := rfl
  simp only [step, udcReqStdIfaceSetSetting, number, iface, configured, ne_eq, not_true_eq_false,
    if_false, udcIfaceDisable_eq wired configured, setting, zero_ne_one, Bool.true_eq_false,
    udcIfaceEnable_one down configured]

theorem step_clearFeature_in {s : Stream} (wired : Wired s) (junk : Status) :
    step s (.clearFeature 0 0x81 0 junk) = { s with
      epIn := { s.epIn with
        stall := false
        job := { s.epIn.job with stallRequested := false } } } := by
  have selected : EpId.ofAddress 0x81 = some .bulkIn := rfl
  have cleared := uddEpClearHalt_sound wired.soundIn junk
  simp only [step, udcReqStdEpClearFeature, selected, ne_eq, not_true_eq_false, or_self, if_false,
    onEp, Stream.ep, cleared, callBack, Stream.setEp]

/-- The endpoint is brought up again, and the session does not notice. -/
theorem untouched_revive {s : Stream} (wired : Wired s) (clear : s.sendingIn = false)
    (noFrame : ticks s.trace = []) (noTransfer : transfers .bulkIn s.trace = []) :
    Untouched (run step s revive) ∧ (run step s revive).pc = s.pc ∧
      Throughout step MeetsIn s revive := by
  obtain ⟨s₁, at₁⟩ : ∃ s₁, step s (.setAddress 1) = s₁ := ⟨_, rfl⟩
  have wired₁ : Wired s₁ := at₁ ▸ wired_step wired _
  have quiet₁ : Quiet s s₁ := at₁ ▸ (manage_step wired (show Event.Manages (.setAddress 1) from trivial)).1
  have address : s₁.address ≠ 0 := by
    rw [← at₁]
    exact (by decide : (1 : UInt16) &&& 0x7F ≠ 0)
  have spared : Spared .bulkIn s₁ := fun sending => by
    simpa [clear] using quiet₁.sendingIn sending
  obtain ⟨s₂, at₂⟩ : ∃ s₂, step s₁ (.setConfiguration 1 0) = s₂ := ⟨_, rfl⟩
  have wired₂ : Wired s₂ := at₂ ▸ wired_step wired₁ _
  have quiet₂ : Quiet s₁ s₂ := at₂ ▸ (manage_step wired₁ (show Event.Manages (.setConfiguration 1 0) from trivial)).1
  have configuration := at₂.symm.trans (step_setConfiguration_one address)
  have down₂ : Down s₂ := by
    rw [configuration]
    exact { (takenDown_reset wired₁).down with }
  obtain ⟨s₃, at₃⟩ : ∃ s₃, step s₂ (.setInterface 1 0 0) = s₃ := ⟨_, rfl⟩
  have wired₃ : Wired s₃ := at₃ ▸ wired_step wired₂ _
  have quiet₃ : Quiet s₂ s₃ := at₃ ▸ (manage_step wired₂ (show Event.Manages (.setInterface 1 0 0) from trivial)).1
  have interface := at₃.symm.trans (step_setInterface_one wired₂ down₂
    (by rw [configuration]; exact Nat.one_ne_zero) (by rw [configuration]))
  obtain ⟨s₄, at₄⟩ : ∃ s₄, step s₃ (.clearFeature 0 0x81 0 .ok) = s₄ := ⟨_, rfl⟩
  have wired₄ : Wired s₄ := at₄ ▸ wired_step wired₃ _
  have quiet₄ : Quiet s₃ s₄ := at₄ ▸ (manage_step wired₃ (show Event.Manages (.clearFeature 0 0x81 0 .ok) from trivial)).1
  have cleared := at₄.symm.trans (step_clearFeature_in wired₃ .ok)
  have reached : run step s revive = s₄ := by
    simp only [revive, bringUp, List.cons_append, List.nil_append, run_cons, run_nil, at₁, at₂, at₃, at₄]
  have quiet := ((quiet₁.trans quiet₂).trans quiet₃).trans quiet₄
  obtain ⟨aborted, -, trace⟩ := quiet.trace
  have data : ∀ o ∈ aborted.map Obs.completed, o.OfData := by simp [Obs.OfData]
  rw [reached]
  refine ⟨?_, quiet.pc, ?_⟩
  · exact {
      ready := by rw [cleared, interface]; simp [Endpoint.ready]
      idle := by rw [cleared, interface]; exact down₂.idleIn
      endTrSt := wired₄.endTrStIn
      noFrame := by rw [trace, ticks_append, noFrame, ticks_of_data data]; rfl
      noTransfer := by rw [trace, transfers_append, noTransfer, transfers_ofData .bulkIn data]; rfl }
  · have manages {s : Stream} {event : Event} (flag : MeetsFlagIn s event) (noStart : ¬ event.Starts)
        (notTc2 : event ≠ .tc2) : MeetsIn s event := ⟨noStart, flag, fun isTc2 => absurd isTc2 notTc2⟩
    simp only [revive, bringUp, List.cons_append, List.nil_append, throughout_cons, at₁, at₂, at₃, at₄,
      throughout_nil, and_true]
    refine ⟨manages trivial id (by simp), manages (fun _ => spared) id (by simp),
      manages (fun accepted => ?_) id (by simp), manages trivial id (by simp)⟩
    exact absurd rfl accepted.2.2.2

/-- A session that is stopped while it warms up -/
def stoppedSession : List Event :=
  bringUp ++ [.request 1000 0, .outDone, .sof 5] ++ List.replicate 14 .tc2 ++ [.loop, .request 0 0]

/-- Where the main loop has found `send_in` set, the session opens with a transfer of nothing. -/
theorem stale_transfer {wValue : UInt16} (start : 1 ≤ wValue) (wIndex : UInt16) {s : Stream}
    (pc : s.pc = .clearSendIn) (ready : s.epIn.ready = true) (endTrSt : s.epIn.endTrSt = false) :
    ∃ s', run step (startSession wValue wIndex s) [.loop, .loop, .loop, .loop] = s' ∧
      transfers .bulkIn s'.trace = [(.packetsIn 0 0, 2048)] ∧ ticks s'.trace = [] ∧
      ¬ IsolatedIn s' := by
  have noTransfer := transfers_startSession start wIndex (s := s) .bulkIn
  rw [if_neg (by simp)] at noTransfer
  have noFrame := ticks_startSession start wIndex s
  have accepted : uddEpRun true false (.packetsIn 0 0) 2048 (some .mainVendorBulkInReceived)
      (uddEpAbort true s.epIn).1 = (true, (uddEpAbort true s.epIn).1.moving (.packetsIn 0 0) 2048
        .mainVendorBulkInReceived, none) := by
    obtain ⟨refused, -⟩ | ⟨-, -, -, taken⟩ | ⟨-, -, ended, -⟩ :=
      uddEpRun_cases true (.packetsIn 0 0) .mainVendorBulkInReceived (uddEpAbort true s.epIn).1
        (by decide : 0 < 2048) (by decide)
    · rw [uddEpAbort_fst] at refused
      rcases refused with notReady | busy
      · exact absurd (ready.symm.trans notReady) (by simp)
      · simp at busy
    · exact taken
    · rw [uddEpAbort_fst] at ended
      exact absurd (endTrSt.symm.trans ended) (by simp)
  have trace : (run step (startSession wValue wIndex s) [.loop, .loop, .loop, .loop]).trace =
      (startSession wValue wIndex s).trace ++ [.indexInRead] ++
        [.epRun .bulkIn (.packetsIn 0 0) 2048 true] := by
    have begins : (startSession wValue wIndex s).pc = .clearSendIn := by
      rw [startSession, configureSampling_start start, pc]
    have index : (startSession wValue wIndex s).smp.packetIndexSendIn = 0 := by
      rw [startSession, configureSampling_start start]
      rfl
    have aborted : (startSession wValue wIndex s).epIn = (uddEpAbort true s.epIn).1 := by
      rw [startSession, configureSampling_start start]
    simp [run_cons, run_nil, step, mainLoop, begins, index, aborted, udiVendorBulkRun_bulkIn, accepted,
      callBack]
  refine ⟨_, rfl, ?_, ?_, fun isolated => ?_⟩
  · rw [trace, transfers_append, transfers_append, noTransfer]
    rfl
  · rw [trace, ticks_append, ticks_append, noFrame]
    rfl
  · have opens := isolated.first _ _ _ (by rw [trace]) (by rw [transfers_append, noTransfer]; rfl)
    rw [ticks_append, noFrame] at opens
    exact absurd opens.1 (by decide)

/-- A session is stopped while frame 0 is under way and frame 1 waits.  The host takes frame 0, and
    the main loop finds `send_in` set. -/
def interruptedHandOver : List Event :=
  bringUp ++ [.request 1000 0, .outDone, .sof 5] ++ List.replicate 520 .tc2 ++ [.loop, .loop] ++
    [.loop, .loop, .loop] ++ List.replicate 512 .tc2 ++ [.request 0 0] ++ [.inDone] ++
    [.loop, .loop, .loop, .loop, .loop, .loop] ++ [.loop]

theorem interrupted_at_clear : ∃ s, run step {} interruptedHandOver = s ∧ s.tc.running = false ∧
    s.pc = .clearSendIn ∧ s.epIn.ready = true ∧ s.epIn.endTrSt = false := by
  obtain ⟨s, started⟩ : ∃ s, run step (run step {} bringUp) [.request 1000 0, .outDone, .sof 5] = s :=
    ⟨_, rfl⟩
  have running : s.tc.running = true := by rw [← started]; decide
  have early : (ticks s.trace).length = 0 := by rw [← started]; decide
  have flags : s.pc = .testIn ∧ s.sendingIn = false ∧ s.sendingOut = false := by
    rw [← started]; decide
  have free : s.epIn.ready = true ∧ s.epIn.job.busy = false ∧ s.epIn.endTrSt = false := by
    rw [← started]; decide
  have inSession : InSession s := by
    have fresh : { run step {} bringUp with trace := [] } = run step {} bringUp := rfl
    have begun := inSession_start (by decide : (1 : UInt16) ≤ 1000) 0 (run step {} bringUp)
    rw [startSession, fresh] at begun
    rw [← started, run_cons]
    exact inSession_after begun [.outDone, .sof 5] (by simp [Event.IsRequest])
  have stopped (s : Stream) : run step s [.request 0 0] = { s with
      tc := { s.tc with running := false }
      trace := s.trace ++ [.request 0 0] } :=
    configureSampling_stop (by decide : (0 : UInt16) < 1) 0 s
  simp only [interruptedHandOver, run_append, started]
  -- frame 0 is raised, taken and handed over
  obtain ⟨smp, obs, raised, inSession₁, sendIn, -, -, frames⟩ :=
    run_frame (n := 520) running inSession early (by decide) (by decide)
  have taken := take_statements (s := { s with smp := smp, trace := s.trace ++ obs })
    flags.1 flags.2.1 sendIn
  have inSession₂ := inSession_after inSession₁ ([.loop, .loop] ++ [.loop, .loop, .loop])
    (by simp [Event.IsRequest])
  obtain ⟨s₁, handedOver, pc₁, smp₁, tc₁, sendingOut₁, epIn₁, log₁⟩ :=
    handOver_statements (s := { s with
      smp := { smp with sendIn := false }
      pc := .setSendingIn
      trace := s.trace ++ obs }) rfl (j := 0) frames free.1 free.2.1 free.2.2
  rw [run_append, taken, handedOver] at inSession₂
  have one : framesIn (ticks s₁.trace).length = 1 := by
    rw [← framesRaised_eq inSession₂.onTime, ← raised_eq_framesRaised, log₁]
  simp only [framesIn] at one
  -- frame 1 is raised, and the session is stopped
  obtain ⟨smp₂, obs₂, raised₂, -, sendIn₂, sendOut₂, -, -⟩ :=
    run_frame (n := 512) (tc₁.symm ▸ running : s₁.tc.running = true) inSession₂ rfl
      (by simp only [framesIn]; omega) (by simp only [framesOut]; omega)
  rw [raised, taken, handedOver, raised₂, stopped]
  -- the host takes frame 0, and the main loop comes round
  obtain ⟨s₃, host, pc₃, smp₃, tc₃, sendingOut₃, sendingIn₃, ready₃, -, endTrSt₃, -⟩ :=
    taken_by_host (s := { s₁ with
      smp := smp₂
      tc := { s₁.tc with running := false }
      trace := s₁.trace ++ obs₂ ++ [.request 0 0] }) epIn₁ free.1 free.2.2
  obtain ⟨s₄, out, pc₄, smp₄, tc₄, sendingIn₄, epIn₄, -⟩ :=
    out_statements (pc₃.trans pc₁) (by rw [sendingOut₃]; exact sendingOut₁.trans flags.2.2)
      (by rw [smp₃]; exact sendOut₂)
  rw [host, out]
  refine ⟨_, rfl, ?_⟩
  have found : s₄.smp.sendIn = true := by rw [smp₄, smp₃]; exact sendIn₂
  simp only [run_cons, run_nil, step, mainLoop, pc₄, found, sendingIn₄.trans sendingIn₃]
  exact ⟨by rw [tc₄, tc₃], rfl, by rw [epIn₄]; exact ready₃, by rw [epIn₄]; exact endTrSt₃⟩

end M1k
