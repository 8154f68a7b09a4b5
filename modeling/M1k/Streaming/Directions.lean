import M1k.Streaming.Transfers

/-! # The two directions as mailboxes

In both directions the interrupt raises a flag for a packet, the main loop takes the flag and
then the index, and hands the packet to an endpoint.  `Hands id s box` reads the direction of
an endpoint off a state; every streaming event moves it by one step of the mailbox, or not at
all. -/

namespace M1k

open Library Library.Runs Schedule

/-! ## What a direction shows -/

/-- `send_in` or `send_out` -/
def Sampler.send (s : Sampler) : EpId → Bool
  | .bulkIn => s.sendIn
  | .bulkOut => s.sendOut

/-- The next interrupt sets the flag of the direction. -/
def Sampler.raises (s : Sampler) : EpId → Bool
  | .bulkIn => raisesSendIn s
  | .bulkOut => raisesSendOut s

/-- Packets that are due on an endpoint.  The start request asks for the first OUT packet itself. -/
def due : EpId → List Tick → Nat
  | .bulkIn, ticks => framesRaised ticks
  | .bulkOut, ticks => framesAsked ticks + 1

/-- The buffer and the size of transfer `j` of a session. -/
def buffer : EpId → Nat → Ptr × Nat
  | .bulkIn, j => (.packetsIn (j % 2) 0, 2048)
  | .bulkOut, j => (.packetsOut (j % 2) 0, 1024)

/-- The statement of the main loop, as the mailbox of a direction has it. -/
def MainPc.Stage (pc : MainPc) (id : EpId) (stage : Mailbox.Stage) : Prop :=
  match id with
  | .bulkIn =>
    match pc with
    | .clearSendIn => stage = .clear
    | .setSendingIn => stage = .claim
    | .readIndexIn => stage = .read
    | .runIn index => ∃ letter, stage = .run letter ∧ index.toNat = letter % 2
    | _ => stage = .rest
  | .bulkOut =>
    match pc with
    | .clearSendOut => stage = .clear
    | .setSendingOut => stage = .claim
    | .readIndexOut => stage = .read
    | .runOut index => ∃ letter, stage = .run letter ∧ index.toNat = letter % 2
    | _ => stage = .rest

/-- The direction of the endpoint `id` is in the state of the mailbox. -/
structure Hands (id : EpId) (s : Stream) (box : Mailbox) : Prop where
  posted : due id (ticks s.trace) = box.posted
  flag : s.smp.send id = box.flag
  busy : s.sending id = box.busy
  stage : s.pc.Stage id box.stage
  underWay : (s.ep id).job.busy = box.underWay
  sent : transfers id s.trace = box.sent.map (buffer id)
  delivered : delivered id s.trace = box.delivered

/-! ## Steps that leave a direction alone -/

/-- From `s` to `s'` the direction has not moved. -/
structure Still (id : EpId) (s s' : Stream) : Prop where
  flag : s'.smp.send id = s.smp.send id
  busy : s'.sending id = s.sending id
  underWay : (s'.ep id).job.busy = (s.ep id).job.busy
  trace : ∃ obs, s'.trace = s.trace ++ obs ∧ ticks obs = [] ∧ transfers id obs = [] ∧
    M1k.delivered id obs = 0

theorem Still.refl (id : EpId) (s : Stream) : Still id s s :=
  ⟨rfl, rfl, rfl, [], by simp, rfl, rfl, rfl⟩

theorem Still.of_pc (id : EpId) (s : Stream) (pc : MainPc) : Still id s { s with pc := pc } := by
  cases id <;> exact { Still.refl _ s with }

theorem Hands.still {id : EpId} {s s' : Stream} {box : Mailbox} (hands : Hands id s box)
    (still : Still id s s') (stage : s'.pc.Stage id box.stage) : Hands id s' box := by
  obtain ⟨obs, trace, noTick, sent, delivered⟩ := still.trace
  exact {
    posted := by rw [trace, ticks_append, noTick, List.append_nil]; exact hands.posted
    flag := by rw [still.flag]; exact hands.flag
    busy := by rw [still.busy]; exact hands.busy
    stage := stage
    underWay := by rw [still.underWay]; exact hands.underWay
    sent := by rw [trace, transfers_append, sent, List.append_nil]; exact hands.sent
    delivered := by rw [trace, delivered_append, delivered]; exact hands.delivered }

/-- A call of the application that ends no transfer of the direction. -/
theorem Still.callBack {id : EpId} {s s' : Stream} (still : Still id s s')
    {completion : Option Completion} (other : clears id completion = false) :
    Still id s (callBack completion s') := by
  obtain ⟨obs, trace, noTick, sent, delivered⟩ := still.trace
  refine ⟨?_, ?_, ?_, obs ++ callObs completion, ?_, ?_, ?_, ?_⟩
  · rw [callBack_smp, still.flag]
  · rw [callBack_sending, other, still.busy]; simp
  · rw [callBack_ep, still.underWay]
  · rw [callBack_trace, trace, List.append_assoc]
  · rw [ticks_append, ticks_callObs, noTick, List.append_nil]
  · rw [transfers_append, transfers_callObs, sent, List.append_nil]
  · rw [delivered_append, delivered, delivered_callObs, other]; rfl

/-! ## Steps of the mailbox -/

section Simulation

variable {id : EpId} {s : Stream} {box : Mailbox}

theorem due_append (id : EpId) (first : List Tick) (tick : Tick) :
    due id (first ++ [tick]) = due id first + match id with
      | .bulkIn => tick.sendIn.isSome.toNat
      | .bulkOut => tick.sendOut.isSome.toNat := by
  cases id with
  | bulkIn =>
    rw [due, framesRaised_append]
    cases raised : tick.sendIn.isSome <;> simp [due, framesRaised, raised]
  | bulkOut =>
    rw [due, framesAsked_append]
    cases asked : tick.sendOut.isSome <;> simp [due, framesAsked, asked]

theorem due_tick (id : EpId) (s : Stream) :
    due id (ticks (s.trace ++ [.interrupt (tick s)])) =
      due id (ticks s.trace) + (s.smp.raises id).toNat := by
  rw [ticks_append, ticks_interrupt, due_append]
  cases id with
  | bulkIn => simp only [tick_sendIn_isSome]; rfl
  | bulkOut => simp only [tick_sendOut_isSome]; rfl

theorem send_tc2Handler (id : EpId) (smp : Sampler) :
    (tc2Handler smp).send id = (smp.send id || smp.raises id) := by
  cases id with
  | bulkIn => exact tc2Handler_sendIn smp
  | bulkOut => exact tc2Handler_sendOut smp

/-- An interrupt posts, when it raises the flag. -/
theorem hands_tc2 (hands : Hands id s box)
    (timely : s.tc.running = true → s.smp.raises id = true →
      due id (ticks s.trace) ≤ delivered id s.trace) :
    ∃ box', box.Moves box' ∧ Hands id (tc2Interrupt s) box' := by
  simp only [tc2Interrupt]
  split_ifs with stopped
  · exact ⟨box, .refl box, hands⟩
  · have running : s.tc.running = true := by simpa using stopped
    cases raises : s.smp.raises id with
    | false =>
      exact ⟨box, .refl box, {
        posted := by rw [due_tick, raises]; exact hands.posted
        flag := by rw [send_tc2Handler, raises, Bool.or_false]; exact hands.flag
        busy := by cases id <;> exact hands.busy
        stage := hands.stage
        underWay := by cases id <;> exact hands.underWay
        sent := by simp [hands.sent]
        delivered := by simp [hands.delivered] }⟩
    -- the host is in time, so that no letter lies in the box
    | true =>
      have posts : box.Timely .post := by
        have inTime := timely running raises
        rwa [hands.posted, hands.delivered] at inTime
      exact ⟨_, .of_step posts, {
        posted := by rw [due_tick, raises, hands.posted]; rfl
        flag := by rw [send_tc2Handler, raises, Bool.or_true]; rfl
        busy := by cases id <;> exact hands.busy
        stage := hands.stage
        underWay := by cases id <;> exact hands.underWay
        sent := by simp [hands.sent, Mailbox.step]
        delivered := by simp [hands.delivered, Mailbox.step] }⟩

/-- The channel of the endpoint stops: what was under way is delivered. -/
theorem hands_ending (hands : Hands id s box) {f : Endpoint → Endpoint × Option Completion}
    (ending : Ending id (s.ep id) (f (s.ep id))) :
    ∃ box', box.Moves box' ∧ Hands id (onEp id f s) box' := by
  have job := ending.job
  have ends := ending.clears
  simp only [onEp]
  cases called : (f (s.ep id)).2.isSome with
  -- no callback: nothing was under way
  | false =>
    rw [called] at job ends
    exact ⟨box, .refl box, {
      posted := by simp [hands.posted]
      flag := by simp [hands.flag]
      busy := by simp [ends, hands.busy]
      stage := by simpa using hands.stage
      underWay := by simp [job, hands.underWay]
      sent := by simp [hands.sent]
      delivered := by simp [delivered_callObs, ends, hands.delivered] }⟩
  | true =>
    obtain ⟨c, call⟩ := Option.isSome_iff_exists.mp called
    have underWay : box.underWay = true := hands.underWay.symm.trans (ending.call c call).1
    rw [called] at job ends
    refine ⟨_, .of_step (a := .deliver) trivial, ?_⟩
    simp only [Mailbox.step, underWay, if_true]
    exact {
      posted := by simp [hands.posted]
      flag := by simp [hands.flag]
      busy := by simp [ends]
      stage := by simpa using hands.stage
      underWay := by simp [job]
      sent := by simp [hands.sent]
      delivered := by simp [delivered_callObs, ends, hands.delivered] }

/-- A zero-length packet came in before the transfer was started: it ends it at once. -/
def Endpoint.ZlpWaits (ep : Endpoint) : Prop :=
  ep.ready = true ∧ ep.job.busy = false ∧ ep.endTrSt = true

theorem buffer_size (id : EpId) (letter : Nat) :
    0 < (buffer id letter).2 ∧ (buffer id letter).2 ≤ uddEndpointMaxTrans := by
  cases id <;> simp [buffer, uddEndpointMaxTrans]

/-- The run call hands over the letter the index was read for, unless the endpoint refuses it. -/
theorem hands_run (hands : Hands id s box) {letter : Nat} (running : box.stage = .run letter)
    (callback : Callback) {pc : MainPc} (rest : pc.Stage id .rest)
    (noZlp : ¬ (s.ep id).ZlpWaits) :
    ∃ box', box.Moves box' ∧ Hands id (udiVendorBulkRun id (buffer id letter).1 (buffer id letter).2
      callback { s with pc := pc }) box' := by
  obtain ⟨positive, small⟩ := buffer_size id letter
  have same : { s with pc := pc }.ep id = s.ep id := by cases id <;> rfl
  have busy (obs : List Obs) : ({ s with pc := pc }.observe obs).sending id = s.sending id := by
    cases id <;> rfl
  refine ⟨_, .of_step (a := .loop (s.ep id).ready) trivial, ?_⟩
  simp only [udiVendorBulkRun, Mailbox.step, running, same]
  obtain ⟨refuses, run⟩ | ⟨ready, idle, -, run⟩ | ⟨ready, idle, ended, -⟩ :=
    uddEpRun_cases id.isIn (buffer id letter).1 callback (s.ep id) positive small
  · -- a halted endpoint drops the letter; a busy one has the earlier letter under way
    have refused : ((s.ep id).ready && !box.underWay) = false := by
      rw [← hands.underWay]
      rcases refuses with notReady | busy
      · simp [notReady]
      · simp [busy]
    simp only [run, refused, Bool.false_eq_true, if_false, callBack]
    exact {
      posted := by simp [Stream.observe, hands.posted]
      flag := by simp [Stream.observe, hands.flag]
      busy := by simp [busy, hands.busy]
      stage := by simpa [Stream.observe] using rest
      underWay := by simp [hands.underWay]
      sent := by simp [Stream.observe, hands.sent]
      delivered := by simp [Stream.observe, hands.delivered] }
  · -- the letter is under way
    rw [hands.underWay] at idle
    simp only [run, ready, idle, Bool.not_false, Bool.and_self, if_true, callBack]
    exact {
      posted := by simp [Stream.observe, hands.posted]
      flag := by simp [Stream.observe, hands.flag]
      busy := by simp [busy, hands.busy]
      stage := by simpa [Stream.observe] using rest
      underWay := by simp [Endpoint.moving]
      sent := by simp [Stream.observe, hands.sent]
      delivered := by simp [Stream.observe, hands.delivered] }
  · exact absurd ⟨ready, idle, ended⟩ noZlp

/-- The letter is handed over and delivered at once. -/
theorem hands_run_zlp (hands : Hands id s box) {letter : Nat} (running : box.stage = .run letter)
    {callback : Callback} (owner : callback.ep = id) {pc : MainPc} (rest : pc.Stage id .rest)
    (waits : (s.ep id).ZlpWaits) :
    Hands id (udiVendorBulkRun id (buffer id letter).1 (buffer id letter).2 callback
      { s with pc := pc }) ((box.step (.loop true)).step .deliver) := by
  obtain ⟨positive, small⟩ := buffer_size id letter
  have same : { s with pc := pc }.ep id = s.ep id := by cases id <;> rfl
  have busy (obs : List Obs) : ({ s with pc := pc }.observe obs).sending id = s.sending id := by
    cases id <;> rfl
  have free : box.underWay = false := by rw [← hands.underWay]; exact waits.2.1
  have ends : clears id (some ⟨callback, .ok, 0⟩) = true := by simp [clears, owner]
  have run : uddEpRun id.isIn false (buffer id letter).1 (buffer id letter).2 (some callback) (s.ep id) =
      (true, (s.ep id).ended (buffer id letter).1 callback, some ⟨callback, .ok, 0⟩) := by
    obtain ⟨refuses, -⟩ | ⟨-, -, noneWaits, -⟩ | ⟨-, -, -, run⟩ :=
      uddEpRun_cases id.isIn (buffer id letter).1 callback (s.ep id) positive small
    · rcases refuses with notReady | isBusy
      · exact absurd (waits.1.symm.trans notReady) (by simp)
      · exact absurd (isBusy.symm.trans waits.2.1) (by simp)
    · exact absurd (waits.2.2.symm.trans noneWaits) (by simp)
    · exact run
  simp only [udiVendorBulkRun, same, run, Mailbox.step, running, free, Bool.not_false,
    Bool.and_self, if_true]
  exact {
    posted := by
      rw [callBack_trace, ticks_append, ticks_callObs, List.append_nil]
      simp [Stream.observe, hands.posted]
    flag := by simp [Stream.observe, hands.flag]
    busy := by simp [ends]
    stage := by simpa [Stream.observe] using rest
    underWay := by simp [Endpoint.ended]
    sent := by
      rw [callBack_trace, transfers_append, transfers_callObs, List.append_nil]
      simp [Stream.observe, hands.sent]
    delivered := by
      rw [callBack_trace, M1k.delivered_append, delivered_callObs, ends]
      simp [Stream.observe, hands.delivered] }

/-- A run call of the other direction. -/
theorem still_bulkRun {other : EpId} (different : id ≠ other) {callback : Callback}
    (owner : callback.ep = other) {s s' : Stream} (still : Still id s s') {buf : Ptr} {bufSize : Nat}
    (positive : 0 < bufSize) (small : bufSize ≤ uddEndpointMaxTrans) :
    Still id s (udiVendorBulkRun other buf bufSize callback s') := by
  obtain ⟨obs, trace, noTick, sent, delivered⟩ := still.trace
  have owned : clears id (uddEpRun other.isIn false buf bufSize (some callback) (s'.ep other)).2.2 =
      false := by
    apply clears_other different
    intro c called
    obtain ⟨-, run⟩ | ⟨-, -, -, run⟩ | ⟨-, -, -, run⟩ :=
      uddEpRun_cases other.isIn buf callback (s'.ep other) positive small
    · simp [run] at called
    · simp [run] at called
    · simp only [run, Option.some.injEq] at called
      rw [← called]
      exact owner
  refine Still.callBack ⟨?_, ?_, ?_, obs ++ [.epRun other buf bufSize
    (uddEpRun other.isIn false buf bufSize (some callback) (s'.ep other)).1], ?_, ?_, ?_, ?_⟩ owned
  · rw [setEp_smp]; exact still.flag
  · rw [setEp_sending, ← still.busy]; cases id <;> rfl
  · rw [← still.underWay]; cases id <;> cases other <;> first | rfl | exact absurd rfl different
  · rw [setEp_trace, Stream.observe, trace, List.append_assoc]
  · rw [ticks_append, noTick]; rfl
  · rw [transfers_append, sent, transfers_epRun, if_neg fun same => different same.1.symm]; rfl
  · rw [delivered_append, delivered]; rfl

theorem hands_loop_bulkIn (wired : Wired s) (inSession : InSession s) (hands : Hands .bulkIn s box) :
    ∃ box', box.Moves box' ∧ Hands .bulkIn (step s .loop) box' := by
  have stage := hands.stage
  cases pc : s.pc with
  | testIn =>
    rw [pc] at stage
    -- the test of `main` is the test of the mailbox
    have test : (!s.sendingIn && s.smp.sendIn) = (!box.busy && box.flag) := by
      rw [← hands.busy, ← hands.flag]; rfl
    refine ⟨_, .of_step (a := .loop true) trivial, ?_⟩
    simp only [step, mainLoop, pc, Mailbox.step, show box.stage = .rest from stage, test]
    split_ifs
    · exact { hands with stage := rfl }
    · exact { hands with stage := rfl }
  | clearSendIn =>
    rw [pc] at stage
    refine ⟨_, .of_step (a := .loop true) trivial, ?_⟩
    simp only [step, mainLoop, pc, Mailbox.step, show box.stage = .clear from stage]
    exact { hands with flag := rfl, stage := rfl }
  | setSendingIn =>
    rw [pc] at stage
    refine ⟨_, .of_step (a := .loop true) trivial, ?_⟩
    simp only [step, mainLoop, pc, Mailbox.step, show box.stage = .claim from stage]
    exact { hands with busy := rfl, stage := rfl }
  | readIndexIn =>
    rw [pc] at stage
    -- the index is that of the frame raised last
    have index := inSession.follows.packetIndexSendIn
    rw [← framesRaised_eq inSession.onTime, show framesRaised _ = box.posted from hands.posted] at index
    refine ⟨_, .of_step (a := .loop true) trivial, ?_⟩
    simp only [step, mainLoop, pc, Mailbox.step, show box.stage = .read from stage]
    exact { hands with
      stage := ⟨_, rfl, index⟩
      posted := by simp [hands.posted]
      sent := by simp [hands.sent]
      delivered := by simp [hands.delivered] }
  | runIn index =>
    rw [pc] at stage
    obtain ⟨letter, running, parity⟩ := stage
    -- no zero-length packet comes in on an IN endpoint
    have run := hands_run hands running .mainVendorBulkInReceived
      (show MainPc.Stage .testOut .bulkIn .rest from rfl)
      fun waits => absurd (wired.endTrStIn.symm.trans waits.2.2) (by simp)
    simp only [buffer, ← parity] at run
    simpa only [step, mainLoop, pc] using run
  | runOut index =>
    rw [pc] at stage
    refine ⟨box, .refl box, hands.still ?_ ?_⟩
    · simp only [step, mainLoop, pc]
      exact still_bulkRun (by decide) (by rfl) (.of_pc _ s _) (by decide) (by decide)
    · simp only [step, mainLoop, pc, udiVendorBulkRun, callBack_pc, setEp_pc]
      exact stage
  | testOut =>
    rw [pc] at stage
    refine ⟨box, .refl box, hands.still ?_ ?_⟩
    · simp only [step, mainLoop, pc]
      exact .of_pc _ s _
    · simp only [step, mainLoop, pc]
      split_ifs
      · exact stage
      · exact stage
  | _ =>
    rw [pc] at stage
    refine ⟨box, .refl box, hands.still ?_ ?_⟩
    · simp only [step, mainLoop, pc]
      exact { Still.refl .bulkIn s with }
    · simp only [step, mainLoop, pc]
      exact stage

theorem hands_loop_bulkOut (inSession : InSession s) (hands : Hands .bulkOut s box)
    (noZlp : ∀ index, s.pc = .runOut index → ¬ s.epOut.ZlpWaits) :
    ∃ box', box.Moves box' ∧ Hands .bulkOut (step s .loop) box' := by
  have stage := hands.stage
  cases pc : s.pc with
  | testOut =>
    rw [pc] at stage
    have test : (!s.sendingOut && s.smp.sendOut) = (!box.busy && box.flag) := by
      rw [← hands.busy, ← hands.flag]; rfl
    refine ⟨_, .of_step (a := .loop true) trivial, ?_⟩
    simp only [step, mainLoop, pc, Mailbox.step, show box.stage = .rest from stage, test]
    split_ifs
    · exact { hands with stage := rfl }
    · exact { hands with stage := rfl }
  | clearSendOut =>
    rw [pc] at stage
    refine ⟨_, .of_step (a := .loop true) trivial, ?_⟩
    simp only [step, mainLoop, pc, Mailbox.step, show box.stage = .clear from stage]
    exact { hands with flag := rfl, stage := rfl }
  | setSendingOut =>
    rw [pc] at stage
    refine ⟨_, .of_step (a := .loop true) trivial, ?_⟩
    simp only [step, mainLoop, pc, Mailbox.step, show box.stage = .claim from stage]
    exact { hands with busy := rfl, stage := rfl }
  | readIndexOut =>
    rw [pc] at stage
    -- no interrupt asks for the first transfer: hence the offset by one
    have index := inSession.follows.packetIndexSendOut
    rw [← framesAsked_eq inSession.onTime, show framesAsked _ = box.posted - 1 by
      rw [← hands.posted]; rfl] at index
    refine ⟨_, .of_step (a := .loop true) trivial, ?_⟩
    simp only [step, mainLoop, pc, Mailbox.step, show box.stage = .read from stage]
    exact { hands with stage := ⟨_, rfl, index⟩ }
  | runOut index =>
    rw [pc] at stage
    obtain ⟨letter, running, parity⟩ := stage
    have run := hands_run hands running .mainVendorBulkOutReceived
      (show MainPc.Stage .watchdog .bulkOut .rest from rfl) (noZlp index pc)
    simp only [buffer, ← parity] at run
    simpa only [step, mainLoop, pc] using run
  | runIn index =>
    rw [pc] at stage
    refine ⟨box, .refl box, hands.still ?_ ?_⟩
    · simp only [step, mainLoop, pc]
      exact still_bulkRun (by decide) (by rfl) (.of_pc _ s _) (by decide) (by decide)
    · simp only [step, mainLoop, pc, udiVendorBulkRun, callBack_pc, setEp_pc]
      exact stage
  | testIn =>
    rw [pc] at stage
    refine ⟨box, .refl box, hands.still ?_ ?_⟩
    · simp only [step, mainLoop, pc]
      exact .of_pc _ s _
    · simp only [step, mainLoop, pc]
      split_ifs
      · exact stage
      · exact stage
  | readIndexIn =>
    rw [pc] at stage
    refine ⟨box, .refl box, hands.still ?_ ?_⟩
    · simp only [step, mainLoop, pc]
      exact ⟨rfl, rfl, rfl, [.indexInRead], rfl, rfl, rfl, rfl⟩
    · simp only [step, mainLoop, pc]
      exact stage
  | _ =>
    rw [pc] at stage
    refine ⟨box, .refl box, hands.still ?_ ?_⟩
    · simp only [step, mainLoop, pc]
      exact { Still.refl .bulkOut s with }
    · simp only [step, mainLoop, pc]
      exact stage

/-- The channel of an endpoint has stopped. -/
def EpId.done : EpId → Event
  | .bulkIn => .inDone
  | .bulkOut => .outDone

theorem hands_done (wired : Wired s) (hands : Hands id s box) :
    ∃ box', box.Moves box' ∧ Hands id (step s id.done) box' := by
  cases id with
  | bulkIn => exact hands_ending hands (ending_inDone wired.soundIn)
  | bulkOut => exact hands_ending hands (ending_outDone wired.soundOut)

/-- The other channel stops. -/
theorem still_done (wired : Wired s) {other : EpId} (different : id ≠ other) :
    Still id s (step s other.done) := by
  cases other with
  | bulkIn =>
    have freed : Still id s { s with epIn := (dmaInDone s.epIn).1 } := by
      cases id with
      | bulkIn => exact absurd rfl different
      | bulkOut => exact { Still.refl .bulkOut s with }
    exact freed.callBack (clears_other different fun c called =>
      ((ending_inDone wired.soundIn).call c called).2.2)
  | bulkOut =>
    have freed : Still id s { s with epOut := (dmaOutDone s.epOut).1 } := by
      cases id with
      | bulkIn => exact { Still.refl .bulkIn s with }
      | bulkOut => exact absurd rfl different
    exact freed.callBack (clears_other different fun c called =>
      ((ending_outDone wired.soundOut).call c called).2.2)

/-- Start of frame, and the data of the OUT endpoint. -/
theorem still_data {event : Event} (streams : event.Streams) (notTc2 : event ≠ .tc2)
    (notLoop : event ≠ .loop) (notDone : ∀ id : EpId, event ≠ id.done) :
    Still id s (step s event) := by
  cases event with
  | tc2 => exact absurd rfl notTc2
  | loop => exact absurd rfl notLoop
  | inDone => exact absurd rfl (notDone .bulkIn)
  | outDone => exact absurd rfl (notDone .bulkOut)
  | sof fnum =>
    simp only [step, mainSofAction]
    split_ifs <;> cases id <;> exact { Still.refl _ s with }
  | outByte value =>
    simp only [step, dmaOutByte]
    split_ifs with moves
    · cases s.epOut.job.buf with
      | packetsOut packet word =>
        cases id <;> exact ⟨rfl, rfl, rfl, [.outByte value], rfl, rfl, rfl, rfl⟩
      | _ => exact Still.refl id s
    · exact Still.refl id s
  | outEndTr =>
    simp only [step, outEndTr]
    split_ifs
    · cases id <;> exact { Still.refl _ s with }
    · exact Still.refl id s
  | _ => exact absurd streams fun streams => streams

/-- A letter is posted when all earlier ones have been delivered. -/
def TimelyPost (id : EpId) (s : Stream) : Prop :=
  s.tc.running = true → s.smp.raises id = true → due id (ticks s.trace) ≤ delivered id s.trace

/-- One streaming event moves a direction by one step of its mailbox, or not at all. -/
theorem hands_step (wired : Wired s) (inSession : InSession s) (hands : Hands id s box)
    {event : Event} (streams : event.Streams) (timely : event = .tc2 → TimelyPost id s)
    (noZlp : id = .bulkOut → event = .loop → ∀ index, s.pc = .runOut index → ¬ s.epOut.ZlpWaits) :
    ∃ box', box.Moves box' ∧ Hands id (step s event) box' := by
  by_cases isTc2 : event = .tc2
  · rw [isTc2]
    exact hands_tc2 hands (timely isTc2)
  by_cases isLoop : event = .loop
  · rw [isLoop]
    cases id with
    | bulkIn => exact hands_loop_bulkIn wired inSession hands
    | bulkOut => exact hands_loop_bulkOut inSession hands (noZlp rfl isLoop)
  have pc : (step s event).pc = s.pc := (background_step s isTc2 isLoop streams.notRequest).pc
  -- no other event moves the main loop
  have still (moves : Still id s (step s event)) :
      ∃ box', box.Moves box' ∧ Hands id (step s event) box' :=
    ⟨box, .refl box, hands.still moves (by rw [pc]; exact hands.stage)⟩
  by_cases isDone : ∃ other : EpId, event = other.done
  · obtain ⟨other, done⟩ := isDone
    by_cases same : id = other
    · rw [done, ← same]
      exact hands_done wired hands
    · apply still
      rw [done]
      exact still_done wired same
  · exact still (still_data streams isTc2 isLoop fun other done => isDone ⟨other, done⟩)

/-- One streaming event keeps a direction in order; one that a zero-length packet ends at once takes
    its mailbox two steps. -/
theorem hands_kept (wired : Wired s) (inSession : InSession s) (inOrder : box.InOrder)
    (hands : Hands id s box) {event : Event} (streams : event.Streams)
    (timely : event = .tc2 → TimelyPost id s) :
    ∃ box', Mailbox.InOrder box' ∧ Hands id (step s event) box' := by
  by_cases zlp : id = .bulkOut ∧ event = .loop ∧ ∃ index, s.pc = .runOut index ∧ s.epOut.ZlpWaits
  · obtain ⟨isOut, isLoop, index, pc, waits⟩ := zlp
    rw [isOut] at hands ⊢
    rw [isLoop]
    have stage := hands.stage
    rw [pc] at stage
    obtain ⟨letter, running, parity⟩ := stage
    have run := hands_run_zlp hands running (rfl : Callback.mainVendorBulkOutReceived.ep = .bulkOut)
      (show MainPc.Stage .watchdog .bulkOut .rest from rfl) waits
    simp only [buffer, ← parity] at run
    refine ⟨_, (inOrder.loop true).deliver, ?_⟩
    simpa only [step, mainLoop, pc] using run
  · obtain ⟨box', moves, hands'⟩ := hands_step wired inSession hands streams timely
      fun isOut isLoop index pc waits => zlp ⟨isOut, isLoop, index, pc, waits⟩
    exact ⟨box', inOrder.moves moves, hands'⟩

end Simulation

/-! ## The start of a session -/

/-- The first OUT transfer is refused, is under way, or has been ended by a packet that waited. -/
theorem firstRun_cases (epOut : Endpoint) :
    (firstRun epOut = (false, (uddEpAbort false epOut).1, none)) ∨
      (firstRun epOut = (true, (uddEpAbort false epOut).1.moving (.packetsOut 0 0) 1024
        .mainVendorBulkOutReceivedFirst, none)) ∨
      firstRun epOut = (true, (uddEpAbort false epOut).1.ended (.packetsOut 0 0)
        .mainVendorBulkOutReceivedFirst, some ⟨.mainVendorBulkOutReceivedFirst, .ok, 0⟩) := by
  obtain ⟨-, run⟩ | ⟨-, -, -, run⟩ | ⟨-, -, -, run⟩ :=
    uddEpRun_cases false (.packetsOut 0 0) .mainVendorBulkOutReceivedFirst (uddEpAbort false epOut).1
      (by decide : 0 < 1024) (by decide)
  · exact .inl run
  · exact .inr (.inl run)
  · exact .inr (.inr run)

section Start

variable {wValue : UInt16} (start : 1 ≤ wValue) (wIndex : UInt16) {s : Stream}
include start

theorem transfers_startSession (id : EpId) :
    transfers id (startSession wValue wIndex s).trace =
      if .bulkOut = id ∧ (firstRun s.epOut).1 = true then [(.packetsOut 0 0, 1024)] else [] := by
  rw [startSession_trace start]
  simp only [transfers_append, transfers_request, transfers_callObs, transfers_epRun,
    List.nil_append, List.append_nil]

theorem delivered_startSession (id : EpId) :
    delivered id (startSession wValue wIndex s).trace = (clears id (firstRun s.epOut).2.2).toNat := by
  have aborted (dirIn : Bool) (ep : Endpoint) : clears id (uddEpAbort dirIn ep).2 = false := by
    cases id with
    | bulkIn => rw [clears_bulkIn, clearsIn_uddEpAbort]
    | bulkOut => rw [clears_bulkOut, clearsOut_uddEpAbort]
  rw [startSession_trace start]
  simp only [delivered_append, delivered_request, delivered_epRun, delivered_callObs, aborted,
    Bool.toNat_false, Nat.zero_add]

/-- A session begins with nothing due on the bulk IN endpoint. -/
theorem hands_start_bulkIn (outside : s.pc.Stage .bulkIn .rest) :
    Hands .bulkIn (startSession wValue wIndex s) ⟨0, false, false, .rest, false, [], 0⟩ := by
  have notIn : clears .bulkIn (firstRun s.epOut).2.2 = false := by
    rcases firstRun_cases s.epOut with run | run | run
    · rw [run]; rfl
    · rw [run]; rfl
    · rw [run]; rfl
  exact {
    posted := by rw [ticks_startSession start]; rfl
    flag := by rw [startSession, configureSampling_start start]; rfl
    busy := by rw [startSession, configureSampling_start start]; rfl
    stage := by rw [startSession, configureSampling_start start]; exact outside
    underWay := by
      rw [startSession, configureSampling_start start]
      simp [Stream.ep, uddEpAbort]
    sent := by rw [transfers_startSession start]; simp
    delivered := by rw [delivered_startSession start, notIn]; rfl }

/-- A session begins with the first transfer under way on the bulk OUT endpoint, or refused, or ended
    by a packet that waited. -/
theorem hands_start_bulkOut (outside : s.pc.Stage .bulkOut .rest) :
    ∃ box, Mailbox.InOrder box ∧ Hands .bulkOut (startSession wValue wIndex s) box := by
  have sent := transfers_startSession start wIndex (s := s) .bulkOut
  have delivered := delivered_startSession start wIndex (s := s) .bulkOut
  have busy : (startSession wValue wIndex s).sending .bulkOut = !clears .bulkOut (firstRun s.epOut).2.2 := by
    rw [startSession, configureSampling_start start, clears_bulkOut]; rfl
  have flag : (startSession wValue wIndex s).smp.send .bulkOut = false := by
    rw [startSession, configureSampling_start start]; rfl
  have stage : (startSession wValue wIndex s).pc.Stage .bulkOut .rest := by
    rw [startSession, configureSampling_start start]; exact outside
  have ep : (startSession wValue wIndex s).ep .bulkOut = (firstRun s.epOut).2.1 := by
    rw [startSession, configureSampling_start start]; rfl
  have posted : due .bulkOut (ticks (startSession wValue wIndex s).trace) = 1 := by
    rw [ticks_startSession start]; rfl
  rcases firstRun_cases s.epOut with run | run | run
  · rw [run] at busy sent delivered ep
    exact ⟨_, .refused 0, {
      posted := posted
      flag := flag
      busy := busy
      stage := stage
      underWay := by rw [ep, uddEpAbort_fst]
      sent := sent
      delivered := delivered }⟩
  · rw [run] at busy sent delivered ep
    exact ⟨_, .underWay 0, {
      posted := posted
      flag := flag
      busy := busy
      stage := stage
      underWay := by rw [ep]; rfl
      sent := sent
      delivered := delivered }⟩
  · rw [run] at busy sent delivered ep
    exact ⟨_, .idle 1, {
      posted := posted
      flag := flag
      busy := busy
      stage := stage
      underWay := by rw [ep]; rfl
      sent := sent
      delivered := delivered }⟩

end Start

end M1k
