import M1k.Streaming.Session

/-! # Frames handed to the bulk IN endpoint

The interrupt raises `send_in` and writes `packet_index_send_in`; the main loop takes the two
in separate statements.  A frame goes out twice exactly when a raising falls between them: the
index then read is the new frame's, and the flag still stands for it. -/

namespace M1k

open Library.Runs Schedule

/-- What a trace says of the hand-over of frames. -/
structure Handed where
  /-- Frames that interrupts have handed over. -/
  raised : Nat := 0
  /-- `raised` when `packet_index_send_in` was last read: the frame after the one it named. -/
  read : Nat := 0
  /-- Frames handed to `bulk_in_run`, in order.  What an earlier session left over is none. -/
  frames : List Nat := []

def handedStep (log : Handed) : Obs → Handed
  | .interrupt tick => { log with raised := log.raised + if tick.sendIn.isSome then 1 else 0 }
  | .indexInRead => { log with read := log.raised }
  | .epRun ep _ _ _ =>
    match ep with
    | .bulkIn => if log.read = 0 then log else { log with frames := log.frames ++ [log.read - 1] }
    | .bulkOut => log
  | .request .. | .outByte _ | .completed _ => log

def handed (trace : List Obs) : Handed := trace.foldl handedStep {}

theorem handed_concat (trace : List Obs) (o : Obs) :
    handed (trace ++ [o]) = handedStep (handed trace) o := by
  simp [handed]

theorem handed_data {obs : List Obs} (data : ∀ o ∈ obs, o.OfData) (trace : List Obs) :
    handed (trace ++ obs) = handed trace := by
  induction obs generalizing trace with
  | nil => simp
  | cons o obs inductionHypothesis =>
    have ofData := data o (by simp)
    have dataLater : ∀ o ∈ obs, o.OfData := fun o member => data o (by simp [member])
    rw [List.append_cons, inductionHypothesis dataLater, handed_concat]
    cases o with
    | outByte value => rfl
    | completed completion => rfl
    | _ => exact absurd ofData id

/-- The main loop has taken `send_in` and not yet read the index that goes with it. -/
def MainPc.taking : MainPc → Bool
  | .clearSendIn | .setSendingIn | .readIndexIn => true
  | _ => false

/-- The main loop has cleared `send_in` and not yet read the index. -/
def MainPc.inGap : MainPc → Bool
  | .setSendingIn | .readIndexIn => true
  | _ => false

/-- No raising of `send_in` falls between the statements that clear it and read the index. -/
def MeetsGap (s : Stream) : Event → Prop
  | .tc2 => s.tc.running = true → raisesSendIn s.smp = true → s.pc.inGap = false
  | .request .. => False
  | _ => True

instance (s : Stream) : ∀ event, Decidable (MeetsGap s event)
  | .tc2 => inferInstanceAs (Decidable (_ → _ → _))
  | .request .. => inferInstanceAs (Decidable False)
  | .loop | .sof _ | .outByte _ | .outDone | .outEndTr | .inDone | .inBanks _ | .busReset _
  | .setAddress _ | .setConfiguration .. | .setInterface .. | .setFeature ..
  | .clearFeature .. => inferInstanceAs (Decidable True)

structure HandOver (s : Stream) : Prop where
  read : (handed s.trace).read ≤ (handed s.trace).raised
  pending : s.smp.sendIn = true → (handed s.trace).read < (handed s.trace).raised
  taken : s.pc.taking = true →
    (handed s.trace).read < (handed s.trace).raised ∨ (handed s.trace).raised = 0
  cleared : s.pc.inGap = true → s.smp.sendIn = false
  sorted : (handed s.trace).frames.Pairwise (· < ·)
  below : ∀ f ∈ (handed s.trace).frames, f < (handed s.trace).read
  fresh : ∀ index, s.pc = .runIn index →
    ∀ f ∈ (handed s.trace).frames, f + 1 < (handed s.trace).read

/-- A step that leaves sampler, main loop and the hand-over of frames alone. -/
theorem HandOver.still {s s' : Stream} (inv : HandOver s) (sendIn : s'.smp.sendIn = s.smp.sendIn)
    (taking : s'.pc.taking = true → s.pc.taking = true)
    (inGap : s'.pc.inGap = true → s.pc.inGap = true)
    (runIn : ∀ index, s'.pc = .runIn index → s.pc = .runIn index)
    (same : handed s'.trace = handed s.trace) : HandOver s' where
  read := by rw [same]; exact inv.read
  pending := by rw [same, sendIn]; exact inv.pending
  taken := by rw [same]; exact fun now => inv.taken (taking now)
  cleared := by rw [sendIn]; exact fun now => inv.cleared (inGap now)
  sorted := by rw [same]; exact inv.sorted
  below := by rw [same]; exact inv.below
  fresh := by rw [same]; exact fun index now => inv.fresh index (runIn index now)

theorem HandOver.background {s s' : Stream} (inv : HandOver s) (background : Background s s') :
    HandOver s' := by
  obtain ⟨obs, trace, data⟩ := background.trace
  have same : handed s'.trace = handed s.trace := by rw [trace, handed_data data]
  refine inv.still (by rw [background.smp]) ?_ ?_ ?_ same <;> rw [background.pc]
  · exact id
  · exact id
  · exact fun _ => id

theorem handOver_tc2 {s : Stream} (inv : HandOver s)
    (gap : s.tc.running = true → raisesSendIn s.smp = true → s.pc.inGap = false) :
    HandOver (tc2Interrupt s) := by
  simp only [tc2Interrupt]
  split_ifs with stopped
  · exact inv
  · have running : s.tc.running = true := by simpa using stopped
    have log := handed_concat s.trace (.interrupt (tick s))
    simp only [handedStep, tick_sendIn_isSome] at log
    cases raises : raisesSendIn s.smp with
    | false =>
      simp only [raises, Bool.false_eq_true, if_false, Nat.add_zero] at log
      exact inv.still (by simp [tc2Handler_sendIn, raises]) id id (fun _ => id) log
    | true =>
      simp only [raises, if_true] at log
      -- outside the gap the new frame is not lost between the clearing and the reading
      have free := gap running raises
      have read := inv.read
      constructor <;> simp only [log]
      · omega
      · intro _; omega
      · intro _; left; omega
      · intro inGap; rw [free] at inGap; simp at inGap
      · exact inv.sorted
      · exact inv.below
      · exact inv.fresh

/-- Reading the index names the frame raised last, which no earlier run was handed. -/
theorem handOver_readIndexIn {s : Stream} (inv : HandOver s) (pc : s.pc = .readIndexIn) :
    HandOver (step s .loop) := by
  have log := handed_concat s.trace .indexInRead
  simp only [handedStep] at log
  have clear : s.smp.sendIn = false := inv.cleared (by simp [pc, MainPc.inGap])
  have taken := inv.taken (by simp [pc, MainPc.taking])
  have read := inv.read
  simp only [step, mainLoop, pc]
  constructor <;> simp only [log]
  · exact Nat.le_refl _
  · intro sendIn; rw [clear] at sendIn; simp at sendIn
  · simp [MainPc.taking]
  · simp [MainPc.inGap]
  · exact inv.sorted
  · intro f member
    have := inv.below f member
    omega
  · intro _ _ f member
    have := inv.below f member
    omega

theorem handOver_runIn {s : Stream} (inv : HandOver s) {index : UInt32} (pc : s.pc = .runIn index) :
    HandOver (step s .loop) := by
  have log (accepted : Bool) (completion : Option Completion) :=
    (handed_data (callObs_ofData completion)
      (s.trace ++ [.epRun .bulkIn (.packetsIn index.toNat 0) 2048 accepted])).trans
      (handed_concat s.trace (.epRun .bulkIn (.packetsIn index.toNat 0) 2048 accepted))
  simp only [handedStep] at log
  have fresh := inv.fresh index pc
  simp only [step, mainLoop, pc, udiVendorBulkRun_bulkIn, callBack_eq]
  -- a run before any frame was read hands over none
  by_cases none : (handed s.trace).read = 0
  · simp only [none, if_true] at log
    exact inv.still rfl (by simp [MainPc.taking]) (by simp [MainPc.inGap]) (by simp) (log _ _)
  · simp only [none, if_false] at log
    constructor <;> simp only [log]
    · exact inv.read
    · exact inv.pending
    · simp [MainPc.taking]
    · simp [MainPc.inGap]
    · -- the frame handed over is later than all before it
      rw [List.pairwise_append]
      refine ⟨inv.sorted, List.pairwise_singleton _ _, ?_⟩
      intro f member g last
      have := fresh f member
      rw [List.mem_singleton.mp last]
      omega
    · intro f member
      rcases List.mem_append.mp member with earlier | last
      · exact inv.below f earlier
      · rw [List.mem_singleton.mp last]; omega
    · simp

theorem handOver_loop {s : Stream} (inv : HandOver s) : HandOver (step s .loop) := by
  cases pc : s.pc with
  | readIndexIn => exact handOver_readIndexIn inv pc
  | runIn index => exact handOver_runIn inv pc
  | testIn =>
    simp only [step, mainLoop, pc]
    split_ifs with taken
    · -- `send_in` is set: a frame has been raised since the index was last read
      have pending := inv.pending (by simp only [Bool.and_eq_true] at taken; exact taken.2)
      exact {
        read := inv.read
        pending := inv.pending
        taken := fun _ => .inl pending
        cleared := by simp [MainPc.inGap]
        sorted := inv.sorted
        below := inv.below
        fresh := by simp }
    · exact inv.still rfl (by simp [MainPc.taking]) (by simp [MainPc.inGap]) (by simp) rfl
  | clearSendIn =>
    have taken := inv.taken (by simp [pc, MainPc.taking])
    simp only [step, mainLoop, pc]
    exact {
      read := inv.read
      pending := by simp
      taken := fun _ => taken
      cleared := fun _ => rfl
      sorted := inv.sorted
      below := inv.below
      fresh := by simp }
  | setSendingIn =>
    simp only [step, mainLoop, pc]
    exact inv.still rfl (by simp [pc, MainPc.taking]) (by simp [pc, MainPc.inGap]) (by simp) rfl
  | runOut index =>
    have log (accepted : Bool) (completion : Option Completion) :=
      (handed_data (callObs_ofData completion)
        (s.trace ++ [.epRun .bulkOut (.packetsOut index.toNat 0) 1024 accepted])).trans
        (handed_concat s.trace (.epRun .bulkOut (.packetsOut index.toNat 0) 1024 accepted))
    simp only [step, mainLoop, pc, udiVendorBulkRun_bulkOut, callBack_eq]
    exact inv.still rfl (by simp [MainPc.taking]) (by simp [MainPc.inGap]) (by simp) (log _ _)
  | testOut =>
    simp only [step, mainLoop, pc]
    split_ifs <;>
      exact inv.still rfl (by simp [MainPc.taking]) (by simp [MainPc.inGap]) (by simp) rfl
  | _ =>
    simp only [step, mainLoop, pc]
    exact inv.still rfl (by simp [MainPc.taking]) (by simp [MainPc.inGap]) (by simp) rfl

theorem handOver_step {s : Stream} (inv : HandOver s) {event : Event} (meets : MeetsGap s event) :
    HandOver (step s event) := by
  cases event with
  | tc2 => exact handOver_tc2 inv meets
  | loop => exact handOver_loop inv
  | request wValue wIndex => exact absurd meets id
  | _ => exact inv.background (background_step s (by simp) (by simp) id)

theorem handOver_start {wValue : UInt16} (start : 1 ≤ wValue) (wIndex : UInt16) (s : Stream) :
    HandOver (startSession wValue wIndex s) := by
  have quiet : handed (startSession wValue wIndex s).trace = {} := by
    rw [startSession_trace start, handed_data (callObs_ofData _), handed_concat,
      handed_data (callObs_ofData _), handed_data (callObs_ofData _)]
    rfl
  have smp : (startSession wValue wIndex s).smp.sendIn = false := by
    rw [startSession, configureSampling_start start]; rfl
  exact {
    read := by simp [quiet]
    pending := by simp [smp]
    taken := fun _ => .inr (by simp [quiet])
    cleared := fun _ => smp
    sorted := by simp [quiet]
    below := by simp [quiet]
    fresh := by simp [quiet] }

/-- In a session in which no raising falls into the gap, the frames handed to `bulk_in_run` are
    strictly increasing at every moment. -/
theorem frames_increase {wValue : UInt16} (start : 1 ≤ wValue) (wIndex : UInt16) (s : Stream)
    {events : List Event} (meets : Throughout step MeetsGap (startSession wValue wIndex s) events) :
    Always step (fun s => (handed s.trace).frames.Pairwise (· < ·)) (startSession wValue wIndex s)
      events := by
  have always : Always step HandOver (startSession wValue wIndex s) events :=
    always_of_step (fun _ _ inv now => handOver_step inv now) (handOver_start start wIndex s) meets
  exact always.mono fun _ inv => inv.sorted

/-- Frame 0 is handed over. -/
theorem frames_increase_first_frame :
    (handed (run step (startSession 1000 0 (run step {} bringUp)) firstFrame).trace).frames = [0] ∧
      Always step (fun s => (handed s.trace).frames.Pairwise (· < ·))
        (startSession 1000 0 (run step {} bringUp)) firstFrame :=
  ⟨by decide +kernel, frames_increase (by decide) 0 _ (by decide +kernel)⟩

/-! ## A raising in the gap -/

theorem raised_eq_framesRaised (trace : List Obs) :
    (handed trace).raised = framesRaised (ticks trace) := by
  induction trace using List.reverseRecOn with
  | nil => rfl
  | append_singleton trace o inductionHypothesis =>
    rw [handed_concat, ticks_append, framesRaised, List.countP_append, ← framesRaised,
      ← inductionHypothesis]
    cases o with
    | interrupt tick => simp [handedStep, ticks, Obs.tick?, List.countP_singleton]
    | epRun ep buf bufSize accepted =>
      cases ep with
      | bulkIn => simp only [handedStep]; split_ifs <;> rfl
      | bulkOut => rfl
    | _ => rfl

/-! Stretches of the main loop, from one pass of the two agents to the next. -/

/-- The main loop takes `send_in`. -/
theorem take_statements {s : Stream} (pc : s.pc = .testIn) (sendingIn : s.sendingIn = false)
    (sendIn : s.smp.sendIn = true) :
    run step s [.loop, .loop] = { s with
      smp := { s.smp with sendIn := false }
      pc := .setSendingIn } := by
  simp [run_cons, run_nil, step, mainLoop, pc, sendingIn, sendIn]

/-- From the statement that sets `sending_in` to the end of the run call, the main loop hands over
    the frame raised last, and `send_in` is left as it is. -/
theorem handOver_statements {s : Stream} (pc : s.pc = .setSendingIn) {j : Nat}
    (raised : (handed s.trace).raised = j + 1) (ready : s.epIn.ready = true)
    (idle : s.epIn.job.busy = false) (endTrSt : s.epIn.endTrSt = false) :
    ∃ s', run step s [.loop, .loop, .loop] = s' ∧ s'.pc = .testOut ∧ s'.smp = s.smp ∧
      s'.tc = s.tc ∧ s'.sendingOut = s.sendingOut ∧
      s'.epIn = s.epIn.moving (.packetsIn s.smp.packetIndexSendIn.toNat 0) 2048
        .mainVendorBulkInReceived ∧
      handed s'.trace = Handed.mk (j + 1) (j + 1) ((handed s.trace).frames ++ [j]) := by
  obtain ⟨refused, -⟩ | ⟨-, -, -, accepted⟩ | ⟨-, -, ended, -⟩ :=
    uddEpRun_cases true (.packetsIn s.smp.packetIndexSendIn.toNat 0) .mainVendorBulkInReceived s.epIn
      (by decide : 0 < 2048) (by decide)
  · simp [ready, idle] at refused
  · refine ⟨_, rfl, ?_⟩
    simp only [run_cons, run_nil, step, mainLoop, pc, udiVendorBulkRun_bulkIn, accepted, callBack]
    refine ⟨trivial, trivial, trivial, trivial, trivial, ?_⟩
    rw [handed_concat, handed_concat]
    simp [handedStep, raised]
  · rw [endTrSt] at ended; simp at ended

/-- The host takes the transfer. -/
theorem taken_by_host {s : Stream} {ep : Endpoint} {buf : Ptr}
    (epIn : s.epIn = ep.moving buf 2048 .mainVendorBulkInReceived) (ready : ep.ready = true)
    (endTrSt : ep.endTrSt = false) :
    ∃ s', run step s [.inDone] = s' ∧ s'.pc = s.pc ∧ s'.smp = s.smp ∧ s'.tc = s.tc ∧
      s'.sendingOut = s.sendingOut ∧ s'.sendingIn = false ∧ s'.epIn.ready = true ∧
      s'.epIn.job.busy = false ∧ s'.epIn.endTrSt = false ∧ handed s'.trace = handed s.trace := by
  have enabled : ep.enabled = true := by
    simp only [Endpoint.ready, Bool.and_eq_true] at ready
    exact ready.1.1
  refine ⟨_, rfl, ?_⟩
  simp only [run_cons, run_nil, step, onEp_bulkIn, epIn, dmaInDone_moving enabled, callBack_eq]
  refine ⟨trivial, trivial, trivial, by simp [clearsOut], by simp [clearsIn], ready, trivial, endTrSt, ?_⟩
  exact handed_data (callObs_ofData _) _

/-- The main loop takes `send_out`, and the IN direction does not notice. -/
theorem out_statements {s : Stream} (pc : s.pc = .testOut) (sendingOut : s.sendingOut = false)
    (sendOut : s.smp.sendOut = true) :
    ∃ s', run step s [.loop, .loop, .loop, .loop, .loop, .loop] = s' ∧ s'.pc = .testIn ∧
      s'.smp = { s.smp with sendOut := false } ∧ s'.tc = s.tc ∧ s'.sendingIn = s.sendingIn ∧
      s'.epIn = s.epIn ∧
      handed s'.trace = handed s.trace := by
  have log (accepted : Bool) (completion : Option Completion) :=
    (handed_data (callObs_ofData completion)
      (s.trace ++ [.epRun .bulkOut (.packetsOut s.smp.packetIndexSendOut.toNat 0) 1024 accepted])).trans
      (handed_concat s.trace
        (.epRun .bulkOut (.packetsOut s.smp.packetIndexSendOut.toNat 0) 1024 accepted))
  refine ⟨_, rfl, ?_⟩
  simp only [run_cons, run_nil, step, mainLoop, pc, sendingOut, sendOut, Bool.not_false, Bool.and_self,
    if_true, udiVendorBulkRun_bulkOut, callBack_eq]
  refine ⟨trivial, trivial, trivial, ?_, trivial, log _ _⟩
  obtain ⟨-, ran⟩ | ⟨-, -, -, ran⟩ | ⟨-, -, -, ran⟩ :=
    uddEpRun_cases false (.packetsOut s.smp.packetIndexSendOut.toNat 0) .mainVendorBulkOutReceived
      s.epOut (by decide : 0 < 1024) (by decide) <;>
    simp [ran, clearsIn]

/-- The main loop has cleared `send_in` for an earlier frame when frame `j` is raised. -/
structure RaisedInGap (j : Nat) (s : Stream) : Prop where
  pc : s.pc = .setSendingIn
  raised : (handed s.trace).raised = j + 1
  sendIn : s.smp.sendIn = true
  sendOut : s.smp.sendOut = true
  sendingOut : s.sendingOut = false
  ready : s.epIn.ready = true
  idle : s.epIn.job.busy = false
  endTrSt : s.epIn.endTrSt = false

/-- The main loop finishes its pass, the host takes the transfer, and the next pass begins. -/
def secondPass : List Event :=
  [Event.loop, .loop, .loop] ++ [Event.inDone] ++
    [Event.loop, .loop, .loop, .loop, .loop, .loop] ++ [Event.loop, .loop] ++
    [Event.loop, .loop, .loop]

/-- The pass hands over frame `j`, and so does the next. -/
theorem RaisedInGap.twice {j : Nat} {s : Stream} (gap : RaisedInGap j s) :
    (handed (run step s secondPass).trace).frames = (handed s.trace).frames ++ [j] ++ [j] := by
  simp only [secondPass, run_append]
  obtain ⟨s₁, first, pc₁, smp₁, -, sendingOut₁, epIn₁, log₁⟩ :=
    handOver_statements gap.pc gap.raised gap.ready gap.idle gap.endTrSt
  obtain ⟨s₂, host, pc₂, smp₂, -, sendingOut₂, sendingIn₂, ready₂, idle₂, endTrSt₂, log₂⟩ :=
    taken_by_host epIn₁ gap.ready gap.endTrSt
  obtain ⟨s₃, out, pc₃, smp₃, -, sendingIn₃, epIn₃, log₃⟩ :=
    out_statements (pc₂.trans pc₁) (by rw [sendingOut₂, sendingOut₁, gap.sendingOut])
      (by rw [smp₂, smp₁, gap.sendOut])
  have take := take_statements pc₃ (sendingIn₃.trans sendingIn₂) (by rw [smp₃, smp₂, smp₁, gap.sendIn])
  have log : handed s₃.trace = Handed.mk (j + 1) (j + 1) ((handed s.trace).frames ++ [j]) := by
    rw [log₃, log₂, log₁]
  obtain ⟨s₄, second, -, -, -, -, -, log₄⟩ :=
    handOver_statements (s := { s₃ with smp := { s₃.smp with sendIn := false }, pc := .setSendingIn })
      rfl (j := j) (by rw [log]) (by rw [epIn₃, ready₂]) (by rw [epIn₃, idle₂])
      (by rw [epIn₃, endTrSt₂])
  rw [first, host, out, take, second, log₄, log]

/-- Frame 0 is taken, and frame 1 is raised before the index is read. -/
def gapRun : List Event :=
  [Event.outDone, .sof 5] ++ List.replicate 520 Event.tc2 ++ [Event.loop, .loop] ++
    List.replicate 512 Event.tc2

/-- Interrupts with nothing between them, to the raising of a frame and past the asking for one. -/
theorem run_frame {s : Stream} (running : s.tc.running = true) (inSession : InSession s) {t n : Nat}
    (length : (ticks s.trace).length = t) (ended : framesIn t < framesIn (t + n))
    (asked : framesOut t < framesOut (t + n)) :
    ∃ smp obs, run step s (List.replicate n .tc2) = { s with smp := smp, trace := s.trace ++ obs } ∧
      InSession { s with smp := smp, trace := s.trace ++ obs } ∧ smp.sendIn = true ∧
      smp.sendOut = true ∧ (ticks (s.trace ++ obs)).length = t + n ∧
      (handed (s.trace ++ obs)).raised = framesIn (t + n) := by
  obtain ⟨obs, raised, added⟩ := run_tc2 running n
  have follows := inSession.follows
  rw [length] at follows
  have later := inSession_after inSession _ (notRequest_tc2 n)
  rw [raised] at later
  have total : (ticks (s.trace ++ obs)).length = t + n := by
    rw [ticks_append, List.length_append, length, added]
  have frames := (raised_eq_framesRaised _).trans (framesRaised_eq later.onTime)
  rw [total] at frames
  exact ⟨_, obs, raised, later, sendIn_iterate follows ended, sendOut_iterate follows asked, total,
    frames⟩

theorem raisedInGap_gapRun :
    RaisedInGap 1 (run step (startSession 1000 0 (run step {} bringUp)) gapRun) := by
  have inSession := inSession_after
    (inSession_start (by decide : (1 : UInt16) ≤ 1000) 0 (run step {} bringUp))
    [.outDone, .sof 5] (by simp [Event.IsRequest])
  obtain ⟨s, started⟩ : ∃ s, run step (startSession 1000 0 (run step {} bringUp))
    [.outDone, .sof 5] = s := ⟨_, rfl⟩
  have running : s.tc.running = true := by rw [← started]; decide
  have early : (ticks s.trace).length = 0 := by rw [← started]; decide
  have flags : s.pc = .testIn ∧ s.sendingIn = false ∧ s.sendingOut = false := by
    rw [← started]; decide
  have free : s.epIn.ready = true ∧ s.epIn.job.busy = false ∧ s.epIn.endTrSt = false := by
    rw [← started]; decide
  rw [started] at inSession
  simp only [gapRun, run_append, started]
  -- frame 0 is raised, and taken by the main loop
  obtain ⟨smp, obs, raised, inSession₁, sendIn, -, length, -⟩ :=
    run_frame (n := 520) running inSession early (by decide) (by decide)
  have taken := take_statements (s := { s with smp := smp, trace := s.trace ++ obs })
    flags.1 flags.2.1 sendIn
  have inSession₂ := inSession_after inSession₁ [.loop, .loop] (by simp [Event.IsRequest])
  rw [taken] at inSession₂
  rw [raised, taken]
  -- frame 1 is raised before its index is read
  obtain ⟨smp₁, obs₁, raised₁, -, sendIn₁, sendOut₁, -, frames⟩ :=
    run_frame (s := { s with
      smp := { smp with sendIn := false }
      pc := .setSendingIn
      trace := s.trace ++ obs }) (n := 512) running inSession₂ length (by decide) (by decide)
  rw [raised₁]
  exact {
    pc := rfl
    raised := frames
    sendIn := sendIn₁
    sendOut := sendOut₁
    sendingOut := flags.2.2
    ready := free.1
    idle := free.2.1
    endTrSt := free.2.2 }

/-- Frame 1 is handed over twice. -/
theorem frame_twice :
    ¬ (handed (run step (startSession 1000 0 (run step {} bringUp))
      (gapRun ++ secondPass)).trace).frames.Pairwise (· < ·) := by
  rw [run_append, raisedInGap_gapRun.twice, List.append_assoc]
  intro sorted
  have last := (List.pairwise_append.mp sorted).2.1
  simp at last

end M1k
