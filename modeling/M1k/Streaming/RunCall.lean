import M1k.Streaming.Effects

/-! # The run calls of the main loop, cut by interrupts

`udd_ep_run` masks the interrupts only while it tests and sets `busy`, and `udd_ep_trans_done` only
while it looks for the end of a transfer and enables the channel.  When the main loop calls them, an
interrupt may come between the test of the endpoint and the first of these sections, before the rest
of the job is filled in, before `udd_ep_trans_done` and between its test of `busy` and the second.
The machine of this module takes a run call in these parts, and is the streaming machine otherwise;
the run call of a start request is made by an interrupt, which nothing cuts. -/

namespace M1k

open Library.Runs

/-- A call of `udd_ep_run` by the main loop, with the statement that follows it -/
structure RunCall where
  id : EpId
  buf : Ptr
  bufSize : Nat
  callback : Callback
  next : MainPc

/-- The call that the main loop is in, if any -/
def MainPc.runCall : MainPc → Option RunCall
  | .runIn index =>
    some ⟨.bulkIn, .packetsIn index.toNat 0, 2048, .mainVendorBulkInReceived, .testOut⟩
  | .runOut index =>
    some ⟨.bulkOut, .packetsOut index.toNat 0, 1024, .mainVendorBulkOutReceived, .watchdog⟩
  | .testIn | .clearSendIn | .setSendingIn | .readIndexIn | .testOut | .clearSendOut
  | .setSendingOut | .readIndexOut | .watchdog => none

/-- How far the call has come -/
inductive RunPlace where
  | called
  /-- The endpoint is neither disabled nor halted. -/
  | tested
  /-- `busy` was clear, and has been set. -/
  | taken
  /-- The rest of the job has been filled in. -/
  | filled
  /-- `udd_ep_trans_done` has found the job busy, with so much to move next. -/
  | launching (nextTrans : Nat)
  deriving DecidableEq

/-- The streaming machine, with the place in a run call when the main loop is in one -/
structure Preemptible where
  stream : Stream := {}
  place : RunPlace := .called

namespace Stream

/-- Only the job of one endpoint is changed. -/
def withJob (s : Stream) (id : EpId) (change : EpJob → EpJob) : Stream :=
  s.setEp id { s.ep id with job := change (s.ep id).job }

@[simp] theorem withJob_ep (s : Stream) (id : EpId) (change : EpJob → EpJob) :
    (s.withJob id change).ep id = { s.ep id with job := change (s.ep id).job } := by
  cases id <;> rfl

@[simp] theorem withJob_pc (s : Stream) (id : EpId) (change : EpJob → EpJob) :
    (s.withJob id change).pc = s.pc := by
  cases id <;> rfl

theorem withJob_sending (s : Stream) (id other : EpId) (change : EpJob → EpJob) :
    (s.withJob id change).sending other = s.sending other := by
  cases id <;> cases other <;> rfl

theorem withJob_ep_other (s : Stream) {id other : EpId} (different : other ≠ id)
    (change : EpJob → EpJob) : (s.withJob id change).ep other = s.ep other := by
  cases id <;> cases other <;> first | rfl | exact absurd rfl different

end Stream

/-- The masked section, if `busy` is clear -/
def EpJob.take (job : EpJob) : EpJob := { job with busy := true }

/-- `next_trans` -/
def EpJob.nextTrans (job : EpJob) : Nat := min (job.bufSize - job.bufCnt) uddEndpointMaxTrans

/-- A part that does not end with a full packet needs no empty packet after it. -/
def EpJob.shorten (isIn : Bool) (size : Nat) (job : EpJob) : EpJob :=
  { job with bShortpacket := job.bShortpacket && !(isIn && decide (job.nextTrans % size ≠ 0)) }

/-- `udd_ep_trans_done` from its masked section on, whatever has become of the job.  What it does when
    a zero-length packet came in already is one part with that section. -/
def uddEpLaunch (isIn : Bool) (nextTrans : Nat) (ep : Endpoint) : Endpoint × Option Completion :=
  if ep.endTrSt = false then
    ({ ep with
        dmaOn := true
        dmaCount := 0
        job := { ep.job with bufCnt := ep.job.bufCnt + nextTrans, bufLoad := nextTrans } }, none)
  else
    uddEpTransEnd isIn { ep with endTrSt := false, job := { ep.job with bufSize := ep.job.bufCnt } }

/-- No job comes of it, and none ends. -/
theorem uddEpLaunch_idle (isIn : Bool) (nextTrans : Nat) {ep : Endpoint} (idle : ep.job.busy = false) :
    (uddEpLaunch isIn nextTrans ep).1.job.busy = false ∧ (uddEpLaunch isIn nextTrans ep).2 = none := by
  rw [uddEpLaunch]
  split_ifs
  · exact ⟨idle, rfl⟩
  · rw [uddEpTransEnd]
    split_ifs
    · exact ⟨idle, rfl⟩
    · rw [uddEpFinishJob_idle]
      · exact ⟨idle, rfl⟩
      · exact idle

/-- `udd_ep_trans_done` in one piece is its parts one after the other. -/
theorem uddEpTransDone_parts (isIn : Bool) (ep : Endpoint) :
    uddEpTransDone isIn ep =
      if ep.job.busy = false then (ep, none)
      else if ep.job.bufCnt = ep.job.bufSize then uddEpTransEnd isIn ep
      else uddEpLaunch isIn ep.job.nextTrans { ep with job := ep.job.shorten isIn ep.size } := rfl

namespace RunCall

variable (call : RunCall)

/-- What follows the masked section: the job is the caller's but for `busy`. -/
def fill (job : EpJob) : EpJob :=
  { job with
    buf := call.buf
    bufSize := call.bufSize
    bufCnt := 0
    bufLoad := 0
    callTrans := some call.callback
    bShortpacket := decide (call.bufSize = 0) }

/-- The call returns, and the main loop goes on behind it. -/
def returns (accepted : Bool) (s : Stream) : Stream :=
  { s.observe [.epRun call.id call.buf call.bufSize accepted] with pc := call.next }

/-- The next part of the call -/
def advance (f : Preemptible) : Preemptible :=
  match f.place with
  | .called =>
    if (f.stream.ep call.id).ready then { f with place := .tested }
    else { stream := call.returns false f.stream }
  | .tested =>
    -- with the interrupts masked
    if (f.stream.ep call.id).job.busy then { stream := call.returns false f.stream }
    else { stream := f.stream.withJob call.id EpJob.take, place := .taken }
  | .taken => { stream := f.stream.withJob call.id call.fill, place := .filled }
  | .filled =>
    let ep := f.stream.ep call.id
    if ep.job.busy = false then { stream := call.returns true f.stream }
    else if ep.job.bufCnt = ep.job.bufSize then
      { stream := onEp call.id (uddEpTransEnd call.id.isIn) (call.returns true f.stream) }
    else
      { stream := f.stream.withJob call.id (EpJob.shorten call.id.isIn ep.size)
        place := .launching ep.job.nextTrans }
  | .launching nextTrans =>
    { stream := onEp call.id (uddEpLaunch call.id.isIn nextTrans) (call.returns true f.stream) }

end RunCall

/-- One event: a run call of the main loop goes on by one part, everything else is as it was. -/
def Preemptible.step (f : Preemptible) (event : Event) : Preemptible :=
  match event, f.stream.pc.runCall with
  | .loop, some call => call.advance f
  | _, _ => { f with stream := M1k.step f.stream event }

namespace Preemptible

variable (f : Preemptible)

theorem step_loop {call : RunCall} (inCall : f.stream.pc.runCall = some call) :
    f.step .loop = call.advance f := by
  simp only [step, inCall]

/-- Outside the run calls, and for everybody else, the machine is the streaming machine. -/
theorem step_else {event : Event} (other : event = .loop → f.stream.pc.runCall = none) :
    f.step event = { f with stream := M1k.step f.stream event } := by
  cases event with
  | loop => simp only [step, other rfl]
  | _ => rfl

end Preemptible

/-! ## The call in one piece -/

section Run

variable (isIn bShortpacket : Bool) (buf : Ptr) (bufSize : Nat) (callback : Option Callback)
  {ep : Endpoint}

theorem uddEpRun_refused (refused : ep.ready = false ∨ ep.job.busy = true) :
    uddEpRun isIn bShortpacket buf bufSize callback ep = (false, ep, none) := by
  rw [uddEpRun]
  split_ifs with notReady busy
  · rfl
  · rfl
  · exact absurd (refused.resolve_left notReady) busy

theorem uddEpRun_taken (ready : ep.ready = true) (idle : ep.job.busy = false) :
    uddEpRun isIn bShortpacket buf bufSize callback ep =
      (true, uddEpTransDone isIn { ep with
        job := { ep.job with
          busy := true
          buf := buf
          bufSize := bufSize
          bufCnt := 0
          bufLoad := 0
          callTrans := callback
          bShortpacket := bShortpacket || decide (bufSize = 0) } }) := by
  rw [uddEpRun, if_neg (by simp [ready]), if_neg (by simp [idle])]

end Run

theorem RunCall.returns_ep (call : RunCall) (accepted : Bool) (s : Stream) (id : EpId) :
    (call.returns accepted s).ep id = s.ep id := by
  cases id <;> rfl

theorem RunCall.returns_sending (call : RunCall) (accepted : Bool) (s : Stream) (id : EpId) :
    (call.returns accepted s).sending id = s.sending id := by
  cases id <;> rfl

/-- The streaming machine takes the whole call at once. -/
theorem mainLoop_runCall {s : Stream} {call : RunCall} (inCall : s.pc.runCall = some call) :
    mainLoop s = udiVendorBulkRun call.id call.buf call.bufSize call.callback
      { s with pc := call.next } := by
  cases pc : s.pc with
  | runIn index =>
    rw [pc] at inCall
    rw [mainLoop, pc, ← Option.some.inj inCall]
  | runOut index =>
    rw [pc] at inCall
    rw [mainLoop, pc, ← Option.some.inj inCall]
  | _ =>
    rw [pc] at inCall
    cases inCall

end M1k
