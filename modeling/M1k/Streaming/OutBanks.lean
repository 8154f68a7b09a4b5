import M1k.Streaming.OutDelivery

/-! # The banks of the OUT endpoint

Between the host and the OUT channel stand the two banks of the endpoint: a packet is acknowledged
when it is in a bank, and leaves it byte by byte as the channel moves it.  The device with its banks
is a refinement of the streaming machine: the channel moves what is in the banks, and stops where a
packet ends a transfer. -/

namespace M1k

open Library.Runs

/-- A packet in a bank of the OUT endpoint. -/
structure Bank where
  /-- What the channel has not moved yet. -/
  bytes : List UInt8
  /-- The packet was shorter than the endpoint's: it ends a transfer. -/
  short : Bool
  deriving DecidableEq

/-- The device, and the host as far as the OUT endpoint has heard it. -/
structure Link where
  stream : Stream := {}
  /-- The packets acknowledged, oldest first. -/
  banks : List Bank := []
  /-- The status stage of the last 0xC5 request is over. -/
  acknowledged : Bool := true
  /-- What the host has sent since then. -/
  sent : List UInt8 := []

inductive LinkEvent where
  /-- The host sends a packet to the OUT endpoint. -/
  | hostOut (packet : List UInt8)
  /-- The status stage of a request is over. -/
  | acknowledge
  /-- The channel moves the next byte out of the bank. -/
  | dmaByte
  /-- A bank that has been read is freed; the end of a short packet stops the channel. -/
  | dmaEnd
  /-- The channel stops because its buffer is full. -/
  | dmaFull
  /-- Anything else that the streaming machine does. -/
  | stream (event : Event)
  deriving DecidableEq

namespace Link

/-- What the banks hold. -/
def held (l : Link) : List UInt8 := l.banks.flatMap Bank.bytes

/-- A bank is free and the endpoint answers. -/
def accepts (l : Link) (packet : List UInt8) : Bool :=
  l.stream.epOut.enabled && !l.stream.epOut.stall && l.banks.length < 2 &&
    packet.length ≤ l.stream.epOut.size

/-- The channel is on and its buffer has room. -/
def moves (l : Link) : Bool :=
  l.stream.epOut.dmaOn && l.stream.epOut.enabled &&
    l.stream.epOut.dmaCount < l.stream.epOut.job.bufLoad

/-- The event takes the banks from the endpoint, with all they hold: a reset of the bus, and the
    requests that free the endpoints.  An abort of the job is not among them. -/
def unmaps (s : Stream) : Event → Bool
  | .busReset _ => true
  | .setConfiguration wValue wLength =>
    wLength = 0 && s.address ≠ 0 && (wValue &&& 0xFF).toNat ≤ 1
  | .setInterface _ wIndex wLength =>
    wLength = 0 && s.udcNumConfiguration ≠ 0 && (udcIfaceDisable (wIndex &&& 0xFF).toNat s).1
  | _ => false

/-- The byte that the channel moves next. -/
def nextByte (l : Link) : Option UInt8 :=
  if l.moves then l.banks.head?.bind fun bank => bank.bytes.head? else none

/-- The bank that is read first has been read to its end. -/
def drained (l : Link) : Bool := l.banks.head?.any fun bank => bank.bytes.isEmpty

/-- It has been, and its packet ends the transfer. -/
def endsTransfer (l : Link) : Bool := l.drained && l.banks.head?.any Bank.short

/-- The channel is on and has filled its buffer. -/
def full (l : Link) : Bool :=
  l.stream.epOut.dmaOn && l.stream.epOut.dmaCount == l.stream.epOut.job.bufLoad

/-- Events of the streaming machine that the channel and the banks decide on. -/
def ofChannel : Event → Bool
  | .outByte _ | .outDone | .outEndTr => true
  | _ => false

def isRequest : Event → Bool
  | .request .. => true
  | _ => false

/-- What the streaming machine sees of an event. -/
def seen (l : Link) : LinkEvent → Option Event
  | .hostOut _ => none
  | .acknowledge => none
  | .dmaByte => l.nextByte.map Event.outByte
  | .dmaEnd =>
    if l.endsTransfer then some (if l.stream.epOut.dmaOn then .outDone else .outEndTr) else none
  | .dmaFull => if l.full then some .outDone else none
  | .stream event => if ofChannel event then none else some event

def banksAfter (l : Link) : LinkEvent → List Bank
  | .hostOut packet =>
    if l.accepts packet then l.banks ++ [⟨packet, packet.length < l.stream.epOut.size⟩] else l.banks
  | .acknowledge => l.banks
  | .dmaByte =>
    if l.nextByte.isSome then l.banks.modifyHead fun bank => { bank with bytes := bank.bytes.tail }
    else l.banks
  | .dmaEnd => if l.drained then l.banks.tail else l.banks
  | .dmaFull => l.banks
  | .stream event => if unmaps l.stream event then [] else l.banks

def acknowledgedAfter (l : Link) : LinkEvent → Bool
  | .acknowledge => true
  | .stream event => l.acknowledged && !isRequest event
  | .hostOut _ => l.acknowledged
  | .dmaByte => l.acknowledged
  | .dmaEnd => l.acknowledged
  | .dmaFull => l.acknowledged

def sentAfter (l : Link) : LinkEvent → List UInt8
  | .hostOut packet => if l.accepts packet && l.acknowledged then l.sent ++ packet else l.sent
  | .acknowledge => l.sent
  | .dmaByte => l.sent
  | .dmaEnd => l.sent
  | .dmaFull => l.sent
  | .stream _ => l.sent

def step (l : Link) (event : LinkEvent) : Link where
  stream := (l.seen event).elim l.stream (M1k.step l.stream)
  banks := l.banksAfter event
  acknowledged := l.acknowledgedAfter event
  sent := l.sentAfter event

/-- A start request, with what is observed and sent from it on. -/
def startSession (wValue wIndex : UInt16) (l : Link) : Link where
  stream := M1k.startSession wValue wIndex l.stream
  banks := l.banks
  acknowledged := false

/-- The request as an event of a run: the records apart, it is the start of a session. -/
theorem step_request (wValue wIndex : UInt16) (l : Link) :
    (l.step (.stream (.request wValue wIndex))).stream = configureSampling wValue wIndex l.stream ∧
      (l.step (.stream (.request wValue wIndex))).banks = l.banks ∧
      (l.step (.stream (.request wValue wIndex))).acknowledged = false :=
  ⟨rfl, rfl, Bool.and_false _⟩

/-- Each event is one of the streaming machine, or none. -/
theorem stream_step (l : Link) (event : LinkEvent) :
    (l.step event).stream = l.stream ∨
      ∃ inner ∈ l.seen event, (l.step event).stream = M1k.step l.stream inner := by
  cases isSeen : l.seen event with
  | none => exact .inl (by simp [step, isSeen])
  | some inner => exact .inr ⟨inner, rfl, by simp [step, isSeen]⟩

/-- A property that the steps of the streaming machine keep is kept with the banks. -/
theorem always_stream {P : Stream → Prop} (keeps : ∀ s event, P s → P (M1k.step s event)) {l : Link}
    (start : P l.stream) (events : List LinkEvent) : P (run step l events).stream := by
  induction events generalizing l with
  | nil => exact start
  | cons event events inductionHypothesis =>
    rw [run_cons]
    apply inductionHypothesis
    rcases stream_step l event with same | ⟨inner, -, moved⟩
    · rw [same]
      exact start
    · rw [moved]
      exact keeps _ _ start

end Link

/-! ## The bytes of the transfers -/

/-- An observation that is not of a byte. -/
def Obs.NotByte : Obs → Prop
  | .outByte _ => False
  | _ => True

theorem flatten_payloadStep (payloads : List (List UInt8)) {o : Obs} (notByte : o.NotByte) :
    (payloadStep payloads o).flatten = payloads.flatten := by
  cases o with
  | epRun ep buf bufSize accepted =>
    simp only [payloadStep]
    split_ifs
    · simp
    · rfl
  | outByte value => exact absurd notByte id
  | _ => rfl

/-- Only bytes add to what the transfers have brought. -/
theorem flatten_payloads_append (trace : List Obs) {obs : List Obs} (notBytes : ∀ o ∈ obs, o.NotByte) :
    (payloads (trace ++ obs)).flatten = (payloads trace).flatten := by
  induction obs generalizing trace with
  | nil => rw [List.append_nil]
  | cons o obs inductionHypothesis =>
    rw [List.append_cons, inductionHypothesis _ fun other member =>
      notBytes other (List.mem_cons_of_mem o member), payloads_concat,
      flatten_payloadStep _ (notBytes o List.mem_cons_self)]

/-- A byte adds to the last transfer. -/
theorem flatten_payloads_byte (trace : List Obs) (value : UInt8) :
    List.Sublist (payloads (trace ++ [.outByte value])).flatten ((payloads trace).flatten ++ [value]) := by
  rw [payloads_concat, payloadStep]
  rcases List.eq_nil_or_concat (payloads trace) with none | ⟨earlier, last, some⟩
  · rw [none]
    exact List.nil_sublist _
  · rw [some, List.concat_eq_append, List.modify_eq_take_drop]
    simp

theorem notByte_callObs (completion : Option Completion) : ∀ o ∈ callObs completion, o.NotByte := by
  cases completion <;> simp [callObs, Obs.NotByte]

/-- No event but a byte of the channel adds to what the transfers have brought. -/
theorem trace_step {s : Stream} (wired : Wired s) {event : Event} (notRequest : ¬ event.IsRequest)
    (notByte : ∀ value, event ≠ .outByte value) :
    ∃ obs, (step s event).trace = s.trace ++ obs ∧ ∀ o ∈ obs, o.NotByte := by
  by_cases manages : event.Manages
  · obtain ⟨aborted, -, trace⟩ := (manage_step wired manages).1.trace
    refine ⟨_, trace, fun o member => ?_⟩
    obtain ⟨c, -, rfl⟩ := List.mem_map.mp member
    trivial
  · -- what is left are the interrupts and the main loop
    cases event with
    | tc2 =>
      simp only [step, tc2Interrupt]
      split_ifs
      · exact ⟨[], by simp, by simp⟩
      · exact ⟨_, rfl, by simp [Obs.NotByte]⟩
    | loop =>
      simp only [step, mainLoop]
      cases s.pc with
      | runIn index =>
        simp only [udiVendorBulkRun_bulkIn, callBack_trace, List.append_assoc]
        refine ⟨_, rfl, ?_⟩
        intro o member
        rcases List.mem_append.mp member with run | call
        · rw [List.mem_singleton.mp run]
          trivial
        · exact notByte_callObs _ o call
      | runOut index =>
        simp only [udiVendorBulkRun_bulkOut, callBack_trace, List.append_assoc]
        refine ⟨_, rfl, ?_⟩
        intro o member
        rcases List.mem_append.mp member with run | call
        · rw [List.mem_singleton.mp run]
          trivial
        · exact notByte_callObs _ o call
      | readIndexIn => exact ⟨_, rfl, by simp [Obs.NotByte]⟩
      | _ => exact ⟨[], by simp, by simp⟩
    | sof fnum =>
      simp only [step, mainSofAction]
      split_ifs <;> exact ⟨[], by simp, by simp⟩
    | request wValue wIndex => exact absurd trivial notRequest
    | outByte value => exact absurd rfl (notByte value)
    | outDone => exact ⟨_, callBack_trace _ _, notByte_callObs _⟩
    | inDone => exact ⟨_, callBack_trace _ _, notByte_callObs _⟩
    | outEndTr =>
      simp only [step, outEndTr]
      split_ifs <;> exact ⟨[], by simp, by simp⟩
    | _ => exact absurd trivial manages

end M1k
