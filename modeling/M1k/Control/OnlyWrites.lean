import M1k.Control.Stages
import M1k.Control.MemorySafety

/-! # What a request may overwrite

A request leaves one range as its payload, and the direction bit decides whether the data stage
reads it or fills it.  Whatever the host sends, nothing outside that range is filled; the
requests that read the table or a version therefore overwrite it when they are issued with an
OUT data stage. -/

namespace M1k.Control

open Library Library.Runs

variable {σ : Type*}

/-- The arrays that requests 0x02 and 0x05 alone are to change. -/
def Object.isKept : Object → Bool
  | .flashTable | .hwversion | .fwversion | .msftCompatible | .serialNumber => true
  | _ => false

/-- The ranges that OUT packets have filled. -/
def receivedRanges (trace : List Obs) : List (Pointer × Nat) :=
  trace.filterMap fun
    | .received dest bytes => some (dest, bytes.length)
    | _ => none

/-- The event brings no further request. -/
def NoRequest : Event → Prop
  | .control status => status.setup = none
  | .reset => True
  | .reboot _ => False

/-- The ranges that the functions handling a request fill. -/
def filledBy (inputs : Inputs) (req : SetupReq) (d : Device σ) : List (Pointer × Nat) :=
  (udcProcessSetup inputs ⟨{ d.ctrlreq with req := req }, d.mem, [], []⟩).2.filled

/-- From `before` to `after` no byte of the arrays has changed, and every write was to a range of
    one array. -/
structure Untouched (filled : List (Pointer × Nat)) (before after : Device σ) : Prop where
  kept : ∀ o, o.isKept = true → ∀ i < o.size, after.mem o i = before.mem o i
  inside : ∀ range ∈ filled ++ receivedRanges (after.trace.drop before.trace.length),
    Within range.1 range.2 range.1.object

/-- From `before` to `after` only the addressed bytes of the table have changed, and the serial
    number at most by a store; every write was to a range of one array. -/
structure OnlyAddressed (req : SetupReq) (filled : List (Pointer × Nat)) (before after : Device σ) :
    Prop where
  kept : ∀ o, o.isKept = true → o ≠ .flashTable → o ≠ .serialNumber →
    ∀ i < o.size, after.mem o i = before.mem o i
  table : ∀ i < Object.flashTable.size,
    ¬ (req.tableOffset ≤ i ∧ i < req.tableOffset + req.wLength.toNat) →
      after.mem .flashTable i = before.mem .flashTable i
  serial : (∀ obs ∈ after.trace.drop before.trace.length, obs ≠ .stored) →
    ∀ i < Object.serialNumber.size, after.mem .serialNumber i = before.mem .serialNumber i
  inside : ∀ range ∈ filled ++ receivedRanges (after.trace.drop before.trace.length),
    Within range.1 range.2 range.1.object

/-- The request reads an array in RAM: `hwversion`, the table or `msft_compatible`, of which there is
    nothing to read once its length has been overwritten with 0. -/
def SetupReq.Reads (r : SetupReq) (mem : Memory) : Prop :=
  r.bRequest = 0x00 ∧ r.wIndex = 0 ∨ r.bRequest = 0x01 ∨
    r.bRequest = 0x30 ∧ r.wIndex = 4 ∧ dwLength mem ≠ 0

/-- A vendor request that overwrites nothing: it does not ask 0x17 for more than the 64 bytes of
    `ret_data`, and does not come with OUT data for the array that it reads. -/
structure SetupReq.Harmless (r : SetupReq) (mem : Memory) : Prop where
  room : r.bRequest = 0x17 → r.isIn = true ∧ r.wLength = 0 ∨ r.wIndex.toNat % 256 ≤ 64
  direction : r.Reads mem → r.isIn = true ∨ r.wLength = 0

/-! ## What is received -/

@[simp] theorem receivedRanges_append (first second : List Obs) :
    receivedRanges (first ++ second) = receivedRanges first ++ receivedRanges second :=
  List.filterMap_append

theorem receivedRanges_commands (commands : List Command) :
    receivedRanges (commands.map .command) = [] := by
  simp [receivedRanges]

/-- A range inside another one. -/
def Inside (range whole : Pointer × Nat) : Prop :=
  range.2 ≠ 0 → range.1.object = whole.1.object ∧ whole.1.offset ≤ range.1.offset ∧
    range.1.offset + range.2 ≤ whole.1.offset + whole.2

theorem Inside.within {range whole : Pointer × Nat} (inside : Inside range whole)
    (room : whole.2 = 0 ∨ whole.1.offset + whole.2 ≤ whole.1.object.size) :
    Within range.1 range.2 range.1.object := by
  intro k less
  have place := inside (by omega)
  refine ⟨rfl, ?_⟩
  rw [place.1]
  omega

/-- From `before` to `d` nothing but `whole` and the serial number has been written to, of what
    requests may not fill; `later` is what has happened. -/
structure Confined (whole : Pointer × Nat) (before : Device σ) (later : List Obs) (d : Device σ) :
    Prop where
  trace : d.trace = before.trace ++ later
  received : ∀ range ∈ receivedRanges later, Inside range whole
  mem : ∀ o i, o.isScratch = false → d.mem o i = before.mem o i ∨
    (o = whole.1.object ∧ o.inFlash = false ∧ whole.1.offset ≤ i ∧ i < whole.1.offset + whole.2) ∨
    o = .serialNumber ∧ .stored ∈ later

/-- What is true until the next request: the payload is `whole` in the data stage, and what has
    been written is confined to it. -/
structure Serving (whole : Pointer × Nat) (writes : Bool) (before d : Device σ) : Prop where
  confined : ∃ later, Confined whole before later d ∧ (.stored ∈ later → writes = true)
  callback : d.ctrlreq.callback = some .storeFlashTable → writes = true
  payload : d.state = .dataOut → d.ctrlreq.payloadSize = whole.2 ∧ d.payloadBufCnt ≤ whole.2 ∧
    (whole.2 ≠ 0 → d.ctrlreq.payload = whole.1)

section Steps

variable {whole : Pointer × Nat} {writes : Bool} {before d d' : Device σ}

/-- A step that writes nothing. -/
theorem Serving.of_eq (serving : Serving whole writes before d) (mem : d'.mem = d.mem)
    (callback : d'.ctrlreq.callback = d.ctrlreq.callback ∨ d'.ctrlreq.callback = none)
    (trace : ∃ more, d'.trace = d.trace ++ more ∧ receivedRanges more = [] ∧ .stored ∉ more)
    (stage : d'.state = .dataOut → d.state = .dataOut ∧ d'.ctrlreq = d.ctrlreq ∧
      (d.payloadBufCnt ≤ whole.2 → d'.payloadBufCnt ≤ whole.2)) : Serving whole writes before d' where
  confined := by
    obtain ⟨later, confined, stored⟩ := serving.confined
    obtain ⟨more, appended, noData, noStore⟩ := trace
    refine ⟨later ++ more, ⟨?_, ?_, ?_⟩, ?_⟩
    · rw [appended, confined.trace, List.append_assoc]
    · rw [receivedRanges_append, noData, List.append_nil]
      exact confined.received
    · intro o i array
      rw [mem]
      apply (confined.mem o i array).imp_right
      apply Or.imp_right
      intro serial
      exact ⟨serial.1, List.mem_append_left _ serial.2⟩
    · intro member
      cases List.mem_append.mp member with
      | inl earlier => exact stored earlier
      | inr last => exact absurd last noStore
  callback store := by
    cases callback with
    | inl same => rw [same] at store; exact serving.callback store
    | inr cleared => rw [cleared] at store; cases store
  payload open' := by
    obtain ⟨data, ctrlreq, count⟩ := stage open'
    obtain ⟨size, counted, start⟩ := serving.payload data
    rw [ctrlreq]
    exact ⟨size, count counted, start⟩

theorem Serving.ctrlInit (serving : Serving whole writes before d) :
    Serving whole writes before (ctrlInit d) :=
  serving.of_eq rfl (.inr rfl) ⟨[], by simp [Control.ctrlInit, receivedRanges]⟩
    (fun data => EpState.noConfusion data)

theorem Serving.endofrequest (efc : Efc σ) (serving : Serving whole writes before d) :
    Serving whole writes before (endofrequest efc d) := by
  by_cases store : d.ctrlreq.callback = some .storeFlashTable
  · obtain ⟨later, confined, -⟩ := serving.confined
    rw [endofrequest_store efc store]
    constructor
    · refine ⟨later ++ [.stored], ⟨?_, ?_, ?_⟩, fun _ => serving.callback store⟩
      · rw [← List.append_assoc, ← confined.trace]
      · rw [receivedRanges_append]
        simpa [receivedRanges] using confined.received
      · intro o i array
        by_cases serial : o = .serialNumber
        · exact .inr (.inr ⟨serial, by simp⟩)
        · show Function.update d.mem _ _ o i = _ ∨ _
          rw [Function.update_of_ne serial]
          apply (confined.mem o i array).imp_right
          apply Or.imp_right
          exact fun other => absurd other.1 serial
    · exact serving.callback
    · exact serving.payload
  · rwa [endofrequest_other efc store]

theorem Serving.sendZlpIn (serving : Serving whole writes before d) :
    Serving whole writes before (sendZlpIn d) :=
  serving.of_eq rfl (.inl rfl) ⟨[.zlpIn], rfl, rfl, by simp⟩ (fun data => EpState.noConfusion data)

theorem Serving.stallData (serving : Serving whole writes before d) :
    Serving whole writes before (stallData d) :=
  serving.of_eq rfl (.inl rfl) ⟨[.stall], rfl, rfl, by simp⟩ (fun data => EpState.noConfusion data)

theorem Serving.stall (serving : Serving whole writes before d) :
    Serving whole writes before (d.observe [.stall]) :=
  serving.of_eq rfl (.inl rfl) ⟨[.stall], rfl, rfl, by simp⟩ fun data => ⟨data, rfl, id⟩

theorem Serving.sendNext (serving : Serving whole writes before d) (small : whole.2 < 65536)
    (outNow : Bool) {remain : Nat} (room : d.state = .dataOut → d.payloadBufCnt + remain ≤ whole.2) :
    Serving whole writes before (sendNext outNow remain d) := by
  cases outNow with
  | true =>
    exact serving.of_eq rfl (.inl rfl) ⟨[], (List.append_nil _).symm, rfl, by simp⟩
      (fun data => EpState.noConfusion data)
  | false =>
    rw [sendNext_sent]
    refine serving.of_eq rfl (.inl rfl) ⟨[.sent _ _], rfl, rfl, by simp⟩
      fun data => ⟨data, rfl, fun _ => ?_⟩
    have counted := room data
    show (d.payloadBufCnt + min remain 64) % 65536 ≤ whole.2
    rw [Nat.mod_eq_of_lt (by omega)]
    omega

theorem Serving.inSent (efc : Efc σ) (serving : Serving whole writes before d)
    (small : whole.2 < 65536) (outNow : Bool) : Serving whole writes before (inSent efc outNow d) := by
  by_cases handshake : d.state = .handshakeWaitInZlp
  · rw [inSent_handshake efc outNow handshake]
    exact (serving.endofrequest efc).ctrlInit
  · rw [inSent_data efc outNow handshake]
    have quiet (prev : Nat) : Serving whole writes before
        { d with inSendInterrupt := false, prevPayloadBufCnt := prev } :=
      serving.of_eq rfl (.inl rfl) ⟨[], (List.append_nil _).symm, rfl, by simp⟩
        fun data => ⟨data, rfl, id⟩
    split_ifs
    · exact (quiet 0).of_eq rfl (.inl rfl) ⟨[], (List.append_nil _).symm, rfl, by simp⟩
        (fun data => EpState.noConfusion data)
    · exact (quiet _).sendNext small outNow fun data => (serving.payload data).2.1
    · apply (quiet d.prevPayloadBufCnt).sendNext small outNow
      intro data
      obtain ⟨size, counted, -⟩ := serving.payload data
      show d.payloadBufCnt + sub16 d.ctrlreq.payloadSize d.payloadBufCnt ≤ whole.2
      rw [size, sub16_eq counted small]
      omega

/-- The bytes of an OUT packet go into `whole`. -/
theorem Serving.copied (serving : Serving whole writes before d) (data : d.state = .dataOut)
    (packet : List UInt8) : Serving whole writes before (d.copied packet) := by
  obtain ⟨later, confined, stored⟩ := serving.confined
  obtain ⟨size, count, start⟩ := serving.payload data
  have length : (packet.take (d.ctrlreq.payloadSize - d.payloadBufCnt)).length ≤
      whole.2 - d.payloadBufCnt := by
    rw [size, List.length_take]
    exact Nat.min_le_left _ _
  -- the packet is cut to what is left of `whole`
  have place : Inside (d.ctrlreq.payload.add d.payloadBufCnt,
      (packet.take (d.ctrlreq.payloadSize - d.payloadBufCnt)).length) whole := by
    intro some
    dsimp only at some
    rw [start (by omega)]
    refine ⟨rfl, Nat.le_add_right _ _, ?_⟩
    show whole.1.offset + d.payloadBufCnt + _ ≤ _
    omega
  constructor
  · refine ⟨later ++ [.received (d.ctrlreq.payload.add d.payloadBufCnt)
      (packet.take (d.ctrlreq.payloadSize - d.payloadBufCnt))], ⟨?_, ?_, ?_⟩, ?_⟩
    · rw [← List.append_assoc, ← confined.trace]
      rfl
    · intro range member
      rw [receivedRanges_append] at member
      cases List.mem_append.mp member with
      | inl earlier => exact confined.received range earlier
      | inr last =>
        rw [List.mem_singleton.mp last]
        exact place
    · intro o i array
      -- a cell that the packet has changed is one of those it was written to
      by_cases outside : d.mem.put (d.ctrlreq.payload.add d.payloadBufCnt)
          (packet.take (d.ctrlreq.payloadSize - d.payloadBufCnt)) o i = d.mem o i
      · show d.mem.put _ _ o i = _ ∨ _
        rw [outside]
        apply (confined.mem o i array).imp_right
        apply Or.imp_right
        exact fun serial => ⟨serial.1, List.mem_append_left _ serial.2⟩
      · apply Or.inr
        apply Or.inl
        have object : o = (d.ctrlreq.payload.add d.payloadBufCnt).object := by
          by_contra other
          rw [Memory.put_other _ other] at outside
          exact outside rfl
        have ram : (d.ctrlreq.payload.add d.payloadBufCnt).object.inFlash = false := by
          by_contra flash
          rw [Memory.put_inFlash _ (Bool.eq_true_of_not_eq_false flash)] at outside
          exact outside rfl
        rw [object, Memory.put_same _ ram] at outside
        have some : (packet.take (d.ctrlreq.payloadSize - d.payloadBufCnt)).length ≠ 0 := by
          intro none
          rw [List.length_eq_zero_iff.mp none] at outside
          exact outside rfl
        have inside := place some
        have written : (d.ctrlreq.payload.add d.payloadBufCnt).offset ≤ i ∧
            i < (d.ctrlreq.payload.add d.payloadBufCnt).offset +
              (packet.take (d.ctrlreq.payloadSize - d.payloadBufCnt)).length := by
          by_contra other
          exact outside (Bytes.put_outside (by omega))
        exact ⟨object.trans inside.1, object ▸ ram, inside.2.1.trans written.1,
          written.2.trans_le inside.2.2⟩
    · intro member
      cases List.mem_append.mp member with
      | inl earlier => exact stored earlier
      | inr last => cases List.mem_singleton.mp last
  · exact serving.callback
  · intro _
    refine ⟨size, ?_, start⟩
    show d.payloadBufCnt + min packet.length (d.ctrlreq.payloadSize - d.payloadBufCnt) ≤ _
    omega

theorem Serving.outCopied (serving : Serving whole writes before d) (nbData : Nat) :
    Serving whole writes before (outCopied nbData d) := by
  rw [outCopied_eq]
  split_ifs
  · exact serving.of_eq rfl (.inl rfl) ⟨[.zlpIn], rfl, rfl, by simp⟩
      (fun data => EpState.noConfusion data)
  · exact serving.stallData
  · exact serving

theorem Serving.outReceived (efc : Efc σ) (small : whole.2 < 65536)
    (serving : Serving whole writes before d) (packet : List UInt8) :
    Serving whole writes before (outReceived efc packet d) := by
  by_cases data : d.state = .dataOut
  · obtain ⟨size, count, -⟩ := serving.payload data
    rw [outReceived_data efc data (by rwa [size]) (by rwa [size])]
    exact (serving.copied data packet).outCopied _
  · rw [Control.outReceived, if_pos data]
    split_ifs
    · exact (serving.endofrequest efc).ctrlInit
    · exact serving.stallData.ctrlInit

theorem Serving.overflow (serving : Serving whole writes before d) (inNow : Bool) :
    Serving whole writes before (overflow inNow d) := by
  unfold Control.overflow
  split_ifs
  · exact serving
  · exact serving.stall
  · exact serving

theorem Serving.underflow (serving : Serving whole writes before d) (outNow : Bool) :
    Serving whole writes before (underflow outNow d) := by
  unfold Control.underflow
  split_ifs
  · exact serving
  · exact serving.sendZlpIn
  · exact serving.stall
  · exact serving

/-- Until the next request, every interrupt writes to `whole` only. -/
theorem Serving.step (efc : Efc σ) (small : whole.2 < 65536)
    (serving : Serving whole writes before d) {event : Event} (noRequest : NoRequest event) :
    Serving whole writes before (step efc d event) := by
  cases event with
  | reset => exact serving.ctrlInit
  | reboot pinHigh => exact noRequest.elim
  | control status =>
    have none : status.setup = none := noRequest
    simp only [Control.step, ctrlInterrupt, none]
    by_cases sent : (status.inSent && d.inSendInterrupt) = true
    · rw [if_pos sent]
      exact serving.inSent efc small status.outNow
    · rw [if_neg sent]
      cases status.out with
      | some packet => exact serving.outReceived efc small packet
      | none =>
        split_ifs
        · exact serving.overflow status.inNow
        · exact serving.underflow status.outNow
        · exact serving

theorem Serving.run (efc : Efc σ) (small : whole.2 < 65536) (serving : Serving whole writes before d)
    {events : List Event} (noRequest : ∀ event ∈ events, NoRequest event) :
    Serving whole writes before (Runs.run (Control.step efc) d events) := by
  have always := always_of_events (P := Serving whole writes before) (C := NoRequest)
    (fun _ _ serving noRequest => serving.step efc small noRequest) serving noRequest
  exact always.last

end Steps

/-! ## The request -/

/-- The range that OUT data goes to: none without a data stage, or when the request is refused. -/
def SetupReq.target (r : SetupReq) (mem : Memory) : Pointer × Nat :=
  if r.isIn = true ∨ r.wLength = 0 ∨ r.bRequest = 0x30 ∧ r.wIndex ≠ 4 then ((r.range mem).1, 0)
  else r.range mem

theorem range_small (r : SetupReq) (mem : Memory) : (r.range mem).2 < 65536 := by
  have length := r.wLength.toNat_lt
  have index := r.wIndex.toNat_lt
  unfold SetupReq.range rangeOf
  split <;> try split_ifs
  all_goals dsimp only; omega

theorem target_small (r : SetupReq) (mem : Memory) : (r.target mem).2 < 65536 := by
  unfold SetupReq.target
  split_ifs
  · exact Nat.zero_lt_succ _
  · exact range_small r mem

section Request

variable (efc : Efc σ) {d : Device σ} {req : SetupReq} {inputs : Inputs} {h : Handling}

/-- The functions that handle a request fill none of the arrays that are kept. -/
theorem udcDecode_keeps (accepted : udcDecode inputs (d.handling req) = some h) :
    h.ctrlreq.req = req ∧ (∀ o, o.isScratch = false → h.mem o = d.mem o) ∧
      (h.ctrlreq.callback = some .storeFlashTable → req.writesTable = true) := by
  cases udcDecode_cases rfl accepted with
  | inl write =>
    rw [write.2]
    exact ⟨rfl, fun _ _ => rfl, fun _ => write.1⟩
  | inr other =>
    refine ⟨other.2.req, other.2.mem, fun store => ?_⟩
    cases other.2.callback store

/-- The functions that handle a vendor request leave `range` as the payload. -/
theorem udcDecode_range (vendor : req.isVendor = true)
    (accepted : udcDecode inputs (d.handling req) = some h) : PayloadIs (req.range d.mem) h :=
  mainSetupHandle_payload rfl vendor (mainSetupHandle_accepted vendor accepted)

/-- Once a request has been handled, in whatever state the endpoint goes on. -/
theorem serving_entered (kept : ∀ o, o.isScratch = false → h.mem o = d.mem o)
    (store : h.ctrlreq.callback = some .storeFlashTable → req.writesTable = true)
    {whole : Pointer × Nat} {d' : Device σ}
    (entered : d'.ctrlreq = h.ctrlreq ∧ d'.mem = h.mem ∧ d'.trace = (d.entered efc req h).trace)
    (payload : d'.state = .dataOut → d'.ctrlreq.payloadSize = whole.2 ∧ d'.payloadBufCnt ≤ whole.2 ∧
      (whole.2 ≠ 0 → d'.ctrlreq.payload = whole.1)) :
    Serving whole req.writesTable d d' where
  confined := by
    refine ⟨[.setup req d.table (d.page efc)] ++ h.commands.map .command, ⟨?_, ?_, ?_⟩, ?_⟩
    · rw [entered.2.2, Device.entered, List.append_assoc]
    · rw [receivedRanges_append, receivedRanges_commands]
      intro range member
      simp [receivedRanges] at member
    · intro o i array
      rw [entered.2.1, kept o array]
      exact .inl rfl
    · intro member
      simp at member
  callback := by
    rw [entered.1]
    exact store
  payload := payload

theorem interruptRequest_state : (interruptRequest efc d).state = .setup := by
  by_cases idle : d.state = .setup
  · rwa [interruptRequest_setup efc idle]
  · rw [interruptRequest, if_pos idle]
    rfl

/-- Accepted or not, a request leaves its OUT data nothing but its payload to go to. -/
theorem serving_payload {whole : Pointer × Nat} (small : whole.2 < 65536)
    (payload : ∀ h, udcDecode inputs ((interruptRequest efc d).handling req) = some h →
      req.isIn = false → req.wLength ≠ 0 → PayloadIs whole h) (outNow : Bool) :
    Serving whole req.writesTable (interruptRequest efc d)
      (setupReceived efc { req := req, inputs := inputs } outNow d) := by
  have idle : (interruptRequest efc d).state = .setup := interruptRequest_state efc
  -- no data stage is open before `startStages`
  have waiting {h : Handling} (data : ((interruptRequest efc d).entered efc req h).state = .dataOut) :
      False := by
    rw [show ((interruptRequest efc d).entered efc req h).state = _ from idle] at data
    cases data
  cases accepted : udcDecode inputs ((interruptRequest efc d).handling req) with
  | none =>
    rw [setupReceived_refused efc { req := req, inputs := inputs } outNow rfl accepted]
    apply Serving.stallData
    apply serving_entered efc (fun _ _ => rfl) _ ⟨rfl, rfl, rfl⟩ fun data => (waiting data).elim
    intro store
    cases store
  | some h =>
    rw [setupReceived_accepted efc { req := req, inputs := inputs } outNow rfl accepted]
    obtain ⟨same, kept, store⟩ := udcDecode_keeps accepted
    have direction : ((interruptRequest efc d).entered efc req h).ctrlreq.req = req := same
    unfold startStages
    rw [direction]
    split_ifs with isIn empty
    · apply Serving.inSent efc _ small
      exact serving_entered efc kept store ⟨rfl, rfl, rfl⟩ (fun data => EpState.noConfusion data)
    · apply Serving.sendZlpIn
      exact serving_entered efc kept store ⟨rfl, rfl, rfl⟩ fun data => (waiting data).elim
    · -- an OUT data stage
      refine serving_entered efc kept store ⟨rfl, rfl, rfl⟩ fun _ => ?_
      have range := payload h accepted (Bool.eq_false_of_not_eq_true isIn) empty
      exact ⟨range.1, Nat.zero_le _, range.2⟩

/-- The OUT data of a vendor request go to the range that the request names. -/
theorem serving_setup (vendor : req.isVendor = true) (outNow : Bool) :
    Serving (req.target (interruptRequest efc d).mem) req.writesTable (interruptRequest efc d)
      (setupReceived efc { req := req, inputs := inputs } outNow d) := by
  apply serving_payload efc (target_small req _)
  intro h accepted isIn empty
  have known := udcDecode_known vendor accepted
  have target : req.target (interruptRequest efc d).mem = req.range (interruptRequest efc d).mem := by
    simp only [SetupReq.target, isIn, empty, known, or_self, if_false, Bool.false_eq_true]
  rw [target]
  exact udcDecode_range vendor accepted

/-- Until the next request, nothing is written but `target`, and the serial number by a store. -/
theorem run_serving (vendor : req.isVendor = true) {status : CtrlStatus}
    (setup : status.setup = some { req := req, inputs := inputs }) {events : List Event}
    (noRequest : ∀ event ∈ events, NoRequest event) :
    Serving (req.target (interruptRequest efc d).mem) req.writesTable (interruptRequest efc d)
      (run (step efc) d (.control status :: events)) := by
  have start : Serving (req.target (interruptRequest efc d).mem) req.writesTable
      (interruptRequest efc d) (step efc d (.control status)) := by
    simp only [step, ctrlInterrupt, setup]
    exact serving_setup efc vendor status.outNow
  exact start.run efc (target_small req _) noRequest

theorem filledBy_eq (d : Device σ) : filledBy inputs req d =
    match udcDecode inputs (d.handling req) with
    | some h => h.filled
    | none => [] := by
  have clear : Handling.clear ⟨{ d.ctrlreq with req := req }, d.mem, [], []⟩ = d.handling req := rfl
  unfold filledBy udcProcessSetup
  rw [clear]
  cases udcDecode inputs (d.handling req) with
  | none => rfl
  | some h => rfl

theorem filledBy_within (vendor : req.isVendor = true)
    (room : req.bRequest = 0x17 → req.isIn = true ∧ req.wLength = 0 ∨ req.wIndex.toNat % 256 ≤ 64) :
    ∀ range ∈ filledBy inputs req d, Within range.1 range.2 range.1.object := by
  rw [filledBy_eq]
  cases accepted : udcDecode inputs (d.handling req) with
  | none => simp
  | some h =>
    have asks := udcDecode_asks accepted
    apply mainSetupHandle_filled inputs (mainSetupHandle_accepted vendor accepted)
    · intro _ code
      apply (room code).resolve_left
      exact fun empty => asks empty.1 empty.2
    · intro range member
      cases member

/-- What has been received since the request has gone into `target`. -/
theorem Serving.received_within {whole : Pointer × Nat} {writes : Bool} {before d : Device σ}
    (serving : Serving whole writes before d)
    (room : whole.2 = 0 ∨ whole.1.offset + whole.2 ≤ whole.1.object.size) :
    ∀ range ∈ receivedRanges (d.trace.drop before.trace.length),
      Within range.1 range.2 range.1.object := by
  obtain ⟨later, confined, -⟩ := serving.confined
  rw [confined.trace, List.drop_left]
  exact fun range member => (confined.received range member).within room

/-! ## Requests that overwrite nothing -/

theorem kept_notScratch {o : Object} (kept : o.isKept = true) : o.isScratch = false := by
  cases o <;> first | rfl | cases kept

/-- OUT data of a harmless request goes to an array that is not kept or lies in the flash, and has
    room for it. -/
theorem harmless_target (mem : Memory) (vendor : req.isVendor = true)
    (noWrite : req.writesTable = false) (harmless : req.Harmless mem) :
    (req.target mem).2 = 0 ∨
      ((req.target mem).1.object.isKept = false ∨ (req.target mem).1.object.inFlash = true) ∧
        (req.target mem).1.offset + (req.target mem).2 ≤ (req.target mem).1.object.size := by
  unfold SetupReq.target
  split_ifs with closed
  · exact .inl rfl
  · have noRead : ¬ req.Reads mem := fun reads =>
      closed ((harmless.direction reads).imp_right .inl)
    have notWrite : ¬ (req.isVendor = true ∧ (req.bRequest.toNat = 2 ∨ req.bRequest.toNat = 5)) := by
      rw [← writesTable_iff, noWrite]
      exact Bool.false_ne_true
    have byte {code : UInt8} (same : req.bRequest.toNat = code.toNat) : req.bRequest = code :=
      UInt8.toNat_inj.mp same
    unfold SetupReq.range rangeOf
    split
    case h_1 code =>
      split_ifs with hw fw
      · exact absurd (.inl ⟨byte code, hw⟩) noRead
      · exact .inr ⟨.inr rfl, by decide⟩
      · exact .inl rfl
    case h_2 code => exact absurd (.inr (.inl (byte code))) noRead
    case h_3 code => exact absurd ⟨vendor, .inl code⟩ notWrite
    case h_4 code => exact absurd ⟨vendor, .inr code⟩ notWrite
    -- 0x17: the low byte of `wIndex` is the size
    case h_5 code =>
      refine .inr ⟨.inl rfl, ?_⟩
      have room := (harmless.room (byte code)).resolve_left fun empty => closed (.inl empty.1)
      show 0 + req.wIndex.toNat % 256 ≤ 64
      omega
    case h_6 => exact .inr ⟨.inl rfl, by decide⟩
    case h_7 => exact .inr ⟨.inl rfl, by decide⟩
    case h_8 => exact .inr ⟨.inl rfl, by decide⟩
    case h_9 code =>
      split_ifs with known
      · refine .inl (Nat.min_eq_zero_iff.mpr (.inr ?_))
        by_contra some
        exact noRead (.inr (.inr ⟨byte code, known, some⟩))
      · exact .inl rfl
    case h_10 => exact .inl rfl

theorem untouched_of_harmless (vendor : req.isVendor = true) (noWrite : req.writesTable = false)
    (harmless : req.Harmless (interruptRequest efc d).mem) {status : CtrlStatus}
    (setup : status.setup = some { req := req, inputs := inputs }) {events : List Event}
    (noRequest : ∀ event ∈ events, NoRequest event) :
    Untouched (filledBy inputs req (interruptRequest efc d)) (interruptRequest efc d)
      (run (step efc) d (.control status :: events)) := by
  have serving := run_serving efc (d := d) vendor setup noRequest
  have target := harmless_target _ vendor noWrite harmless
  constructor
  · intro o kept i inside
    obtain ⟨later, confined, stored⟩ := serving.confined
    rcases confined.mem o i (kept_notScratch kept) with same | written | serial
    · exact same
    · cases target with
      | inl empty => omega
      | inr other =>
        rw [← written.1, kept, written.2.1] at other
        exact absurd other.1 (by simp)
    · have writes := stored serial.2
      rw [noWrite] at writes
      cases writes
  · intro range member
    cases List.mem_append.mp member with
    | inl filled => exact filledBy_within vendor harmless.room range filled
    | inr received => exact serving.received_within (target.imp_right And.right) range received

/-- A write within the table changes the addressed bytes, and the serial number by a store. -/
theorem onlyAddressed_of_inBounds (vendor : req.isVendor = true) (writes : req.writesTable = true)
    (inRange : req.tableOffset + req.wLength.toNat ≤ 256) {status : CtrlStatus}
    (setup : status.setup = some { req := req, inputs := inputs }) {events : List Event}
    (noRequest : ∀ event ∈ events, NoRequest event) :
    OnlyAddressed req (filledBy inputs req (interruptRequest efc d)) (interruptRequest efc d)
      (run (step efc) d (.control status :: events)) := by
  have serving := run_serving efc (d := d) vendor setup noRequest
  obtain ⟨later, confined, -⟩ := serving.confined
  have object : (req.target (interruptRequest efc d).mem).1.object = .flashTable ∧
      (req.target (interruptRequest efc d).mem).1.offset = req.tableOffset ∧
      (req.target (interruptRequest efc d).mem).2 ≤ req.wLength.toNat := by
    have range : req.range (interruptRequest efc d).mem =
        (⟨.flashTable, req.tableOffset⟩, req.wLength.toNat) := by
      cases ((writesTable_iff req).mp writes).2 with
      | inl table =>
        have code : req.bRequest = 0x02 := UInt8.toNat_inj.mp table
        simp [SetupReq.range, SetupReq.tableOffset, rangeOf, code]
      | inr serial =>
        have code : req.bRequest = 0x05 := UInt8.toNat_inj.mp serial
        simp [SetupReq.range, SetupReq.tableOffset, rangeOf, code]
    unfold SetupReq.target
    rw [range]
    split_ifs
    · exact ⟨rfl, rfl, Nat.zero_le _⟩
    · exact ⟨rfl, rfl, Nat.le_refl _⟩
  have place (o : Object) (i : Nat) (kept : o.isKept = true) :=
    confined.mem o i (kept_notScratch kept)
  constructor
  · intro o kept table serial i inside
    rcases place o i kept with same | written | stored
    · exact same
    · exact absurd (written.1.trans object.1) table
    · exact absurd stored.1 serial
  · intro i inside outside
    rcases place .flashTable i rfl with same | written | stored
    · exact same
    · omega
    · cases stored.1
  · intro noStore i inside
    rw [confined.trace, List.drop_left] at noStore
    rcases place .serialNumber i rfl with same | written | stored
    · exact same
    · rw [object.1] at written
      cases written.1
    · exact absurd rfl (noStore _ stored.2)
  · intro range member
    cases List.mem_append.mp member with
    | inl filled =>
      apply filledBy_within vendor _ range filled
      intro code
      simp [SetupReq.writesTable, code] at writes
    | inr received =>
      apply serving.received_within _ range received
      rw [object.1]
      exact .inr (show _ ≤ 256 by omega)

/-! ## Requests that overwrite something -/

/-- The ADM1177 sends as many bytes as are asked for. -/
theorem twiMasterRead_full (n cnt : Nat) (enough : cnt ≤ n) {timeout : Nat} (time : timeout ≠ 0) :
    (twiMasterRead (List.replicate n ⟨false, some 0⟩) cnt timeout).length = cnt := by
  induction n generalizing cnt timeout with
  | zero =>
    rw [Nat.le_zero.mp enough]
    rfl
  | succ n ih =>
    cases cnt with
    | zero => rfl
    | succ cnt =>
      rw [List.replicate_succ, twiMasterRead]
      simp only [Bool.false_eq_true, if_false, time, List.length_cons]
      rw [ih cnt (Nat.le_of_succ_le_succ enough) (by decide)]

/-- Request 0x17 fills more than `ret_data` when it is asked for more. -/
theorem filledBy_overrun (d : Device σ) (vendor : req.isVendor = true) (code : req.bRequest = 0x17)
    (asks : req.isIn = true → req.wLength ≠ 0) (long : 64 < req.wIndex.toNat % 256) :
    ∃ inputs, ∃ range ∈ filledBy inputs req d, ¬ Within range.1 range.2 range.1.object := by
  have filled := twiMasterRead_full 256 (req.wIndex &&& 0xFF).toNat
    (by rw [low_byte]; omega) (show 15000 ≠ 0 by decide)
  refine ⟨{ twi := List.replicate 256 ⟨false, some 0⟩ },
    (Object.retData.base, (req.wIndex &&& 0xFF).toNat), ?_, ?_⟩
  · have handled := mainSetupHandle_readAdm1177 { twi := List.replicate 256 ⟨false, some 0⟩ }
      (h := d.handling req) vendor code
    rw [filledBy_eq, udcDecode_vendor _ (h := d.handling req) vendor asks, handled]
    show _ ∈ (Handling.answer _ _ _).filled
    rw [filled_answer, readAdm1177, filled_command, filled_fill]
    apply List.mem_append_right
    rw [List.mem_singleton, ← filled]
    rfl
  · intro within
    have last := (within 64 (by rw [low_byte]; omega)).2
    exact absurd (show 64 < 64 from last) (Nat.lt_irrefl 64)

/-- A read with OUT data has a target in the arrays that are kept. -/
theorem reads_range {mem : Memory} (reads : req.Reads mem) (some : req.wLength ≠ 0) :
    ((req.range mem).1.object.isKept = true ∧ (req.range mem).1.object.inFlash = false) ∧
      (req.range mem).2 ≠ 0 := by
  have length : req.wLength.toNat ≠ 0 := fun none => some (UInt16.toNat_inj.mp none)
  rcases reads with ⟨code, index⟩ | code | ⟨code, index, long⟩
  · simp [SetupReq.range, rangeOf, code, index, Object.base, Object.isKept, Object.inFlash]
  · simp [SetupReq.range, rangeOf, code, Object.isKept, Object.inFlash, length]
  · simp [SetupReq.range, rangeOf, code, index, Object.base, Object.isKept, Object.inFlash, length, long]

/-- A first packet of one byte. -/
theorem outReceived_byte (stage : d.state = .dataOut) (first : d.payloadBufCnt = 0)
    (size : d.ctrlreq.payloadSize ≠ 0) (small : d.ctrlreq.payloadSize < 65536) (byte : UInt8) :
    (outReceived efc [byte] d).mem = d.mem.put d.ctrlreq.payload [byte] ∧
      (outReceived efc [byte] d).trace =
        d.trace ++ [.received d.ctrlreq.payload [byte]] ++ [.zlpIn] := by
  have one : min [byte].length (d.ctrlreq.payloadSize - d.payloadBufCnt) = 1 := by
    rw [first, List.length_singleton]
    omega
  have start : d.ctrlreq.payload.add d.payloadBufCnt = d.ctrlreq.payload := by
    rw [first]
    rfl
  rw [outReceived_data efc stage (by omega) small, one, outCopied_eq, if_pos (.inl (by decide)),
    copied_whole (by rw [first, List.length_singleton]; omega), start]
  exact ⟨rfl, rfl⟩

/-- One byte of OUT data of a read: it is stored over the first byte of what would be read. -/
theorem overwritten (d : Device σ) (vendor : req.isVendor = true)
    (reads : req.Reads (interruptRequest efc d).mem) (out : req.isIn = false) (some : req.wLength ≠ 0) (byte : UInt8) :
    ∃ status : CtrlStatus, status.setup = .some { req := req } ∧
      (run (step efc) d [.control status, .control { out := .some [byte] }]).mem
        (req.range (interruptRequest efc d).mem).1.object
          (req.range (interruptRequest efc d).mem).1.offset = byte ∧
      ((req.range (interruptRequest efc d).mem).1, 1) ∈ receivedRanges
        ((run (step efc) d [.control status, .control { out := .some [byte] }]).trace.drop
          (interruptRequest efc d).trace.length) := by
  have asks : req.isIn = true → req.wLength ≠ 0 := fun _ => some
  have known : ¬ (req.isVendor = true ∧ req.bRequest = 0x30 ∧ req.wIndex ≠ 4) := by
    rintro ⟨-, code, index⟩
    rcases reads with read | read | read
    · exact absurd (code.symm.trans read.1) (by decide)
    · exact absurd (code.symm.trans read) (by decide)
    · exact index read.2.1
  obtain ⟨h, handled⟩ := Option.isSome_iff_exists.mp
    ((mainSetupHandle_accepts {} ((interruptRequest efc d).handling req)).mpr known)
  rw [← udcDecode_vendor {} (h := (interruptRequest efc d).handling req) vendor asks] at handled
  have range := udcDecode_range vendor handled
  have same := (udcDecode_keeps handled).1
  -- the endpoint when it waits for the data
  have setup : step efc d (.control { setup := .some { req := req } }) =
      { (interruptRequest efc d).entered efc req h with
        prevPayloadBufCnt := 0, payloadBufCnt := 0, state := .dataOut } := by
    simp only [step, ctrlInterrupt]
    rw [setupReceived_accepted efc { req := req } false rfl handled, startStages,
      show ((interruptRequest efc d).entered efc req h).ctrlreq.req = req from same, out,
      if_neg Bool.false_ne_true, if_neg some]
  obtain ⟨⟨-, ram⟩, size⟩ := reads_range reads some
  have small := range_small req (interruptRequest efc d).mem
  have received := outReceived_byte efc (d := { (interruptRequest efc d).entered efc req h with
    prevPayloadBufCnt := 0, payloadBufCnt := 0, state := .dataOut }) rfl rfl
    (by rw [← range.1] at size; exact size) (by rw [← range.1] at small; exact small) byte
  have payload : h.ctrlreq.payload = (req.range (interruptRequest efc d).mem).1 := range.2 size
  refine ⟨{ setup := .some { req := req } }, rfl, ?_⟩
  rw [run_cons, run_cons, run_nil, setup, step_out, received.1, received.2]
  simp only [Device.entered, payload]
  constructor
  · rw [Memory.put_same _ ram]
    exact Function.update_self _ _ _
  · rw [List.append_assoc, List.append_assoc, List.append_assoc, List.drop_left,
      receivedRanges_append, receivedRanges_append, receivedRanges_append]
    simp [receivedRanges]

end Request

/-! ## Writes and other requests -/

/-- Any vendor request but 0x02 and 0x05 leaves the arrays alone, whatever OUT data follows, exactly
    when it is harmless; a write request within the table changes what it addresses. -/
theorem only_writes_write_iff (efc : Efc σ) (d : Device σ) (req : SetupReq)
    (vendor : req.isVendor = true) :
    (req.writesTable = false →
      ((∀ status inputs events, status.setup = some { req := req, inputs := inputs } →
          (∀ event ∈ events, NoRequest event) →
            Untouched (filledBy inputs req (interruptRequest efc d)) (interruptRequest efc d)
              (run (step efc) d (.control status :: events))) ↔
        req.Harmless (interruptRequest efc d).mem)) ∧
    (req.writesTable = true → req.tableOffset + req.wLength.toNat ≤ 256 →
      ∀ status inputs events, status.setup = some { req := req, inputs := inputs } →
        (∀ event ∈ events, NoRequest event) →
          OnlyAddressed req (filledBy inputs req (interruptRequest efc d)) (interruptRequest efc d)
            (run (step efc) d (.control status :: events))) := by
  constructor
  · intro noWrite
    constructor
    · intro untouched
      constructor
      · intro code
        by_contra other
        rw [not_or, Nat.not_le] at other
        have asks : req.isIn = true → req.wLength ≠ 0 := fun read empty => other.1 ⟨read, empty⟩
        -- 0x17 fills beyond `ret_data`, for a chip that sends all that is asked
        obtain ⟨inputs, range, filled, out⟩ :=
          filledBy_overrun (interruptRequest efc d) vendor code asks other.2
        have whole := untouched { setup := some { req := req, inputs := inputs } } inputs [] rfl
          (by simp)
        exact out (whole.inside range (List.mem_append_left _ filled))
      · intro reads
        by_contra other
        rw [not_or, Bool.not_eq_true] at other
        -- a read with OUT data: one byte, chosen to differ from what is there
        have differs : ∃ byte, byte ≠
            (interruptRequest efc d).mem (req.range (interruptRequest efc d).mem).1.object
              (req.range (interruptRequest efc d).mem).1.offset :=
          ⟨(interruptRequest efc d).mem (req.range (interruptRequest efc d).mem).1.object
            (req.range (interruptRequest efc d).mem).1.offset + 1, by simp⟩
        obtain ⟨byte, changed⟩ := differs
        obtain ⟨status, setup, stored, received⟩ :=
          overwritten efc d vendor reads other.1 other.2 byte
        have whole := untouched status {} [.control { out := some [byte] }] setup
          (by simp [NoRequest])
        have place := (whole.inside _ (List.mem_append_right _ received) 0 Nat.one_pos).2
        have same := whole.kept _ (reads_range reads other.2).1.1 _ place
        exact changed (stored.symm.trans same)
    · intro harmless status inputs events setup noRequest
      exact untouched_of_harmless efc vendor noWrite harmless setup noRequest
  · intro writes inRange status inputs events setup noRequest
    exact onlyAddressed_of_inBounds efc vendor writes inRange setup noRequest

/-- A read of the firmware version, from its setup to its status stage. -/
theorem only_writes_write_fwversion :
    Untouched
      (filledBy {} ⟨0xC0, 0x00, 0, 1, 5⟩ (interruptRequest (flashChip fun _ => 0)
        (boot (flashChip fun _ => 0) true { bytes := fun _ => 0 })))
      (interruptRequest (flashChip fun _ => 0)
        (boot (flashChip fun _ => 0) true { bytes := fun _ => 0 }))
      (run (step (flashChip fun _ => 0)) (boot (flashChip fun _ => 0) true { bytes := fun _ => 0 })
        [.control { setup := some { req := ⟨0xC0, 0x00, 0, 1, 5⟩ } }, .control { inSent := true },
          .control { out := some [] }]) := by
  have untouched_iff := only_writes_write_iff (flashChip fun _ => 0)
    (boot (flashChip fun _ => 0) true { bytes := fun _ => 0 }) ⟨0xC0, 0x00, 0, 1, 5⟩ rfl
  have harmless : SetupReq.Harmless ⟨0xC0, 0x00, 0, 1, 5⟩ (interruptRequest (flashChip fun _ => 0)
      (boot (flashChip fun _ => 0) true { bytes := fun _ => 0 })).mem := by
    constructor
    · intro code
      cases code
    · exact fun _ => .inl rfl
  exact (untouched_iff.1 rfl).mpr harmless _ {} _ rfl (by simp [NoRequest])

/-- Request 0x01, which reads the table, with OUT data: the first byte of the table is overwritten
    when the request has ended. -/
theorem read_overwrites_table :
    (run (step (flashChip fun _ => 0)) (boot (flashChip fun _ => 0) true { bytes := fun _ => 0 })
      [.control { setup := some { req := ⟨0x40, 0x01, 0, 0, 1⟩ } }, .control { out := some [0xAA] },
        .control { inSent := true }]).state = .setup ∧
    (run (step (flashChip fun _ => 0)) (boot (flashChip fun _ => 0) true { bytes := fun _ => 0 })
      [.control { setup := some { req := ⟨0x40, 0x01, 0, 0, 1⟩ } }, .control { out := some [0xAA] },
        .control { inSent := true }]).mem .flashTable 0 = 0xAA ∧
    (boot (flashChip fun _ => 0) true { bytes := fun _ => 0 }).mem .flashTable 0 = 0 :=
  ⟨by decide +kernel, by decide +kernel, by decide +kernel⟩

end M1k.Control
