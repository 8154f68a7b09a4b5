import M1k.Control.ReadLengths
import Mathlib.Logic.Function.Iterate

/-! # Replies and what came before them

Two devices whose arrays hold the same, and the same request: the host sees the same reply, unless
it is empty and the flag that the last reply has left behind differs. -/

namespace M1k.Control

open Library Library.Runs

variable {σ : Type*}

/-! ## Handling a request -/

/-- The two have handled the same request alike; where an empty payload lies does not matter. -/
structure Alike (h h' : Handling) : Prop where
  req : h'.ctrlreq.req = h.ctrlreq.req
  mem : h'.mem = h.mem
  size : h'.ctrlreq.payloadSize = h.ctrlreq.payloadSize
  payload : h.ctrlreq.payloadSize ≠ 0 → h'.ctrlreq.payload = h.ctrlreq.payload

theorem alike_fill {h h' : Handling} (alike : Alike h h') (dest : Pointer) (bytes : List UInt8) :
    Alike (h.fill dest bytes) (h'.fill dest bytes) where
  req := alike.req
  mem := by simp only [Handling.fill, alike.mem]
  size := alike.size
  payload := alike.payload

theorem alike_command {h h' : Handling} (alike : Alike h h') (commands : List Command) :
    Alike (h.command commands) (h'.command commands) :=
  { alike with }

theorem alike_answer {h h' : Handling} (alike : Alike h h') (ptr : Pointer) (size : Nat) :
    Alike (h.answer ptr size) (h'.answer ptr size) := by
  unfold Handling.answer
  split_ifs with empty
  · exact { alike with
      size := rfl
      payload := fun some => absurd empty some }
  · exact { alike with
      size := rfl
      payload := fun _ => rfl }

theorem alike_setLeds {h h' : Handling} (alike : Alike h h') : Alike (setLeds h) (setLeds h') := by
  simp only [setLeds, alike.req, alike.mem]
  split_ifs <;> exact alike_command alike _

theorem alike_readAdm1177 {h h' : Handling} (alike : Alike h h') (inputs : Inputs) (dest : Pointer)
    (length : Nat) : Alike (readAdm1177 inputs dest length h) (readAdm1177 inputs dest length h') := by
  simp only [readAdm1177, alike.mem]
  exact alike_command (alike_fill alike _ _) _

theorem alike_getSampleAd7682 {h h' : Handling} (alike : Alike h h')
    (conversions : Fin 3 → UInt8 × UInt8) (data : Pointer) :
    Alike (getSampleAd7682 conversions data h) (getSampleAd7682 conversions data h') := by
  apply alike_fill
  apply alike_fill
  exact alike_fill alike _ _

/-- Whatever is left over in the request record makes no difference to a request. -/
theorem mainSetupHandle_alike (inputs : Inputs) {h h' : Handling} (alike : Alike h h') :
    Option.Rel Alike (mainSetupHandle inputs h) (mainSetupHandle inputs h') := by
  unfold mainSetupHandle
  simp only [alike.req]
  cases h.ctrlreq.req.isVendor with
  | false => exact .some (alike_answer alike _ _)
  | true =>
    simp only [if_true]
    split
    case h_1 => split_ifs <;> exact .some (alike_answer alike _ _)
    case h_3 | h_5 =>
      rw [writeFlashTable, writeFlashTable, alike.req]
      exact .some { alike with
        size := rfl
        payload := fun _ => rfl }
    case h_4 => exact .some (alike_setLeds alike)
    case h_6 => exact .some (alike_answer (alike_readAdm1177 alike inputs _ _) _ _)
    case h_7 =>
      apply Option.Rel.some
      apply alike_answer
      apply alike_getSampleAd7682
      apply alike_getSampleAd7682
      exact alike_getSampleAd7682 alike _ _
    case h_16 => exact .some (alike_answer (alike_fill (alike_command alike _) _ _) _ _)
    case h_21 => exact .some (alike_answer (alike_fill alike _ _) _ _)
    case h_23 =>
      split_ifs
      · rw [alike.mem]
        exact .some (alike_answer alike _ _)
      · exact .none
    -- what has nothing to reply
    all_goals first
      | exact .some (alike_answer alike _ _)
      | exact .some (alike_answer (alike_command alike _) _ _)

/-! ## What the host sees -/

inductive Wire where
  | data (bytes : List UInt8)
  | stall
  deriving DecidableEq

def wire (trace : List Obs) : List Wire :=
  trace.filterMap fun
    | .sent _ bytes => some (.data bytes)
    | .zlpIn => some (.data [])
    | .stall => some .stall
    | .setup _ _ _ | .command _ | .received _ _ | .stored => none

theorem wire_append (first second : List Obs) : wire (first ++ second) = wire first ++ wire second :=
  List.filterMap_append

theorem wire_commands (commands : List Command) : wire (commands.map .command) = [] := by
  simp [wire]

/-- An IN token: it takes the packet that is ready, or finds none. -/
def poll (efc : Efc σ) (d : Device σ) : Device σ :=
  step efc d (if d.inSendInterrupt then taken else .control { nakIn := true })

/-- What the host sees of a request and of the `n` IN tokens that follow. -/
def wireReply (efc : Efc σ) (d : Device σ) (packet : SetupPacket) (n : Nat) : List Wire :=
  (wire ((poll efc)^[n] (step efc d (.control { setup := some packet }))).trace).drop
    (wire d.trace).length

/-! ## Two devices in step -/

/-- The two devices are in the same stage of the same reply; `before` and `before'` is what the
    host had seen of each. -/
structure Twins (before before' : List Wire) (d d' : Device σ) : Prop where
  req : d'.ctrlreq.req = d.ctrlreq.req
  mem : d'.mem = d.mem
  size : d'.ctrlreq.payloadSize = d.ctrlreq.payloadSize
  payload : d.ctrlreq.payloadSize ≠ 0 → d'.ctrlreq.payload = d.ctrlreq.payload
  state : d'.state = d.state
  prev : d'.prevPayloadBufCnt = d.prevPayloadBufCnt
  count : d'.payloadBufCnt = d.payloadBufCnt
  short : d'.bShortpacket = d.bShortpacket
  pending : d'.inSendInterrupt = d.inSendInterrupt
  reading : d.state = .dataIn ∨ d.state = .handshakeWaitOutZlp ∨ d.state = .stallReq
  counted : d.payloadBufCnt ≤ d.ctrlreq.payloadSize
  small : d.ctrlreq.payloadSize < 65536
  seen : ∃ log, wire d.trace = before ++ log ∧ wire d'.trace = before' ++ log

section Steps

variable (efc : Efc σ) {before before' : List Wire} {d d' : Device σ}

theorem twins_sendNext (twins : Twins before before' d d') (remain : Nat)
    (left : remain = d.ctrlreq.payloadSize - d.payloadBufCnt) (prev : Nat) :
    Twins before before'
      (sendNext false remain { d with inSendInterrupt := false, prevPayloadBufCnt := prev })
      (sendNext false remain { d' with inSendInterrupt := false, prevPayloadBufCnt := prev }) := by
  have counted := twins.counted
  have small := twins.small
  have count : (d.payloadBufCnt + min remain 64) % 65536 = d.payloadBufCnt + min remain 64 :=
    Nat.mod_eq_of_lt (by omega)
  -- an empty packet is the same wherever it is taken from
  have bytes : d'.mem.slice (d'.ctrlreq.payload.add d'.payloadBufCnt) (min remain 64) =
      d.mem.slice (d.ctrlreq.payload.add d.payloadBufCnt) (min remain 64) := by
    by_cases empty : d.ctrlreq.payloadSize = 0
    · rw [show min remain 64 = 0 by omega]
      rfl
    · rw [twins.mem, twins.payload empty, twins.count]
  obtain ⟨log, seen, seen'⟩ := twins.seen
  rw [sendNext_sent, sendNext_sent]
  exact {
    req := twins.req
    mem := twins.mem
    size := twins.size
    payload := twins.payload
    state := twins.state
    prev := rfl
    count := by simp only [twins.count]
    short := rfl
    pending := rfl
    reading := twins.reading
    counted := by simp only [count]; omega
    small := small
    seen := by
      refine ⟨log ++ [.data (d.mem.slice (d.ctrlreq.payload.add d.payloadBufCnt) (min remain 64))],
        ?_, ?_⟩
      · rw [wire_append, seen, List.append_assoc]
        rfl
      · rw [wire_append, seen', List.append_assoc]
        simp only [bytes]
        rfl }

theorem twins_inSent (twins : Twins before before' d d') :
    Twins before before' (inSent efc false d) (inSent efc false d') := by
  have noHandshake : d.state ≠ .handshakeWaitInZlp := by
    rcases twins.reading with at_ | at_ | at_ <;> simp [at_]
  have noHandshake' : d'.state ≠ .handshakeWaitInZlp := by rw [twins.state]; exact noHandshake
  have left := sub16_eq twins.counted twins.small
  have left' : sub16 d'.ctrlreq.payloadSize d'.payloadBufCnt =
      d.ctrlreq.payloadSize - d.payloadBufCnt := by rw [twins.size, twins.count, left]
  have prev : (d'.prevPayloadBufCnt + d'.payloadBufCnt) % 65536 =
      (d.prevPayloadBufCnt + d.payloadBufCnt) % 65536 := by rw [twins.prev, twins.count]
  have short : (d'.bShortpacket = true) = (d.bShortpacket = true) := by rw [twins.short]
  rw [inSent_data efc false noHandshake, inSent_data efc false noHandshake', left, left', prev,
    twins.req]
  simp only [short]
  split_ifs with last complete
  · -- the reply is complete: the host acknowledges it
    exact { twins with
      state := rfl
      prev := rfl
      pending := rfl
      reading := .inr (.inl rfl) }
  · -- a full last packet is followed by an empty one
    exact twins_sendNext twins 0 last.symm _
  · have same : { d' with inSendInterrupt := false, prevPayloadBufCnt := d.prevPayloadBufCnt } =
        { d' with inSendInterrupt := false } := by
      rw [← twins.prev]
    rw [← same]
    exact twins_sendNext twins _ rfl d.prevPayloadBufCnt

theorem step_nak (d : Device σ) : step efc d (.control { nakIn := true }) = underflow false d := by
  simp [step, ctrlInterrupt]

theorem poll_ready (ready : d.inSendInterrupt = true) : poll efc d = inSent efc false d := by
  rw [poll, if_pos ready, step_taken efc ready]

theorem poll_empty (empty : d.inSendInterrupt = false) : poll efc d = underflow false d := by
  simp [poll, empty, step_nak]

theorem twins_poll (twins : Twins before before' d d') :
    Twins before before' (poll efc d) (poll efc d') := by
  cases ready : d.inSendInterrupt with
  | true =>
    rw [poll_ready efc ready, poll_ready efc (twins.pending.trans ready)]
    exact twins_inSent efc twins
  | false =>
    rw [poll_empty efc ready, poll_empty efc (twins.pending.trans ready)]
    simp only [underflow, twins.state, Bool.false_eq_true, if_false]
    obtain ⟨log, seen, seen'⟩ := twins.seen
    rcases twins.reading with at_ | at_ | at_
    · simp only [at_, reduceCtorEq, if_false]
      exact twins
    · simp only [at_, reduceCtorEq, if_false, if_true]
      exact { twins with
        seen := by
          refine ⟨log ++ [.stall], ?_, ?_⟩
          · rw [Device.observe, wire_append, seen, List.append_assoc]
            rfl
          · rw [Device.observe, wire_append, seen', List.append_assoc]
            rfl }
    · simp only [at_, reduceCtorEq, if_false]
      exact twins

theorem twins_polls (twins : Twins before before' d d') (n : Nat) :
    Twins before before' ((poll efc)^[n] d) ((poll efc)^[n] d') := by
  -- over the IN tokens
  induction n generalizing d d' with
  | zero => exact twins
  | succ n ih =>
    rw [Function.iterate_succ_apply, Function.iterate_succ_apply]
    exact ih (twins_poll efc twins)

/-- The first packet of a reply that is not empty, or of an empty one after equal flags. -/
theorem twins_startStages (start start' : Device σ) (req : start'.ctrlreq.req = start.ctrlreq.req)
    (mem : start'.mem = start.mem) (size : start'.ctrlreq.payloadSize = start.ctrlreq.payloadSize)
    (payload : start.ctrlreq.payloadSize ≠ 0 → start'.ctrlreq.payload = start.ctrlreq.payload)
    (small : start.ctrlreq.payloadSize < 65536) (direction : start.ctrlreq.req.isIn = true)
    (asks : start.ctrlreq.req.wLength ≠ 0)
    (flags : start.ctrlreq.payloadSize ≠ 0 ∨ start'.bShortpacket = start.bShortpacket) :
    Twins (wire start.trace) (wire start'.trace) (startStages efc false start)
      (startStages efc false start') := by
  have direction' : start'.ctrlreq.req.isIn = true := by rw [req]; exact direction
  have asks' : start'.ctrlreq.req.wLength ≠ 0 := by rw [req]; exact asks
  by_cases ready : 0 < start.ctrlreq.payloadSize ∨ start.bShortpacket = false
  · have ready' : 0 < start'.ctrlreq.payloadSize ∨ start'.bShortpacket = false := by
      rw [size]
      rcases ready with some | clear
      · exact .inl some
      · rcases flags with some | flag
        · exact .inl (Nat.pos_of_ne_zero some)
        · exact .inr (flag.trans clear)
    -- the first packet goes out at once, on both devices
    have packet : wire [start'.replyPacket 0] = wire [start.replyPacket 0] := by
      have bytes : start'.mem.slice (start'.ctrlreq.payload.add (64 * 0))
          (min (start'.ctrlreq.payloadSize - 64 * 0) 64) =
          start.mem.slice (start.ctrlreq.payload.add (64 * 0))
            (min (start.ctrlreq.payloadSize - 64 * 0) 64) := by
        by_cases empty : start.ctrlreq.payloadSize = 0
        · rw [size, empty]
          rfl
        · rw [size, mem, payload empty]
      simp only [Device.replyPacket, bytes, wire, List.filterMap_cons]
    rw [startStages_replying efc direction asks small ready,
      startStages_replying efc direction' asks' (by rw [size]; exact small) ready']
    exact {
      req := req
      mem := mem
      size := size
      payload := payload
      state := rfl
      prev := rfl
      count := by simp only [Device.replying, size]
      short := by simp only [Device.replying, size]
      pending := rfl
      reading := .inl rfl
      counted := Nat.min_le_left _ _
      small := small
      seen := by
        refine ⟨wire [start.replyPacket 0], wire_append _ _, ?_⟩
        rw [← packet]
        exact wire_append _ _ }
  · -- no payload, and the flag of an earlier reply: no packet is sent at all
    have empty : start.ctrlreq.payloadSize = 0 := by omega
    have stale : start.bShortpacket = true := by
      cases flag : start.bShortpacket with
      | true => rfl
      | false => exact absurd (.inr flag) ready
    have flag : start'.bShortpacket = start.bShortpacket := by
      cases flags with
      | inl some => exact absurd empty some
      | inr flag => exact flag
    rw [startStages_stale efc direction empty stale,
      startStages_stale efc direction' (size.trans empty) (flag.trans stale)]
    exact {
      req := req
      mem := mem
      size := size
      payload := payload
      state := rfl
      prev := rfl
      count := rfl
      short := flag
      pending := rfl
      reading := .inr (.inl rfl)
      counted := Nat.zero_le _
      small := small
      seen := ⟨[], (List.append_nil _).symm, (List.append_nil _).symm⟩ }

/-- An empty reply after a full packet: the host finds the empty packet that it waits for. -/
theorem poll_fresh (start : Device σ) (direction : start.ctrlreq.req.isIn = true)
    (asks : start.ctrlreq.req.wLength ≠ 0) (empty : start.ctrlreq.payloadSize = 0)
    (fresh : start.bShortpacket = false) :
    wire (poll efc (startStages efc false start)).trace = wire start.trace ++ [.data []] := by
  have small : start.ctrlreq.payloadSize < 65536 := by rw [empty]; decide
  obtain ⟨prev, -, sent⟩ := inSent_replying efc 0 1 small (.inl rfl)
  have whole : ¬ 1 < packetCount start.ctrlreq.payloadSize start.ctrlreq.req.wLength.toNat := by
    rw [empty, packetCount]
    split_ifs <;> omega
  have packet : start.replyPacket 0 = .sent (start.ctrlreq.payload.add (64 * 0)) [] := by
    rw [Device.replyPacket, empty]
    rfl
  rw [startStages_replying efc direction asks small (.inr fresh), poll_ready efc rfl, sent,
    if_neg whole]
  simp only [Device.replied, Device.replying]
  rw [wire_append, List.range_one, List.map_singleton, packet]
  rfl

/-- An empty reply after a packet that was not full: the host finds a STALL. -/
theorem poll_stale (start : Device σ) (direction : start.ctrlreq.req.isIn = true)
    (empty : start.ctrlreq.payloadSize = 0) (stale : start.bShortpacket = true) :
    wire (poll efc (startStages efc false start)).trace = wire start.trace ++ [.stall] := by
  rw [startStages_stale efc direction empty stale, poll_empty efc rfl]
  simp only [underflow, Device.observe, Bool.false_eq_true, reduceCtorEq, if_false, if_true]
  exact wire_append _ _

end Steps

/-! ## Between transfers -/

/-- No packet is ready between transfers, nor in the data stage of an OUT request. -/
def Device.Quiet (d : Device σ) : Prop :=
  d.state = .setup ∨ d.state = .dataOut → d.inSendInterrupt = false

section Quiet

variable (efc : Efc σ) {d : Device σ}

theorem quiet_ctrlInit (d : Device σ) : (ctrlInit d).Quiet := fun _ => rfl

theorem quiet_of_state {d : Device σ} (other : d.state ≠ .setup ∧ d.state ≠ .dataOut) : d.Quiet := by
  rintro (at_ | at_)
  · exact absurd at_ other.1
  · exact absurd at_ other.2

theorem quiet_outCopied (quiet : d.Quiet) (nbData : Nat) : (outCopied nbData d).Quiet := by
  rw [outCopied_eq]
  split_ifs
  · exact quiet_of_state (by simp [sendZlpIn, Device.observe])
  · exact quiet_of_state (by simp [stallData, Device.observe])
  · exact quiet

theorem quiet_outReceived (quiet : d.Quiet) (packet : List UInt8) :
    (outReceived efc packet d).Quiet := by
  by_cases stage : d.state = .dataOut
  · simp only [outReceived, stage, ne_eq, not_true_eq_false, if_false]
    apply quiet_outCopied
    exact fun _ => quiet (.inr stage)
  · simp only [outReceived, ne_eq, stage, not_false_eq_true, if_true]
    split_ifs
    · exact quiet_ctrlInit _
    · exact quiet_ctrlInit _

theorem quiet_inSent (other : d.state ≠ .setup ∧ d.state ≠ .dataOut) (outNow : Bool) :
    (inSent efc outNow d).Quiet := by
  by_cases handshake : d.state = .handshakeWaitInZlp
  · rw [inSent_handshake efc outNow handshake]
    exact quiet_ctrlInit _
  · apply quiet_of_state
    cases inSent_state efc outNow handshake with
    | inl same => rw [same]; exact other
    | inr ended => rw [ended]; simp

theorem quiet_setupReceived (quiet : d.Quiet) (packet : SetupPacket) (outNow : Bool) :
    (setupReceived efc packet outNow d).Quiet := by
  have idle : (interruptRequest efc d).inSendInterrupt = false := by
    unfold interruptRequest
    split_ifs with other
    · rfl
    · exact quiet (.inl (by simpa using other))
  unfold setupReceived
  simp only
  split_ifs
  · exact quiet_of_state (by simp [stallData, Device.observe])
  · unfold startStages
    split_ifs
    · exact quiet_inSent efc (by simp) outNow
    · exact quiet_of_state (by simp [sendZlpIn, Device.observe])
    · exact fun _ => idle
  · exact quiet_of_state (by simp [stallData, Device.observe])

theorem quiet_step (quiet : d.Quiet) (event : Event) : (step efc d event).Quiet := by
  cases event with
  | reset => exact quiet_ctrlInit d
  | reboot pinHigh => exact fun _ => rfl
  | control status =>
    simp only [step, ctrlInterrupt]
    cases status.setup with
    | some packet => exact quiet_setupReceived efc quiet packet status.outNow
    | none =>
      by_cases sent : (status.inSent && d.inSendInterrupt) = true
      · have pending : d.inSendInterrupt = true := (Bool.and_eq_true_iff.mp sent).2
        simp only [sent, if_true]
        apply quiet_inSent
        constructor <;> intro at_ <;> simpa [pending] using quiet (by simp [at_])
      · simp only [sent]
        cases status.out with
        | some packet => exact quiet_outReceived efc quiet packet
        | none =>
          simp only [Bool.false_eq_true, if_false]
          split_ifs
          · unfold overflow
            split_ifs <;> exact quiet
          · unfold underflow
            split_ifs
            · exact quiet
            · exact quiet_of_state (by simp [sendZlpIn, Device.observe])
            · exact quiet
            · exact quiet
          · exact quiet

/-- Between transfers no packet is ready. -/
theorem run_quiet (pinHigh : Bool) (chip : σ) (events : List Event) :
    (run (step efc) (boot efc pinHigh chip) events).Quiet := by
  have start : (boot efc pinHigh chip).Quiet := fun _ => rfl
  have always : Always (step efc) Device.Quiet (boot efc pinHigh chip) events :=
    always_of_events (C := fun _ => True) (fun _ event quiet _ => quiet_step efc quiet event) start
      fun _ _ => trivial
  exact always.last

end Quiet

/-! ## The reply to one request after two histories -/

/-- A vendor request with a reply that is not empty, or that is refused.  Request 0x30 has nothing to
    reply once OUT data has set the length of its array to 0. -/
def SetupReq.Replies (r : SetupReq) (mem : Memory) : Prop :=
  (r.bRequest = 0x00 ∧ (r.wIndex = 0 ∨ r.wIndex = 1)) ∨ (r.bRequest = 0x17 ∧ r.wIndex.toNat % 256 ≠ 0) ∨
    r.bRequest = 0x01 ∨ r.bRequest = 0x02 ∨ r.bRequest = 0x05 ∨ r.bRequest = 0x19 ∨
    (r.bRequest = 0x30 ∧ (r.wIndex = 4 → dwLength mem ≠ 0)) ∨ r.bRequest = 0x6F ∨ r.bRequest = 0x91

theorem range_some_iff {r : SetupReq} (mem : Memory) (asks : r.wLength ≠ 0)
    (known : r.bRequest = 0x30 → r.wIndex = 4) : (r.range mem).2 ≠ 0 ↔ r.Replies mem := by
  have positive := asked_pos asks
  have code (code : UInt8) : r.bRequest = code ↔ r.bRequest.toNat = code.toNat := UInt8.toNat_inj.symm
  simp only [SetupReq.Replies, SetupReq.range, code]
  rw [code] at known
  revert known
  generalize r.bRequest.toNat = number
  intro known
  unfold rangeOf
  split <;> simp
  case h_1 => split_ifs <;> simp_all
  case h_9 =>
    have index := known rfl
    simp [index, positive]
  case h_10 =>
    refine ⟨fun version => absurd version ‹number = 0 → False›,
      fun current => absurd current ‹number = 23 → False›, ‹number = 1 → False›,
      ‹number = 2 → False›, ‹number = 5 → False›, ‹number = 25 → False›,
      fun compatible => absurd compatible ‹number = 48 → False›, ‹number = 111 → False›,
      ‹number = 145 → False›⟩
  all_goals exact positive

theorem wire_entered (efc : Efc σ) (d : Device σ) (req : SetupReq) (h : Handling) :
    wire (d.entered efc req h).trace = wire d.trace := by
  rw [Device.entered, wire_append, wire_append, wire_commands, List.append_nil]
  exact List.append_nil _

section Reply

variable (efc : Efc σ) {d d' : Device σ} {packet : SetupPacket}

theorem wireReply_eq {packet : SetupPacket} {log : List Wire} {n : Nat} {later : Device σ}
    (reached : (poll efc)^[n] (step efc d (.control { setup := some packet })) = later)
    (seen : wire later.trace = wire d.trace ++ log) : wireReply efc d packet n = log := by
  rw [wireReply, reached, seen, List.drop_left]

/-- A request that is refused: a STALL, and nothing after it. -/
theorem wireReply_refused (whole : packet.byteCount = 8) (idle : d.state = .setup) (quiet : d.Quiet)
    (refused : udcDecode packet.inputs (d.handling packet.req) = none) (n : Nat) :
    wireReply efc d packet n = [.stall] := by
  have silent (n : Nat) (d : Device σ) (quiet : d.inSendInterrupt = false) :
      (poll efc)^[n] (stallData d) = stallData d := by
    induction n with
    | zero => rfl
    | succ n ih =>
      have still : poll efc (stallData d) = stallData d := by
        rw [poll_empty efc (d := stallData d) quiet]
        simp [underflow, stallData, Device.observe]
      rw [Function.iterate_succ_apply, still, ih]
  have stalled := silent n (d.entered efc packet.req (d.handling packet.req)) (quiet (.inl idle))
  rw [← step_refused efc whole idle refused] at stalled
  apply wireReply_eq efc stalled
  rw [step_refused efc whole idle refused, stallData, Device.observe, wire_append]
  have before := wire_entered efc d packet.req (d.handling packet.req)
  simp only [before]
  rfl

/-- Only request 0x30 is ever refused. -/
theorem mainSetupHandle_refuses {inputs : Inputs} {h : Handling}
    (refused : mainSetupHandle inputs h = none) :
    h.ctrlreq.req.bRequest = 0x30 ∧ h.ctrlreq.req.wIndex ≠ 4 := by
  by_contra other
  have accepted := (mainSetupHandle_accepts inputs h).mpr fun unknown => other unknown.2
  rw [refused] at accepted
  cases accepted

/-- What the host sees of an empty reply at its first IN token depends on the flag. -/
theorem wireReply_empty {h : Handling} (whole : packet.byteCount = 8) (idle : d.state = .setup)
    (accepted : udcDecode packet.inputs (d.handling packet.req) = some h)
    (direction : packet.req.isIn = true) (asks : packet.req.wLength ≠ 0)
    (empty : h.ctrlreq.payloadSize = 0) :
    wireReply efc d packet 1 = if d.bShortpacket then [.stall] else [.data []] := by
  have asked : h.ctrlreq.req.isIn = true ∧ h.ctrlreq.req.wLength ≠ 0 := by
    rw [(udcDecode_req rfl accepted).1]
    exact ⟨direction, asks⟩
  have before := wire_entered efc d packet.req h
  cases flag : d.bShortpacket with
  | true =>
    have seen := poll_stale efc (d.entered efc packet.req h) asked.1 empty flag
    rw [before, ← step_accepted efc whole idle accepted] at seen
    exact wireReply_eq efc rfl seen
  | false =>
    have seen := poll_fresh efc (d.entered efc packet.req h) asked.1 asked.2 empty flag
    rw [before, ← step_accepted efc whole idle accepted] at seen
    exact wireReply_eq efc rfl seen

/-- After two histories that leave the same in the arrays, a vendor request gets the same reply
    exactly when the reply is not empty, or when the last replies agree in whether their last
    packets were full. -/
theorem wireReply_same_iff (idle : d.state = .setup) (idle' : d'.state = .setup) (quiet : d.Quiet)
    (quiet' : d'.Quiet) (same : d'.mem = d.mem) (whole : packet.byteCount = 8)
    (vendor : packet.req.isVendor = true) (direction : packet.req.isIn = true)
    (asks : packet.req.wLength ≠ 0) :
    (∀ n, wireReply efc d' packet n = wireReply efc d packet n) ↔
      packet.req.Replies d.mem ∨ d'.bShortpacket = d.bShortpacket := by
  have alike : Alike (d.handling packet.req) (d'.handling packet.req) :=
    ⟨rfl, same, rfl, fun some => absurd rfl some⟩
  have related := mainSetupHandle_alike packet.inputs alike
  have decode (d : Device σ) : udcDecode packet.inputs (d.handling packet.req) =
      mainSetupHandle packet.inputs (d.handling packet.req) :=
    udcDecode_vendor packet.inputs vendor fun _ => asks
  cases found : mainSetupHandle packet.inputs (d.handling packet.req) with
  | none =>
    cases found' : mainSetupHandle packet.inputs (d'.handling packet.req) with
    | some h' =>
      rw [found, found'] at related
      cases related
    | none =>
      have unknown : packet.req.bRequest = 0x30 ∧ packet.req.wIndex ≠ 4 := mainSetupHandle_refuses found
      have replies : packet.req.Replies d.mem := by simp [SetupReq.Replies, unknown]
      constructor
      · exact fun _ => .inl replies
      · intro _ n
        rw [wireReply_refused efc whole idle quiet ((decode d).trans found),
          wireReply_refused efc whole idle' quiet' ((decode d').trans found')]
  | some h =>
    cases found' : mainSetupHandle packet.inputs (d'.handling packet.req) with
    | none =>
      rw [found, found'] at related
      cases related
    | some h' =>
      rw [found, found'] at related
      cases related with
      | some alike =>
        have accepted := (decode d).trans found
        have accepted' := (decode d').trans found'
        obtain ⟨request, small⟩ := udcDecode_req rfl accepted
        have size : h.ctrlreq.payloadSize = (packet.req.range d.mem).2 :=
          (mainSetupHandle_payload rfl vendor found).1
        have known : packet.req.bRequest = 0x30 → packet.req.wIndex = 4 := fun code => by
          by_contra other
          exact udcDecode_known vendor accepted ⟨code, other⟩
        have replies := range_some_iff d.mem asks known
        rw [← size] at replies
        constructor
        · intro all
          by_cases empty : h.ctrlreq.payloadSize = 0
          · have first := all 1
            rw [wireReply_empty efc whole idle accepted direction asks empty,
              wireReply_empty efc whole idle' accepted' direction asks (alike.size.trans empty)]
              at first
            cases flag : d.bShortpacket <;> cases flag' : d'.bShortpacket <;> simp_all
          · exact .inl (replies.mp empty)
        · intro condition n
          have flags : h.ctrlreq.payloadSize ≠ 0 ∨ d'.bShortpacket = d.bShortpacket :=
            condition.imp_left replies.mpr
          have asked : h.ctrlreq.req.isIn = true ∧ h.ctrlreq.req.wLength ≠ 0 := by
            rw [request]
            exact ⟨direction, asks⟩
          have started := twins_startStages efc (d.entered efc packet.req h)
            (d'.entered efc packet.req h') alike.req alike.mem alike.size alike.payload small asked.1
            asked.2 flags
          have twins := twins_polls efc started n
          obtain ⟨log, seen, seen'⟩ := twins.seen
          rw [wire_entered, ← step_accepted efc whole idle accepted] at seen
          rw [wire_entered, ← step_accepted efc whole idle' accepted'] at seen'
          rw [wireReply_eq efc rfl seen, wireReply_eq efc rfl seen']

end Reply

end M1k.Control
