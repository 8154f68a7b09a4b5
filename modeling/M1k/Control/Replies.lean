import M1k.Control.Stages

/-! # The IN data stage

A reply goes out packet by packet: one when the request has been accepted, and the next each time
the host has taken one.  It is complete with a packet that is not full, or when all has been sent
that the host has asked for. -/

namespace M1k.Control

open Library Library.Runs

variable {σ : Type*}

/-- The host takes the packet that is ready. -/
def taken : Event := .control { inSent := true }

theorem asked_pos {req : SetupReq} (asks : req.wLength ≠ 0) : req.wLength.toNat ≠ 0 :=
  fun zero => asks (UInt16.toNat_inj.mp zero)

/-- How many packets make up a reply of `size` bytes, when the host asks for `asked`. -/
def packetCount (size asked : Nat) : Nat :=
  if size % 64 = 0 ∧ size = asked then size / 64 else size / 64 + 1

namespace Device

/-- The j-th packet of the reply -/
def replyPacket (d : Device σ) (j : Nat) : Obs :=
  .sent (d.ctrlreq.payload.add (64 * j))
    (d.mem.slice (d.ctrlreq.payload.add (64 * j)) (min (d.ctrlreq.payloadSize - 64 * j) 64))

/-- The reply of `start` once `k` packets of it have been prepared. -/
def replying (start : Device σ) (prev k : Nat) : Device σ :=
  { start with
    state := .dataIn
    prevPayloadBufCnt := prev
    payloadBufCnt := min start.ctrlreq.payloadSize (64 * k)
    bShortpacket := start.ctrlreq.payloadSize < 64 * k
    inSendInterrupt := true
    trace := start.trace ++ (List.range k).map start.replyPacket }

/-- The reply of `start` once its `k` packets have gone out. -/
def replied (start : Device σ) (prev k : Nat) : Device σ :=
  { start.replying prev k with
    state := .handshakeWaitOutZlp
    inSendInterrupt := false }

end Device

section Packets

variable (efc : Efc σ) {start : Device σ}

/-- The next packet of a reply. -/
theorem sendNext_replying (prev k : Nat) (small : start.ctrlreq.payloadSize < 65536)
    (whole : 64 * k ≤ start.ctrlreq.payloadSize) (short : Bool) :
    sendNext false (start.ctrlreq.payloadSize - 64 * k)
      { start.replying prev k with inSendInterrupt := false, bShortpacket := short } =
      start.replying prev (k + 1) := by
  have counted : min start.ctrlreq.payloadSize (64 * k) = 64 * k := Nat.min_eq_right whole
  have count : (64 * k + min (start.ctrlreq.payloadSize - 64 * k) 64) % 65536 =
      min start.ctrlreq.payloadSize (64 * (k + 1)) := by
    rw [Nat.mod_eq_of_lt (by omega)]
    omega
  have last : (start.ctrlreq.payloadSize - 64 * k < 64) =
      (start.ctrlreq.payloadSize < 64 * (k + 1)) := by
    apply propext; omega
  have packet : (List.range (k + 1)).map start.replyPacket =
      (List.range k).map start.replyPacket ++ [start.replyPacket k] := by
    rw [List.range_succ, List.map_append, List.map_singleton]
  rw [sendNext_sent]
  simp only [Device.replying, counted, count, last, packet, Device.replyPacket, List.append_assoc]

/-- The host has taken the k-th packet: either all has been sent, or the next one follows. -/
theorem inSent_replying (prev k : Nat) (small : start.ctrlreq.payloadSize < 65536)
    (fresh : prev = 0 ∨ start.ctrlreq.payloadSize < 64 * k) :
    ∃ prev', (prev' = 0 ∨ start.ctrlreq.payloadSize < 64 * (k + 1)) ∧
      inSent efc false (start.replying prev k) =
        if k < packetCount start.ctrlreq.payloadSize start.ctrlreq.req.wLength.toNat then
          start.replying prev' (k + 1)
        else start.replied prev' k := by
  have noHandshake : (start.replying prev k).state ≠ .handshakeWaitInZlp := by
    simp [Device.replying]
  have remain : sub16 (start.replying prev k).ctrlreq.payloadSize (start.replying prev k).payloadBufCnt =
      start.ctrlreq.payloadSize - 64 * k := by
    simp only [Device.replying]
    rw [sub16_eq (by omega) small]
    omega
  have asked := start.ctrlreq.req.wLength.toNat_lt
  rw [inSent_data efc false noHandshake, remain]
  by_cases left : start.ctrlreq.payloadSize - 64 * k = 0
  · rw [if_pos left]
    have counted : min start.ctrlreq.payloadSize (64 * k) = start.ctrlreq.payloadSize := by omega
    by_cases complete : start.ctrlreq.req.wLength.toNat =
        (prev + start.ctrlreq.payloadSize) % 65536 ∨ start.ctrlreq.payloadSize < 64 * k
    · -- all that was asked for has been sent, or a packet that was not full
      have all : ¬ k < packetCount start.ctrlreq.payloadSize start.ctrlreq.req.wLength.toNat := by
        unfold packetCount
        split_ifs <;> omega
      refine ⟨(prev + start.ctrlreq.payloadSize) % 65536, ?_, ?_⟩
      · omega
      · rw [if_neg all]
        simp only [Device.replying, Device.replied, counted, decide_eq_true_eq]
        rw [if_pos complete]
    · -- an empty packet tells the host that this is all
      have more : k < packetCount start.ctrlreq.payloadSize start.ctrlreq.req.wLength.toNat := by
        unfold packetCount
        split_ifs <;> omega
      have next := sendNext_replying ((prev + start.ctrlreq.payloadSize) % 65536) k small (by omega)
        (start.ctrlreq.payloadSize < 64 * k)
      refine ⟨(prev + start.ctrlreq.payloadSize) % 65536, by omega, ?_⟩
      rw [if_pos more, ← next, left]
      simp only [Device.replying, counted, decide_eq_true_eq]
      rw [if_neg complete]
  · have more : k < packetCount start.ctrlreq.payloadSize start.ctrlreq.req.wLength.toNat := by
      unfold packetCount
      split_ifs <;> omega
    refine ⟨0, .inl rfl, ?_⟩
    rw [if_neg left, if_pos more]
    have first : prev = 0 := by omega
    rw [first]
    exact sendNext_replying 0 k small (by omega) _

theorem step_taken {d : Device σ} (pending : d.inSendInterrupt = true) :
    step efc d taken = inSent efc false d := by
  simp [step, taken, ctrlInterrupt, pending]

/-- The first packet of a reply: for an empty reply it takes that the flag of the last reply
    is clear. -/
theorem startStages_replying (direction : start.ctrlreq.req.isIn = true)
    (asks : start.ctrlreq.req.wLength ≠ 0) (small : start.ctrlreq.payloadSize < 65536)
    (ready : 0 < start.ctrlreq.payloadSize ∨ start.bShortpacket = false) :
    startStages efc false start = start.replying 0 1 := by
  have entry : { start with
      prevPayloadBufCnt := 0
      payloadBufCnt := 0
      state := .dataIn
      inSendInterrupt := false } =
      { start.replying 0 0 with inSendInterrupt := false, bShortpacket := start.bShortpacket } := by
    simp [Device.replying]
  have first := sendNext_replying 0 0 small (Nat.zero_le _) start.bShortpacket
  have asked : ¬ (start.ctrlreq.req.wLength.toNat = (0 + 0) % 65536) := asked_pos asks
  have size : sub16 start.ctrlreq.payloadSize 0 = start.ctrlreq.payloadSize :=
    sub16_eq (Nat.zero_le _) small
  have clear : ¬ (start.ctrlreq.payloadSize = 0 ∧ start.bShortpacket = true) := by
    cases ready with
    | inl some => omega
    | inr clear => simp [clear]
  rw [← entry, Nat.mul_zero, Nat.sub_zero] at first
  rw [startStages, if_pos direction, inSent_data efc false (by simp)]
  simp only [size, asked, false_or]
  by_cases empty : start.ctrlreq.payloadSize = 0
  · rw [if_pos empty, if_neg fun stale => clear ⟨empty, stale⟩]
    rw [empty] at first
    exact first
  · rw [if_neg empty]
    exact first

/-- An empty reply when the last packet sent, whatever it belonged to, was not full: there is
    no packet at all. -/
theorem startStages_stale (direction : start.ctrlreq.req.isIn = true)
    (empty : start.ctrlreq.payloadSize = 0) (stale : start.bShortpacket = true) :
    startStages efc false start =
      { start with
        prevPayloadBufCnt := 0
        payloadBufCnt := 0
        state := .handshakeWaitOutZlp
        inSendInterrupt := false } := by
  rw [startStages, if_pos direction, inSent_data efc false (by simp)]
  simp only [empty, stale, or_true, if_true]
  rfl

theorem run_replying (small : start.ctrlreq.payloadSize < 65536) (prev k n : Nat)
    (fresh : prev = 0 ∨ start.ctrlreq.payloadSize < 64 * k)
    (left : k + n = packetCount start.ctrlreq.payloadSize start.ctrlreq.req.wLength.toNat) :
    ∃ prev', run (step efc) (start.replying prev k) (List.replicate (n + 1) taken) =
      start.replied prev' (k + n) := by
  induction n generalizing prev k with
  | zero =>
    obtain ⟨prev', -, sent⟩ := inSent_replying efc prev k small fresh
    refine ⟨prev', ?_⟩
    rw [List.replicate_one, run_cons, run_nil, step_taken efc rfl, sent, if_neg (by omega)]
    rfl
  | succ n ih =>
    obtain ⟨prev', still, sent⟩ := inSent_replying efc prev k small fresh
    rw [List.replicate_succ, run_cons, step_taken efc rfl, sent, if_pos (by omega)]
    rw [show k + (n + 1) = k + 1 + n by omega]
    exact ih prev' (k + 1) still (by omega)

/-- The whole data stage: the packets of the reply, and nothing else, until the status stage. -/
theorem run_reply (start : Device σ) (direction : start.ctrlreq.req.isIn = true)
    (asks : start.ctrlreq.req.wLength ≠ 0) (small : start.ctrlreq.payloadSize < 65536)
    (ready : 0 < start.ctrlreq.payloadSize ∨ start.bShortpacket = false) :
    ∃ prev, run (step efc) (startStages efc false start)
        (List.replicate (packetCount start.ctrlreq.payloadSize start.ctrlreq.req.wLength.toNat) taken) =
      start.replied prev
        (packetCount start.ctrlreq.payloadSize start.ctrlreq.req.wLength.toNat) := by
  have some : 1 ≤ packetCount start.ctrlreq.payloadSize start.ctrlreq.req.wLength.toNat := by
    have asked := asked_pos asks
    unfold packetCount
    split_ifs <;> omega
  rw [startStages_replying efc direction asks small ready]
  have run := run_replying efc small 0 1
    (packetCount start.ctrlreq.payloadSize start.ctrlreq.req.wLength.toNat - 1) (.inl rfl) (by omega)
  rwa [Nat.sub_add_cancel some, Nat.add_sub_cancel' some] at run

end Packets

/-! ## The bytes on the bus -/

/-- The data of the packets that have been sent. -/
def sentPackets (trace : List Obs) : List (List UInt8) :=
  trace.filterMap fun
    | .sent _ bytes => some bytes
    | _ => none

theorem sentPackets_append (first second : List Obs) :
    sentPackets (first ++ second) = sentPackets first ++ sentPackets second :=
  List.filterMap_append

theorem sentPackets_commands (commands : List Command) :
    sentPackets (commands.map .command) = [] := by
  simp [sentPackets]

theorem sentPackets_entered (efc : Efc σ) (d : Device σ) (req : SetupReq) (h : Handling) :
    sentPackets (d.entered efc req h).trace = sentPackets d.trace := by
  rw [Device.entered, sentPackets_append, sentPackets_append, sentPackets_commands, List.append_nil]
  exact List.append_nil _

/-- The packets of a reply are its bytes, in order. -/
theorem replyPackets_flatten (start : Device σ) (k : Nat) :
    (sentPackets ((List.range k).map start.replyPacket)).flatten =
      start.mem.slice start.ctrlreq.payload (min start.ctrlreq.payloadSize (64 * k)) := by
  induction k with
  | zero => simp [sentPackets, Memory.slice]
  | succ k ih =>
    have next : min start.ctrlreq.payloadSize (64 * (k + 1)) =
        min start.ctrlreq.payloadSize (64 * k) + min (start.ctrlreq.payloadSize - 64 * k) 64 := by
      omega
    have packet : sentPackets [start.replyPacket k] = [start.mem.slice
        (start.ctrlreq.payload.add (64 * k)) (min (start.ctrlreq.payloadSize - 64 * k) 64)] := rfl
    rw [List.range_succ, List.map_append, sentPackets_append, List.flatten_append, ih, next,
      List.map_singleton, packet, List.flatten_singleton]
    simp only [Memory.slice, Pointer.add]
    rw [Bytes.slice_add]
    by_cases whole : 64 * k ≤ start.ctrlreq.payloadSize
    · rw [Nat.min_eq_right whole]
    · rw [Nat.sub_eq_zero_of_le (by omega), Nat.zero_min, Bytes.slice_zero, Bytes.slice_zero]

end M1k.Control
