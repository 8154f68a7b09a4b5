import M1k.Control.MemorySafety
import M1k.Control.Replies

/-! # How much a control read returns

The sending loop trusts `payload_size`, so that the length of a reply is decided where the request
is handled: some requests clip it to `wLength`, some take `wLength` for it, and some ignore
`wLength`. -/

namespace M1k.Control

open Library Library.Runs

variable {σ : Type*}

/-! ## The replies of the application -/

/-- The request for the string that `msft_string_handle` answers. -/
def SetupReq.asksMagic (r : SetupReq) : Prop :=
  r.setupType = 0 ∧ r.isIn = true ∧ r.recipient = 0 ∧ r.bRequest = 6 ∧ r.wValue >>> 8 = 3 ∧
    r.wValue &&& 0xff = 0xEE

instance (r : SetupReq) : Decidable r.asksMagic := by
  unfold SetupReq.asksMagic; infer_instance

/-- The request is left to `main_setup_handle` or `msft_string_handle`. -/
def EndsInApplication (inputs : Inputs) (h : Handling) : Prop :=
  h.ctrlreq.req.setupType = 0 → udcReqstd inputs.core h = none ∨ h.ctrlreq.req.asksMagic

/-- The size of the object that a vendor request selects, by its code; in the table it is what
    follows the offset. -/
def namedSize (r : SetupReq) (code : Nat) : Nat :=
  match code with
  | 0x00 => if r.wIndex = 0 then 2 else if r.wIndex = 1 then 5 else 0
  | 0x01 | 0x02 => 256 - r.wIndex.toNat
  | 0x05 => 256 - (customSerialValidOffset + r.wIndex.toNat)
  | 0x17 => r.wIndex.toNat % 256
  | 0x19 | 0x6F => 2
  | 0x91 => 1
  | 0x30 => 40
  | _ => 0

/-- The size of the reply -/
def SetupReq.replySize (r : SetupReq) : Nat :=
  if r.isVendor then namedSize r r.bRequest.toNat else if r.asksMagic then 18 else 0

/-- The payload size of a request that is left to the application. -/
def SetupReq.loadedSize (r : SetupReq) (mem : Memory) : Nat :=
  if r.isVendor then (r.range mem).2 else if r.asksMagic then min 18 r.wLength.toNat else 0

/-- A request that does not clip its reply asks for at least the whole of it, and one that takes
    its length from the host asks for no more than there is.  Request 0x30 clips to a length that
    OUT data may have overwritten. -/
def SetupReq.Fits (r : SetupReq) (mem : Memory) : Prop :=
  r.isVendor = true →
    (r.bRequest = 0x00 ∨ r.bRequest = 0x17 ∨ r.bRequest = 0x19 ∨ r.bRequest = 0x6F →
      r.replySize ≤ r.wLength.toNat) ∧
    (r.bRequest = 0x01 ∨ r.bRequest = 0x02 ∨ r.bRequest = 0x05 → r.wLength.toNat ≤ r.replySize) ∧
    (r.bRequest = 0x30 → dwLength mem = 40 ∨ r.wLength.toNat ≤ min (dwLength mem) 40)

theorem udcReqstd_magic (core : Core) {h : Handling} (magic : h.ctrlreq.req.asksMagic)
    (asks : h.ctrlreq.req.wLength ≠ 0) :
    ∃ h', udcReqstd core h = some h' ∧
      h'.ctrlreq.payloadSize = min 18 h.ctrlreq.req.wLength.toNat := by
  obtain ⟨-, direction, device, code, kind, string⟩ := magic
  have handled : ∃ h', msftStringHandle h = some h' ∧
      h'.ctrlreq.payloadSize = min 18 h.ctrlreq.req.wLength.toNat ∧
      h'.ctrlreq.req.wLength = h.ctrlreq.req.wLength := by
    simp only [msftStringHandle, string, if_true]
    exact ⟨_, rfl, rfl, rfl⟩
  obtain ⟨h', found, size, same⟩ := handled
  have looked : descriptor h = some h' := by
    simp [descriptor, kind, udcReqStdDevGetStrDesc, string, found]
  refine ⟨h', ?_, size⟩
  simp [udcReqstd, direction, asks, udcReqstdIn, device, code, udcReqStdDevGetDescriptor, looked,
    size, same]

/-- What the application leaves as the size of the payload. -/
theorem udcDecode_size {inputs : Inputs} {h h' : Handling} (none : h.ctrlreq.payloadSize = 0)
    (asks : h.ctrlreq.req.wLength ≠ 0) (application : EndsInApplication inputs h)
    (accepted : udcDecode inputs h = some h') :
    h'.ctrlreq.payloadSize = h.ctrlreq.req.loadedSize h.mem := by
  have left (other : ¬ h.ctrlreq.req.asksMagic) (accepted : mainSetupHandle inputs h = some h') :
      h'.ctrlreq.payloadSize = h.ctrlreq.req.loadedSize h.mem := by
    cases vendor : h.ctrlreq.req.isVendor with
    | true =>
      rw [SetupReq.loadedSize, if_pos vendor]
      exact (mainSetupHandle_payload none vendor accepted).1
    | false =>
      simp only [mainSetupHandle, vendor, Bool.false_eq_true, if_false] at accepted
      rw [SetupReq.loadedSize, vendor, if_neg Bool.false_ne_true, if_neg other,
        ← Option.some.inj accepted]
      rfl
  have asked : ¬ (h.ctrlreq.req.isIn && h.ctrlreq.req.wLength == 0) = true := by simp [asks]
  unfold udcDecode at accepted
  rw [if_neg asked] at accepted
  simp only [udcDecodeOther_eq] at accepted
  split_ifs at accepted with standard
  · by_cases magic : h.ctrlreq.req.asksMagic
    · have notVendor : h.ctrlreq.req.isVendor = false := by
        simp [SetupReq.isVendor, standard]
      obtain ⟨found, answered, size⟩ := udcReqstd_magic inputs.core magic asks
      rw [answered] at accepted
      rw [← Option.some.inj accepted, size, SetupReq.loadedSize, notVendor,
        if_neg Bool.false_ne_true, if_pos magic]
    · cases application standard with
      | inl refused =>
        rw [refused] at accepted
        exact left magic accepted
      | inr asksIt => exact absurd asksIt magic
  · exact left (fun magic => standard magic.1) accepted

/-- The reply is as long as it should be exactly when the request fits it. -/
theorem loadedSize_iff {r : SetupReq} (mem : Memory) (asks : r.wLength ≠ 0)
    (known : ¬ (r.isVendor = true ∧ r.bRequest = 0x30 ∧ r.wIndex ≠ 4)) :
    r.loadedSize mem ≤ r.wLength.toNat ∧ r.loadedSize mem = min r.wLength.toNat r.replySize ↔
      r.Fits mem := by
  have positive := asked_pos asks
  cases vendor : r.isVendor with
  | false =>
    simp only [SetupReq.Fits, SetupReq.loadedSize, SetupReq.replySize, vendor, Bool.false_eq_true,
      if_false, false_implies, iff_true]
    split_ifs <;> omega
  | true =>
    have code (code : UInt8) : r.bRequest = code ↔ r.bRequest.toNat = code.toNat :=
      UInt8.toNat_inj.symm
    have index : r.bRequest.toNat = 48 → r.wIndex = 4 := fun compatible => by
      by_contra other
      exact known ⟨vendor, (code 0x30).mpr compatible, other⟩
    simp only [SetupReq.Fits, SetupReq.loadedSize, SetupReq.replySize, vendor, if_true, true_implies,
      code, SetupReq.range]
    revert index
    generalize r.bRequest.toNat = number
    intro index
    unfold rangeOf namedSize
    split <;> simp
    case h_1 => split_ifs <;> simp
    case h_8 => omega
    case h_9 =>
      rw [if_pos (index rfl)]
      constructor <;> intro fits <;> simp only at fits ⊢ <;> omega
    case h_10 =>
      constructor
      · rintro (table | table | serial)
        · exact absurd table ‹number = 1 → False›
        · exact absurd table ‹number = 2 → False›
        · exact absurd serial ‹number = 5 → False›
      · exact fun compatible => absurd compatible ‹number = 48 → False›

/-! ## The data stage -/

section Stage

variable (efc : Efc σ) {d : Device σ}

/-- Once the data stage is over, no more packets go out. -/
theorem run_taken_idle (idle : d.inSendInterrupt = false) (n : Nat) :
    run (step efc) d (List.replicate n taken) = d := by
  induction n with
  | zero => rfl
  | succ n ih =>
    have still : step efc d taken = d := by simp [step, taken, ctrlInterrupt, idle]
    rw [List.replicate_succ, run_cons, still, ih]

theorem sentPackets_interruptRequest (d : Device σ) :
    sentPackets (interruptRequest efc d).trace = sentPackets d.trace := by
  unfold interruptRequest
  split_ifs
  · by_cases store : d.ctrlreq.callback = some .storeFlashTable
    · rw [endofrequest_store efc store]
      simp only [ctrlInit]
      rw [sentPackets_append]
      exact List.append_nil _
    · rw [endofrequest_other efc store]
      rfl
  · rfl

/-- The whole data stage of a reply: exactly the payload goes out. -/
theorem run_payload (start : Device σ) (direction : start.ctrlreq.req.isIn = true)
    (asks : start.ctrlreq.req.wLength ≠ 0) (small : start.ctrlreq.payloadSize < 65536) {n : Nat}
    (enough : 1024 ≤ n) :
    (run (step efc) (startStages efc false start) (List.replicate n taken)).state =
        .handshakeWaitOutZlp ∧
      ∃ packets, sentPackets (run (step efc) (startStages efc false start)
          (List.replicate n taken)).trace = sentPackets start.trace ++ packets ∧
        packets.flatten = start.mem.slice start.ctrlreq.payload start.ctrlreq.payloadSize := by
  by_cases ready : 0 < start.ctrlreq.payloadSize ∨ start.bShortpacket = false
  · obtain ⟨prev, replied⟩ := run_reply efc start direction asks small ready
    have few : packetCount start.ctrlreq.payloadSize start.ctrlreq.req.wLength.toNat ≤ n := by
      unfold packetCount
      split_ifs <;> omega
    have all : start.ctrlreq.payloadSize ≤
        64 * packetCount start.ctrlreq.payloadSize start.ctrlreq.req.wLength.toNat := by
      unfold packetCount
      split_ifs <;> omega
    have split : List.replicate n taken =
        List.replicate (packetCount start.ctrlreq.payloadSize start.ctrlreq.req.wLength.toNat) taken ++
          List.replicate (n - packetCount start.ctrlreq.payloadSize start.ctrlreq.req.wLength.toNat)
            taken := by
      rw [List.replicate_append_replicate, Nat.add_sub_cancel' few]
    rw [split, run_append, replied, run_taken_idle efc rfl]
    refine ⟨rfl, _, sentPackets_append _ _, ?_⟩
    rw [replyPackets_flatten, Nat.min_eq_left all]
  · have empty : start.ctrlreq.payloadSize = 0 := by omega
    have stale : start.bShortpacket = true := by
      cases flag : start.bShortpacket with
      | true => rfl
      | false => exact absurd (.inr flag) ready
    rw [startStages_stale efc direction empty stale, run_taken_idle efc rfl]
    refine ⟨rfl, [], (List.append_nil _).symm, ?_⟩
    rw [empty]
    rfl

end Stage

end M1k.Control
