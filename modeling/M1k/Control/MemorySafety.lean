import M1k.Control.Endpoint

/-! # The memory that requests reach

Where the payload of an accepted request lies, and which arrays are filled while it is handled.
Requests 0x01, 0x02, 0x05 and 0x17 take an offset or a length from the host, so that their
ranges stay inside the array only for some of its values. -/

namespace M1k.Control

open Library Library.Runs

variable {σ : Type*}

/-- `n` bytes from `p` on lie in the array `o`. -/
def Within (p : Pointer) (n : Nat) (o : Object) : Prop :=
  ∀ k < n, p.object = o ∧ p.offset + k < o.size

theorem within_iff (o : Object) (offset n : Nat) :
    Within ⟨o, offset⟩ n o ↔ n = 0 ∨ offset + n ≤ o.size := by
  constructor
  · intro within
    cases n with
    | zero => exact .inl rfl
    | succ n => exact .inr (within n (Nat.lt_succ_self n)).2
  · rintro (rfl | room) k inside
    · omega
    · exact ⟨rfl, by show offset + k < o.size; omega⟩

/-- The array that a vendor request names, by its code. -/
def namedArray (code : Nat) (wIndex : UInt16) : Option Object :=
  match code with
  | 0x00 => if wIndex = 0 then some .hwversion else if wIndex = 1 then some .fwversion else none
  | 0x01 | 0x02 | 0x05 => some .flashTable
  | 0x17 | 0x19 | 0x91 | 0x6F => some .retData
  | 0x30 => some .msftCompatible
  | _ => none

/-- The array that a request names. -/
def SetupReq.named (r : SetupReq) : Option Object :=
  if r.isVendor then namedArray r.bRequest.toNat r.wIndex else none

/-- The payload lies in the array that the request names, and so do the arrays that have been
    filled. -/
structure MemorySafe (named : Option Object) (h : Handling) : Prop where
  payload : match named with
    | some o => Within h.ctrlreq.payload h.ctrlreq.payloadSize o
    | none => h.ctrlreq.payloadSize = 0
  filled : ∀ range ∈ h.filled, Within range.1 range.2 range.1.object

/-- The offset and the length of a request keep to the array, and so does the length that
    `msft_compatible` gives. -/
def InBounds (r : SetupReq) (mem : Memory) : Prop :=
  r.isVendor = true →
    (r.bRequest = 0x01 ∨ r.bRequest = 0x02 → r.wLength = 0 ∨ r.wIndex.toNat + r.wLength.toNat ≤ 256) ∧
    (r.bRequest = 0x05 → r.wLength = 0 ∨ 220 + r.wIndex.toNat + r.wLength.toNat ≤ 256) ∧
    (r.bRequest = 0x17 → r.wIndex.toNat % 256 ≤ 64) ∧
    (r.bRequest = 0x30 → r.wIndex = 4 → min r.wLength.toNat (dwLength mem) ≤ 40)

/-- What a function finds that is asked to handle a request. -/
def asked (req : SetupReq) (payload : Pointer) (mem : Memory) : Handling :=
  { ctrlreq := { req := req, payload := payload }, mem := mem }

/-! ## The functions that fill arrays -/

theorem twiMasterRead_length (polls : List TwiPoll) (cnt timeout : Nat) :
    (twiMasterRead polls cnt timeout).length ≤ cnt := by
  induction polls generalizing cnt timeout with
  | nil => exact Nat.zero_le _
  | cons poll polls ih =>
    cases cnt with
    | zero => exact Nat.le_refl _
    | succ cnt =>
      rw [twiMasterRead]
      split_ifs with nack late
      · exact Nat.zero_le _
      · exact Nat.zero_le _
      · cases poll.received with
        | none => exact ih (cnt + 1) (timeout - 1)
        | some byte => exact Nat.succ_le_succ (ih cnt 15000)

@[simp] theorem filled_command (h : Handling) (commands : List Command) :
    (h.command commands).filled = h.filled := rfl

@[simp] theorem filled_fill (h : Handling) (dest : Pointer) (bytes : List UInt8) :
    (h.fill dest bytes).filled = h.filled ++ [(dest, bytes.length)] := rfl

@[simp] theorem filled_answer (h : Handling) (ptr : Pointer) (size : Nat) :
    (h.answer ptr size).filled = h.filled := by
  unfold Handling.answer
  split_ifs <;> rfl

theorem answer_within (h : Handling) (o : Object) (offset size : Nat) :
    Within (h.answer ⟨o, offset⟩ size).ctrlreq.payload (h.answer ⟨o, offset⟩ size).ctrlreq.payloadSize o ↔
      size = 0 ∨ offset + size ≤ o.size := by
  rw [← within_iff]
  unfold Handling.answer
  split_ifs with empty
  · simp [Within, empty]
  · rfl

theorem fill_base_within {h : Handling} {o : Object} {bytes : List UInt8}
    (filled : ∀ range ∈ h.filled, Within range.1 range.2 range.1.object)
    (room : bytes.length ≤ o.size) :
    ∀ range ∈ (h.fill o.base bytes).filled, Within range.1 range.2 range.1.object := by
  intro range member
  rw [filled_fill, List.mem_append, List.mem_singleton] at member
  cases member with
  | inl earlier => exact filled range earlier
  | inr last =>
    rw [last]
    exact (within_iff o 0 bytes.length).mpr (.inr (by omega))

theorem getSampleAd7682_within {h : Handling} {o : Object} (conversions : Fin 3 → UInt8 × UInt8)
    (filled : ∀ range ∈ h.filled, Within range.1 range.2 range.1.object) (room : 2 ≤ o.size) :
    ∀ range ∈ (getSampleAd7682 conversions o.base h).filled,
      Within range.1 range.2 range.1.object := by
  apply fill_base_within (fill_base_within (fill_base_within filled _) _) _ <;> exact room

theorem low_byte (value : UInt16) : (value &&& 0xFF).toNat = value.toNat % 256 := by
  rw [UInt16.toNat_and]
  exact Nat.and_two_pow_sub_one_eq_mod value.toNat 8

/-! ## The requests -/

section Asked

variable (req : SetupReq) (stale : Pointer) (mem : Memory) (inputs : Inputs)

theorem mainSetupHandle_read {h : Handling} (vendor : h.ctrlreq.req.isVendor = true)
    (code : h.ctrlreq.req.bRequest = 0x01) : mainSetupHandle inputs h =
      some (h.answer ⟨.flashTable, h.ctrlreq.req.wIndex.toNat⟩ h.ctrlreq.req.wLength.toNat) := by
  simp [mainSetupHandle, vendor, code]

theorem mainSetupHandle_write {h : Handling} (vendor : h.ctrlreq.req.isVendor = true)
    (code : h.ctrlreq.req.bRequest = 0x02) :
    mainSetupHandle inputs h = some (writeFlashTable h.ctrlreq.req.wIndex.toNat h) := by
  simp [mainSetupHandle, vendor, code]

theorem mainSetupHandle_writeSerial {h : Handling} (vendor : h.ctrlreq.req.isVendor = true)
    (code : h.ctrlreq.req.bRequest = 0x05) : mainSetupHandle inputs h =
      some (writeFlashTable (customSerialValidOffset + h.ctrlreq.req.wIndex.toNat) h) := by
  simp [mainSetupHandle, vendor, code]

theorem mainSetupHandle_readAdm1177 {h : Handling} (vendor : h.ctrlreq.req.isVendor = true)
    (code : h.ctrlreq.req.bRequest = 0x17) : mainSetupHandle inputs h =
      some ((readAdm1177 inputs Object.retData.base (h.ctrlreq.req.wIndex &&& 0xFF).toNat h).answer
        Object.retData.base (h.ctrlreq.req.wIndex &&& 0xFF).toNat) := by
  simp [mainSetupHandle, vendor, code]

theorem mainSetupHandle_compatible {h : Handling} (vendor : h.ctrlreq.req.isVendor = true)
    (code : h.ctrlreq.req.bRequest = 0x30) (index : h.ctrlreq.req.wIndex = 4) :
    mainSetupHandle inputs h = some (h.answer Object.msftCompatible.base
      (min h.ctrlreq.req.wLength.toNat (dwLength h.mem))) := by
  simp [mainSetupHandle, vendor, code, index]

/-- The range that a vendor request leaves as its payload, by its code. -/
def rangeOf (r : SetupReq) (mem : Memory) (code : Nat) : Pointer × Nat :=
  match code with
  | 0x00 =>
    if r.wIndex = 0 then (Object.hwversion.base, 2)
    else if r.wIndex = 1 then (Object.fwversion.base, 5)
    else (Object.null.base, 0)
  | 0x01 | 0x02 => (⟨.flashTable, r.wIndex.toNat⟩, r.wLength.toNat)
  | 0x05 => (⟨.flashTable, customSerialValidOffset + r.wIndex.toNat⟩, r.wLength.toNat)
  | 0x17 => (Object.retData.base, r.wIndex.toNat % 256)
  | 0x19 | 0x6F => (Object.retData.base, 2)
  | 0x91 => (Object.retData.base, 1)
  | 0x30 =>
    if r.wIndex = 4 then (Object.msftCompatible.base, min r.wLength.toNat (dwLength mem))
    else (Object.null.base, 0)
  | _ => (Object.null.base, 0)

/-- The range that a vendor request leaves as its payload. -/
def SetupReq.range (r : SetupReq) (mem : Memory) : Pointer × Nat := rangeOf r mem r.bRequest.toNat

/-- The payload of a request is `range`; an empty one lies anywhere. -/
def PayloadIs (range : Pointer × Nat) (h : Handling) : Prop :=
  h.ctrlreq.payloadSize = range.2 ∧ (range.2 ≠ 0 → h.ctrlreq.payload = range.1)

theorem answer_payload (h : Handling) (ptr : Pointer) (size : Nat) :
    PayloadIs (ptr, size) (h.answer ptr size) := by
  unfold Handling.answer
  split_ifs with empty
  · exact ⟨rfl, fun some => absurd empty some⟩
  · exact ⟨rfl, fun _ => rfl⟩

theorem mainSetupHandle_payload {inputs : Inputs} {h h' : Handling}
    (none : h.ctrlreq.payloadSize = 0) (vendor : h.ctrlreq.req.isVendor = true)
    (accepted : mainSetupHandle inputs h = some h') : PayloadIs (h.ctrlreq.req.range h.mem) h' := by
  simp only [mainSetupHandle, vendor, if_true] at accepted
  split at accepted <;> try injection accepted with accepted
  case h_1 _ code =>
    simp only [SetupReq.range, rangeOf, code]
    rw [← accepted]
    split_ifs <;> exact answer_payload _ _ _
  case h_3 _ code | h_5 _ code =>
    simp only [SetupReq.range, rangeOf, code]
    rw [← accepted]
    exact ⟨rfl, fun _ => rfl⟩
  case h_4 _ code =>
    simp only [SetupReq.range, rangeOf, code]
    rw [← accepted, setLeds]
    split_ifs <;> exact ⟨none, fun some => absurd rfl some⟩
  case h_6 _ code =>
    simp only [SetupReq.range, rangeOf, code]
    rw [← accepted, ← low_byte]
    exact answer_payload _ _ _
  case h_23 _ code =>
    simp only [SetupReq.range, rangeOf, code]
    split_ifs at accepted with index
    injection accepted with accepted
    rw [← accepted, if_pos index]
    exact answer_payload _ _ _
  case h_24 =>
    rw [← accepted, SetupReq.range, rangeOf]
    · exact answer_payload _ _ _
    all_goals assumption
  all_goals
    rename_i code
    simp only [SetupReq.range, rangeOf, code]
    rw [← accepted]
    exact answer_payload _ _ _

/-- The arrays that are filled have room, when the length that request 0x17 asks for does. -/
theorem mainSetupHandle_filled {h h' : Handling} (accepted : mainSetupHandle inputs h = some h')
    (room : h.ctrlreq.req.isVendor = true → h.ctrlreq.req.bRequest = 0x17 →
      h.ctrlreq.req.wIndex.toNat % 256 ≤ 64)
    (filled : ∀ range ∈ h.filled, Within range.1 range.2 range.1.object) :
    ∀ range ∈ h'.filled, Within range.1 range.2 range.1.object := by
  cases vendor : h.ctrlreq.req.isVendor with
  | false =>
    simp only [mainSetupHandle, vendor, Bool.false_eq_true, if_false] at accepted
    rw [← Option.some.inj accepted, filled_answer]
    exact filled
  | true =>
    simp only [mainSetupHandle, vendor, if_true] at accepted
    split at accepted <;> try injection accepted with accepted
    case h_1 =>
      rw [← accepted]
      split_ifs <;> (rw [filled_answer]; exact filled)
    case h_3 | h_5 =>
      rw [← accepted]
      exact filled
    case h_4 =>
      rw [← accepted, setLeds]
      split_ifs <;> exact filled
    -- 0x17: the length is the one that the request asks for
    case h_6 _ code =>
      rw [← accepted, filled_answer, readAdm1177, filled_command]
      apply fill_base_within filled
      have length := twiMasterRead_length inputs.twi (h.ctrlreq.req.wIndex &&& 0xFF).toNat 15000
      rw [low_byte] at length
      rw [low_byte]
      exact length.trans (room vendor (UInt8.toNat_inj.mp code))
    case h_7 =>
      rw [← accepted, filled_answer]
      apply getSampleAd7682_within _ _ (by decide)
      apply getSampleAd7682_within _ _ (by decide)
      exact getSampleAd7682_within _ filled (by decide)
    case h_16 =>
      rw [← accepted, filled_answer]
      exact fill_base_within filled (show 1 ≤ 64 by decide)
    case h_21 =>
      rw [← accepted, filled_answer]
      exact fill_base_within filled (show 2 ≤ 64 by decide)
    case h_23 =>
      split_ifs at accepted
      rw [← Option.some.inj accepted, filled_answer]
      exact filled
    -- the requests that fill nothing
    all_goals
      rw [← accepted, filled_answer]
      exact filled

/-- In bounds, the range of a request lies in the array that the request names. -/
theorem range_within {req : SetupReq} {mem : Memory} (inBounds : InBounds req mem)
    (vendor : req.isVendor = true) :
    match req.named with
    | some o => Within (req.range mem).1 (req.range mem).2 o
    | none => (req.range mem).2 = 0 := by
  have bounds := inBounds vendor
  have byte {code : UInt8} (same : req.bRequest.toNat = code.toNat) : req.bRequest = code :=
    UInt8.toNat_inj.mp same
  have inTable {offset : Nat} (room : req.wLength = 0 ∨ offset + req.wLength.toNat ≤ 256) :
      Within ⟨.flashTable, offset⟩ req.wLength.toNat .flashTable :=
    (within_iff _ _ _).mpr (room.imp (fun none => by rw [none]; rfl) id)
  rw [SetupReq.named, if_pos vendor, SetupReq.range]
  generalize code : req.bRequest.toNat = n
  fun_cases rangeOf req mem n
  -- 0x00: the two version strings
  case case1 hw =>
    rw [namedArray, if_pos hw]
    exact (within_iff _ _ _).mpr (.inr (by decide))
  case case2 notHw fw =>
    rw [namedArray, if_neg notHw, if_pos fw]
    exact (within_iff _ _ _).mpr (.inr (by decide))
  case case3 notHw notFw => rw [namedArray, if_neg notHw, if_neg notFw]
  -- 0x01, 0x02 and 0x05: the host chooses offset and length
  case case4 => exact inTable (bounds.1 (.inl (byte code)))
  case case5 => exact inTable (bounds.1 (.inr (byte code)))
  case case6 => exact inTable (bounds.2.1 (byte code))
  -- 0x17: the host chooses the length
  case case7 =>
    have room : req.wIndex.toNat % 256 ≤ 64 := bounds.2.2.1 (byte code)
    exact (within_iff .retData 0 _).mpr (.inr (by simpa [Object.size] using room))
  case case8 | case9 | case10 => exact (within_iff .retData 0 _).mpr (.inr (by decide))
  -- 0x30: the length is read from the array itself
  case case11 index =>
    have room := bounds.2.2.2 (byte code) index
    exact (within_iff .msftCompatible 0 _).mpr (.inr (by simpa [Object.size] using room))
  case case12 =>
    intro k inside
    exact absurd inside (Nat.not_lt_zero k)
  case case13 =>
    rw [namedArray]
    all_goals assumption

/-- In bounds, every request that `main_setup_handle` accepts is safe. -/
theorem mainSetupHandle_safe (inBounds : InBounds req mem) {h : Handling}
    (accepted : mainSetupHandle inputs (asked req stale mem) = some h) : MemorySafe req.named h where
  payload := by
    cases vendor : req.isVendor with
    | false =>
      simp only [mainSetupHandle, asked, vendor, Bool.false_eq_true, if_false] at accepted
      simp only [SetupReq.named, vendor, Bool.false_eq_true, if_false, ← Option.some.inj accepted]
      rfl
    | true =>
      obtain ⟨size, start⟩ := mainSetupHandle_payload (h := asked req stale mem) rfl vendor accepted
      have within := range_within inBounds vendor
      cases named : req.named with
      | none =>
        rw [named] at within
        exact size.trans within
      | some o =>
        rw [named] at within
        intro k inside
        have below : k < (req.range mem).2 := inside.trans_eq size
        have payload : h.ctrlreq.payload = (req.range mem).1 := start (Nat.ne_zero_of_lt below)
        rw [payload]
        exact within k below
  filled := by
    apply mainSetupHandle_filled inputs accepted
    · exact fun vendor code => (inBounds vendor).2.2.1 code
    · intro range member
      cases member

/-- The string descriptor is safe whatever the request asks for. -/
theorem msftStringHandle_safe {h : Handling}
    (accepted : msftStringHandle (asked req stale mem) = some h) :
    MemorySafe (some .extraStringsDesc) h := by
  unfold msftStringHandle at accepted
  split_ifs at accepted with magic
  injection accepted with accepted
  rw [← accepted]
  constructor
  · apply (within_iff .extraStringsDesc 0 _).mpr
    exact .inr (by show 0 + min 18 _ ≤ 20; omega)
  · intro range member
    simp only [Handling.setPayload, filled_fill, asked, List.nil_append, List.mem_append,
      List.mem_singleton] at member
    cases member with
    | inl string => rw [string]; exact (within_iff .extraStringsDesc 2 16).mpr (.inr (by decide))
    | inr length => rw [length]; exact (within_iff .extraStringsDesc 0 1).mpr (.inr (by decide))

/-- Every accepted request is safe exactly when its offset and length keep to the array; for 0x30
    the length is what OUT data may have left there. -/
theorem request_memory_safe_iff :
    ((∀ h, mainSetupHandle inputs (asked req stale mem) = some h → MemorySafe req.named h) ∧
      ∀ h, msftStringHandle (asked req stale mem) = some h →
        MemorySafe (some .extraStringsDesc) h) ↔ InBounds req mem := by
  constructor
  · rintro ⟨safe, -⟩ vendor
    refine ⟨?_, ?_, ?_, ?_⟩
    · rintro (code | code)
      · have payload := (safe _ (mainSetupHandle_read inputs vendor code)).payload
        rw [SetupReq.named, if_pos vendor, code] at payload
        exact ((answer_within _ _ _ _).mp payload).imp (fun none => UInt16.toNat_inj.mp none) id
      · have payload := (safe _ (mainSetupHandle_write inputs vendor code)).payload
        rw [SetupReq.named, if_pos vendor, code] at payload
        exact ((within_iff _ _ _).mp payload).imp (fun none => UInt16.toNat_inj.mp none) id
    · intro code
      have payload := (safe _ (mainSetupHandle_writeSerial inputs vendor code)).payload
      rw [SetupReq.named, if_pos vendor, code] at payload
      exact ((within_iff _ _ _).mp payload).imp (fun none => UInt16.toNat_inj.mp none) id
    · intro code
      have payload := (safe _ (mainSetupHandle_readAdm1177 inputs vendor code)).payload
      rw [SetupReq.named, if_pos vendor, code] at payload
      have room := (answer_within _ _ _ _).mp payload
      rw [← low_byte]
      simp only [Object.size, asked] at room
      omega
    · intro code index
      have payload := (safe _ (mainSetupHandle_compatible inputs vendor code index)).payload
      rw [SetupReq.named, if_pos vendor, code] at payload
      have room := (answer_within _ _ _ _).mp payload
      simp only [Object.size, asked] at room
      omega
  · intro inBounds
    exact ⟨fun h => mainSetupHandle_safe req stale mem inputs inBounds,
      fun h => msftStringHandle_safe req stale mem⟩

end Asked

/-- A read of 64 bytes at offset 300 of the table is accepted, and its payload begins 44 bytes
    after the end of the table. -/
theorem read_beyond_table :
    ∃ h, mainSetupHandle {} (asked ⟨0xC0, 0x01, 0, 300, 64⟩ Object.null.base fun _ _ => 0) = some h ∧
      h.ctrlreq.payload = ⟨.flashTable, 300⟩ ∧ h.ctrlreq.payloadSize = 64 ∧
      ¬ MemorySafe (SetupReq.named ⟨0xC0, 0x01, 0, 300, 64⟩) h := by
  refine ⟨_, rfl, rfl, rfl, ?_⟩
  intro safe
  exact absurd (safe.payload 0 (by decide)).2 (by decide)

end M1k.Control
