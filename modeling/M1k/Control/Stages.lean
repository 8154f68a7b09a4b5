import M1k.Control.Endpoint

/-! # What each handler of the control endpoint does

One lemma for the decoding of a request, and one for each handler in each stage.  The modules on
whole requests use these, and unfold nothing of the endpoint. -/

namespace M1k.Control

open Library

variable {σ : Type*}

/-! ## Decoding a request -/

/-- The arrays that are filled while a request is handled. -/
def Object.isScratch : Object → Bool
  | .retData | .dummy | .extraStringsDesc | .udcStringDesc => true
  | _ => false

/-- Requests 0x02 and 0x05 -/
def SetupReq.writesTable (r : SetupReq) : Bool :=
  r.isVendor && (r.bRequest == 0x02 || r.bRequest == 0x05)

theorem writesTable_iff (r : SetupReq) :
    r.writesTable = true ↔ r.isVendor = true ∧ (r.bRequest.toNat = 0x02 ∨ r.bRequest.toNat = 0x05) := by
  simp [SetupReq.writesTable, ← UInt8.toNat_inj]

/-- Where in the table the data of a write request goes -/
def SetupReq.tableOffset (r : SetupReq) : Nat :=
  if r.bRequest = 0x05 then customSerialValidOffset + r.wIndex.toNat else r.wIndex.toNat

/-- From `h` to `h'` a request other than a write has been handled. -/
structure Handled (h h' : Handling) : Prop where
  req : h'.ctrlreq.req = h.ctrlreq.req
  mem : ∀ o, o.isScratch = false → h'.mem o = h.mem o
  callback : h'.ctrlreq.callback = some .storeFlashTable → h.ctrlreq.callback = some .storeFlashTable
  /-- Only a read of the table leaves a payload in it. -/
  payload : h'.ctrlreq.payloadSize = 0 ∨ h'.ctrlreq.payload.object ≠ .flashTable ∨
    h.ctrlreq.req.isVendor = true ∧ h.ctrlreq.req.bRequest = 0x01
  small : h'.ctrlreq.payloadSize < 65536

theorem handled_refl {h : Handling} (none : h.ctrlreq.payloadSize = 0) : Handled h h where
  req := rfl
  mem _ _ := rfl
  callback := id
  payload := .inl none
  small := by rw [none]; decide

theorem handled_fill {h h' : Handling} (handled : Handled h h') {dest : Pointer}
    (scratch : dest.object.isScratch = true) (bytes : List UInt8) : Handled h (h'.fill dest bytes) where
  req := handled.req
  mem o kept := by
    rw [← handled.mem o kept]
    apply Memory.put_other
    intro same
    rw [same, scratch] at kept
    cases kept
  callback := handled.callback
  payload := handled.payload
  small := handled.small

theorem handled_command {h h' : Handling} (handled : Handled h h') (commands : List Command) :
    Handled h (h'.command commands) :=
  { handled with }

theorem handled_setPayload {h h' : Handling} (handled : Handled h h') {ptr : Pointer} {size : Nat}
    (elsewhere : ptr.object ≠ .flashTable ∨ h.ctrlreq.req.isVendor = true ∧ h.ctrlreq.req.bRequest = 0x01)
    (small : size < 65536) : Handled h (h'.setPayload ptr size) where
  req := handled.req
  mem := handled.mem
  callback := handled.callback
  payload := .inr elsewhere
  small := small

theorem handled_answer {h h' : Handling} (handled : Handled h h') {ptr : Pointer} {size : Nat}
    (elsewhere : ptr.object ≠ .flashTable ∨ h.ctrlreq.req.isVendor = true ∧ h.ctrlreq.req.bRequest = 0x01)
    (small : size < 65536) : Handled h (h'.answer ptr size) := by
  unfold Handling.answer
  split_ifs with empty
  · exact { handled with
      callback := fun stored => by cases stored
      payload := .inl empty
      small := by rw [empty]; exact Nat.succ_pos _ }
  · exact handled_setPayload handled elsewhere small

/-- A request with nothing to reply. -/
theorem handled_nothing {h h' : Handling} (handled : Handled h h') :
    Handled h (h'.answer Object.null.base 0) :=
  handled_answer handled (.inl (by decide)) (by decide)

theorem handled_setLeds {h : Handling} (none : h.ctrlreq.payloadSize = 0) : Handled h (setLeds h) := by
  unfold setLeds
  split_ifs <;> exact handled_command (handled_refl none) _

theorem handled_getSampleAd7682 {h h' : Handling} (handled : Handled h h')
    (conversions : Fin 3 → UInt8 × UInt8) {data : Pointer} (scratch : data.object.isScratch = true) :
    Handled h (getSampleAd7682 conversions data h') := by
  apply handled_fill _ scratch
  apply handled_fill _ scratch
  exact handled_fill handled scratch _

/-- `main_setup_handle` either prepares a write of the table, or leaves everything but the arrays
    of its replies alone. -/
theorem mainSetupHandle_cases {inputs : Inputs} {h h' : Handling} (none : h.ctrlreq.payloadSize = 0)
    (accepted : mainSetupHandle inputs h = some h') :
    h.ctrlreq.req.writesTable = true ∧ h' = writeFlashTable h.ctrlreq.req.tableOffset h ∨
      h.ctrlreq.req.writesTable = false ∧ Handled h h' := by
  have here := handled_refl none
  cases vendor : h.ctrlreq.req.isVendor with
  | false =>
    simp only [mainSetupHandle, vendor, Bool.false_eq_true, if_false] at accepted
    rw [← Option.some.inj accepted]
    exact .inr ⟨by simp [SetupReq.writesTable, vendor], handled_nothing here⟩
  | true =>
    have small (value : UInt16) : value.toNat < 65536 := value.toNat_lt
    have byte (code : UInt8) (same : h.ctrlreq.req.bRequest.toNat = code.toNat) :
        h.ctrlreq.req.bRequest = code := UInt8.toNat_inj.mp same
    have writes := writesTable_iff h.ctrlreq.req
    have notWriting (code : ¬ (h.ctrlreq.req.bRequest.toNat = 0x02 ∨ h.ctrlreq.req.bRequest.toNat = 0x05)) :
        h.ctrlreq.req.writesTable = false := by
      simp only [Bool.eq_false_iff, ne_eq, writes]
      exact fun both => code both.2
    simp only [mainSetupHandle, vendor, if_true] at accepted
    split at accepted <;> try injection accepted with accepted
    -- 0x02 and 0x05 write the table, and are the only ones
    case h_3 _ code =>
      rw [← accepted, SetupReq.tableOffset, byte 0x02 code]
      exact .inl ⟨writes.mpr ⟨vendor, .inl code⟩, rfl⟩
    case h_5 _ code =>
      rw [← accepted, SetupReq.tableOffset, byte 0x05 code]
      exact .inl ⟨writes.mpr ⟨vendor, .inr code⟩, rfl⟩
    case h_1 _ code =>
      refine .inr ⟨notWriting (by omega), ?_⟩
      rw [← accepted]
      split_ifs
      · exact handled_answer here (.inl (by decide)) (by decide)
      · exact handled_answer here (.inl (by decide)) (by decide)
      · exact handled_nothing here
    -- 0x01: the payload is the table itself, but it is only read
    case h_2 _ code =>
      refine .inr ⟨notWriting (by omega), ?_⟩
      rw [← accepted]
      exact handled_answer here (.inr ⟨vendor, byte 0x01 code⟩) (small _)
    case h_4 _ code =>
      refine .inr ⟨notWriting (by omega), ?_⟩
      rw [← accepted]
      exact handled_setLeds none
    -- 0x17: the payload is `ret_data`
    case h_6 _ code =>
      refine .inr ⟨notWriting (by omega), ?_⟩
      rw [← accepted]
      apply handled_answer _ (.inl (by decide)) (small _)
      exact handled_command (handled_fill here rfl _) _
    case h_7 _ code =>
      refine .inr ⟨notWriting (by omega), ?_⟩
      rw [← accepted]
      apply handled_answer _ (.inl (by decide)) (by decide)
      apply handled_getSampleAd7682 _ _ rfl
      apply handled_getSampleAd7682 _ _ rfl
      exact handled_getSampleAd7682 here _ rfl
    case h_16 _ code | h_21 _ code =>
      refine .inr ⟨notWriting (by omega), ?_⟩
      rw [← accepted]
      apply handled_answer _ (.inl (by decide)) (by decide)
      apply handled_fill _ rfl
      first | exact handled_command here _ | exact here
    case h_23 _ code =>
      refine .inr ⟨notWriting (by omega), ?_⟩
      split_ifs at accepted with known
      injection accepted with accepted
      rw [← accepted]
      exact handled_answer here (.inl (by decide)) ((Nat.min_le_left _ _).trans_lt (small _))
    -- a code that `main_setup_handle` does not know
    case h_24 =>
      have unknown : ¬ (h.ctrlreq.req.bRequest.toNat = 0x02 ∨ h.ctrlreq.req.bRequest.toNat = 0x05) := by
        rintro (code | code)
        · exact ‹h.ctrlreq.req.bRequest.toNat = 0x02 → False› code
        · exact ‹h.ctrlreq.req.bRequest.toNat = 0x05 → False› code
      refine .inr ⟨notWriting unknown, ?_⟩
      rw [← accepted]
      exact handled_nothing here
    -- the requests that only act on the hardware
    all_goals
      rename_i code
      refine .inr ⟨notWriting (by omega), ?_⟩
      rw [← accepted]
      exact handled_nothing (handled_command here _)

/-- `main_setup_handle` refuses nothing but an index of request 0x30. -/
theorem mainSetupHandle_accepts (inputs : Inputs) (h : Handling) :
    (mainSetupHandle inputs h).isSome = true ↔
      ¬ (h.ctrlreq.req.isVendor = true ∧ h.ctrlreq.req.bRequest = 0x30 ∧ h.ctrlreq.req.wIndex ≠ 4) := by
  cases vendor : h.ctrlreq.req.isVendor with
  | false => simp [mainSetupHandle, vendor]
  | true =>
    have code : h.ctrlreq.req.bRequest = 0x30 ↔ h.ctrlreq.req.bRequest.toNat = 0x30 :=
      UInt8.toNat_inj.symm
    simp only [mainSetupHandle, vendor, if_true, code]
    split
    case h_23 known =>
      simp only [known, true_and]
      split_ifs with index <;> simp [index]
    case h_24 =>
      simp only [Option.isSome_some, true_and, true_iff]
      exact fun both => absurd both.1 ‹h.ctrlreq.req.bRequest.toNat = 0x30 → False›
    all_goals
      rename_i known
      simp [known]

theorem handled_setCallback {h : Handling} (none : h.ctrlreq.payloadSize = 0) :
    Handled h (h.setCallback .udc) :=
  { handled_refl none with callback := fun stored => by cases stored }

theorem msftStringHandle_handled {h h' : Handling} (none : h.ctrlreq.payloadSize = 0)
    (accepted : msftStringHandle h = some h') : Handled h h' := by
  unfold msftStringHandle at accepted
  split_ifs at accepted
  injection accepted with accepted
  rw [← accepted]
  apply handled_setPayload _ (.inl (by decide)) (by omega)
  exact handled_fill (handled_fill (handled_refl none) rfl _) rfl _

theorem stringDescriptor_handled {h : Handling} (none : h.ctrlreq.payloadSize = 0)
    (str : List UInt8) : Handled h (stringDescriptor str h) := by
  apply handled_setPayload _ (.inl (by decide)) (by omega)
  exact handled_fill (handled_fill (handled_refl none) rfl _) rfl _

theorem descriptor_handled {h h' : Handling} (none : h.ctrlreq.payloadSize = 0)
    (accepted : descriptor h = some h') : Handled h h' := by
  have reply {size : Nat} (small : size < 65536) :
      Handled h (h.setPayload (Object.udc size).base size) :=
    handled_setPayload (handled_refl none) (.inl (by simp [Object.base])) small
  simp only [descriptor] at accepted
  split at accepted
  · rw [← Option.some.inj accepted]; exact reply (by decide)
  · split_ifs at accepted; rw [← Option.some.inj accepted]; exact reply (by decide)
  · rw [← Option.some.inj accepted]; exact reply (by decide)
  · split_ifs at accepted; rw [← Option.some.inj accepted]; exact reply (by decide)
  · unfold udcReqStdDevGetStrDesc at accepted
    split at accepted
    · rw [← Option.some.inj accepted]
      exact handled_setPayload (handled_refl none) (.inl (by decide)) (by decide)
    · rw [← Option.some.inj accepted]; exact stringDescriptor_handled none _
    · rw [← Option.some.inj accepted]; exact stringDescriptor_handled none _
    · rw [← Option.some.inj accepted]; exact stringDescriptor_handled none _
    · exact msftStringHandle_handled none accepted
  · cases accepted

theorem udcReqStdDevGetDescriptor_handled {h h' : Handling} (none : h.ctrlreq.payloadSize = 0)
    (accepted : udcReqStdDevGetDescriptor h = some h') : Handled h h' := by
  obtain ⟨found, foundDescriptor, clipped⟩ := Option.map_eq_some_iff.mp accepted
  have handled := descriptor_handled none foundDescriptor
  rw [← clipped]
  split_ifs with long
  · exact { handled with
      payload := by
        cases handled.payload with
        | inl empty => omega
        | inr elsewhere => exact .inr elsewhere
      small := UInt16.toNat_lt _ }
  · exact handled

theorem replyOf_handled {size : Nat} {h h' : Handling} (none : h.ctrlreq.payloadSize = 0)
    (small : size < 65536) (accepted : replyOf size h = some h') : Handled h h' := by
  unfold replyOf at accepted
  split_ifs at accepted
  rw [← Option.some.inj accepted]
  exact handled_setPayload (handled_refl none) (.inl (by simp [Object.base])) small

/-- The USB core touches none of the application's arrays. -/
theorem udcReqstd_handled {core : Core} {h h' : Handling} (none : h.ctrlreq.payloadSize = 0)
    (accepted : udcReqstd core h = some h') : Handled h h' := by
  have kept (accepted : some h = some h') : Handled h h' := by
    rw [← Option.some.inj accepted]; exact handled_refl none
  have called (accepted : some (h.setCallback .udc) = some h') : Handled h h' := by
    rw [← Option.some.inj accepted]; exact handled_setCallback none
  unfold udcReqstd at accepted
  split_ifs at accepted with direction asks
  · -- requests with a data stage reply from the arrays of the core
    unfold udcReqstdIn at accepted
    split_ifs at accepted
    · split at accepted
      · exact replyOf_handled none (by decide) accepted
      · exact udcReqStdDevGetDescriptor_handled none accepted
      · exact replyOf_handled none (by decide) accepted
      · cases accepted
    · split at accepted
      · unfold udcReqStdIfaceGetSetting at accepted
        split_ifs at accepted
        rw [← Option.some.inj accepted]
        exact handled_setPayload (handled_refl none) (.inl (by simp [Object.base])) (by decide)
      · cases accepted
    · split at accepted
      · exact replyOf_handled none (by decide) accepted
      · cases accepted
  · -- requests without one set a callback at most
    unfold udcReqstdOut udcReqStdDevSetFeature udcReqStdDevSetConfiguration
      udcReqStdIfaceSetSetting at accepted
    split_ifs at accepted <;> split at accepted <;> try split_ifs at accepted
    all_goals first | exact kept accepted | exact called accepted | cases accepted

/-- Decoding a request either prepares a write of the table, or leaves everything but the arrays
    of the replies alone. -/
theorem udcDecode_cases {inputs : Inputs} {h h' : Handling} (none : h.ctrlreq.payloadSize = 0)
    (accepted : udcDecode inputs h = some h') :
    h.ctrlreq.req.writesTable = true ∧ h' = writeFlashTable h.ctrlreq.req.tableOffset h ∨
      h.ctrlreq.req.writesTable = false ∧ Handled h h' := by
  unfold udcDecode at accepted
  simp only [udcDecodeOther_eq] at accepted
  split_ifs at accepted with refused standard
  · split at accepted
    · rename_i found core
      have notVendor : h.ctrlreq.req.writesTable = false := by
        simp [SetupReq.writesTable, SetupReq.isVendor, standard]
      rw [← Option.some.inj accepted]
      exact .inr ⟨notVendor, udcReqstd_handled none core⟩
    · exact mainSetupHandle_cases none accepted
  · exact mainSetupHandle_cases none accepted

/-- Decoding keeps the request, and leaves a payload of 16 bits. -/
theorem udcDecode_req {inputs : Inputs} {h h' : Handling} (none : h.ctrlreq.payloadSize = 0)
    (accepted : udcDecode inputs h = some h') :
    h'.ctrlreq.req = h.ctrlreq.req ∧ h'.ctrlreq.payloadSize < 65536 := by
  cases udcDecode_cases none accepted with
  | inl write =>
    rw [write.2]
    exact ⟨rfl, UInt16.toNat_lt _⟩
  | inr other => exact ⟨other.2.req, other.2.small⟩

/-! ## The stages of a request -/

theorem sub16_eq {a b : Nat} (le : b ≤ a) (small : a < 65536) : sub16 a b = a - b := by
  unfold sub16; omega

theorem endofrequest_other (efc : Efc σ) {d : Device σ}
    (other : d.ctrlreq.callback ≠ some .storeFlashTable) : endofrequest efc d = d := by
  unfold endofrequest
  split
  · contradiction
  · rfl
  · rfl

theorem endofrequest_store (efc : Efc σ) {d : Device σ}
    (store : d.ctrlreq.callback = some .storeFlashTable) : endofrequest efc d =
      { d with
        mem := Function.update d.mem .serialNumber
          (storeFlashTable efc (d.mem .flashTable) (d.mem .serialNumber) d.chip).1
        chip := (storeFlashTable efc (d.mem .flashTable) (d.mem .serialNumber) d.chip).2
        trace := d.trace ++ [.stored] } := by
  unfold endofrequest
  rw [store]

/-- `endofrequest` changes the memory at the serial number only, and only by a store. -/
theorem endofrequest_mem (efc : Efc σ) (d : Device σ) {o : Object} (other : o ≠ .serialNumber) :
    (endofrequest efc d).mem o = d.mem o := by
  by_cases store : d.ctrlreq.callback = some .storeFlashTable
  · rw [endofrequest_store efc store]
    exact Function.update_of_ne other _ _
  · rw [endofrequest_other efc store]

/-- Nothing is registered as `over_under_run`. -/
theorem overUnderRun_none (r : CtrlReq) : r.overUnderRun = none := by
  cases found : r.overUnderRun with
  | none => rfl
  | some refill => cases refill

theorem outCopied_eq (nbData : Nat) (d : Device σ) : outCopied nbData d =
    if nbData ≠ 64 ∨ d.ctrlreq.req.wLength.toNat ≤ d.prevPayloadBufCnt + d.payloadBufCnt then
      sendZlpIn { d with ctrlreq := { d.ctrlreq with payloadSize := d.payloadBufCnt } }
    else if d.ctrlreq.payloadSize = d.payloadBufCnt then stallData d
    else d := by
  simp only [outCopied, overUnderRun_none, Bool.or_eq_true, decide_eq_true_eq]

/-- The endpoint once as much of a packet has been copied as the payload has room for. -/
def Device.copied (packet : List UInt8) (d : Device σ) : Device σ :=
  { d with
    mem := d.mem.put (d.ctrlreq.payload.add d.payloadBufCnt)
      (packet.take (d.ctrlreq.payloadSize - d.payloadBufCnt))
    payloadBufCnt := d.payloadBufCnt + min packet.length (d.ctrlreq.payloadSize - d.payloadBufCnt)
    trace := d.trace ++ [.received (d.ctrlreq.payload.add d.payloadBufCnt)
      (packet.take (d.ctrlreq.payloadSize - d.payloadBufCnt))] }

/-- A packet that the payload has room for. -/
theorem copied_whole {d : Device σ} {packet : List UInt8}
    (room : packet.length ≤ d.ctrlreq.payloadSize - d.payloadBufCnt) : d.copied packet = { d with
      mem := d.mem.put (d.ctrlreq.payload.add d.payloadBufCnt) packet
      payloadBufCnt := d.payloadBufCnt + packet.length
      trace := d.trace ++ [.received (d.ctrlreq.payload.add d.payloadBufCnt) packet] } := by
  simp only [Device.copied, List.take_of_length_le room, Nat.min_eq_left room]

theorem step_out (efc : Efc σ) (d : Device σ) (packet : List UInt8) :
    step efc d (.control { out := some packet }) = outReceived efc packet d := by
  simp [step, ctrlInterrupt]

theorem outReceived_data (efc : Efc σ) {d : Device σ} {packet : List UInt8} (stage : d.state = .dataOut)
    (counted : d.payloadBufCnt ≤ d.ctrlreq.payloadSize) (small : d.ctrlreq.payloadSize < 65536) :
    outReceived efc packet d =
      outCopied (min packet.length (d.ctrlreq.payloadSize - d.payloadBufCnt)) (d.copied packet) := by
  have count : (d.payloadBufCnt + min packet.length (d.ctrlreq.payloadSize - d.payloadBufCnt)) % 65536 =
      d.payloadBufCnt + min packet.length (d.ctrlreq.payloadSize - d.payloadBufCnt) :=
    Nat.mod_eq_of_lt (by omega)
  simp only [outReceived, Device.copied, stage, ne_eq, not_true_eq_false, if_false]
  by_cases long : d.ctrlreq.payloadSize < d.payloadBufCnt + packet.length
  · have room : min packet.length (d.ctrlreq.payloadSize - d.payloadBufCnt) =
        d.ctrlreq.payloadSize - d.payloadBufCnt := by omega
    rw [room] at count
    rw [if_pos long, sub16_eq counted small, count, room]
  · have whole : min packet.length (d.ctrlreq.payloadSize - d.payloadBufCnt) = packet.length := by omega
    rw [whole] at count
    rw [if_neg long, count, whole, List.take_length, List.take_of_length_le (by omega)]

theorem sendNext_aborted (nbRemain : Nat) (d : Device σ) : sendNext true nbRemain d =
    { d with bShortpacket := nbRemain < 64, state := .handshakeWaitOutZlp } := rfl

theorem sendNext_sent (nbRemain : Nat) (d : Device σ) : sendNext false nbRemain d =
    { d with
      bShortpacket := nbRemain < 64
      payloadBufCnt := (d.payloadBufCnt + min nbRemain 64) % 65536
      inSendInterrupt := true
      trace := d.trace ++ [.sent (d.ctrlreq.payload.add d.payloadBufCnt)
        (d.mem.slice (d.ctrlreq.payload.add d.payloadBufCnt) (min nbRemain 64))] } := by
  have size : (if 64 ≤ nbRemain then 64 else nbRemain) = min nbRemain 64 := by split_ifs <;> omega
  simp only [sendNext, size, Bool.false_eq_true, if_false]

/-- The empty packet of the status stage has gone out: the request is over. -/
theorem inSent_handshake (efc : Efc σ) (outNow : Bool) {d : Device σ}
    (stage : d.state = .handshakeWaitInZlp) : inSent efc outNow d = ctrlInit (endofrequest efc d) := by
  simp only [inSent, stage, if_true]
  unfold endofrequest
  cases d.ctrlreq.callback with
  | none => rfl
  | some callback => cases callback <;> rfl

/-- A packet of the reply has gone out. -/
theorem inSent_data (efc : Efc σ) (outNow : Bool) {d : Device σ}
    (stage : d.state ≠ .handshakeWaitInZlp) : inSent efc outNow d =
      if sub16 d.ctrlreq.payloadSize d.payloadBufCnt = 0 then
        if d.ctrlreq.req.wLength.toNat = (d.prevPayloadBufCnt + d.payloadBufCnt) % 65536 ∨
            d.bShortpacket = true then
          { d with
            inSendInterrupt := false
            prevPayloadBufCnt := (d.prevPayloadBufCnt + d.payloadBufCnt) % 65536
            state := .handshakeWaitOutZlp }
        else
          sendNext outNow 0 { d with
            inSendInterrupt := false
            prevPayloadBufCnt := (d.prevPayloadBufCnt + d.payloadBufCnt) % 65536 }
      else
        sendNext outNow (sub16 d.ctrlreq.payloadSize d.payloadBufCnt)
          { d with inSendInterrupt := false } := by
  simp only [inSent, stage, if_false, overUnderRun_none, Bool.or_eq_true, decide_eq_true_eq]
  by_cases empty : sub16 d.ctrlreq.payloadSize d.payloadBufCnt = 0
  · simp only [empty, if_true]
    rfl
  · simp only [empty, if_false]

theorem sendNext_state (outNow : Bool) (remain : Nat) (d : Device σ) :
    (sendNext outNow remain d).state = d.state ∨
      (sendNext outNow remain d).state = .handshakeWaitOutZlp := by
  cases outNow with
  | true => exact .inr rfl
  | false => rw [sendNext_sent]; exact .inl rfl

theorem inSent_state (efc : Efc σ) (outNow : Bool) {d : Device σ} (noHandshake : d.state ≠ .handshakeWaitInZlp) :
    (inSent efc outNow d).state = d.state ∨
      (inSent efc outNow d).state = .handshakeWaitOutZlp := by
  rw [inSent_data efc outNow noHandshake]
  split_ifs
  · exact .inr rfl
  · exact sendNext_state _ _ _
  · exact sendNext_state _ _ _

/-! ## The setup stage -/

/-- What the functions that handle a request start from. -/
def Device.handling (req : SetupReq) (d : Device σ) : Handling :=
  ⟨{ req := req, payload := d.ctrlreq.payload }, d.mem, [], []⟩

/-- The endpoint once a request has been handled. -/
def Device.entered (efc : Efc σ) (req : SetupReq) (h : Handling) (d : Device σ) : Device σ :=
  { d with
    ctrlreq := h.ctrlreq
    mem := h.mem
    trace := d.trace ++ [.setup req d.table (d.page efc)] ++ h.commands.map .command }

theorem setupReceived_accepted (efc : Efc σ) (packet : SetupPacket) (outNow : Bool) {d : Device σ}
    {h : Handling} (whole : packet.byteCount = 8)
    (accepted : udcDecode packet.inputs ((interruptRequest efc d).handling packet.req) = some h) :
    setupReceived efc packet outNow d =
      startStages efc outNow ((interruptRequest efc d).entered efc packet.req h) := by
  have clear : Handling.clear
      ⟨{ (interruptRequest efc d).ctrlreq with req := packet.req }, (interruptRequest efc d).mem, [], []⟩ =
      (interruptRequest efc d).handling packet.req := rfl
  simp only [setupReceived, whole, ne_eq, not_true_eq_false, if_false, udcProcessSetup,
    Device.observe, clear, accepted, if_true]
  rfl

theorem setupReceived_refused (efc : Efc σ) (packet : SetupPacket) (outNow : Bool) {d : Device σ}
    (whole : packet.byteCount = 8)
    (refused : udcDecode packet.inputs ((interruptRequest efc d).handling packet.req) = none) :
    setupReceived efc packet outNow d = stallData ((interruptRequest efc d).entered efc packet.req
      ((interruptRequest efc d).handling packet.req)) := by
  have clear : Handling.clear
      ⟨{ (interruptRequest efc d).ctrlreq with req := packet.req }, (interruptRequest efc d).mem, [], []⟩ =
      (interruptRequest efc d).handling packet.req := rfl
  simp only [setupReceived, whole, ne_eq, not_true_eq_false, if_false, udcProcessSetup,
    Device.observe, clear, refused, Bool.false_eq_true]
  rfl

theorem interruptRequest_setup (efc : Efc σ) {d : Device σ} (stage : d.state = .setup) :
    interruptRequest efc d = d := by
  simp [interruptRequest, stage]

/-- A request that comes when none is under way, and is accepted. -/
theorem step_accepted (efc : Efc σ) {d : Device σ} {packet : SetupPacket} {h : Handling}
    (whole : packet.byteCount = 8) (stage : d.state = .setup)
    (accepted : udcDecode packet.inputs (d.handling packet.req) = some h) :
    step efc d (.control { setup := some packet }) =
      startStages efc false (d.entered efc packet.req h) := by
  rw [← interruptRequest_setup efc stage] at accepted
  have handled := setupReceived_accepted efc packet false whole accepted
  rwa [interruptRequest_setup efc stage] at handled

/-- A request that comes when none is under way, and is refused. -/
theorem step_refused (efc : Efc σ) {d : Device σ} {packet : SetupPacket}
    (whole : packet.byteCount = 8) (stage : d.state = .setup)
    (refused : udcDecode packet.inputs (d.handling packet.req) = none) :
    step efc d (.control { setup := some packet }) =
      stallData (d.entered efc packet.req (d.handling packet.req)) := by
  rw [← interruptRequest_setup efc stage] at refused
  have handled := setupReceived_refused efc packet false whole refused
  rwa [interruptRequest_setup efc stage] at handled

/-! ## After a boot -/

section Accepted

variable {d : Device σ} {req : SetupReq} {inputs : Inputs} {h : Handling}

theorem udcDecode_asks (accepted : udcDecode inputs (d.handling req) = some h) :
    req.isIn = true → req.wLength ≠ 0 := by
  intro direction empty
  simp [udcDecode, Device.handling, direction, empty] at accepted

/-- A vendor request that is accepted has been handled by the application. -/
theorem mainSetupHandle_accepted (vendor : req.isVendor = true)
    (accepted : udcDecode inputs (d.handling req) = some h) :
    mainSetupHandle inputs (d.handling req) = some h := by
  have handled : udcDecode inputs (d.handling req) = mainSetupHandle inputs (d.handling req) :=
    udcDecode_vendor inputs vendor (udcDecode_asks accepted)
  exact handled.symm.trans accepted

theorem udcDecode_known (vendor : req.isVendor = true)
    (accepted : udcDecode inputs (d.handling req) = some h) :
    ¬ (req.bRequest = 0x30 ∧ req.wIndex ≠ 4) := by
  have known := mainSetupHandle_accepts inputs (d.handling req)
  rw [mainSetupHandle_accepted vendor accepted] at known
  intro unknown
  exact known.mp rfl ⟨vendor, unknown⟩

end Accepted

section Boot

variable {efc : Efc σ} {uid : Nat → UInt32} (reliable : efc.Reliable uid) (pinHigh : Bool) (chip : σ)

include reliable in
/-- A boot leaves the flash alone. -/
theorem boot_byte : efc.byte (boot efc pinHigh chip).chip = efc.byte chip := by
  simp only [boot, initBuildUsbSerialNumber]
  rw [reliable.byte_readUniqueId]

/-- A boot loads the table from its page. -/
theorem boot_table (efc : Efc σ) (pinHigh : Bool) (chip : σ) (i : Fin 256) :
    (boot efc pinHigh chip).mem .flashTable i = efc.byte chip (flashTableBase + i) := by
  have inside := Bytes.put_inside (fun _ => (0 : UInt8)) 0
    (Bytes.slice (efc.byte chip) flashTableBase 256) i
    (by rw [Bytes.slice_length]; exact i.isLt)
  rw [Bytes.slice_getElem, Nat.zero_add] at inside
  rw [← inside]
  simp only [boot]
  rw [Function.update_of_ne (by decide), Function.update_self, readFlashTable]
  cases pinHigh with
  | true => rfl
  | false =>
    simp only [Bool.false_eq_true, if_false]
    rw [Memory.put_other _ (by decide)]
    rfl

include reliable in
/-- A boot builds the serial number from the table. -/
theorem boot_serial : ∃ serial, (boot efc pinHigh chip).mem .serialNumber =
    Bytes.put serial 0 (serialDigits ((boot efc pinHigh chip).mem .flashTable) uid) := by
  have other : Object.flashTable ≠ .serialNumber := by decide
  simp only [boot, initBuildUsbSerialNumber, Function.update_self, Function.update_of_ne other,
    reliable.serialDigits_readUniqueId]
  exact ⟨_, rfl⟩

end Boot

end M1k.Control
