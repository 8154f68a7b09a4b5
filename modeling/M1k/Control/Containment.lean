import M1k.Control.OnlyWrites

/-! # Writes that stay inside the arrays

The arrays lie side by side in one RAM, with the other variables and the stack, so that a write
beyond its array can change anything.  No interrupt makes one as long as the OUT data of each
request, and what request 0x17 reads, fit the array they are for. -/

namespace M1k.Control

open Library Library.Runs

variable {σ : Type*}

/-- What the request writes fits its array: its OUT data, and the bytes that 0x17 reads. -/
def SetupReq.Contained (r : SetupReq) : Prop :=
  r.isVendor = true →
    (r.bRequest = 0x17 → r.isIn = true ∧ r.wLength = 0 ∨ r.wIndex.toNat % 256 ≤ 64) ∧
    (r.isIn = false → r.wLength ≠ 0 →
      (r.bRequest = 0x01 ∨ r.bRequest = 0x02 → r.wIndex.toNat + r.wLength.toNat ≤ 256) ∧
      (r.bRequest = 0x05 → 220 + r.wIndex.toNat + r.wLength.toNat ≤ 256) ∧
      (r.bRequest = 0x30 → r.wLength.toNat ≤ 40))

instance (r : SetupReq) : Decidable r.Contained := inferInstanceAs (Decidable (_ → _))

/-- The request that the interrupt reads, if any, is contained. -/
def CtrlStatus.Contained (status : CtrlStatus) : Prop :=
  ∀ packet, status.setup = some packet → packet.byteCount = 8 → packet.req.Contained

/-- The ranges that an interrupt writes to -/
def written (efc : Efc σ) (status : CtrlStatus) (d : Device σ) : List (Pointer × Nat) :=
  (match status.setup with
    | some packet =>
      if packet.byteCount = 8 then filledBy packet.inputs packet.req (interruptRequest efc d) else []
    | none => []) ++
    receivedRanges ((ctrlInterrupt efc status d).trace.drop d.trace.length)

/-- The range has room in its array. -/
def fits (range : Pointer × Nat) : Bool :=
  range.2 == 0 || decide (range.1.offset + range.2 ≤ range.1.object.size)

theorem fits_iff (range : Pointer × Nat) :
    fits range = true ↔ range.2 = 0 ∨ range.1.offset + range.2 ≤ range.1.object.size := by
  simp [fits]

theorem fits_of_within {range : Pointer × Nat} (within : Within range.1 range.2 range.1.object) :
    fits range = true :=
  (fits_iff range).mpr ((within_iff _ _ _).mp within)

/-! ## What the core writes -/

section Core

variable {h h' : Handling}

/-- Every range that has been filled has room. -/
def FilledWithin (h : Handling) : Prop := ∀ range ∈ h.filled, Within range.1 range.2 range.1.object

theorem filledWithin_setPayload (filled : FilledWithin h) (payload : Pointer) (size : Nat) :
    FilledWithin (h.setPayload payload size) := filled

theorem filledWithin_fill (filled : FilledWithin h) {dest : Pointer} {bytes : List UInt8}
    (room : dest.offset + bytes.length ≤ dest.object.size) : FilledWithin (h.fill dest bytes) := by
  intro range member
  rw [filled_fill, List.mem_append, List.mem_singleton] at member
  cases member with
  | inl earlier => exact filled range earlier
  | inr last =>
    rw [last]
    exact (within_iff _ _ _).mpr (.inr room)

theorem length_utf16 (str : List UInt8) : (str.flatMap fun c => [c, 0]).length = 2 * str.length := by
  simp [List.length_flatMap, Nat.mul_comm]

/-- The array of the string descriptor has room for 33 characters. -/
theorem filledWithin_stringDescriptor (filled : FilledWithin h) {str : List UInt8}
    (short : str.length ≤ 33) : FilledWithin (stringDescriptor str h) := by
  apply filledWithin_setPayload
  apply filledWithin_fill
  · apply filledWithin_fill filled
    rw [length_utf16]
    show 2 + 2 * str.length ≤ 68
    omega
  · show 0 + 1 ≤ 68
    decide

theorem filledWithin_msftString (filled : FilledWithin h) (accepted : msftStringHandle h = some h') :
    FilledWithin h' := by
  unfold msftStringHandle at accepted
  split_ifs at accepted
  rw [← Option.some.inj accepted]
  apply filledWithin_setPayload
  apply filledWithin_fill
  · exact filledWithin_fill filled (by decide)
  · decide

theorem filledWithin_descriptor (filled : FilledWithin h) (accepted : descriptor h = some h') :
    FilledWithin h' := by
  have reply (size : Nat) : FilledWithin (h.setPayload (Object.udc size).base size) := filled
  simp only [descriptor] at accepted
  split at accepted
  · rw [← Option.some.inj accepted]; exact reply _
  · split_ifs at accepted; rw [← Option.some.inj accepted]; exact reply _
  · rw [← Option.some.inj accepted]; exact reply _
  · split_ifs at accepted; rw [← Option.some.inj accepted]; exact reply _
  · unfold udcReqStdDevGetStrDesc at accepted
    split at accepted
    · rw [← Option.some.inj accepted]
      exact filledWithin_setPayload filled _ _
    · rw [← Option.some.inj accepted]; exact filledWithin_stringDescriptor filled (by decide)
    · rw [← Option.some.inj accepted]; exact filledWithin_stringDescriptor filled (by decide)
    · rw [← Option.some.inj accepted]
      apply filledWithin_stringDescriptor filled
      rw [Memory.slice, Bytes.slice_length]
    · exact filledWithin_msftString filled accepted
  · cases accepted

theorem filledWithin_reqstd {core : Core} (filled : FilledWithin h)
    (accepted : udcReqstd core h = some h') : FilledWithin h' := by
  have kept (accepted : some h = some h') : FilledWithin h' := by
    rw [← Option.some.inj accepted]; exact filled
  have called (accepted : some (h.setCallback .udc) = some h') : FilledWithin h' := by
    rw [← Option.some.inj accepted]; exact filled
  have replied {size : Nat} (accepted : replyOf size h = some h') : FilledWithin h' := by
    unfold replyOf at accepted
    split_ifs at accepted
    rw [← Option.some.inj accepted]; exact filled
  unfold udcReqstd at accepted
  split_ifs at accepted with direction asks
  · unfold udcReqstdIn at accepted
    split_ifs at accepted
    · split at accepted
      · exact replied accepted
      · obtain ⟨found, foundDescriptor, clipped⟩ := Option.map_eq_some_iff.mp accepted
        have whole := filledWithin_descriptor filled foundDescriptor
        rw [← clipped]
        split_ifs
        · exact whole
        · exact whole
      · exact replied accepted
      · cases accepted
    · split at accepted
      · unfold udcReqStdIfaceGetSetting at accepted
        split_ifs at accepted
        rw [← Option.some.inj accepted]
        exact filled
      · cases accepted
    · split at accepted
      · exact replied accepted
      · cases accepted
  · unfold udcReqstdOut udcReqStdDevSetFeature udcReqStdDevSetConfiguration
      udcReqStdIfaceSetSetting at accepted
    split_ifs at accepted <;> split at accepted <;> try split_ifs at accepted
    all_goals first | exact kept accepted | exact called accepted | cases accepted

/-- A request of the core that takes OUT data has no room for any. -/
theorem udcReqstd_size {core : Core} (out : h.ctrlreq.req.isIn = false)
    (accepted : udcReqstd core h = some h') : h'.ctrlreq.payloadSize = h.ctrlreq.payloadSize := by
  have kept (accepted : some h = some h') : h'.ctrlreq.payloadSize = h.ctrlreq.payloadSize := by
    rw [← Option.some.inj accepted]
  have called (accepted : some (h.setCallback .udc) = some h') :
      h'.ctrlreq.payloadSize = h.ctrlreq.payloadSize := by
    rw [← Option.some.inj accepted]; rfl
  rw [udcReqstd, out, if_neg Bool.false_ne_true] at accepted
  unfold udcReqstdOut udcReqStdDevSetFeature udcReqStdDevSetConfiguration
    udcReqStdIfaceSetSetting at accepted
  split_ifs at accepted <;> split at accepted <;> try split_ifs at accepted
  all_goals first | exact kept accepted | exact called accepted | cases accepted

end Core

/-! ## One interrupt -/

section Interrupt

variable (efc : Efc σ) {d : Device σ} {req : SetupReq} {inputs : Inputs} {h : Handling}

/-- The functions that handle a contained request fill nothing beyond its array. -/
theorem filledBy_contained (contained : req.Contained) (d : Device σ) :
    ∀ range ∈ filledBy inputs req d, Within range.1 range.2 range.1.object := by
  cases vendor : req.isVendor with
  | true => exact filledBy_within vendor (contained vendor).1
  | false =>
    have empty : FilledWithin (d.handling req) := fun range member => by cases member
    have application {h : Handling} (accepted : mainSetupHandle inputs (d.handling req) = some h) :
        FilledWithin h :=
      mainSetupHandle_filled inputs accepted
        (fun isVendor => absurd (vendor.symm.trans isVendor) Bool.false_ne_true) empty
    rw [filledBy_eq]
    cases accepted : udcDecode inputs (d.handling req) with
    | none => exact empty
    | some h =>
      unfold udcDecode at accepted
      simp only [udcDecodeOther_eq] at accepted
      split_ifs at accepted with refused standard
      · split at accepted
        · rename_i found core
          rw [← Option.some.inj accepted]
          exact filledWithin_reqstd empty core
        · exact application accepted
      · exact application accepted

theorem target_contained (contained : req.Contained) (vendor : req.isVendor = true) (mem : Memory) :
    (req.target mem).2 = 0 ∨
      (req.target mem).1.offset + (req.target mem).2 ≤ (req.target mem).1.object.size := by
  have byte {code : UInt8} (same : req.bRequest.toNat = code.toNat) : req.bRequest = code :=
    UInt8.toNat_inj.mp same
  unfold SetupReq.target
  split_ifs with closed
  · exact .inl rfl
  · have out : req.isIn = false := Bool.eq_false_of_not_eq_true fun isIn => closed (.inl isIn)
    have some : req.wLength ≠ 0 := fun none => closed (.inr (.inl none))
    obtain ⟨table, serial, compatible⟩ := (contained vendor).2 out some
    unfold SetupReq.range rangeOf
    split
    case h_1 =>
      split_ifs
      · exact .inr (by decide)
      · exact .inr (by decide)
      · exact .inl rfl
    case h_2 code => exact .inr (table (.inl (byte code)))
    case h_3 code => exact .inr (table (.inr (byte code)))
    case h_4 code => exact .inr (serial (byte code))
    case h_5 code =>
      have room := ((contained vendor).1 (byte code)).resolve_left fun both => some both.2
      exact .inr (show 0 + req.wIndex.toNat % 256 ≤ 64 by omega)
    case h_6 => exact .inr (by decide)
    case h_7 => exact .inr (by decide)
    case h_8 => exact .inr (by decide)
    case h_9 code =>
      have room := compatible (byte code)
      split_ifs
      · exact .inr (show 0 + min req.wLength.toNat (dwLength mem) ≤ 40 by omega)
      · exact .inl rfl
    case h_10 => exact .inl rfl

/-- The OUT data of a request that is no vendor request go nowhere. -/
theorem payload_other (other : req.isVendor = false)
    (accepted : udcDecode inputs (d.handling req) = some h) (out : req.isIn = false) :
    PayloadIs (Object.null.base, 0) h := by
  have direction : (d.handling req).ctrlreq.req.isIn = false := out
  have application (accepted : mainSetupHandle inputs (d.handling req) = some h) :
      h.ctrlreq.payloadSize = 0 := by
    have request : (d.handling req).ctrlreq.req.isVendor = false := other
    simp only [mainSetupHandle, request, Bool.false_eq_true, if_false] at accepted
    rw [← Option.some.inj accepted]
    rfl
  have empty : h.ctrlreq.payloadSize = 0 := by
    unfold udcDecode at accepted
    simp only [udcDecodeOther_eq] at accepted
    split_ifs at accepted with refused standard
    · split at accepted
      · rename_i found core
        rw [← Option.some.inj accepted]
        exact udcReqstd_size direction core
      · exact application accepted
    · exact application accepted
  exact ⟨empty, fun some => absurd rfl some⟩

/-- The range that OUT data go to has room, where there is a data stage. -/
def Room (d : Device σ) : Prop :=
  ∃ whole : Pointer × Nat, whole.2 < 65536 ∧
    (whole.2 = 0 ∨ whole.1.offset + whole.2 ≤ whole.1.object.size) ∧
    (d.state = .dataOut → d.ctrlreq.payloadSize = whole.2 ∧ d.payloadBufCnt ≤ whole.2 ∧
      (whole.2 ≠ 0 → d.ctrlreq.payload = whole.1))

theorem room_of_state (stage : d.state ≠ .dataOut) : Room d :=
  ⟨(Object.null.base, 0), by decide, .inl rfl, fun data => absurd data stage⟩

/-- With room, what has been received up to now counts for nothing. -/
theorem Room.serving (room : Room d) :
    ∃ whole : Pointer × Nat, whole.2 < 65536 ∧
      (whole.2 = 0 ∨ whole.1.offset + whole.2 ≤ whole.1.object.size) ∧ Serving whole true d d := by
  obtain ⟨whole, small, inside, payload⟩ := room
  refine ⟨whole, small, inside, ⟨⟨[], ⟨(List.append_nil _).symm, ?_, fun _ _ _ => .inl rfl⟩,
    fun _ => rfl⟩, fun _ => rfl, payload⟩⟩
  intro range member
  cases member

theorem Serving.room {whole : Pointer × Nat} {writes : Bool} {before : Device σ}
    (serving : Serving whole writes before d) (small : whole.2 < 65536)
    (inside : whole.2 = 0 ∨ whole.1.offset + whole.2 ≤ whole.1.object.size) : Room d :=
  ⟨whole, small, inside, serving.payload⟩

theorem interruptRequest_received (d : Device σ) :
    ∃ more, (interruptRequest efc d).trace = d.trace ++ more ∧ receivedRanges more = [] := by
  by_cases idle : d.state = .setup
  · rw [interruptRequest_setup efc idle]
    exact ⟨[], (List.append_nil _).symm, rfl⟩
  · have ended : (interruptRequest efc d).trace = (endofrequest efc d).trace := by
      rw [interruptRequest, if_pos idle]
      rfl
    rw [ended]
    by_cases store : d.ctrlreq.callback = some .storeFlashTable
    · rw [endofrequest_store efc store]
      exact ⟨[.stored], rfl, rfl⟩
    · rw [endofrequest_other efc store]
      exact ⟨[], (List.append_nil _).symm, rfl⟩

/-- A contained request is read, and its data stage gets room. -/
theorem setup_contained (inputs : Inputs) (d : Device σ) (contained : req.Contained) (outNow : Bool) :
    Room (setupReceived efc { req := req, inputs := inputs } outNow d) ∧
      ∀ range ∈ receivedRanges
        ((setupReceived efc { req := req, inputs := inputs } outNow d).trace.drop d.trace.length),
        Within range.1 range.2 range.1.object := by
  obtain ⟨whole, small, inside, writes, serving⟩ : ∃ whole : Pointer × Nat, whole.2 < 65536 ∧
      (whole.2 = 0 ∨ whole.1.offset + whole.2 ≤ whole.1.object.size) ∧
      ∃ writes, Serving whole writes (interruptRequest efc d)
        (setupReceived efc { req := req, inputs := inputs } outNow d) := by
    cases vendor : req.isVendor with
    | true =>
      exact ⟨req.target (interruptRequest efc d).mem, target_small req _,
        target_contained contained vendor _, req.writesTable, serving_setup efc vendor outNow⟩
    | false =>
      refine ⟨(Object.null.base, 0), by decide, .inl rfl, req.writesTable, ?_⟩
      exact serving_payload efc (by decide)
        (fun h accepted out _ => payload_other vendor accepted out) outNow
  refine ⟨serving.room small inside, ?_⟩
  obtain ⟨later, confined, -⟩ := serving.confined
  obtain ⟨more, ended, silent⟩ := interruptRequest_received efc d
  rw [confined.trace, ended, List.append_assoc, List.drop_left, receivedRanges_append, silent,
    List.nil_append]
  exact fun range member => (confined.received range member).within inside

/-- With room and a contained request, no write of an interrupt leaves its array, and there is room
    for the next. -/
theorem Room.interrupt (room : Room d) {status : CtrlStatus} (contained : status.Contained) :
    Room (ctrlInterrupt efc status d) ∧ (written efc status d).all fits = true := by
  suffices within : Room (ctrlInterrupt efc status d) ∧
      ∀ range ∈ written efc status d, Within range.1 range.2 range.1.object from
    ⟨within.1, List.all_eq_true.mpr fun range member => fits_of_within (within.2 range member)⟩
  cases setup : status.setup with
  | some packet =>
    have interrupt : ctrlInterrupt efc status d = setupReceived efc packet status.outNow d := by
      rw [ctrlInterrupt, setup]
    rw [written, setup, interrupt]
    by_cases whole : packet.byteCount = 8
    · obtain ⟨byteCount, req, inputs⟩ := packet
      cases whole
      have fine : req.Contained := contained _ setup rfl
      obtain ⟨next, received⟩ := setup_contained efc inputs d fine status.outNow
      refine ⟨next, fun range member => ?_⟩
      cases List.mem_append.mp member with
      | inl filled => exact filledBy_contained fine _ range filled
      | inr later => exact received range later
    · have stalled : setupReceived efc packet status.outNow d = stallData (interruptRequest efc d) := by
        rw [setupReceived, if_pos whole]
      obtain ⟨more, ended, silent⟩ := interruptRequest_received efc d
      have told : (stallData (interruptRequest efc d)).trace = d.trace ++ (more ++ [.stall]) := by
        rw [← List.append_assoc, ← ended]
        rfl
      rw [stalled, told, List.drop_left, receivedRanges_append, silent]
      simp only [whole, if_false]
      exact ⟨room_of_state (fun data => EpState.noConfusion data), fun range member => by cases member⟩
  | none =>
    obtain ⟨whole, small, inside, serving⟩ := room.serving
    have noRequest : NoRequest (.control status) := setup
    have served : Serving whole true d (ctrlInterrupt efc status d) := serving.step efc small noRequest
    refine ⟨served.room small inside, ?_⟩
    rw [written, setup]
    exact served.received_within inside

theorem room_boot (pinHigh : Bool) (chip : σ) : Room (boot efc pinHigh chip) :=
  room_of_state (fun data => EpState.noConfusion data)

end Interrupt

end M1k.Control
