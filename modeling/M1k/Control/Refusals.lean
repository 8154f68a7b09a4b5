import M1k.Control.Stages

/-! # Requests that nobody supports

`main_setup_handle` comes last: what the USB core and the interface have refused ends there, and
it returns `true` for everything but an unknown index of request 0x30. -/

namespace M1k.Control

open Library

variable {σ : Type*}

/-- The vendor requests that `main_setup_handle` implements. -/
def SetupReq.Implemented (r : SetupReq) : Prop :=
  r.isVendor = true ∧
    (r.bRequest = 0x00 ∧ (r.wIndex = 0 ∨ r.wIndex = 1) ∨ r.bRequest = 0x30 ∧ r.wIndex = 4 ∨
      r.bRequest ∈ [0x01, 0x02, 0x03, 0x05, 0x17, 0x19, 0x20, 0x21, 0x22, 0x23, 0x24, 0x25, 0x50, 0x51,
        0x53, 0x59, 0x6F, 0x91, 0xBB, 0xC5, 0xCC])

instance (r : SetupReq) : Decidable r.Implemented := by
  unfold SetupReq.Implemented; infer_instance

/-- Neither the USB core nor the interface takes the request. -/
def Refused (core : Core) (h : Handling) : Prop :=
  (h.ctrlreq.req.setupType = 0 → udcReqstd core h = none) ∧
    ¬ (h.ctrlreq.req.recipient = 1 ∧ udcReqIface core h.ctrlreq.req = true) ∧
    ¬ (h.ctrlreq.req.recipient = 2 ∧ udcReqEp core h.ctrlreq.req = true)

/-- A request that the core and the interface refuse is accepted unless it asks for no data, or
    for an unknown index of request 0x30. -/
theorem refused_accepted_iff {inputs : Inputs} {h : Handling} (refused : Refused inputs.core h) :
    (udcDecode inputs h).isSome = true ↔
      ¬ (h.ctrlreq.req.isIn = true ∧ h.ctrlreq.req.wLength = 0) ∧
        ¬ (h.ctrlreq.req.isVendor = true ∧ h.ctrlreq.req.bRequest = 0x30 ∧ h.ctrlreq.req.wIndex ≠ 4) := by
  rw [← mainSetupHandle_accepts inputs h]
  unfold udcDecode
  simp only [udcDecodeOther_eq]
  split_ifs with noData standard
  · have asked : h.ctrlreq.req.isIn = true ∧ h.ctrlreq.req.wLength = 0 := by simpa using noData
    simp [asked]
  · have asked : ¬ (h.ctrlreq.req.isIn = true ∧ h.ctrlreq.req.wLength = 0) := by simpa using noData
    rw [refused.1 standard]
    simp [asked]
  · have asked : ¬ (h.ctrlreq.req.isIn = true ∧ h.ctrlreq.req.wLength = 0) := by simpa using noData
    simp [asked]

theorem udcProcessSetup_isSome (inputs : Inputs) (d : Device σ) (req : SetupReq) :
    (udcProcessSetup inputs (d.handling req)).1 = (udcDecode inputs (d.handling req)).isSome := by
  have clear : (d.handling req).clear = d.handling req := rfl
  rw [udcProcessSetup, clear]
  cases udcDecode inputs (d.handling req) <;> rfl

/-- What is refused is stalled. -/
theorem stalled_of_refused (efc : Efc σ) {d : Device σ} {packet : SetupPacket}
    (whole : packet.byteCount = 8) (outNow : Bool)
    (refused : udcDecode packet.inputs ((interruptRequest efc d).handling packet.req) = none) :
    (setupReceived efc packet outNow d).state = .stallReq := by
  rw [setupReceived_refused efc packet outNow whole refused]
  rfl

/-- A request that the core and the interface refuse is accepted only if it is implemented, and
    stalled if it is not, exactly when it is implemented, asks for no data, or is request 0x30. -/
theorem refused_stalled_iff (efc : Efc σ) {d : Device σ} (packet : SetupPacket)
    (whole : packet.byteCount = 8) (outNow : Bool)
    (refused : Refused packet.inputs.core ((interruptRequest efc d).handling packet.req)) :
    ((udcProcessSetup packet.inputs ((interruptRequest efc d).handling packet.req)).1 = true →
        packet.req.Implemented) ∧
      (¬ packet.req.Implemented → (setupReceived efc packet outNow d).state = .stallReq) ↔
    packet.req.Implemented ∨ packet.req.isIn = true ∧ packet.req.wLength = 0 ∨
      packet.req.isVendor = true ∧ packet.req.bRequest = 0x30 := by
  have accepts := refused_accepted_iff refused
  rw [udcProcessSetup_isSome]
  cases decoded : udcDecode packet.inputs ((interruptRequest efc d).handling packet.req) with
  | none =>
    rw [decoded] at accepts
    have stalled := stalled_of_refused efc whole outNow decoded
    have exempt : ¬ (¬ (packet.req.isIn = true ∧ packet.req.wLength = 0) ∧
        ¬ (packet.req.isVendor = true ∧ packet.req.bRequest = 0x30 ∧ packet.req.wIndex ≠ 4)) :=
      fun both => by simpa using accepts.mpr both
    constructor
    · intro _
      by_cases noData : packet.req.isIn = true ∧ packet.req.wLength = 0
      · exact .inr (.inl noData)
      · have unknown := not_not.mp fun other => exempt ⟨noData, other⟩
        exact .inr (.inr ⟨unknown.1, unknown.2.1⟩)
    · intro _
      exact ⟨fun accepted => by simp at accepted, fun _ => stalled⟩
  | some h =>
    rw [decoded] at accepts
    obtain ⟨asked, known⟩ := accepts.mp rfl
    constructor
    · intro both
      exact .inl (both.1 rfl)
    · intro condition
      have implemented : packet.req.Implemented := by
        rcases condition with implemented | noData | ⟨vendor, code⟩
        · exact implemented
        · exact absurd noData asked
        · have index : packet.req.wIndex = 4 := not_not.mp fun other => known ⟨vendor, code, other⟩
          exact ⟨vendor, .inr (.inl ⟨code, index⟩)⟩
      exact ⟨fun _ => implemented, fun other => absurd implemented other⟩

/-- A class request that asks for no data: it is stalled. -/
theorem refused_stalled_class :
    (setupReceived (flashChip fun _ => 0) { req := ⟨0xA1, 0x01, 0, 0, 0⟩ } false
      (boot (flashChip fun _ => 0) true { bytes := fun _ => 0 })).state = .stallReq := by
  have refused : Refused {} ((interruptRequest (flashChip fun _ => 0)
      (boot (flashChip fun _ => 0) true { bytes := fun _ => 0 })).handling ⟨0xA1, 0x01, 0, 0, 0⟩) := by
    refine ⟨fun standard => ?_, fun both => ?_, fun both => ?_⟩
    · exact absurd standard (show ¬ (0xA1 &&& 0x60 : UInt8) = 0 by decide)
    · exact absurd both.2 (by decide)
    · exact absurd both.2 (by decide)
  have exact := (refused_stalled_iff (flashChip fun _ => 0)
    { req := ⟨0xA1, 0x01, 0, 0, 0⟩ } rfl false refused).mpr (.inr (.inl (by decide)))
  exact exact.2 (by decide)

/-- A SET_CONFIGURATION with a configuration that does not exist: the core refuses it, and it is
    acknowledged. -/
theorem configuration_acknowledged :
    Refused { addressed := true }
        ((boot (flashChip fun _ => 0) true { bytes := fun _ => 0 }).handling ⟨0x00, 0x09, 200, 0, 0⟩) ∧
      ¬ SetupReq.Implemented ⟨0x00, 0x09, 200, 0, 0⟩ ∧
      (udcProcessSetup { core := { addressed := true } }
        ((boot (flashChip fun _ => 0) true { bytes := fun _ => 0 }).handling
          ⟨0x00, 0x09, 200, 0, 0⟩)).1 = true ∧
      (setupReceived (flashChip fun _ => 0)
        { req := ⟨0x00, 0x09, 200, 0, 0⟩, inputs := { core := { addressed := true } } } false
        (boot (flashChip fun _ => 0) true { bytes := fun _ => 0 })).state = .handshakeWaitInZlp := by
  refine ⟨⟨?_, ?_, ?_⟩, by decide, rfl, rfl⟩
  · exact fun _ => rfl
  · exact fun both => absurd both.1 (by decide)
  · exact fun both => absurd both.1 (by decide)

end M1k.Control
