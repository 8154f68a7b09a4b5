import M1k.Library.Refinement
import M1k.Streaming.Wiring

/-! # The state that the host has put the device in

The address, the configuration and the setting of the interface, as the host sees them.  The streaming
machine keeps them in several places; they move together, and only requests of the host and resets of
the bus move them. -/

namespace M1k

open Library Library.Runs

structure DeviceState where
  address : UInt16 := 0
  highSpeed : Bool := false
  configuration : Nat := 0
  /-- What GET_INTERFACE answers -/
  setting : Nat := 0
  /-- Both endpoints are up. -/
  streaming : Bool := false
  deriving DecidableEq

namespace DeviceState

/-- SET_CONFIGURATION takes the streams down; the one configuration comes up with setting 0. -/
def setConfiguration (wValue wLength : UInt16) (d : DeviceState) : DeviceState :=
  let number := (wValue &&& 0xFF).toNat
  if wLength ≠ 0 ∨ d.address = 0 ∨ 1 < number then d
  else { d with
    configuration := number
    setting := if number = 0 then d.setting else 0
    streaming := false }

/-- SET_INTERFACE takes the streams down even for a setting that there is not. -/
def setInterface (wValue wIndex wLength : UInt16) (d : DeviceState) : DeviceState :=
  let setting := (wValue &&& 0xFF).toNat
  if wLength ≠ 0 ∨ d.configuration = 0 ∨ (wIndex &&& 0xFF).toNat ≠ 0 then d
  else { d with
    setting := if setting < 2 then setting else d.setting
    streaming := setting = 1 }

def step (d : DeviceState) : Event → DeviceState
  | .busReset highSpeed =>
    { d with address := 0, highSpeed := highSpeed, configuration := 0, streaming := false }
  | .setAddress wValue => { d with address := wValue &&& 0x7F }
  | .setConfiguration wValue wLength => d.setConfiguration wValue wLength
  | .setInterface wValue wIndex wLength => d.setInterface wValue wIndex wLength
  | .tc2 | .loop | .sof _ | .request .. | .outByte _ | .outDone | .outEndTr | .inDone | .inBanks _
  | .setFeature .. | .clearFeature .. => d

/-- There is one configuration, and an address has seven bits. -/
structure Sane (d : DeviceState) : Prop where
  configuration : d.configuration ≤ 1
  masked : d.address &&& 0x7F = d.address

theorem Sane.step {d : DeviceState} (sane : d.Sane) (event : Event) : (d.step event).Sane := by
  cases event with
  | busReset highSpeed => exact ⟨Nat.zero_le 1, UInt16.zero_and⟩
  | setAddress wValue =>
    refine ⟨sane.configuration, ?_⟩
    simp only [DeviceState.step, UInt16.and_assoc, UInt16.and_self]
  | setConfiguration wValue wLength =>
    simp only [DeviceState.step, setConfiguration]
    by_cases refused : wLength ≠ 0 ∨ d.address = 0 ∨ 1 < (wValue &&& 0xFF).toNat
    · rw [if_pos refused]
      exact sane
    · rw [if_neg refused]
      simp only [not_or] at refused
      exact ⟨Nat.not_lt.mp refused.2.2, sane.masked⟩
  | setInterface wValue wIndex wLength =>
    simp only [DeviceState.step, setInterface]
    split_ifs
    · exact sane
    · exact ⟨sane.configuration, sane.masked⟩
    · exact ⟨sane.configuration, sane.masked⟩
  | _ => exact sane

end DeviceState

def Stream.deviceState (s : Stream) : DeviceState where
  address := s.address
  highSpeed := s.highSpeed
  configuration := s.udcNumConfiguration
  setting := s.udiVendorAlternateSetting
  streaming := s.mainBVendorEnable

/-- The endpoints, the setting and `main_b_vendor_enable` agree. -/
structure Coherent (s : Stream) : Prop where
  wired : Wired s
  enabled : ∀ id, (s.ep id).enabled = s.mainBVendorEnable
  sane : s.deviceState.Sane

theorem coherent_boot : Coherent {} where
  wired := wired_boot
  enabled id := by cases id <;> rfl
  sane := ⟨by decide, rfl⟩

/-! ## What the host does not see -/

/-- Nothing of what the host has chosen is touched. -/
structure Hidden (s s' : Stream) : Prop where
  deviceState : s'.deviceState = s.deviceState
  enabled : ∀ id, (s'.ep id).enabled = (s.ep id).enabled

theorem Hidden.refl (s : Stream) : Hidden s s := ⟨rfl, fun _ => rfl⟩

theorem Hidden.trans {s s' s'' : Stream} (first : Hidden s s') (second : Hidden s' s'') : Hidden s s'' where
  deviceState := second.deviceState.trans first.deviceState
  enabled id := (second.enabled id).trans (first.enabled id)

theorem hidden_onEp {f : Endpoint → Endpoint × Option Completion} (id : EpId) (s : Stream)
    (enabled : (f (s.ep id)).1.enabled = (s.ep id).enabled) : Hidden s (onEp id f s) := by
  rw [onEp, callBack_eq]
  cases id with
  | bulkIn =>
    refine ⟨rfl, ?_⟩
    rintro (_ | _)
    · exact enabled
    · rfl
  | bulkOut =>
    refine ⟨rfl, ?_⟩
    rintro (_ | _)
    · rfl
    · exact enabled

theorem hidden_run {id : EpId} (buf : Ptr) {bufSize : Nat} {callback : Callback} {s : Stream}
    (wired : Wired s) (owns : id.Owns callback) (positive : 0 < bufSize)
    (small : bufSize ≤ uddEndpointMaxTrans) : Hidden s (udiVendorBulkRun id buf bufSize callback s) := by
  have enabled := (uddEpRun_sound (wired.sound id) id.isIn buf owns positive small).2.1
  rw [udiVendorBulkRun, callBack_eq]
  cases id with
  | bulkIn =>
    refine ⟨rfl, ?_⟩
    rintro (_ | _)
    · exact enabled
    · rfl
  | bulkOut =>
    refine ⟨rfl, ?_⟩
    rintro (_ | _)
    · rfl
    · exact enabled

/-! ## What the host does see -/

/-- The device is in this state, with both endpoints as it says. -/
structure Presents (s : Stream) (d : DeviceState) : Prop where
  deviceState : s.deviceState = d
  enabled : ∀ id, (s.ep id).enabled = d.streaming

theorem Hidden.presents {s s' : Stream} {d : DeviceState} (hidden : Hidden s s') (presents : Presents s d) :
    Presents s' d :=
  ⟨hidden.deviceState.trans presents.deviceState, fun id => (hidden.enabled id).trans (presents.enabled id)⟩

theorem Coherent.presents {s : Stream} (coherent : Coherent s) : Presents s s.deviceState :=
  ⟨rfl, coherent.enabled⟩

/-- Outside setting 1 of a configured device nothing is up. -/
theorem Coherent.quiet {s : Stream} (coherent : Coherent s)
    (other : ¬ (s.udcNumConfiguration ≠ 0 ∧ s.udiVendorAlternateSetting = 1)) :
    Presents s { s.deviceState with streaming := false } := by
  have down : s.mainBVendorEnable = false := by
    rw [← coherent.enabled .bulkIn]
    exact Bool.eq_false_of_not_eq_true fun enabled => other (coherent.wired.enabledIn enabled)
  constructor
  · simp only [Stream.deviceState, down]
  · intro id
    rw [coherent.enabled id, down]

theorem presents_shut (s : Stream) : Presents (shut s) { s.deviceState with streaming := false } := by
  have down := down_shut s
  constructor
  · simp only [shut_eq, Stream.deviceState]
  · rintro (_ | _)
    · exact down.disabledIn
    · exact down.disabledOut

theorem presents_disable {s : Stream} (coherent : Coherent s) (configured : s.udcNumConfiguration ≠ 0) :
    Presents (udcIfaceDisable 0 s).2 { s.deviceState with streaming := false } := by
  rw [udcIfaceDisable_eq coherent.wired configured]
  split_ifs with setting
  · exact presents_shut s
  · exact coherent.quiet fun ⟨_, one⟩ => setting one

theorem presents_reset {s : Stream} (coherent : Coherent s) :
    Presents (udcReset s) { s.deviceState with configuration := 0, streaming := false } := by
  by_cases configured : s.udcNumConfiguration = 0
  · have quiet := coherent.quiet fun ⟨other, _⟩ => other configured
    have same := quiet.deviceState
    simp only [Stream.deviceState, DeviceState.mk.injEq, true_and] at same
    simp only [udcReset, configured, ne_eq, not_true_eq_false, if_false]
    refine ⟨?_, quiet.enabled⟩
    simp only [Stream.deviceState, same]
  · have disabled := presents_disable coherent configured
    have same := disabled.deviceState
    simp only [Stream.deviceState, DeviceState.mk.injEq] at same
    obtain ⟨address, highSpeed, -, setting, streaming⟩ := same
    simp only [udcReset, ne_eq, configured, not_false_eq_true, if_true]
    refine ⟨?_, disabled.enabled⟩
    simp only [Stream.deviceState, address, highSpeed, setting, streaming]

/-- A setting chosen on a configured device that is down -/
theorem presents_enable {s : Stream} {d : DeviceState} (presents : Presents s d) (down : Down s)
    (configured : s.udcNumConfiguration ≠ 0) (settingNum : Nat) :
    Presents (udcIfaceEnable 0 settingNum s).2 { d with
      setting := if settingNum < 2 then settingNum else d.setting
      streaming := settingNum = 1 } := by
  have same := presents.deviceState
  have off : d.streaming = false := (presents.enabled .bulkIn).symm.trans down.disabledIn
  by_cases one : settingNum = 1
  · rw [one, udcIfaceEnable_one down configured]
    constructor
    · rw [← same]
      simp [Stream.deviceState]
    · rintro (_ | _) <;> rfl
  · rw [udcIfaceEnable_other one configured]
    by_cases zero : settingNum = 0
    · rw [if_pos zero]
      constructor
      · subst d
        simp only [Stream.deviceState, zero] at off ⊢
        simp [off]
      · intro id
        refine (presents.enabled id).trans ?_
        simp [off, zero]
    · rw [if_neg zero, if_neg (by omega)]
      constructor
      · subst d
        simp only [Stream.deviceState] at off ⊢
        simp [off, one]
      · intro id
        refine (presents.enabled id).trans ?_
        simp [off, one]

/-! ## One event -/

theorem Presents.coherent {s : Stream} {d : DeviceState} (presents : Presents s d) (wired : Wired s)
    (sane : d.Sane) : Coherent s := by
  have same := presents.deviceState
  subst d
  exact ⟨wired, presents.enabled, sane⟩

theorem presents_busReset {s : Stream} (coherent : Coherent s) (highSpeed : Bool) :
    Presents (uddReset highSpeed s) (s.deviceState.step (.busReset highSpeed)) := by
  have first := hidden_onEp .bulkIn (f := uddEpFinishJob true) s (by rw [uddEpFinishJob_fst])
  have killed := first.trans
    (hidden_onEp .bulkOut (f := uddEpFinishJob true) _ (by rw [uddEpFinishJob_fst]))
  have wired := (coherent.wired.kill .bulkIn).kill .bulkOut
  have kept := (killed.presents coherent.presents).coherent wired coherent.sane
  have reset := presents_reset kept
  rw [killed.deviceState] at reset
  have same := reset.deviceState
  simp only [Stream.deviceState, DeviceState.mk.injEq] at same
  obtain ⟨-, -, configuration, setting, streaming⟩ := same
  refine ⟨?_, reset.enabled⟩
  simp only [uddReset, Stream.deviceState, DeviceState.step, configuration, setting, streaming]

theorem presents_setConfiguration {s : Stream} (coherent : Coherent s) (wValue wLength : UInt16) :
    Presents (udcReqStdDevSetConfiguration wValue wLength s).2
      (s.deviceState.step (.setConfiguration wValue wLength)) := by
  have reset := presents_reset coherent
  have down := ((takenDown_reset coherent.wired).configure (wValue &&& 0xFF).toNat).down
  have configured : Presents { udcReset s with udcNumConfiguration := (wValue &&& 0xFF).toNat }
      { s.deviceState with configuration := (wValue &&& 0xFF).toNat, streaming := false } := by
    have same := reset.deviceState
    simp only [Stream.deviceState, DeviceState.mk.injEq] at same
    obtain ⟨address, highSpeed, -, setting, streaming⟩ := same
    refine ⟨?_, reset.enabled⟩
    simp only [Stream.deviceState, address, highSpeed, setting, streaming]
  have isAddress : s.deviceState.address = s.address := rfl
  simp only [udcReqStdDevSetConfiguration, DeviceState.step, DeviceState.setConfiguration, isAddress]
  by_cases length : wLength ≠ 0
  · simp only [length, if_true, true_or, ne_eq, not_false_eq_true]
    exact coherent.presents
  · by_cases address : s.address = 0
    · simp only [length, if_false, address, true_or, or_true, if_true]
      exact coherent.presents
    · by_cases number : 1 < (wValue &&& 0xFF).toNat
      · simp only [length, if_false, address, gt_iff_lt, number, or_true, if_true]
        exact coherent.presents
      · simp only [length, if_false, address, gt_iff_lt, number, or_self]
        by_cases empty : (wValue &&& 0xFF).toNat = 0
        · simp only [empty, if_true]
          rw [empty] at configured
          exact configured
        · have enabled := presents_enable configured down empty 0
          simp only [empty, if_false]
          simpa [isAddress] using enabled

theorem presents_setInterface {s : Stream} (coherent : Coherent s) (wValue wIndex wLength : UInt16) :
    Presents (udcReqStdIfaceSetSetting wValue wIndex wLength s).2
      (s.deviceState.step (.setInterface wValue wIndex wLength)) := by
  have isConfiguration : s.deviceState.configuration = s.udcNumConfiguration := rfl
  simp only [udcReqStdIfaceSetSetting, DeviceState.step, DeviceState.setInterface, isConfiguration]
  by_cases length : wLength ≠ 0
  · simp only [length, if_true, true_or, ne_eq, not_false_eq_true]
    exact coherent.presents
  · by_cases unconfigured : s.udcNumConfiguration = 0
    · simp only [length, if_false, unconfigured, true_or, or_true, if_true]
      exact coherent.presents
    · by_cases iface : (wIndex &&& 0xFF).toNat = 0
      · have disabled := presents_disable coherent unconfigured
        obtain ⟨taken, number⟩ := takenDown_disable coherent.wired unconfigured
        have enabled := presents_enable disabled taken.down (number ▸ unconfigured)
          (wValue &&& 0xFF).toNat
        have first : (udcIfaceDisable 0 s).1 = true := by
          rw [udcIfaceDisable_eq coherent.wired unconfigured]
        simp only [length, if_false, unconfigured, iface, first, ne_eq, not_true_eq_false, or_self,
          Bool.true_eq_false]
        exact enabled
      · have other := udcIfaceDisable_other iface s
        simp only [length, if_false, unconfigured, iface, other, ne_eq, not_false_eq_true, or_true,
          if_true]
        exact coherent.presents

theorem hidden_request {s : Stream} (wired : Wired s) (wValue wIndex : UInt16) :
    Hidden s (configureSampling wValue wIndex s) := by
  by_cases stop : wValue < 1
  · rw [configureSampling_stop stop]
    exact { Hidden.refl s with }
  · have aborted := wired.abort .bulkOut false
    have sound := aborted.soundOut
    rw [onEp_bulkOut, callBack_eq] at sound
    have run := uddEpRun_sound sound false (.packetsOut 0 0)
      (show EpId.Owns .bulkOut .mainVendorBulkOutReceivedFirst from .inr rfl)
      (by decide : 0 < 1024) (by decide)
    rw [configureSampling_start (UInt16.not_lt.mp stop)]
    refine ⟨rfl, ?_⟩
    rintro (_ | _)
    · simp only [Stream.ep, uddEpAbort_fst]
    · refine run.2.1.trans ?_
      simp only [Stream.ep, uddEpAbort_fst]

theorem hidden_setFeature (wValue wIndex wLength : UInt16) (s : Stream) :
    Hidden s (udcReqStdEpSetFeature wValue wIndex wLength s) := by
  simp only [udcReqStdEpSetFeature]
  split_ifs with refused
  · exact .refl s
  · cases EpId.ofAddress wIndex with
    | none => exact .refl s
    | some id =>
      have aborted := hidden_onEp id (f := uddEpAbort (addressIsIn wIndex)) s (by rw [uddEpAbort_fst])
      have idle : ((onEp id (uddEpAbort (addressIsIn wIndex)) s).ep id).job.busy = false := by
        rw [onEp, callBack_eq]
        cases id <;> simp [Stream.ep, Stream.setEp, uddEpAbort]
      have enabled := (uddEpSetHalt_job (addressIsIn wIndex) idle).2.2.1
      refine aborted.trans ?_
      cases id with
      | bulkIn =>
        refine ⟨rfl, ?_⟩
        rintro (_ | _)
        · exact enabled
        · rfl
      | bulkOut =>
        refine ⟨rfl, ?_⟩
        rintro (_ | _)
        · rfl
        · exact enabled

theorem hidden_clearFeature {s : Stream} (wired : Wired s) (wValue wIndex wLength : UInt16)
    (junk : Status) : Hidden s (udcReqStdEpClearFeature wValue wIndex wLength junk s) := by
  simp only [udcReqStdEpClearFeature]
  split_ifs with refused
  · exact .refl s
  · cases EpId.ofAddress wIndex with
    | none => exact .refl s
    | some id => exact hidden_onEp id s (by rw [uddEpClearHalt_sound (wired.sound id) junk])

theorem hidden_inBanks {s : Stream} (wired : Wired s) (banks : Nat) : Hidden s (inBanks banks s) := by
  have counted : Hidden s { s with epIn := { s.epIn with busyBanks := banks } } := by
    refine ⟨rfl, ?_⟩
    rintro (_ | _) <;> rfl
  simp only [inBanks]
  split_ifs with empty
  · refine counted.trans (hidden_onEp .bulkIn _ ?_)
    have sound : Endpoint.Sound .bulkIn { s.epIn with busyBanks := banks } := { wired.soundIn with }
    simp only [Stream.ep, uddEpBankInterrupt_sound sound]
    split_ifs <;> rfl
  · exact counted

/-- Streaming, and the requests for a halt, are hidden from the state that the host has chosen; the
    others do to it what they say. -/
theorem presents_step {s : Stream} (coherent : Coherent s) (event : Event) :
    Presents (step s event) (s.deviceState.step event) := by
  have wired := coherent.wired
  cases event with
  | tc2 =>
    apply Hidden.presents _ coherent.presents
    simp only [step, tc2Interrupt]
    split_ifs
    · exact .refl s
    · exact { Hidden.refl s with }
  | loop =>
    apply Hidden.presents _ coherent.presents
    simp only [step, mainLoop]
    cases s.pc with
    | runIn index =>
      have moved : Hidden s { s with pc := .testOut } := { Hidden.refl s with }
      exact moved.trans (hidden_run (.packetsIn index.toNat 0) { wired with }
        (show EpId.Owns .bulkIn .mainVendorBulkInReceived from rfl) (by decide) (by decide))
    | runOut index =>
      have moved : Hidden s { s with pc := .watchdog } := { Hidden.refl s with }
      exact moved.trans (hidden_run (.packetsOut index.toNat 0) { wired with }
        (show EpId.Owns .bulkOut .mainVendorBulkOutReceived from .inl rfl) (by decide) (by decide))
    | _ => exact { Hidden.refl s with }
  | sof fnum =>
    apply Hidden.presents _ coherent.presents
    simp only [step, mainSofAction]
    split_ifs <;> exact { Hidden.refl s with }
  | request wValue wIndex => exact (hidden_request wired wValue wIndex).presents coherent.presents
  | outByte value =>
    apply Hidden.presents _ coherent.presents
    simp only [step, dmaOutByte]
    split_ifs with moves
    · cases s.epOut.job.buf with
      | packetsOut packet word =>
        refine ⟨rfl, ?_⟩
        rintro (_ | _) <;> rfl
      | _ => exact .refl s
    · exact .refl s
  | outDone =>
    exact (hidden_onEp .bulkOut s (dmaOutDone_keeps wired.soundOut).2.1).presents coherent.presents
  | outEndTr =>
    apply Hidden.presents _ coherent.presents
    simp only [step, outEndTr]
    split_ifs
    · refine ⟨rfl, ?_⟩
      rintro (_ | _) <;> rfl
    · exact .refl s
  | inDone =>
    exact (hidden_onEp .bulkIn s (dmaInDone_keeps wired.soundIn).2.1).presents coherent.presents
  | inBanks banks => exact (hidden_inBanks wired banks).presents coherent.presents
  | busReset highSpeed => exact presents_busReset coherent highSpeed
  | setAddress wValue =>
    refine ⟨rfl, ?_⟩
    rintro (_ | _)
    · exact coherent.enabled .bulkIn
    · exact coherent.enabled .bulkOut
  | setConfiguration wValue wLength => exact presents_setConfiguration coherent wValue wLength
  | setInterface wValue wIndex wLength => exact presents_setInterface coherent wValue wIndex wLength
  | setFeature wValue wIndex wLength =>
    exact (hidden_setFeature wValue wIndex wLength s).presents coherent.presents
  | clearFeature wValue wIndex wLength junk =>
    exact (hidden_clearFeature wired wValue wIndex wLength junk).presents coherent.presents

theorem coherent_step {s : Stream} (coherent : Coherent s) (event : Event) : Coherent (step s event) :=
  (presents_step coherent event).coherent (wired_step coherent.wired event) (coherent.sane.step event)

/-! ## Every run -/

/-- The streaming machine refines the device that the host sees. -/
theorem refines_deviceState :
    Refines step DeviceState.step Coherent Stream.deviceState fun _ event => [event] where
  keeps _ event coherent := coherent_step coherent event
  agrees _ event coherent := (presents_step coherent event).deviceState

theorem translate_same (s : Stream) (events : List Event) :
    translate step (fun _ event => [event]) s events = events := by
  induction events generalizing s with
  | nil => rfl
  | cons event events inductionHypothesis =>
    rw [translate_cons, inductionHypothesis, List.singleton_append]

/-- After any run the device is in the state that the requests of the host and the resets of the bus
    alone lead to, and at every moment both endpoints are up exactly if that state says so. -/
theorem device_state_of_requests (events : List Event) :
    (run step {} events).deviceState = run DeviceState.step {} events ∧
      ∀ id, ((run step {} events).ep id).enabled = (run DeviceState.step {} events).streaming := by
  have view := refines_deviceState.run coherent_boot events
  rw [translate_same] at view
  have start : Stream.deviceState {} = {} := rfl
  rw [start] at view
  have coherent := refines_deviceState.invariant_run coherent_boot events
  refine ⟨view, fun id => ?_⟩
  rw [coherent.enabled id, ← view]
  rfl

end M1k
