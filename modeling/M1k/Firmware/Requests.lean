import M1k.Control.Stages
import M1k.Firmware.Containment

/-! # Requests that put the device into a state

The standard requests without data, each with the two interrupts that it takes: its SETUP packet, and
the end of its handshake.  Between them, and between one request and the next, the main loop, the
sample interrupt and the bulk endpoints go on. -/

namespace M1k

open Library Library.Runs
open Control (CtrlStatus SetupPacket SetupReq Handling Command Core Device)

variable {σ : Type*}

/-! ## What a request asks for -/

/-- A standard request, from the host, without data -/
structure Control.SetupReq.Plain (req : SetupReq) : Prop where
  out : req.isIn = false
  standard : req.setupType = 0
  noData : req.wLength = 0

/-- SET_ADDRESS -/
def Control.SetupReq.addresses (req : SetupReq) : Bool := req.recipient == 0 && req.bRequest == 5

/-- The state that a request asks the device to take -/
def DeviceState.request (req : SetupReq) (d : DeviceState) : DeviceState :=
  if req.recipient = 0 then
    match req.bRequest.toNat with
    | 3 =>
      if req.wValue = 2 ∧ d.highSpeed = true ∧ req.wIndex &&& 0xFF = 0 then
        { d with configuration := 0, streaming := false }
      else d
    | 5 => { d with address := req.wValue &&& 0x7F }
    | 9 => d.setConfiguration req.wValue req.wLength
    | _ => d
  else if req.recipient = 1 then
    match req.bRequest.toNat with
    | 11 => d.setInterface req.wValue req.wIndex req.wLength
    | _ => d
  else d

namespace Control

theorem addresses_iff (req : SetupReq) :
    req.addresses = true ↔ req.recipient = 0 ∧ req.bRequest.toNat = 5 := by
  simp [SetupReq.addresses, ← UInt8.toNat_inj]

/-- What can become of a request without data: it is refused, taken as it is, or a callback is
    registered, for SET_ADDRESS or a test mode. -/
def Outcome (h : Handling) (result : Option Handling) : Prop :=
  (result = none ∧ h.ctrlreq.req.addresses = false) ∨
    (result = some h ∧ h.ctrlreq.req.addresses = false) ∨
    (result = some (h.setCallback .udc) ∧
      (h.ctrlreq.req.addresses = true ∨ h.ctrlreq.req.bRequest.toNat = 3))

theorem udcReqstdOut_plain (core : Core) {h : Handling} (noData : h.ctrlreq.req.wLength = 0) :
    Outcome h (udcReqstdOut core h) := by
  have silent (other : ¬ (h.ctrlreq.req.recipient = 0 ∧ h.ctrlreq.req.bRequest.toNat = 5)) :
      h.ctrlreq.req.addresses = false :=
    Bool.eq_false_of_not_eq_true fun addresses => other ((addresses_iff _).mp addresses)
  have refused (other : ¬ (h.ctrlreq.req.recipient = 0 ∧ h.ctrlreq.req.bRequest.toNat = 5)) :
      Outcome h none := .inl ⟨rfl, silent other⟩
  have taken (other : ¬ (h.ctrlreq.req.recipient = 0 ∧ h.ctrlreq.req.bRequest.toNat = 5)) :
      Outcome h (some h) := .inr (.inl ⟨rfl, silent other⟩)
  unfold udcReqstdOut
  rw [if_neg (not_not.mpr noData)]
  by_cases device : h.ctrlreq.req.recipient = 0
  · rw [if_pos device]
    split
    case h_1 code => exact .inr (.inr ⟨rfl, .inl ((addresses_iff _).mpr ⟨device, code⟩)⟩)
    case h_2 code =>
      have other : ¬ (h.ctrlreq.req.recipient = 0 ∧ h.ctrlreq.req.bRequest.toNat = 5) := by omega
      split_ifs
      · exact taken other
      · exact refused other
    case h_3 code =>
      have other : ¬ (h.ctrlreq.req.recipient = 0 ∧ h.ctrlreq.req.bRequest.toNat = 5) := by omega
      unfold udcReqStdDevSetFeature
      split_ifs
      · exact .inr (.inr ⟨rfl, .inr code⟩)
      · exact refused other
    case h_4 code =>
      have other : ¬ (h.ctrlreq.req.recipient = 0 ∧ h.ctrlreq.req.bRequest.toNat = 5) := by omega
      unfold udcReqStdDevSetConfiguration
      split_ifs
      · exact refused other
      · exact refused other
      · exact taken other
      · exact taken other
      · exact refused other
    case h_5 notAddress _ _ _ => exact refused fun ⟨_, five⟩ => notAddress five
  · have other : ¬ (h.ctrlreq.req.recipient = 0 ∧ h.ctrlreq.req.bRequest.toNat = 5) :=
      fun ⟨isDevice, _⟩ => device isDevice
    rw [if_neg device]
    by_cases interface : h.ctrlreq.req.recipient = 1
    · rw [if_pos interface]
      split
      · unfold udcReqStdIfaceSetSetting
        split_ifs
        · exact refused other
        · exact refused other
        · exact taken other
        · exact refused other
      · exact refused other
    · rw [if_neg interface]
      by_cases endpoint : h.ctrlreq.req.recipient = 2
      · rw [if_pos endpoint]
        split
        · split_ifs
          · exact taken other
          · exact refused other
        · split_ifs
          · exact taken other
          · exact refused other
        · exact refused other
      · rw [if_neg endpoint]
        exact refused other

/-- Nothing refuses a request without data: what the core does not take, the application does. -/
theorem udcDecode_plain {req : SetupReq} (plain : req.Plain) (inputs : Inputs) (d : Device σ) :
    (udcDecode inputs (d.handling req) = some (d.handling req) ∧ req.addresses = false) ∨
      (udcDecode inputs (d.handling req) = some ((d.handling req).setCallback .udc) ∧
        (req.addresses = true ∨ req.bRequest.toNat = 3)) := by
  have request : (d.handling req).ctrlreq.req = req := rfl
  have application : mainSetupHandle inputs (d.handling req) = some (d.handling req) := by
    have notVendor : req.isVendor = false := by simp [SetupReq.isVendor, plain.standard]
    simp only [mainSetupHandle, request, notVendor, Bool.false_eq_true, if_false]
    rfl
  have asked : udcReqstd inputs.core (d.handling req) = udcReqstdOut inputs.core (d.handling req) := by
    rw [udcReqstd, request, plain.out, if_neg Bool.false_ne_true]
  have decode : udcDecode inputs (d.handling req) =
      some ((udcReqstdOut inputs.core (d.handling req)).getD (d.handling req)) := by
    simp only [udcDecode, request, plain.out, plain.standard, Bool.false_and, Bool.false_eq_true,
      if_false, if_true, asked, udcDecodeOther_eq, application]
    cases udcReqstdOut inputs.core (d.handling req) with
    | some h => rfl
    | none => rfl
  rw [decode]
  obtain ⟨refused, silent⟩ | ⟨taken, silent⟩ | ⟨called, which⟩ :=
    udcReqstdOut_plain inputs.core (h := d.handling req) plain.noData
  · rw [refused]
    exact .inl ⟨rfl, silent⟩
  · rw [taken]
    exact .inl ⟨rfl, silent⟩
  · rw [called]
    exact .inr ⟨rfl, which⟩

end Control

namespace Firmware

variable (efc : Control.Efc σ)

/-! ## Between the interrupts -/

/-- Where the firmware is, as far as the host can tell -/
structure At (d : DeviceState) (ctrl : Device σ) (f : Firmware σ) : Prop where
  running : f.rom = false
  attached : f.detached = false
  unasked : f.reset = false
  coherent : Coherent f.stream
  deviceState : f.stream.deviceState = d
  ctrl : f.ctrl = ctrl

theorem At.hears {d : DeviceState} {ctrl : Device σ} {f : Firmware σ} (there : At d ctrl f) :
    f.hears = true := by
  rw [Firmware.hears, there.running, there.attached]
  rfl

def Event.fromHost : Event → Bool
  | .peripheral _ => false
  | .control .. | .busReset _ | .tick _ | .powerCycle _ => true

/-- What goes on between two requests is hidden from the host. -/
theorem At.peripheral {d : DeviceState} {ctrl : Device σ} {f : Firmware σ} (there : At d ctrl f)
    {event : Event} (hidden : event.fromHost = false) : At d ctrl (step efc f event) := by
  cases event with
  | peripheral event =>
    by_cases moves : f.moves event = true
    · have hides : f.stream.deviceState.step event = f.stream.deviceState := by
        have included : isPeripheral event = true := by
          cases peripheral : isPeripheral event with
          | true => rfl
          | false => simp [Firmware.moves, peripheral] at moves
        cases event with
        | request wValue wIndex => cases included
        | busReset highSpeed => cases included
        | setAddress wValue => cases included
        | setConfiguration wValue wLength => cases included
        | setInterface wValue wIndex wLength => cases included
        | setFeature wValue wIndex wLength => cases included
        | clearFeature wValue wIndex wLength junk => cases included
        | _ => rfl
      have stepped := presents_step there.coherent event
      rw [hides] at stepped
      rw [step, if_pos moves]
      exact {
        running := there.running
        attached := by simp [there.attached, there.unasked]
        unasked := there.unasked
        coherent := coherent_step there.coherent event
        deviceState := stepped.deviceState.trans there.deviceState
        ctrl := there.ctrl }
    · rw [step, if_neg moves]
      exact there
  | control status answers => cases hidden
  | busReset highSpeed => cases hidden
  | tick powerUp => cases hidden
  | powerCycle powerUp => cases hidden

theorem At.peripherals {d : DeviceState} {ctrl : Device σ} {events : List Event}
    (hidden : ∀ event ∈ events, event.fromHost = false) {f : Firmware σ} (there : At d ctrl f) :
    At d ctrl (run (step efc) f events) := by
  induction events generalizing f with
  | nil => exact there
  | cons event events inductionHypothesis =>
    exact inductionHypothesis (fun later member => hidden later (List.mem_cons_of_mem _ member))
      (there.peripheral efc (hidden event List.mem_cons_self))

/-! ## The two interrupts of a request -/

/-- No request is under way. -/
def Waits (ctrl : Device σ) : Prop := ctrl.state = .setup ∧ ctrl.ctrlreq.callback = none

/-- The request has been taken, and waits for the end of its handshake. -/
structure Pending (req : SetupReq) (ctrl : Device σ) : Prop where
  state : ctrl.state = .handshakeWaitInZlp
  sent : ctrl.inSendInterrupt = true
  request : ctrl.ctrlreq.req = req
  callback : ctrl.ctrlreq.callback ≠ some .storeFlashTable
  address : (ctrl.ctrlreq.callback == some .udc && req.bRequest == 5) = req.addresses

/-- From `ctrl` to `ctrl'` only these observations have been made, and the memories are the same. -/
structure Tells (obs : List Control.Obs) (ctrl ctrl' : Device σ) : Prop where
  trace : ctrl'.trace = ctrl.trace ++ obs
  mem : ctrl'.mem = ctrl.mem
  chip : ctrl'.chip = ctrl.chip

/-- The part of a request that is done when its SETUP packet is decoded -/
def asked (req : SetupReq) (d : DeviceState) : DeviceState :=
  if req.addresses then d else d.request req

theorem deviceState_run {s : Stream} (coherent : Coherent s) (events : List M1k.Event) :
    (run M1k.step s events).deviceState = run DeviceState.step s.deviceState events := by
  have view := refines_deviceState.run coherent events
  rwa [translate_same] at view

/-- The three events of a test mode leave the address as it was. -/
theorem run_testMode {d : DeviceState} (masked : d.address &&& 0x7F = d.address) :
    run DeviceState.step d [.setAddress 1, .setConfiguration 0 0, .setAddress d.address] =
      { d with configuration := 0, streaming := false } := by
  have accepted : ¬ ((0 : UInt16) ≠ 0 ∨ (1 : UInt16) &&& 0x7F = 0 ∨ 1 < ((0 : UInt16) &&& 0xFF).toNat) := by
    decide
  have unconfigured : DeviceState.setConfiguration 0 0 { d with address := 1 &&& 0x7F } =
      { d with address := 1 &&& 0x7F, configuration := 0, streaming := false } := by
    rw [DeviceState.setConfiguration, if_neg accepted]
    rfl
  show { DeviceState.setConfiguration 0 0 { d with address := 1 &&& 0x7F } with
    address := d.address &&& 0x7F } = _
  rw [unconfigured, masked]

/-- What the standard requests do to the endpoints shows as what they ask for. -/
theorem run_standardEvents {s : Stream} (coherent : Coherent s) {req : SetupReq} (plain : req.Plain)
    (junk : Status) :
    run DeviceState.step s.deviceState (standardEvents req junk s) = asked req s.deviceState := by
  have testMode : run DeviceState.step s.deviceState (testModeEvents req s) =
      if req.wValue = 2 ∧ s.deviceState.highSpeed = true ∧ req.wIndex &&& 0xFF = 0 then
        { s.deviceState with configuration := 0, streaming := false }
      else s.deviceState := by
    have speed : s.deviceState.highSpeed = s.highSpeed := rfl
    simp only [testModeEvents, plain.noData, true_and, speed]
    split_ifs
    · exact run_testMode coherent.sane.masked
    · rfl
  have notAddress (other : ¬ (req.recipient = 0 ∧ req.bRequest.toNat = 5)) : ¬ req.addresses = true :=
    fun addresses => other ((Control.addresses_iff _).mp addresses)
  have out : ¬ (req.isIn || req.setupType != 0) = true := by simp [plain.out, plain.standard]
  rw [standardEvents, if_neg out, asked, DeviceState.request]
  by_cases device : req.recipient = 0
  · rw [if_pos device, if_pos device]
    have codes : req.bRequest.toNat = 3 ∨ req.bRequest.toNat = 5 ∨ req.bRequest.toNat = 9 ∨
        (req.bRequest.toNat ≠ 3 ∧ req.bRequest.toNat ≠ 5 ∧ req.bRequest.toNat ≠ 9) := by omega
    obtain feature | address | configuration | ⟨feature, address, configuration⟩ := codes
    · rw [if_neg (notAddress (by omega))]
      simp only [feature]
      exact testMode
    · rw [if_pos ((Control.addresses_iff _).mpr ⟨device, address⟩)]
      simp only [address]
      rfl
    · rw [if_neg (notAddress (by omega))]
      simp only [configuration]
      rfl
    · rw [if_neg (notAddress (by omega))]
      split <;> simp_all
  · have other : ¬ req.addresses = true := notAddress fun address => device address.1
    rw [if_neg device, if_neg device, if_neg other]
    by_cases interface : req.recipient = 1
    · rw [if_pos interface, if_pos interface]
      by_cases setting : req.bRequest.toNat = 11
      · simp only [setting]
        rfl
      · split <;> simp_all
    · rw [if_neg interface, if_neg interface]
      split_ifs
      · split <;> rfl
      · rfl

theorem standardRequest_deviceState {s : Stream} (coherent : Coherent s) {req : SetupReq}
    (plain : req.Plain) (junk : Status) :
    (standardRequest req junk s).deviceState = asked req s.deviceState ∧
      Coherent (standardRequest req junk s) := by
  rw [standardRequest_eq coherent.sane.masked]
  refine ⟨?_, refines_deviceState.invariant_run coherent _⟩
  rw [deviceState_run coherent, run_standardEvents coherent plain]

/-- The endpoint once the SETUP packet of a request without data has been decoded -/
theorem setupReceived_plain {ctrl : Device σ} (waits : Waits ctrl) {packet : SetupPacket}
    (whole : packet.byteCount = 8) (plain : packet.req.Plain) (outNow : Bool) :
    (decoded efc packet ctrl).2.commands = [] ∧
      Pending packet.req (Control.setupReceived efc packet outNow ctrl) ∧
      Tells [.setup packet.req ctrl.table (ctrl.page efc), .zlpIn] ctrl
        (Control.setupReceived efc packet outNow ctrl) := by
  have idle := Control.interruptRequest_setup efc waits.1
  have started {h : Handling} (same : h.ctrlreq.req = packet.req) :
      Control.startStages efc outNow (ctrl.entered efc packet.req h) =
        Control.sendZlpIn (ctrl.entered efc packet.req h) := by
    have request : (ctrl.entered efc packet.req h).ctrlreq.req = packet.req := same
    rw [Control.startStages, request, plain.out, if_neg Bool.false_ne_true, if_pos plain.noData]
  have clear : Handling.clear ⟨{ ctrl.ctrlreq with req := packet.req }, ctrl.mem, [], []⟩ =
      ctrl.handling packet.req := rfl
  have decoding : decoded efc packet ctrl =
      ((Control.udcDecode packet.inputs (ctrl.handling packet.req)).isSome,
        (Control.udcDecode packet.inputs (ctrl.handling packet.req)).getD (ctrl.handling packet.req)) := by
    rw [decoded, idle, Control.udcProcessSetup, clear]
    cases Control.udcDecode packet.inputs (ctrl.handling packet.req) with
    | some h => rfl
    | none => rfl
  obtain ⟨accepted, silent⟩ | ⟨accepted, called⟩ :=
    Control.udcDecode_plain plain packet.inputs ctrl
  · have received := Control.setupReceived_accepted efc packet outNow whole (by rw [idle]; exact accepted)
    rw [idle, started rfl] at received
    rw [decoding, accepted, received]
    refine ⟨rfl, ⟨rfl, rfl, rfl, (fun called => by cases called), ?_⟩,
      ⟨by simp [Control.sendZlpIn, Device.observe, Device.entered, Device.handling], rfl, rfl⟩⟩
    rw [silent]
    rfl
  · have received := Control.setupReceived_accepted efc packet outNow whole (by rw [idle]; exact accepted)
    rw [idle, started rfl] at received
    rw [decoding, accepted, received]
    refine ⟨rfl, ⟨rfl, rfl, rfl, by simp [Control.sendZlpIn, Device.observe,
      Device.entered, Handling.setCallback], ?_⟩, ⟨by simp [Control.sendZlpIn, Device.observe,
      Device.entered, Device.handling, Handling.setCallback], rfl, rfl⟩⟩
    show (true && packet.req.bRequest == 5) = packet.req.addresses
    obtain addresses | testMode := called
    · have five := ((Control.addresses_iff _).mp addresses).2
      rw [addresses, Bool.true_and, beq_iff_eq, ← UInt8.toNat_inj, five]
      rfl
    · have five : packet.req.bRequest.toNat ≠ 5 := by omega
      have other : (packet.req.bRequest == 5) = false := by
        rw [beq_eq_false_iff_ne]
        exact fun same => five (by rw [same]; rfl)
      rw [SetupReq.addresses, other, Bool.and_false, Bool.and_false]

theorem At.setup {d : DeviceState} {ctrl : Device σ} {f : Firmware σ} (there : At d ctrl f)
    (waits : Waits ctrl) {packet : SetupPacket} (whole : packet.byteCount = 8)
    (plain : packet.req.Plain) (status : CtrlStatus) (answers : Answers) :
    ∃ ctrl', At (asked packet.req d) ctrl'
        (step efc f (.control { status with setup := some packet } answers)) ∧
      Pending packet.req ctrl' ∧
      Tells [.setup packet.req ctrl.table (ctrl.page efc), .zlpIn] ctrl ctrl' := by
  have waiting : Waits f.ctrl := there.ctrl ▸ waits
  have unended : endsRequest { status with setup := some packet } f.ctrl = false := by
    simp [endsRequest, waiting.1]
  have same : validAddress { status with setup := some packet } f.ctrl f.stream = f.stream := by
    simp [validAddress, unended]
  obtain ⟨silent, pending, tells⟩ := setupReceived_plain efc waits
    (show (informed packet answers f.stream).byteCount = 8 from whole) plain status.outNow
  obtain ⟨shows, coherent⟩ := standardRequest_deviceState there.coherent plain answers.junk
  refine ⟨_, ?_, pending, tells⟩
  rw [← there.ctrl] at silent ⊢
  have whole' : (informed packet answers f.stream).byteCount = 8 := whole
  simp only [step, there.hears, if_true, control, same, whole', ne_eq, not_true_eq_false, if_false,
    silent, List.foldl_nil]
  exact {
    running := there.running
    attached := there.attached
    unasked := there.unasked
    coherent := coherent
    deviceState := by rw [← there.deviceState]; exact shows
    ctrl := rfl }

/-- The part of a request that is done when its handshake has ended -/
def settled (req : SetupReq) (d : DeviceState) : DeviceState :=
  if req.addresses then d.request req else d

theorem At.handshake {d : DeviceState} {ctrl : Device σ} {f : Firmware σ} (there : At d ctrl f)
    {req : SetupReq} (pending : Pending req ctrl) (status : CtrlStatus) (answers : Answers) :
    ∃ ctrl', At (settled req d) ctrl'
        (step efc f (.control { status with setup := none, inSent := true } answers)) ∧
      Waits ctrl' ∧ Tells [] ctrl ctrl' := by
  have here := there.ctrl
  subst here
  have ends : endsRequest { status with setup := none, inSent := true } f.ctrl = true := by
    simp [endsRequest, pending.sent, pending.state]
  have interrupt : Control.ctrlInterrupt efc { status with setup := none, inSent := true } f.ctrl =
      Control.ctrlInit f.ctrl := by
    simp only [Control.ctrlInterrupt, pending.sent, Bool.and_self, if_true]
    rw [Control.inSent_handshake efc status.outNow pending.state,
      Control.endofrequest_other efc pending.callback]
  have address : validAddress { status with setup := none, inSent := true } f.ctrl f.stream =
      if req.addresses then { f.stream with address := req.wValue &&& 0x7F } else f.stream := by
    rw [validAddress, ends, Bool.true_and, pending.request, pending.address]
  have stepped : step efc f (.control { status with setup := none, inSent := true } answers) =
      { f with
        ctrl := Control.ctrlInit f.ctrl
        stream := if req.addresses then { f.stream with address := req.wValue &&& 0x7F } else f.stream } := by
    simp only [step, there.hears, if_true, control, interrupt, address]
  have presented := presents_step there.coherent (.setAddress req.wValue)
  refine ⟨Control.ctrlInit f.ctrl, ?_, ⟨rfl, rfl⟩, ⟨(List.append_nil _).symm, rfl, rfl⟩⟩
  rw [stepped]
  by_cases addresses : req.addresses = true
  · obtain ⟨device, code⟩ := (Control.addresses_iff _).mp addresses
    have asks : settled req d = { d with address := req.wValue &&& 0x7F } := by
      rw [settled, if_pos addresses, DeviceState.request, if_pos device]
      simp only [code]
    rw [if_pos addresses, asks]
    exact {
      running := there.running
      attached := there.attached
      unasked := there.unasked
      coherent := coherent_step there.coherent (.setAddress req.wValue)
      deviceState := by rw [← there.deviceState]; exact presented.deviceState
      ctrl := rfl }
  · rw [if_neg addresses, settled, if_neg addresses]
    exact { there with ctrl := rfl }

/-! ## Every request -/

/-- The interrupts of a request without data -/
structure Transfer where
  packet : SetupPacket
  whole : packet.byteCount = 8
  plain : packet.req.Plain
  /-- What else the two interrupts find -/
  first : CtrlStatus := {}
  last : CtrlStatus := {}
  firstAnswers : Answers := {}
  lastAnswers : Answers := {}

def Transfer.events (t : Transfer) : List Event :=
  [.control { t.first with setup := some t.packet } t.firstAnswers,
    .control { t.last with setup := none, inSent := true } t.lastAnswers]

theorem settled_asked (req : SetupReq) (d : DeviceState) : settled req (asked req d) = d.request req := by
  by_cases addresses : req.addresses = true
  · rw [settled, asked, if_pos addresses, if_pos addresses]
  · rw [settled, asked, if_neg addresses, if_neg addresses]

theorem Tells.trans {first second : List Control.Obs} {ctrl ctrl' ctrl'' : Device σ}
    (before : Tells first ctrl ctrl') (after : Tells second ctrl' ctrl'') :
    Tells (first ++ second) ctrl ctrl'' where
  trace := by rw [after.trace, before.trace, List.append_assoc]
  mem := after.mem.trans before.mem
  chip := after.chip.trans before.chip

/-- The first event of the host in a run, and what comes before it -/
theorem split_host {events : List Event} {event : Event} {later : List Event}
    (hosts : events.filter Event.fromHost = event :: later) :
    ∃ before after, events = before ++ event :: after ∧
      (∀ e ∈ before, e.fromHost = false) ∧ after.filter Event.fromHost = later := by
  obtain ⟨before, after, same, quiet, -, rest⟩ := List.filter_eq_cons_iff.mp hosts
  exact ⟨before, after, same, fun e member => Bool.eq_false_of_not_eq_true (quiet e member), rest⟩

/-- A run whose only events from the host are the two interrupts of a request and what comes later -/
theorem At.transfer {d : DeviceState} {ctrl : Device σ} {f : Firmware σ} (there : At d ctrl f)
    (waits : Waits ctrl) (t : Transfer) {events later : List Event}
    (hosts : events.filter Event.fromHost = t.events ++ later) :
    ∃ ctrl' before after, events = before ++ after ∧ after.filter Event.fromHost = later ∧
      At (d.request t.packet.req) ctrl' (run (step efc) f before) ∧ Waits ctrl' ∧
      Tells [.setup t.packet.req ctrl.table (ctrl.page efc), .zlpIn] ctrl ctrl' := by
  obtain ⟨quiet, rest, rfl, quietHidden, hosts'⟩ := split_host hosts
  obtain ⟨still, after, rfl, stillHidden, last⟩ := split_host hosts'
  obtain ⟨asking, asked, pending, told⟩ := (there.peripherals efc quietHidden).setup efc waits
    t.whole t.plain t.first t.firstAnswers
  obtain ⟨done, settled, waits', silent⟩ := (asked.peripherals efc stillHidden).handshake efc pending
    t.last t.lastAnswers
  rw [settled_asked] at settled
  refine ⟨done, quiet ++ .control { t.first with setup := some t.packet } t.firstAnswers :: (still ++
    [.control { t.last with setup := none, inSent := true } t.lastAnswers]), after, by simp, last, ?_,
    waits', by simpa using told.trans silent⟩
  rw [run_append, run_cons, run_append]
  exact settled

/-- What the endpoint tells of requests without data, as the memories are: each is acknowledged. -/
def acknowledged (efc : Control.Efc σ) (ctrl : Device σ) (ts : List Transfer) : List Control.Obs :=
  ts.flatMap fun t => [.setup t.packet.req ctrl.table (ctrl.page efc), .zlpIn]

theorem acknowledged_congr {ctrl ctrl' : Device σ} (mem : ctrl'.mem = ctrl.mem)
    (chip : ctrl'.chip = ctrl.chip) (ts : List Transfer) :
    acknowledged efc ctrl' ts = acknowledged efc ctrl ts := by
  have table : ctrl'.table = ctrl.table := by funext i; rw [Device.table, mem]; rfl
  have page : ctrl'.page efc = ctrl.page efc := by funext i; rw [Device.page, chip]; rfl
  rw [acknowledged, table, page, acknowledged]

theorem At.transfers (ts : List Transfer) {d : DeviceState} {ctrl : Device σ} {f : Firmware σ}
    (there : At d ctrl f) (waits : Waits ctrl) {events : List Event}
    (hosts : events.filter Event.fromHost = ts.flatMap Transfer.events) :
    ∃ ctrl', At (ts.foldl (fun d t => d.request t.packet.req) d) ctrl' (run (step efc) f events) ∧
      Waits ctrl' ∧ Tells (acknowledged efc ctrl ts) ctrl ctrl' := by
  induction ts generalizing d ctrl f events with
  | nil =>
    have hidden : ∀ e ∈ events, e.fromHost = false := by
      intro e member
      exact Bool.eq_false_of_not_eq_true (List.filter_eq_nil_iff.mp hosts e member)
    exact ⟨ctrl, there.peripherals efc hidden, waits, (List.append_nil _).symm, rfl, rfl⟩
  | cons t ts inductionHypothesis =>
    obtain ⟨between, before, after, rfl, rest, reached, still, told⟩ := there.transfer efc waits t hosts
    obtain ⟨last, done, waits', tells⟩ := inductionHypothesis reached still rest
    refine ⟨last, ?_, waits', ?_⟩
    · rw [run_append]
      exact done
    · rw [acknowledged_congr efc told.mem told.chip] at tells
      exact told.trans tells

/-- After a reset of the bus, requests without data take effect one after the other. -/
theorem At.requests {f : Firmware σ} (start : At f.stream.deviceState f.ctrl f) (highSpeed : Bool)
    (ts : List Transfer) {events : List Event}
    (hosts : events.filter Event.fromHost = .busReset highSpeed :: ts.flatMap Transfer.events) :
    ∃ ctrl, At (ts.foldl (fun d t => d.request t.packet.req)
        (f.stream.deviceState.step (.busReset highSpeed))) ctrl (run (step efc) f events) ∧
      Waits ctrl ∧ Tells (acknowledged efc f.ctrl ts) (Control.ctrlInit f.ctrl) ctrl := by
  obtain ⟨quiet, rest, rfl, hidden, hosts'⟩ := split_host hosts
  have before := start.peripherals efc hidden
  have reset : At (f.stream.deviceState.step (.busReset highSpeed)) (Control.ctrlInit f.ctrl)
      (step efc (run (step efc) f quiet) (.busReset highSpeed)) := by
    have presented := presents_step before.coherent (.busReset highSpeed)
    rw [before.deviceState] at presented
    simp only [step, before.hears, if_true]
    exact {
      running := before.running
      attached := before.attached
      unasked := before.unasked
      coherent := coherent_step before.coherent (.busReset highSpeed)
      deviceState := presented.deviceState
      ctrl := by rw [before.ctrl]; rfl }
  obtain ⟨last, done, waits, tells⟩ := reset.transfers efc ts ⟨rfl, rfl⟩ hosts'
  refine ⟨last, ?_, waits, tells⟩
  rw [run_append, run_cons]
  exact done

/-- A new device gets its address, is configured and starts to stream, with a pass of the main loop
    and a sample interrupt in between. -/
def enumeration : List Transfer :=
  [{ packet := { req := ⟨0, 5, 5, 0, 0⟩ }, whole := rfl, plain := ⟨by decide, by decide, rfl⟩ },
    { packet := { req := ⟨0, 9, 1, 0, 0⟩ }, whole := rfl, plain := ⟨by decide, by decide, rfl⟩ },
    { packet := { req := ⟨1, 11, 1, 0, 0⟩ }, whole := rfl, plain := ⟨by decide, by decide, rfl⟩ }]

end Firmware

end M1k
