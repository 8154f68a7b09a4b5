import M1k.Firmware.Machine
import M1k.Streaming.DeviceState

/-! # The parts of the firmware

Seen from one of its parts, the firmware is the machine of that part: the control endpoint with what
the core really knows as its input, and the streaming machine with the requests that the control
endpoint has taken as its events. -/

namespace M1k.Firmware

open Library Library.Runs
open Control (CtrlStatus SetupPacket SetupReq Handling Command Core)

variable {σ : Type*} (efc : Control.Efc σ)

/-! ## What an event means to a part -/

/-- The chip starts over and runs `main`. -/
def restarts (f : Firmware σ) : Event → Bool
  | .tick _ => !f.rom && f.wdt == 0 && f.gpnvm1
  | .powerCycle _ => f.gpnvm1
  | .control .. | .busReset _ | .peripheral _ => false

def controlEvents (f : Firmware σ) : Event → List Control.Event
  | .control status answers =>
    if f.hears then [.control (informedStatus status answers (validAddress status f.ctrl f.stream))]
    else []
  | .busReset _ => if f.hears then [.reset] else []
  | .peripheral _ => []
  | .tick powerUp => if restarts f (.tick powerUp) then [.reboot powerUp.pinHigh] else []
  | .powerCycle powerUp => if f.gpnvm1 then [.reboot powerUp.pinHigh] else []

/-- SET_ADDRESS, where it ends in the interrupt -/
def addressEvents (status : CtrlStatus) (d : Control.Device σ) : List M1k.Event :=
  if endsRequest status d && d.ctrlreq.callback == some .udc && d.ctrlreq.req.bRequest == 5 then
    [.setAddress d.ctrlreq.req.wValue]
  else []

/-- A test mode takes the configuration down as SET_CONFIGURATION 0 of an addressed device does. -/
def testModeEvents (req : SetupReq) (s : Stream) : List M1k.Event :=
  if req.wLength = 0 ∧ req.wValue = 2 ∧ s.highSpeed = true ∧ req.wIndex &&& 0xFF = 0 then
    [.setAddress 1, .setConfiguration 0 0, .setAddress s.address]
  else []

def standardEvents (req : SetupReq) (junk : Status) (s : Stream) : List M1k.Event :=
  if req.isIn || req.setupType != 0 then []
  else if req.recipient = 0 then
    match req.bRequest.toNat with
    | 3 => testModeEvents req s
    | 9 => [.setConfiguration req.wValue req.wLength]
    | _ => []
  else if req.recipient = 1 then
    match req.bRequest.toNat with
    | 11 => [.setInterface req.wValue req.wIndex req.wLength]
    | _ => []
  else if req.recipient = 2 then
    match req.bRequest.toNat with
    | 1 => [.clearFeature req.wValue req.wIndex req.wLength junk]
    | 3 => [.setFeature req.wValue req.wIndex req.wLength]
    | _ => []
  else []

def requestEvents (commands : List Command) : List M1k.Event :=
  commands.filterMap fun command =>
    match command with
    | .sampling wValue wIndex => some (.request wValue wIndex)
    | _ => none

/-- What decoding the packet of the interrupt does -/
def decodingEvents (status : CtrlStatus) (answers : Answers) (s : Stream) (d : Control.Device σ) :
    List M1k.Event :=
  match setupOf status with
  | none => []
  | some packet => standardEvents packet.req answers.junk s ++
      requestEvents (decoded efc (informed packet answers s) d).2.commands

def streamEvents (f : Firmware σ) : Event → List (Option M1k.Event)
  | .control status answers =>
    if f.hears then (addressEvents status f.ctrl ++
      decodingEvents efc status answers (validAddress status f.ctrl f.stream) f.ctrl).map some
    else []
  | .busReset highSpeed => if f.hears then [some (.busReset highSpeed)] else []
  | .peripheral event => if f.moves event then [some event] else []
  | .tick powerUp => if restarts f (.tick powerUp) then [none] else []
  | .powerCycle _ => if f.gpnvm1 then [none] else []

/-! ## The requests of the host -/

/-- What a request means to the streams is no step of theirs. -/
theorem requested_host {status : CtrlStatus} {answers : Answers} {s : Stream} {d : Control.Device σ}
    {event : M1k.Event}
    (member : event ∈ addressEvents status d ++ decodingEvents efc status answers s d) :
    isPeripheral event = false := by
  have testMode (req : SetupReq) : ∀ event ∈ testModeEvents req s, isPeripheral event = false := by
    rw [testModeEvents]
    split_ifs
    · simp [isPeripheral]
    · simp
  have standard (req : SetupReq) :
      ∀ event ∈ standardEvents req answers.junk s, isPeripheral event = false := by
    rw [standardEvents]
    split_ifs
    · simp
    · split
      · exact testMode req
      · simp [isPeripheral]
      · simp
    · split
      · simp [isPeripheral]
      · simp
    · split
      · simp [isPeripheral]
      · simp [isPeripheral]
      · simp
    · simp
  have requested (commands : List Command) :
      ∀ event ∈ requestEvents commands, isPeripheral event = false := by
    intro event member
    obtain ⟨command, -, asks⟩ := List.mem_filterMap.mp member
    cases command with
    | sampling wValue wIndex =>
      cases asks
      rfl
    | _ => cases asks
  obtain address | decoding := List.mem_append.mp member
  · rw [addressEvents] at address
    split_ifs at address
    · rw [List.mem_singleton.mp address]
      rfl
    · cases address
  · rw [decodingEvents] at decoding
    cases packet : setupOf status with
    | none =>
      rw [packet] at decoding
      cases decoding
    | some packet' =>
      rw [packet] at decoding
      obtain early | late := List.mem_append.mp decoding
      · exact standard packet'.req event early
      · exact requested _ event late

theorem validAddress_eq (status : CtrlStatus) (d : Control.Device σ) (s : Stream) :
    validAddress status d s = run M1k.step s (addressEvents status d) := by
  simp only [validAddress, addressEvents]
  split_ifs
  · rfl
  · rfl

/-- Taking the configuration down has nothing to do with the address. -/
theorem udcReset_address (s : Stream) (address : UInt16) :
    udcReset { s with address := address } = { udcReset s with address := address } := by
  simp only [udcReset, udcIfaceDisable, udcUpdateIfaceDesc, mainVendorDisable, onEp, callBack_eq]
  split_ifs <;> rfl

theorem udcReset_keeps (s : Stream) : (udcReset s).address = s.address :=
  (congrArg Stream.address (udcReset_address s s.address) :)

/-- A test mode takes down what SET_CONFIGURATION 0 does, and not the address. -/
theorem udcReset_eq {s : Stream} (masked : s.address &&& 0x7F = s.address) :
    udcReset s = run M1k.step s [.setAddress 1, .setConfiguration 0 0, .setAddress s.address] := by
  have addressed : ((1 : UInt16) &&& 0x7F) ≠ 0 := by decide
  have zero : ((0 : UInt16) &&& 0xFF).toNat = 0 := by decide
  have unconfigured : (udcReqStdDevSetConfiguration 0 0 { s with address := 1 &&& 0x7F }).2 =
      { udcReset s with address := 1 &&& 0x7F } := by
    simp only [udcReqStdDevSetConfiguration, addressed, zero, udcReset_address]
    rfl
  show udcReset s = { (udcReqStdDevSetConfiguration 0 0 { s with address := 1 &&& 0x7F }).2 with
    address := s.address &&& 0x7F }
  rw [unconfigured, masked, ← udcReset_keeps s]

theorem devSetFeature_eq {s : Stream} (masked : s.address &&& 0x7F = s.address) (req : SetupReq) :
    devSetFeature req s = run M1k.step s (testModeEvents req s) := by
  simp only [devSetFeature, testModeEvents]
  split_ifs
  · exact udcReset_eq masked
  · rfl

theorem standardRequest_eq {s : Stream} (masked : s.address &&& 0x7F = s.address) (req : SetupReq)
    (junk : Status) :
    standardRequest req junk s = run M1k.step s (standardEvents req junk s) := by
  have testMode := devSetFeature_eq masked req
  simp only [standardRequest, standardEvents]
  generalize req.bRequest.toNat = code
  split_ifs with other device interface endpoint
  · rfl
  · split
    · exact testMode
    · rfl
    · simp_all
  · split
    · rfl
    · simp_all
  · split
    · rfl
    · rfl
    · simp_all
  · rfl

theorem perform_stream (answers : Answers) (commands : List Command) (f : Firmware σ) :
    (commands.foldl (perform answers) f).stream = run M1k.step f.stream (requestEvents commands) := by
  induction commands generalizing f with
  | nil => rfl
  | cons command commands inductionHypothesis =>
    rw [List.foldl_cons, inductionHypothesis]
    cases command with
    | sampling wValue wIndex => rfl
    | _ => rfl

theorem perform_ctrl (answers : Answers) (commands : List Command) (f : Firmware σ) :
    (commands.foldl (perform answers) f).ctrl = f.ctrl := by
  induction commands generalizing f with
  | nil => rfl
  | cons command commands inductionHypothesis =>
    rw [List.foldl_cons, inductionHypothesis]
    cases command with
    | _ => rfl

/-! ## One event -/

theorem control_ctrl (status : CtrlStatus) (answers : Answers) (f : Firmware σ) :
    (control efc status answers f).ctrl = Control.ctrlInterrupt efc
      (informedStatus status answers (validAddress status f.ctrl f.stream)) f.ctrl := by
  simp only [control, informedStatus]
  cases setup : status.setup with
  | none =>
    have same : { status with setup := none } = status := by rw [← setup]
    simp only [Option.map_none, same]
  | some packet =>
    simp only [Option.map_some]
    split_ifs
    · rfl
    · rw [perform_ctrl]

theorem control_stream {f : Firmware σ} (coherent : Coherent f.stream) (status : CtrlStatus)
    (answers : Answers) :
    (control efc status answers f).stream =
      run (restartable M1k.step {}) f.stream
        ((addressEvents status f.ctrl ++
          decodingEvents efc status answers (validAddress status f.ctrl f.stream) f.ctrl).map some) := by
  have addressed := validAddress_eq status f.ctrl f.stream
  have masked : (validAddress status f.ctrl f.stream).address &&& 0x7F =
      (validAddress status f.ctrl f.stream).address := by
    rw [addressed]
    exact (refines_deviceState.invariant_run coherent _).sane.masked
  rw [run_restartable_some, run_append, ← addressed, decodingEvents, setupOf, control]
  cases setup : status.setup with
  | none => rfl
  | some packet =>
    simp only [informed]
    by_cases whole : packet.byteCount = 8
    · have kept : (some packet).filter (fun packet : SetupPacket => packet.byteCount == 8) = some packet := by
        simp [whole]
      simp only [whole, ne_eq, not_true_eq_false, if_false, kept, perform_stream, run_append]
      rw [standardRequest_eq masked]
    · have dropped : (some packet).filter (fun packet : SetupPacket => packet.byteCount == 8) = none := by
        simp [whole]
      simp only [ne_eq, whole, not_false_eq_true, if_true, dropped]
      rfl

theorem step_ctrl (f : Firmware σ) (event : Event) :
    (step efc f event).ctrl = run (Control.step efc) f.ctrl (controlEvents f event) := by
  cases event with
  | control status answers =>
    simp only [step, controlEvents]
    split_ifs
    · exact control_ctrl efc status answers f
    · rfl
  | busReset highSpeed =>
    simp only [step, controlEvents]
    split_ifs
    · rfl
    · rfl
  | peripheral event =>
    rw [step, controlEvents]
    by_cases moves : f.moves event = true
    · rw [if_pos moves]
      rfl
    · rw [if_neg moves]
      rfl
  | tick powerUp =>
    by_cases rom : f.rom = true
    · simp [step, controlEvents, restarts, rom]
    · by_cases empty : f.wdt = 0
      · by_cases flash : f.gpnvm1 = true
        · simp [step, controlEvents, restarts, restart, startOver, rom, empty, flash]
        · simp [step, controlEvents, restarts, restart, rom, empty, flash]
      · simp [step, controlEvents, restarts, rom, empty]
  | powerCycle powerUp =>
    by_cases flash : f.gpnvm1 = true
    · simp [step, controlEvents, restart, startOver, flash]
    · simp [step, controlEvents, restart, flash]

theorem step_stream {f : Firmware σ} (coherent : Coherent f.stream) (event : Event) :
    (step efc f event).stream =
      run (restartable M1k.step {}) f.stream (streamEvents efc f event) := by
  cases event with
  | control status answers =>
    simp only [step, streamEvents]
    split_ifs
    · exact control_stream efc coherent status answers
    · rfl
  | busReset highSpeed =>
    simp only [step, streamEvents]
    split_ifs
    · rfl
    · rfl
  | peripheral event =>
    rw [step, streamEvents]
    by_cases moves : f.moves event = true
    · rw [if_pos moves, if_pos moves]
      rfl
    · rw [if_neg moves, if_neg moves]
      rfl
  | tick powerUp =>
    by_cases rom : f.rom = true
    · simp [step, streamEvents, restarts, rom]
    · by_cases empty : f.wdt = 0
      · by_cases flash : f.gpnvm1 = true
        · simp [step, streamEvents, restarts, restart, startOver, restartable, rom, empty, flash]
        · simp [step, streamEvents, restarts, restart, rom, empty, flash]
      · simp [step, streamEvents, restarts, rom, empty]
  | powerCycle powerUp =>
    by_cases flash : f.gpnvm1 = true
    · simp [step, streamEvents, restart, startOver, restartable, flash]
    · simp [step, streamEvents, restart, flash]

/-! ## Every run -/

theorem coherent_restartable {s : Stream} (coherent : Coherent s) (events : List (Option M1k.Event)) :
    Coherent (run (restartable M1k.step {}) s events) := by
  induction events generalizing s with
  | nil => exact coherent
  | cons event events inductionHypothesis =>
    cases event with
    | some event => exact inductionHypothesis (coherent_step coherent event)
    | none => exact inductionHypothesis coherent_boot

/-- The firmware refines the control endpoint, whose SETUP packets come with what the core knows. -/
theorem refines_control : Refines (step efc) (Control.step efc) (fun _ => True) Firmware.ctrl controlEvents where
  keeps _ _ _ := trivial
  agrees f event _ := step_ctrl efc f event

/-- The firmware refines the streaming machine, started over at every restart of the chip. -/
theorem refines_stream : Refines (step efc) (restartable M1k.step {}) (fun f => Coherent f.stream)
    Firmware.stream (streamEvents efc) where
  keeps f event coherent := by
    show Coherent (step efc f event).stream
    rw [step_stream efc coherent event]
    exact coherent_restartable coherent _
  agrees f event coherent := step_stream efc coherent event

end M1k.Firmware
