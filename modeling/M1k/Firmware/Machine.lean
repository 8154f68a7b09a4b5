import M1k.Board.Modes
import M1k.Control.Endpoint
import M1k.Streaming.Machine

/-! # The whole firmware

One state for the control endpoint, the streaming machine, the board and the watchdog.  A SETUP packet
meets what the core really knows, and what it makes the firmware do is done: the standard requests
move the endpoints, the commands of a vendor request start and stop sampling, move pins, or ask for
the boot loader. -/

namespace M1k

open Library Library.Runs
open Control (CtrlStatus SetupPacket SetupReq Handling Command Core)

variable {σ : Type*}

/-- What an interrupt of endpoint 0 finds that the firmware does not determine -/
structure Answers where
  /-- What `udd_ep_set_halt` and `udd_ep_clear_halt` answer for endpoint 0: they look at
      `udd_ep_job[-1]`. -/
  halt : Bool := false
  /-- The status that a callback finds when it is called through `call_nohalt` -/
  junk : Status := .ok
  /-- What stands where `p.chip` is -/
  stack : UInt8 := 0
  /-- The flash controller clears a GPNVM bit when it is told to. -/
  cleared : Bool := true

/-- What the chip is like when `main` starts -/
structure PowerUp where
  /-- The pin that `get_hwversion` reads -/
  pinHigh : Bool
  pins : Board.Pin → Board.PinState
  stack : UInt8

/-- The pins as the chip resets them: inputs with their pull-ups on -/
def PowerUp.cold : PowerUp where
  pinHigh := true
  pins _ := { interrupt := false, pullUp := true, multiDrive := false, filter := false,
              debounce := false, level := false, output := false, pio := true }
  stack := 0

structure Firmware (σ : Type*) where
  ctrl : Control.Device σ
  stream : Stream := {}
  lines : Board.Lines
  /-- The commands since power-up, oldest first; no function reads them. -/
  issued : List Command := []
  /-- `reset` -/
  reset : Bool := false
  /-- GPNVM bit 1: the chip starts from its flash, and not from the boot loader in its ROM. -/
  gpnvm1 : Bool := true
  /-- The counter of the watchdog, which `wdt_restart` loads -/
  wdt : Nat := 50
  /-- The main loop has called `udc_detach`: the host sees no device any more. -/
  detached : Bool := false
  /-- The boot loader is running, and not `main`. -/
  rom : Bool := false

namespace Firmware

/-! ## What the core knows -/

/-- The answer of a function that is given the address of an endpoint -/
def haltAnswer (answers : Answers) (wIndex : UInt16) (answer : EpId → Bool) : Bool :=
  match EpId.ofAddress wIndex with
  | some id => answer id
  | none => wIndex &&& 0x0F == 0 && answers.halt

/-- What the functions of the core find and answer for a request, as the endpoints are -/
def coreOf (req : SetupReq) (answers : Answers) (s : Stream) : Core :=
  let iface := (req.wIndex &&& 0xFF).toNat
  let disabled := udcIfaceDisable iface s
  { numConfiguration := s.udcNumConfiguration
    addressed := s.address != 0
    highSpeed := s.highSpeed
    clearHalt := haltAnswer answers req.wIndex fun _ => true
    setHalt := haltAnswer answers req.wIndex fun id =>
      (uddEpSetHalt (addressIsIn req.wIndex) (uddEpAbort (addressIsIn req.wIndex) (s.ep id)).1).1
    updateIfaceDesc := udcUpdateIfaceDesc iface 0 s
    ifaceDisable := disabled.1
    ifaceEnable :=
      -- SET_INTERFACE asks for a setting, SET_CONFIGURATION for setting 0 of the configuration
      if req.recipient = 1 then (udcIfaceEnable iface (req.wValue &&& 0xFF).toNat disabled.2).1
      else (udcIfaceEnable 0 0
        { udcReset s with udcNumConfiguration := (req.wValue &&& 0xFF).toNat }).1 }

/-- The packet, with what the core knows -/
def informed (packet : SetupPacket) (answers : Answers) (s : Stream) : SetupPacket :=
  { packet with inputs :=
      { packet.inputs with core := coreOf packet.req answers s, frameNumber := s.frameNumber } }

/-- The status, with what the core knows in the packet -/
def informedStatus (status : CtrlStatus) (answers : Answers) (s : Stream) : CtrlStatus :=
  { status with setup := status.setup.map fun packet => informed packet answers s }

/-! ## What requests do outside of the control endpoint -/

/-- `udd_ctrl_endofrequest` is called in the interrupt. -/
def endsRequest (status : CtrlStatus) (d : Control.Device σ) : Bool :=
  match status.setup with
  | some _ => d.state != .setup
  | none =>
    if status.inSent && d.inSendInterrupt then d.state == .handshakeWaitInZlp
    else match status.out with
      | some _ => d.state == .dataIn || d.state == .handshakeWaitOutZlp
      | none => false

/-- `udc_valid_address`, where it is the callback of the request that ends -/
def validAddress (status : CtrlStatus) (d : Control.Device σ) (s : Stream) : Stream :=
  if endsRequest status d && d.ctrlreq.callback == some .udc && d.ctrlreq.req.bRequest == 5 then
    { s with address := d.ctrlreq.req.wValue &&& 0x7F }
  else s

/-- The test mode requests take the configuration down, whether they are granted or not. -/
def devSetFeature (req : SetupReq) (s : Stream) : Stream :=
  if req.wLength = 0 ∧ req.wValue = 2 ∧ s.highSpeed = true ∧ req.wIndex &&& 0xFF = 0 then udcReset s
  else s

/-- What `udc_reqstd` does to the endpoints and the interface -/
def standardRequest (req : SetupReq) (junk : Status) (s : Stream) : Stream :=
  if req.isIn || req.setupType != 0 then s
  else if req.recipient = 0 then
    match req.bRequest.toNat with
    | 3 => devSetFeature req s
    | 9 => (udcReqStdDevSetConfiguration req.wValue req.wLength s).2
    | _ => s
  else if req.recipient = 1 then
    match req.bRequest.toNat with
    | 11 => (udcReqStdIfaceSetSetting req.wValue req.wIndex req.wLength s).2
    | _ => s
  else if req.recipient = 2 then
    match req.bRequest.toNat with
    | 1 => udcReqStdEpClearFeature req.wValue req.wIndex req.wLength junk s
    | 3 => udcReqStdEpSetFeature req.wValue req.wIndex req.wLength s
    | _ => s
  else s

/-- What `udc_process_setup` makes of a packet -/
def decoded (efc : Control.Efc σ) (packet : SetupPacket) (d : Control.Device σ) : Bool × Handling :=
  let d := Control.interruptRequest efc d
  Control.udcProcessSetup packet.inputs ⟨{ d.ctrlreq with req := packet.req }, d.mem, [], []⟩

/-- The command clears GPNVM bit 1. -/
def clears (answers : Answers) : Command → Bool
  | .flashClearGpnvm bit => bit == 1 && answers.cleared
  | _ => false

/-- A command of `main_setup_handle` -/
def perform (answers : Answers) (f : Firmware σ) (command : Command) : Firmware σ :=
  let f := { f with
    lines := f.lines.perform (Board.accesses answers.stack command)
    issued := f.issued ++ [command] }
  match command with
  | .sampling wValue wIndex => { f with stream := configureSampling wValue wIndex f.stream }
  | .flashClearGpnvm bit => { f with gpnvm1 := f.gpnvm1 && !clears answers (.flashClearGpnvm bit) }
  | .reset => { f with reset := true }
  | _ => f

/-- `udd_ctrl_interrupt` -/
def control (efc : Control.Efc σ) (status : CtrlStatus) (answers : Answers) (f : Firmware σ) :
    Firmware σ :=
  -- a request that ends here can have set the address before the next one is read
  let s := validAddress status f.ctrl f.stream
  match status.setup with
  | none => { f with ctrl := Control.ctrlInterrupt efc status f.ctrl, stream := s }
  | some packet =>
    let packet := informed packet answers s
    let ctrl := Control.ctrlInterrupt efc { status with setup := some packet } f.ctrl
    if packet.byteCount ≠ 8 then { f with ctrl := ctrl, stream := s }
    else (decoded efc packet f.ctrl).2.commands.foldl (perform answers)
      { f with ctrl := ctrl, stream := standardRequest packet.req answers.junk s }

/-! ## The machine -/

/-- `main` runs from the start; the flash is as it was. -/
def startOver (efc : Control.Efc σ) (powerUp : PowerUp) (f : Firmware σ) : Firmware σ where
  ctrl := Control.step efc f.ctrl (.reboot powerUp.pinHigh)
  lines := .boot (if powerUp.pinHigh then 68 else 70) powerUp.stack powerUp.pins

/-- The chip is reset: `main` runs, or the boot loader does. -/
def restart (efc : Control.Efc σ) (powerUp : PowerUp) (f : Firmware σ) : Firmware σ :=
  if f.gpnvm1 then startOver efc powerUp f else { f with rom := true }

/-- The events of the streaming machine that are no requests of the host -/
def isPeripheral : M1k.Event → Bool
  | .tc2 | .loop | .sof _ | .outByte _ | .outDone | .outEndTr | .inDone | .inBanks _ => true
  | .request .. | .busReset _ | .setAddress _ | .setConfiguration .. | .setInterface ..
  | .setFeature .. | .clearFeature .. => false

/-- The events of the streaming machine that only a host brings about -/
def fromBus : M1k.Event → Bool
  | .sof _ | .outByte _ | .outEndTr => true
  | _ => false

inductive Event where
  /-- An interrupt of the control endpoint. -/
  | control (status : CtrlStatus) (answers : Answers)
  | busReset (highSpeed : Bool)
  /-- A step of the main loop, the sample interrupt, or an interrupt of the bulk endpoints. -/
  | peripheral (event : M1k.Event)
  /-- The watchdog counts, every 128 cycles of the slow clock. -/
  | tick (powerUp : PowerUp)
  | powerCycle (powerUp : PowerUp)

/-- The main loop is at its last statement, which restarts the watchdog or, once a reset is wanted,
    detaches the device. -/
def endsPass (f : Firmware σ) (event : M1k.Event) : Bool := event == .loop && f.stream.pc == .watchdog

/-- The host is heard. -/
def hears (f : Firmware σ) : Bool := !f.rom && !f.detached

/-- The event can happen. -/
def moves (f : Firmware σ) (event : M1k.Event) : Bool :=
  !f.rom && isPeripheral event && !(f.detached && fromBus event)

/-- One event.  The boot loader only ends with the power. -/
def step (efc : Control.Efc σ) (f : Firmware σ) : Event → Firmware σ
  | .control status answers => if f.hears then control efc status answers f else f
  | .busReset highSpeed =>
    if f.hears then
      { f with ctrl := Control.step efc f.ctrl .reset, stream := uddReset highSpeed f.stream }
    else f
  | .peripheral event =>
    if f.moves event then
      { f with
        stream := M1k.step f.stream event
        wdt := if f.endsPass event && !f.reset then 50 else f.wdt
        detached := f.detached || (f.endsPass event && f.reset) }
    else f
  | .tick powerUp =>
    if f.rom then f
    else if f.wdt = 0 then restart efc powerUp f
    else { f with wdt := f.wdt - 1 }
  | .powerCycle powerUp => restart efc powerUp f

/-- A device that has been programmed, after power-up -/
def boot (efc : Control.Efc σ) (powerUp : PowerUp) (chip : σ) : Firmware σ where
  ctrl := Control.boot efc powerUp.pinHigh chip
  lines := .boot (if powerUp.pinHigh then 68 else 70) powerUp.stack powerUp.pins

/-! ## What an interrupt of endpoint 0 commands -/

/-- The packet of the interrupt, with its eight bytes -/
def setupOf (status : CtrlStatus) : Option SetupPacket :=
  status.setup.filter fun packet => packet.byteCount == 8

/-- The commands of the request that an interrupt takes -/
def taken (efc : Control.Efc σ) (status : CtrlStatus) (answers : Answers) (f : Firmware σ) :
    List Command :=
  match setupOf status with
  | none => []
  | some packet =>
    (decoded efc (informed packet answers (validAddress status f.ctrl f.stream)) f.ctrl).2.commands

/-- What commands do besides the streams and the pins -/
structure Performs (answers : Answers) (commands : List Command) (f f' : Firmware σ) : Prop where
  issued : f'.issued = f.issued ++ commands
  reset : f'.reset = (f.reset || commands.contains .reset)
  gpnvm1 : f'.gpnvm1 = (f.gpnvm1 && !commands.any (clears answers))
  lines : f'.lines =
    commands.foldl (fun lines command => lines.perform (Board.accesses answers.stack command)) f.lines
  wdt : f'.wdt = f.wdt
  detached : f'.detached = f.detached
  rom : f'.rom = f.rom

theorem perform_performs (answers : Answers) (f : Firmware σ) (command : Command) :
    Performs answers [command] f (perform answers f command) := by
  cases command with
  | flashClearGpnvm bit =>
    have cleared : [Command.flashClearGpnvm bit].any (clears answers) =
        clears answers (.flashClearGpnvm bit) := Bool.or_false _
    exact ⟨rfl, (Bool.or_false _).symm, by rw [cleared]; rfl, rfl, rfl, rfl, rfl⟩
  | reset => exact ⟨rfl, (Bool.or_true _).symm, (Bool.and_true _).symm, rfl, rfl, rfl, rfl⟩
  | _ => exact ⟨rfl, (Bool.or_false _).symm, (Bool.and_true _).symm, rfl, rfl, rfl, rfl⟩

theorem foldl_performs (answers : Answers) (commands : List Command) (f : Firmware σ) :
    Performs answers commands f (commands.foldl (perform answers) f) := by
  induction commands generalizing f with
  | nil => exact ⟨by simp, by simp, by simp, rfl, rfl, rfl, rfl⟩
  | cons command commands inductionHypothesis =>
    have first := perform_performs answers f command
    have later := inductionHypothesis (perform answers f command)
    exact {
      issued := by simp [List.foldl_cons, later.issued, first.issued]
      reset := by simp [List.foldl_cons, later.reset, first.reset, Bool.or_assoc]
      gpnvm1 := by simp [List.foldl_cons, later.gpnvm1, first.gpnvm1, Bool.and_assoc]
      lines := by rw [List.foldl_cons, later.lines, first.lines]; rfl
      wdt := later.wdt.trans first.wdt
      detached := later.detached.trans first.detached
      rom := later.rom.trans first.rom }

theorem control_performs (efc : Control.Efc σ) (status : CtrlStatus) (answers : Answers)
    (f : Firmware σ) :
    Performs answers (taken efc status answers f) f (control efc status answers f) := by
  have quiet {ctrl : Control.Device σ} {s : Stream} :
      Performs answers [] f { f with ctrl := ctrl, stream := s } :=
    ⟨by simp, by simp, by simp, rfl, rfl, rfl, rfl⟩
  cases setup : status.setup with
  | none =>
    rw [taken, setupOf, control, setup]
    exact quiet
  | some packet =>
    by_cases whole : packet.byteCount = 8
    · let s := validAddress status f.ctrl f.stream
      let start : Firmware σ := { f with
        ctrl := Control.ctrlInterrupt efc { status with setup := some (informed packet answers s) } f.ctrl
        stream := standardRequest packet.req answers.junk s }
      have commands : taken efc status answers f =
          (decoded efc (informed packet answers s) f.ctrl).2.commands := by
        have kept : setupOf status = some packet := by simp [setupOf, setup, whole]
        rw [taken, kept]
      have controlled : control efc status answers f =
          (taken efc status answers f).foldl (perform answers) start := by
        rw [commands, control, setup]
        exact if_neg (not_not.mpr whole)
      rw [controlled]
      exact { foldl_performs answers (taken efc status answers f) start with }
    · have commands : taken efc status answers f = [] := by
        have dropped : setupOf status = none := by simp [setupOf, setup, whole]
        rw [taken, dropped]
      have controlled : control efc status answers f = { f with
          ctrl := Control.ctrlInterrupt efc { status with
            setup := some (informed packet answers (validAddress status f.ctrl f.stream)) } f.ctrl
          stream := validAddress status f.ctrl f.stream } := by
        rw [control, setup]
        exact if_pos whole
      rw [commands, controlled]
      exact quiet

/-! ## One event -/

/-- What the chip is like after an event that resets it -/
def resets (f : Firmware σ) : Event → Option PowerUp
  | .tick powerUp => if f.rom = false ∧ f.wdt = 0 then some powerUp else none
  | .powerCycle powerUp => some powerUp
  | .control .. | .busReset _ | .peripheral _ => none

/-- The event cannot happen as the firmware is. -/
def ignores (f : Firmware σ) : Event → Bool
  | .control .. | .busReset _ => !f.hears
  | .peripheral event => !f.moves event
  | .tick _ => f.rom
  | .powerCycle _ => false

/-- What an event can do -/
inductive Stepped (efc : Control.Efc σ) (f : Firmware σ) : Event → Firmware σ → Prop where
  | nothing {event : Event} (ignored : f.ignores event = true) : Stepped efc f event f
  | control (status : CtrlStatus) (answers : Answers) (hears : f.hears = true) :
    Stepped efc f (.control status answers) (control efc status answers f)
  | busReset (highSpeed : Bool) (hears : f.hears = true) :
    Stepped efc f (.busReset highSpeed)
      { f with ctrl := Control.step efc f.ctrl .reset, stream := uddReset highSpeed f.stream }
  | peripheral (event : M1k.Event) (moves : f.moves event = true) :
    Stepped efc f (.peripheral event)
      { f with
        stream := M1k.step f.stream event
        wdt := if f.endsPass event && !f.reset then 50 else f.wdt
        detached := f.detached || (f.endsPass event && f.reset) }
  | count (powerUp : PowerUp) (running : f.rom = false) (left : f.wdt ≠ 0) :
    Stepped efc f (.tick powerUp) { f with wdt := f.wdt - 1 }
  | startOver {event : Event} {powerUp : PowerUp} (resets : f.resets event = some powerUp)
    (flash : f.gpnvm1 = true) : Stepped efc f event (startOver efc powerUp f)
  | enterRom {event : Event} {powerUp : PowerUp} (resets : f.resets event = some powerUp)
    (flash : f.gpnvm1 = false) : Stepped efc f event { f with rom := true }

theorem stepped_restart (efc : Control.Efc σ) {f : Firmware σ} {event : Event} {powerUp : PowerUp}
    (resets : f.resets event = some powerUp) : Stepped efc f event (restart efc powerUp f) := by
  rw [restart]
  by_cases flash : f.gpnvm1 = true
  · rw [if_pos flash]
    exact .startOver resets flash
  · rw [if_neg flash]
    exact .enterRom resets (by simpa using flash)

theorem step_stepped (efc : Control.Efc σ) (f : Firmware σ) (event : Event) :
    Stepped efc f event (step efc f event) := by
  cases event with
  | control status answers =>
    rw [step]
    split_ifs with hears
    · exact .control status answers hears
    · exact .nothing (by simpa [ignores] using hears)
  | busReset highSpeed =>
    rw [step]
    split_ifs with hears
    · exact .busReset highSpeed hears
    · exact .nothing (by simpa [ignores] using hears)
  | peripheral event =>
    rw [step]
    by_cases moves : f.moves event = true
    · rw [if_pos moves]
      exact .peripheral event moves
    · rw [if_neg moves]
      exact .nothing (by simpa [ignores] using moves)
  | tick powerUp =>
    rw [step]
    by_cases rom : f.rom = true
    · rw [if_pos rom]
      exact .nothing rom
    · have running : f.rom = false := by simpa using rom
      by_cases empty : f.wdt = 0
      · rw [if_neg rom, if_pos empty]
        exact stepped_restart efc (by simp [resets, running, empty])
      · rw [if_neg rom, if_neg empty]
        exact .count powerUp running empty
  | powerCycle powerUp => exact stepped_restart efc rfl

/-- The device detaches only when a reset is wanted. -/
theorem Stepped.detached {efc : Control.Efc σ} {f f' : Firmware σ} {event : Event}
    (stepped : Stepped efc f event f') (wanted : f.detached = true → f.reset = true)
    (detached : f'.detached = true) : f'.reset = true := by
  cases stepped with
  | nothing => exact wanted detached
  | control status answers hears =>
    have performs := control_performs efc status answers f
    rw [performs.detached] at detached
    rw [performs.reset, wanted detached, Bool.true_or]
  | busReset highSpeed hears => exact wanted detached
  | peripheral event moves =>
    obtain already | ends := Bool.or_eq_true_iff.mp detached
    · exact wanted already
    · exact (Bool.and_eq_true_iff.mp ends).2
  | count powerUp running left => exact wanted detached
  | startOver resets flash => cases detached
  | enterRom resets flash => exact wanted detached

/-- The invariant rule for the firmware -/
theorem always_stepped {efc : Control.Efc σ} {P : Firmware σ → Prop}
    (keeps : ∀ f event f', Stepped efc f event f' → P f → P f') {f : Firmware σ} (start : P f)
    (events : List Event) : Always (step efc) P f events :=
  always_of_events (C := fun _ => True)
    (fun f event holds _ => keeps f event _ (step_stepped efc f event) holds) start
    fun _ _ => trivial

theorem detached_wanted (efc : Control.Efc σ) (powerUp : PowerUp) (chip : σ) (events : List Event) :
    (run (step efc) (boot efc powerUp chip) events).detached = true →
      (run (step efc) (boot efc powerUp chip) events).reset = true :=
  (always_stepped (P := fun f : Firmware σ => f.detached = true → f.reset = true)
    (fun _ _ _ stepped => stepped.detached) (by simp [boot]) events).last

end Firmware

end M1k
