import M1k.Usb.Endpoint

/-! # The streaming firmware

Three agents share the variables of `main.h`: the sample interrupt, the main loop, and the
USB interrupt with its callbacks.  Each event of a run is one of them taking a step that the
others cannot cut: a statement of the main loop, or a whole handler.  `trace` records what
the firmware does to the outside, oldest first; no function reads it. -/

namespace M1k

/-- The statement of the main loop that runs next. -/
inductive MainPc where
  | testIn
  | clearSendIn
  | setSendingIn
  | readIndexIn
  | runIn (index : UInt32)
  | testOut
  | clearSendOut
  | setSendingOut
  | readIndexOut
  | runOut (index : UInt32)
  | watchdog
  deriving DecidableEq

/-- What one sample interrupt does to the outside. -/
structure Tick where
  usart0 : Pdc
  usart1 : Pdc
  usart2 : Pdc
  /-- The bytes at the address the DAC is sent from. -/
  dac : UInt8 × UInt8
  /-- `packet_index_send_in`, if the interrupt sets `send_in`. -/
  sendIn : Option UInt32
  sendOut : Option UInt32
  deriving DecidableEq

inductive Obs where
  /-- Vendor request 0xC5 -/
  | request (wValue wIndex : UInt16)
  | interrupt (tick : Tick)
  /-- The main loop reads `packet_index_send_in`. -/
  | indexInRead
  | epRun (ep : EpId) (buf : Ptr) (bufSize : Nat) (accepted : Bool)
  | outByte (value : UInt8)
  | completed (completion : Completion)
  deriving DecidableEq

/-- Channel 2 of the timer counter. -/
structure TimerChannel where
  running : Bool := false
  ra : UInt32 := 0
  rb : UInt32 := 0
  rc : UInt32 := 0
  deriving DecidableEq

structure Stream where
  smp : Sampler := {}
  sendingIn : Bool := false
  sendingOut : Bool := false
  sentIn : Bool := false
  sentOut : Bool := false
  startFrame : UInt16 := 0
  startTimer : Bool := false
  frameNumber : UInt32 := 0
  mainBVendorEnable : Bool := false
  tc : TimerChannel := {}
  epIn : Endpoint := {}
  epOut : Endpoint := {}
  /-- `packets_out`, by packet and byte. -/
  packetsOut : Nat → Nat → UInt8 := fun _ _ => 0
  udcNumConfiguration : Nat := 0
  udiVendorAlternateSetting : Nat := 0
  address : UInt16 := 0
  highSpeed : Bool := false
  pc : MainPc := .testIn
  trace : List Obs := []

namespace Stream

def ep (s : Stream) : EpId → Endpoint
  | .bulkIn => s.epIn
  | .bulkOut => s.epOut

def setEp (s : Stream) : EpId → Endpoint → Stream
  | .bulkIn, ep => { s with epIn := ep }
  | .bulkOut, ep => { s with epOut := ep }

def observe (s : Stream) (obs : List Obs) : Stream := { s with trace := s.trace ++ obs }

/-- The word a DMA channel reads at an address, low byte first. -/
def fetch (s : Stream) : Ptr → UInt8 × UInt8
  | .packetsOut packet word => (s.packetsOut packet (2 * word), s.packetsOut packet (2 * word + 1))
  | _ => (0, 0)

end Stream

/-! ## Callbacks -/

/-- `main_vendor_bulk_in_received` -/
def mainVendorBulkInReceived (status : Status) (s : Stream) : Stream :=
  if status ≠ .ok then s else { s with sendingIn := false }

/-- `main_vendor_bulk_out_received` -/
def mainVendorBulkOutReceived (status : Status) (s : Stream) : Stream :=
  if status ≠ .ok then s else { s with sendingOut := false }

/-- `main_vendor_bulk_out_received_first` -/
def mainVendorBulkOutReceivedFirst (status : Status) (s : Stream) : Stream :=
  if status ≠ .ok then s
  else
    { s with
      startTimer := if s.sentOut = false then true else s.startTimer
      sentOut := true
      sendingOut := false }

/-- `call_trans` of a job that has ended -/
def callTrans (completion : Completion) (s : Stream) : Stream :=
  let s := s.observe [.completed completion]
  match completion.callback with
  | .mainVendorBulkInReceived => mainVendorBulkInReceived completion.status s
  | .mainVendorBulkOutReceived => mainVendorBulkOutReceived completion.status s
  | .mainVendorBulkOutReceivedFirst => mainVendorBulkOutReceivedFirst completion.status s

def callBack : Option Completion → Stream → Stream
  | none, s => s
  | some completion, s => callTrans completion s

/-- What the driver does to an endpoint, with the call of the application that follows. -/
def onEp (id : EpId) (f : Endpoint → Endpoint × Option Completion) (s : Stream) : Stream :=
  callBack (f (s.ep id)).2 (s.setEp id (f (s.ep id)).1)

/-- `udi_vendor_bulk_in_run` and `udi_vendor_bulk_out_run`, when no interrupt comes in between.
    `Preemptible.step` takes the parts of the call one by one. -/
def udiVendorBulkRun (id : EpId) (buf : Ptr) (bufSize : Nat) (callback : Callback)
    (s : Stream) : Stream :=
  let result := uddEpRun id.isIn false buf bufSize (some callback) (s.ep id)
  callBack result.2.2 ((s.observe [.epRun id buf bufSize result.1]).setEp id result.2.1)

/-! ## The sample interrupt and the main loop -/

/-- The interrupt as seen from outside. -/
def tick (s : Stream) : Tick where
  usart0 := (tc2Handler s.smp).usart0
  usart1 := (tc2Handler s.smp).usart1
  usart2 := (tc2Handler s.smp).usart2
  dac := s.fetch (tc2Handler s.smp).usart0.tnpr
  sendIn := if raisesSendIn s.smp then some (tc2Handler s.smp).packetIndexSendIn else none
  sendOut := if raisesSendOut s.smp then some (tc2Handler s.smp).packetIndexSendOut else none

/-- `TC2_Handler`, when the timer is running. -/
def tc2Interrupt (s : Stream) : Stream :=
  -- a stopped timer raises no interrupt
  if s.tc.running = false then s
  else { s with smp := tc2Handler s.smp, trace := s.trace ++ [.interrupt (tick s)] }

/-- One statement of the `while (true)` of `main`, a run call being one -/
def mainLoop (s : Stream) : Stream :=
  match s.pc with
  | .testIn => { s with pc := if !s.sendingIn && s.smp.sendIn then .clearSendIn else .testOut }
  | .clearSendIn => { s with smp := { s.smp with sendIn := false }, pc := .setSendingIn }
  | .setSendingIn => { s with sendingIn := true, pc := .readIndexIn }
  | .readIndexIn =>
    { s with pc := .runIn s.smp.packetIndexSendIn, trace := s.trace ++ [.indexInRead] }
  | .runIn index =>
    udiVendorBulkRun .bulkIn (.packetsIn index.toNat 0) 2048 .mainVendorBulkInReceived
      { s with pc := .testOut }
  | .testOut => { s with pc := if !s.sendingOut && s.smp.sendOut then .clearSendOut else .watchdog }
  | .clearSendOut => { s with smp := { s.smp with sendOut := false }, pc := .setSendingOut }
  | .setSendingOut => { s with sendingOut := true, pc := .readIndexOut }
  | .readIndexOut => { s with pc := .runOut s.smp.packetIndexSendOut }
  | .runOut index =>
    udiVendorBulkRun .bulkOut (.packetsOut index.toNat 0) 1024 .mainVendorBulkOutReceived
      { s with pc := .watchdog }
  | .watchdog => { s with pc := .testIn }

/-- `main_sof_action` -/
def mainSofAction (fnum : UInt32) (s : Stream) : Stream :=
  let s := { s with frameNumber := fnum }
  -- `start_frame` 0 starts at the next frame, whatever its number
  if s.startTimer && (s.frameNumber == s.startFrame.toUInt32 || s.startFrame == 0) then
    { s with tc := { s.tc with running := true }, startTimer := false }
  else s

/-! ## Vendor request 0xC5 -/

/-- `tc_stop(TC0, 2)` -/
def tcStop (s : Stream) : Stream := { s with tc := { s.tc with running := false } }

/-- The statements of the start branch of request 0xC5, in order. -/
def startStatements (wValue wIndex : UInt16) : List (Stream → Stream) :=
  [ fun s => { s with smp := { s.smp with notANewTransfer := 4 } },
    onEp .bulkIn (uddEpAbort true),
    onEp .bulkOut (uddEpAbort false),
    fun s => { s with smp := { s.smp with currentChan := .A } },
    fun s => { s with sentIn := false },
    fun s => { s with sendingIn := false },
    fun s => { s with smp := { s.smp with sendIn := false } },
    fun s => { s with smp := { s.smp with slotOffsetIn := 254 } },
    fun s => { s with smp := { s.smp with slotOffsetOut := 0 } },
    fun s => { s with smp := { s.smp with packetIndexIn := 0 } },
    fun s => { s with smp := { s.smp with packetIndexOut := 0 } },
    fun s => { s with smp := { s.smp with packetIndexSendOut := 0 } },
    fun s => { s with smp := { s.smp with packetIndexSendIn := 0 } },
    fun s => { s with tc := { s.tc with ra := 10 } },
    fun s => { s with tc := { s.tc with rb := wValue.toUInt32 - 30 } },
    fun s => { s with tc := { s.tc with rc := wValue.toUInt32 } },
    fun s => { s with startFrame := wIndex },
    fun s => { s with sentOut := false },
    fun s => { s with sendingOut := true },
    fun s => { s with smp := { s.smp with sendOut := false } },
    fun s => udiVendorBulkRun .bulkOut (.packetsOut s.smp.packetIndexSendOut.toNat 0) 1024
      .mainVendorBulkOutReceivedFirst s ]

/-- `case 0xC5` of `main_setup_handle` -/
def configureSampling (wValue wIndex : UInt16) (s : Stream) : Stream :=
  let s := s.observe [.request wValue wIndex]
  if wValue < 1 then tcStop s
  else (startStatements wValue wIndex).foldl (fun s statement => statement s) s

end M1k
