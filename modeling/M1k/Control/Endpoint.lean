import M1k.Control.Flash
import M1k.Control.Standard
import M1k.Library.Runs

/-! # The control endpoint

The `udd_ctrl_…` functions of `udphs_device.c`: the stages of a request on endpoint 0, and the
copies between its packets and the range of memory that the request names.  An event is one
interrupt of the endpoint with the status that it finds, a reset of the bus, or a reboot of the
board.  `trace` records what happens on the bus and in the flash, oldest first; no function
reads it. -/

namespace M1k.Control

open Library

variable {σ : Type*}

/-- `udd_ctrl_ep_state_t` -/
inductive EpState where
  | setup
  | dataOut
  | dataIn
  | handshakeWaitInZlp
  | handshakeWaitOutZlp
  | stallReq
  deriving DecidableEq

/-- The contents of the table, or of the page it is stored in. -/
abbrev Table := Fin 256 → UInt8

inductive Obs where
  /-- A request has been read, with `flash_table` and its page as they are then. -/
  | setup (req : SetupReq) (table page : Table)
  | command (command : Command)
  /-- The data of an OUT packet, and where it goes. -/
  | received (dest : Pointer) (bytes : List UInt8)
  /-- The data of an IN packet, and where it comes from. -/
  | sent (src : Pointer) (bytes : List UInt8)
  /-- The empty packet that acknowledges an OUT request. -/
  | zlpIn
  | stall
  /-- A call of `store_flash_table`. -/
  | stored

/-- The control endpoint, and the part of the firmware that its requests work on. -/
structure Device (σ : Type*) where
  ctrlreq : CtrlReq := {}
  /-- `udd_ep_control_state` -/
  state : EpState := .setup
  prevPayloadBufCnt : Nat := 0
  payloadBufCnt : Nat := 0
  bShortpacket : Bool := false
  inSendInterrupt : Bool := false
  mem : Memory
  chip : σ
  trace : List Obs := []

namespace Device

def observe (d : Device σ) (obs : List Obs) : Device σ := { d with trace := d.trace ++ obs }

def table (d : Device σ) : Table := fun i => d.mem .flashTable i

/-- The page of the flash that the table is stored in. -/
def page (d : Device σ) (efc : Efc σ) : Table := fun i => efc.byte d.chip (flashTableBase + i)

end Device

/-! ## The end of a request -/

/-- `udd_ctrl_init` -/
def ctrlInit (d : Device σ) : Device σ :=
  { d with
    inSendInterrupt := false
    ctrlreq := { d.ctrlreq with callback := none, overUnderRun := none, payloadSize := 0 }
    state := .setup }

/-- `udd_ctrl_endofrequest` -/
def endofrequest (efc : Efc σ) (d : Device σ) : Device σ :=
  match d.ctrlreq.callback with
  | some .storeFlashTable =>
    let stored := storeFlashTable efc (d.mem .flashTable) (d.mem .serialNumber) d.chip
    { d with
      mem := Function.update d.mem .serialNumber stored.1
      chip := stored.2
      trace := d.trace ++ [.stored] }
  | some .udc => d
  | none => d

/-- `udd_ctrl_stall_data` -/
def stallData (d : Device σ) : Device σ := { d with state := .stallReq }.observe [.stall]

/-- `udd_ctrl_send_zlp_in` -/
def sendZlpIn (d : Device σ) : Device σ :=
  { d with state := .handshakeWaitInZlp, inSendInterrupt := true }.observe [.zlpIn]

/-- `udd_ctrl_send_zlp_out` -/
def sendZlpOut (d : Device σ) : Device σ := { d with state := .handshakeWaitOutZlp }

/-! ## The data stages -/

/-- The difference of two 16-bit counters -/
def sub16 (a b : Nat) : Nat := (a + 65536 - b) % 65536

/-- `udd_ctrl_in_sent`, from "Continue transfer and send next data" on: `outNow` is what
    `Is_udd_out_received` shows before the packet is written. -/
def sendNext (outNow : Bool) (nbRemain : Nat) (d : Device σ) : Device σ :=
  let nb := if 64 ≤ nbRemain then 64 else nbRemain
  let d := { d with bShortpacket := nbRemain < 64 }
  let src := d.ctrlreq.payload.add d.payloadBufCnt
  if outNow then { d with state := .handshakeWaitOutZlp }
  else
    { d with
      payloadBufCnt := (d.payloadBufCnt + nb) % 65536
      inSendInterrupt := true
      trace := d.trace ++ [.sent src (d.mem.slice src nb)] }

/-- `udd_ctrl_in_sent` -/
def inSent (efc : Efc σ) (outNow : Bool) (d : Device σ) : Device σ :=
  let d := { d with inSendInterrupt := false }
  if d.state = .handshakeWaitInZlp then ctrlInit (endofrequest efc d)
  else
    let nbRemain := sub16 d.ctrlreq.payloadSize d.payloadBufCnt
    if nbRemain = 0 then
      let d := { d with prevPayloadBufCnt := (d.prevPayloadBufCnt + d.payloadBufCnt) % 65536 }
      -- all that was asked for has been sent, or the last packet was short
      if d.ctrlreq.req.wLength.toNat = d.prevPayloadBufCnt || d.bShortpacket then sendZlpOut d
      else match d.ctrlreq.overUnderRun with
        | none => sendNext outNow nbRemain d
        | some refill => nomatch refill
    else sendNext outNow nbRemain d

/-- `udd_ctrl_out_received` in the data stage, once the packet has been copied -/
def outCopied (nbData : Nat) (d : Device σ) : Device σ :=
  -- the last packet: the payload is what has been received
  if nbData ≠ 64 || d.ctrlreq.req.wLength.toNat ≤ d.prevPayloadBufCnt + d.payloadBufCnt then
    let d := { d with ctrlreq := { d.ctrlreq with payloadSize := d.payloadBufCnt } }
    match d.ctrlreq.overUnderRun with
    | none => sendZlpIn d
    | some refill => nomatch refill
  else if d.ctrlreq.payloadSize = d.payloadBufCnt then
    match d.ctrlreq.overUnderRun with
    | none => stallData d
    | some refill => nomatch refill
  else d

/-- `udd_ctrl_out_received` -/
def outReceived (efc : Efc σ) (packet : List UInt8) (d : Device σ) : Device σ :=
  if d.state ≠ .dataOut then
    -- the status stage of an IN request, or data that nothing asked for
    if d.state = .dataIn || d.state = .handshakeWaitOutZlp then ctrlInit (endofrequest efc d)
    else ctrlInit (stallData d)
  else
    -- a packet beyond the payload is cut
    let nbData := if d.ctrlreq.payloadSize < d.payloadBufCnt + packet.length then
      sub16 d.ctrlreq.payloadSize d.payloadBufCnt else packet.length
    let dest := d.ctrlreq.payload.add d.payloadBufCnt
    let bytes := packet.take nbData
    outCopied nbData { d with
      mem := d.mem.put dest bytes
      payloadBufCnt := (d.payloadBufCnt + nbData) % 65536
      trace := d.trace ++ [.received dest bytes] }

/-- `udd_ctrl_underflow` -/
def underflow (outNow : Bool) (d : Device σ) : Device σ :=
  if outNow then d
  else if d.state = .dataOut then sendZlpIn d
  else if d.state = .handshakeWaitOutZlp then d.observe [.stall]
  else d

/-- `udd_ctrl_overflow` -/
def overflow (inNow : Bool) (d : Device σ) : Device σ :=
  if inNow then d
  else if d.state = .handshakeWaitInZlp then d.observe [.stall]
  else d

/-! ## The setup stage -/

/-- What a SETUP interrupt finds. -/
structure SetupPacket where
  byteCount : Nat := 8
  req : SetupReq
  inputs : Inputs := {}

/-- `udd_ctrl_setup_received`, up to the decoding of the request -/
def interruptRequest (efc : Efc σ) (d : Device σ) : Device σ :=
  if d.state ≠ .setup then ctrlInit (endofrequest efc d) else d

/-- `udd_ctrl_setup_received`, once the request has been accepted -/
def startStages (efc : Efc σ) (outNow : Bool) (d : Device σ) : Device σ :=
  if d.ctrlreq.req.isIn then
    inSent efc outNow { d with prevPayloadBufCnt := 0, payloadBufCnt := 0, state := .dataIn }
  else if d.ctrlreq.req.wLength = 0 then sendZlpIn d
  else { d with prevPayloadBufCnt := 0, payloadBufCnt := 0, state := .dataOut }

/-- `udd_ctrl_setup_received` -/
def setupReceived (efc : Efc σ) (packet : SetupPacket) (outNow : Bool) (d : Device σ) : Device σ :=
  let d := interruptRequest efc d
  if packet.byteCount ≠ 8 then stallData d
  else
    let d := { d with ctrlreq := { d.ctrlreq with req := packet.req } }
    let d := d.observe [.setup packet.req d.table (d.page efc)]
    let handled := udcProcessSetup packet.inputs ⟨d.ctrlreq, d.mem, [], []⟩
    let d := { d with ctrlreq := handled.2.ctrlreq, mem := handled.2.mem }
    let d := d.observe (handled.2.commands.map .command)
    -- what the application refuses is stalled
    if handled.1 then startStages efc outNow d else stallData d

/-! ## Events -/

/-- The status of endpoint 0 that an interrupt finds.  `outNow` and `inNow` are what
    `Is_udd_out_received` and `Is_udd_in_send` show when a handler looks again. -/
structure CtrlStatus where
  setup : Option SetupPacket := none
  inSent : Bool := false
  out : Option (List UInt8) := none
  nakOut : Bool := false
  nakIn : Bool := false
  outNow : Bool := false
  inNow : Bool := false

/-- `udd_ctrl_interrupt` -/
def ctrlInterrupt (efc : Efc σ) (status : CtrlStatus) (d : Device σ) : Device σ :=
  match status.setup with
  | some packet => setupReceived efc packet status.outNow d
  | none =>
    if status.inSent && d.inSendInterrupt then inSent efc status.outNow d
    else match status.out with
      | some packet => outReceived efc packet d
      | none =>
        if status.nakOut then overflow status.inNow d
        else if status.nakIn then underflow status.outNow d
        else d

/-- The initial contents of the arrays that have any. -/
def Object.initial : Object → List UInt8
  | .hwversion => [68, 0]
  | .fwversion => [50, 46, 49, 55, 0]
  | .msftCompatible =>
    [40, 0, 0, 0, 0, 1, 4, 0, 1, 0, 0, 0, 0, 0, 0, 0] ++
      [0, 0, 87, 73, 78, 85, 83, 66, 0, 0] ++ List.replicate 14 0
  | .extraStringsDesc => [0, 3]
  | .udcStringDesc => [0, 3]
  | _ => []

/-- `main`, up to `udc_start`: `pinHigh` is the pin that `get_hwversion` reads. -/
def boot (efc : Efc σ) (pinHigh : Bool) (chip : σ) : Device σ :=
  let mem : Memory := fun o => Bytes.put (fun _ => 0) 0 o.initial
  -- `get_hwversion`: a low pin makes the first letter an F
  let mem := if pinHigh then mem else mem.put Object.hwversion.base [70]
  let mem := Function.update mem .flashTable (readFlashTable efc chip (mem .flashTable))
  let serial := initBuildUsbSerialNumber efc (mem .flashTable) (mem .serialNumber) chip
  { mem := Function.update mem .serialNumber serial.1, chip := serial.2 }

inductive Event where
  /-- An interrupt of the control endpoint. -/
  | control (status : CtrlStatus)
  /-- A reset of the bus. -/
  | reset
  | reboot (pinHigh : Bool)

def step (efc : Efc σ) (d : Device σ) : Event → Device σ
  | .control status => ctrlInterrupt efc status d
  | .reset => ctrlInit d
  | .reboot pinHigh => { boot efc pinHigh (efc.reset d.chip) with trace := d.trace }

end M1k.Control
