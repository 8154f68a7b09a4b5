import M1k.Library.Bytes
import Mathlib.Data.Fin.Basic

/-! # Requests on the control endpoint

What a SETUP packet makes the application do before the data stage.  `main_setup_handle` and
`msft_string_handle` leave in `udd_g_ctrlreq` the range of memory that the control endpoint then
reads or fills, packet by packet, and fill some arrays themselves. -/

namespace M1k.Control

open Library

/-! ## Memory -/

/-- The arrays that requests read and fill.  `udc` is one of the constant descriptors and status
    words of the USB stack, by its size. -/
inductive Object where
  | null
  | flashTable
  | retData
  | hwversion
  | fwversion
  | msftCompatible
  | extraStringsDesc
  | dummy
  | serialNumber
  | udcStringDesc
  | udc (size : Nat)
  deriving DecidableEq

/-- `sizeof` -/
def Object.size : Object → Nat
  | .null => 0
  | .flashTable => 256
  | .retData => 64
  | .hwversion => 2
  | .fwversion => 5
  | .msftCompatible => 40
  | .extraStringsDesc => 20
  | .dummy => 2
  | .serialNumber => 33
  | .udcStringDesc => 68
  | .udc size => size

/-- The linker puts a `const` array into the flash, where a store of the CPU changes nothing. -/
def Object.inFlash : Object → Bool
  | .fwversion => true
  | _ => false

structure Pointer where
  object : Object
  offset : Nat
  deriving DecidableEq

def Pointer.add (p : Pointer) (bytes : Nat) : Pointer := { p with offset := p.offset + bytes }

/-- `&object[0]` -/
def Object.base (o : Object) : Pointer := ⟨o, 0⟩

/-- The bytes of every array.  An offset beyond an array stands for whatever lies behind it in RAM:
    nothing is known of that byte, and a write there does not show in the other arrays here. -/
abbrev Memory := Object → Nat → UInt8

namespace Memory

/-- `*dest++ = *src++`, for each of the bytes -/
def put (mem : Memory) (dest : Pointer) (bytes : List UInt8) : Memory :=
  if dest.object.inFlash then mem
  else Function.update mem dest.object (Bytes.put (mem dest.object) dest.offset bytes)

def slice (mem : Memory) (src : Pointer) (n : Nat) : List UInt8 :=
  Bytes.slice (mem src.object) src.offset n

@[simp] theorem put_nil (mem : Memory) (dest : Pointer) : mem.put dest [] = mem := by
  simp [put]

theorem put_same (mem : Memory) {dest : Pointer} (ram : dest.object.inFlash = false)
    (bytes : List UInt8) :
    mem.put dest bytes dest.object = Bytes.put (mem dest.object) dest.offset bytes := by
  simp [put, ram]

theorem put_other (mem : Memory) {dest : Pointer} {o : Object} (other : o ≠ dest.object)
    (bytes : List UInt8) : mem.put dest bytes o = mem o := by
  unfold put
  split_ifs
  · rfl
  · exact Function.update_of_ne other _ _

theorem put_inFlash (mem : Memory) {dest : Pointer} (flash : dest.object.inFlash = true)
    (bytes : List UInt8) : mem.put dest bytes = mem := by
  simp [put, flash]

end Memory

/-! ## Requests -/

/-- `usb_setup_req_t` -/
structure SetupReq where
  bmRequestType : UInt8
  bRequest : UInt8
  wValue : UInt16
  wIndex : UInt16
  wLength : UInt16
  deriving DecidableEq

namespace SetupReq

/-- `Udd_setup_is_in` -/
def isIn (r : SetupReq) : Bool := r.bmRequestType &&& 0x80 == 0x80

/-- `Udd_setup_type` -/
def setupType (r : SetupReq) : UInt8 := r.bmRequestType &&& 0x60

/-- `Udd_setup_recipient` -/
def recipient (r : SetupReq) : UInt8 := r.bmRequestType &&& 0x1F

/-- `Udd_setup_type() == USB_REQ_TYPE_VENDOR` -/
def isVendor (r : SetupReq) : Bool := r.setupType == 0x40

end SetupReq

/-- What can be registered as `callback`: `udc` stands for `udc_valid_address` and the
    `udd_test_mode` functions.  What a test mode does to the port after its request is left out. -/
inductive Callback where
  | storeFlashTable
  | udc
  deriving DecidableEq

/-- What can be registered as `over_under_run`: this firmware only ever clears it. -/
inductive OverUnderRun

/-- `udd_ctrl_request_t` -/
structure CtrlReq where
  req : SetupReq := ⟨0, 0, 0, 0, 0⟩
  payload : Pointer := Object.null.base
  payloadSize : Nat := 0
  callback : Option Callback := none
  overUnderRun : Option OverUnderRun := none

/-- One reading of `TWI_SR`, and of `TWI_RHR` when the status says that a byte is there. -/
structure TwiPoll where
  nack : Bool
  received : Option UInt8

/-- What the USB core knows, and what its own functions answer, when a standard request comes. -/
structure Core where
  numConfiguration : Nat := 0
  /-- `udd_getaddress()` is not 0. -/
  addressed : Bool := false
  highSpeed : Bool := false
  /-- `udd_ep_clear_halt` -/
  clearHalt : Bool := false
  /-- `udd_ep_set_halt` -/
  setHalt : Bool := false
  /-- `udc_update_iface_desc` -/
  updateIfaceDesc : Bool := false
  /-- `udc_iface_disable` -/
  ifaceDisable : Bool := false
  /-- `udc_iface_enable` -/
  ifaceEnable : Bool := false

/-- What the peripherals and the USB core answer while a request is handled. -/
structure Inputs where
  twi : List TwiPoll := []
  /-- The bytes shifted in by each of the three conversions of each `get_sample_ad7682`. -/
  adc : Fin 3 → Fin 3 → UInt8 × UInt8 := fun _ _ => (0, 0)
  /-- `pio_get_pin_value` -/
  pin : UInt8 := 0
  frameNumber : UInt32 := 0
  core : Core := {}

/-- What handling a request does to the rest of the firmware. -/
inductive Command where
  | pioSetOutput (portB : Bool) (mask : UInt32) (high : Bool)
  | pioSetInput (portB : Bool) (mask : UInt32)
  | twiMasterRead (chip : UInt8) (length : Nat)
  | v1AdcConf (value : UInt16)
  | i1AdcConf (value : UInt16)
  | v2AdcConf (value : UInt16)
  | i2AdcConf (value : UInt16)
  | da (value : UInt8)
  | db (value : UInt8)
  | setMode (chan mode : UInt16)
  | writeAd5122 (ch : UInt16) (r1 r2 : UInt8)
  | flashClearGpnvm (bit : Nat)
  | reset
  | configHardware
  | sampling (wValue wIndex : UInt16)
  deriving DecidableEq

/-- What the functions that handle a request work on. -/
structure Handling where
  ctrlreq : CtrlReq
  mem : Memory
  /-- Every range that a function has filled. -/
  filled : List (Pointer × Nat) := []
  commands : List Command := []

namespace Handling

def fill (h : Handling) (dest : Pointer) (bytes : List UInt8) : Handling :=
  { h with mem := h.mem.put dest bytes, filled := h.filled ++ [(dest, bytes.length)] }

def command (h : Handling) (commands : List Command) : Handling :=
  { h with commands := h.commands ++ commands }

/-- `udd_set_setup_payload` -/
def setPayload (h : Handling) (payload : Pointer) (size : Nat) : Handling :=
  { h with ctrlreq := { h.ctrlreq with payload := payload, payloadSize := size } }

/-- The last statements of `main_setup_handle` -/
def answer (h : Handling) (ptr : Pointer) (size : Nat) : Handling :=
  if size = 0 then
    { h with ctrlreq :=
        { h.ctrlreq with payloadSize := size, callback := none, overUnderRun := none } }
  else h.setPayload ptr size

end Handling

/-! ## The functions that fill arrays -/

/-- The bytes that `twi_master_read` stores, one by one, until all have come, the bus does not
    acknowledge, or the time is over. -/
def twiMasterRead : List TwiPoll → Nat → Nat → List UInt8
  | [], _, _ => []
  | _ :: _, 0, _ => []
  | poll :: polls, cnt + 1, timeout =>
    if poll.nack then []
    else if timeout = 0 then []
    else match poll.received with
      | none => twiMasterRead polls (cnt + 1) (timeout - 1)
      | some byte => byte :: twiMasterRead polls cnt 15000

/-- `read_adm1177` -/
def readAdm1177 (inputs : Inputs) (b : Pointer) (ct : Nat) (h : Handling) : Handling :=
  let chip : UInt8 := if h.mem .hwversion 0 = 68 then 0x58 else 0x72
  (h.fill b (twiMasterRead inputs.twi ct 15000)).command [.twiMasterRead chip ct]

/-- `get_sample_ad7682`: the channel writes two bytes from the start of `data`, three times. -/
def getSampleAd7682 (conversions : Fin 3 → UInt8 × UInt8) (data : Pointer) (h : Handling) : Handling :=
  let h := h.fill data [(conversions 0).1, (conversions 0).2]
  let h := h.fill data [(conversions 1).1, (conversions 1).2]
  h.fill data [(conversions 2).1, (conversions 2).2]

/-! ## Vendor requests -/

/-- `CUSTOM_SERIAL_VALID_OFFSET` -/
def customSerialValidOffset : Nat := 220

/-- A write of calibration data into `flash_table`, from `offset` on. -/
def writeFlashTable (offset : Nat) (h : Handling) : Handling :=
  { h with ctrlreq := { h.ctrlreq with
      payloadSize := h.ctrlreq.req.wLength.toNat
      payload := ⟨.flashTable, offset⟩
      callback := some .storeFlashTable
      overUnderRun := none } }

/-- The mask of one pin of a port -/
def pin (index : UInt32) : UInt32 := 1 <<< index

/-- Request 0x03 -/
def setLeds (h : Handling) : Handling :=
  let state := h.ctrlreq.req.wValue &&& 0x7
  if h.mem .hwversion 0 = 68 then
    h.command [.pioSetOutput true (pin 15) (state &&& 0x4 == 0),
      .pioSetOutput false (pin 29) (state &&& 0x2 == 0),
      .pioSetOutput false (pin 28) (state &&& 0x1 == 0)]
  else
    h.command [.pioSetOutput false (pin 1) (state &&& 0x4 == 0),
      .pioSetOutput false (pin 2) (state &&& 0x2 == 0),
      .pioSetOutput false (pin 0) (state &&& 0x1 == 0)]

/-- Request 0x19 -/
def readTemperature (inputs : Inputs) (h : Handling) : Handling :=
  let h := getSampleAd7682 (inputs.adc 0) Object.retData.base h
  let h := getSampleAd7682 (inputs.adc 1) Object.retData.base h
  getSampleAd7682 (inputs.adc 2) Object.dummy.base h

/-- `msft_compatible.dwLength`, which OUT data of request 0x30 overwrites -/
def dwLength (mem : Memory) : Nat :=
  (Bytes.word (mem .msftCompatible 0) (mem .msftCompatible 1) (mem .msftCompatible 2)
    (mem .msftCompatible 3)).toNat

/-- `main_setup_handle`; `none` is `false`, which leaves everything as it is. -/
def mainSetupHandle (inputs : Inputs) (h : Handling) : Option Handling :=
  let req := h.ctrlreq.req
  let portB : Bool := req.wValue > 0x1F
  let mask := pin (req.wValue &&& 0x1F).toUInt32
  if req.isVendor then
    match req.bRequest.toNat with
    | 0x00 =>
      some (if req.wIndex = 0 then h.answer Object.hwversion.base 2
        else if req.wIndex = 1 then h.answer Object.fwversion.base 5
        else h.answer Object.null.base 0)
    -- 0x01 and 0x02 read and write the table; neither looks at its size
    | 0x01 => some (h.answer ⟨.flashTable, req.wIndex.toNat⟩ req.wLength.toNat)
    | 0x02 => some (writeFlashTable req.wIndex.toNat h)
    | 0x03 => some (setLeds h)
    -- the serial number, behind the calibration
    | 0x05 => some (writeFlashTable (customSerialValidOffset + req.wIndex.toNat) h)
    | 0x17 =>
      let size := (req.wIndex &&& 0xFF).toNat
      some ((readAdm1177 inputs Object.retData.base size h).answer Object.retData.base size)
    | 0x19 => some ((readTemperature inputs h).answer Object.retData.base 2)
    -- 0x20 to 0x25 set the command words of the ADCs and of the DAC
    | 0x20 => some ((h.command [.v1AdcConf req.wValue]).answer Object.null.base 0)
    | 0x21 => some ((h.command [.i1AdcConf req.wValue]).answer Object.null.base 0)
    | 0x22 => some ((h.command [.v2AdcConf req.wValue]).answer Object.null.base 0)
    | 0x23 => some ((h.command [.i2AdcConf req.wValue]).answer Object.null.base 0)
    | 0x24 => some ((h.command [.da req.wValue.toUInt8]).answer Object.null.base 0)
    | 0x25 => some ((h.command [.db req.wValue.toUInt8]).answer Object.null.base 0)
    -- 0x50, 0x51 and 0x91: the pin of a number, those of port B from 32 on
    | 0x50 => some ((h.command [.pioSetOutput portB mask false]).answer Object.null.base 0)
    | 0x51 => some ((h.command [.pioSetOutput portB mask true]).answer Object.null.base 0)
    | 0x91 =>
      let h := (h.command [.pioSetInput portB mask]).fill Object.retData.base [inputs.pin]
      some (h.answer Object.retData.base 1)
    | 0x53 =>
      some ((h.command [.setMode (req.wValue &&& 0xF) (req.wIndex &&& 0xF)]).answer Object.null.base 0)
    | 0x59 =>
      some ((h.command [.writeAd5122 (req.wValue &&& 0xF) (req.wIndex >>> 8).toUInt8
        (req.wIndex &&& 0xFF).toUInt8]).answer Object.null.base 0)
    | 0xBB => some ((h.command [.flashClearGpnvm 1, .reset]).answer Object.null.base 0)
    | 0xCC => some ((h.command [.configHardware]).answer Object.null.base 0)
    -- the frame number, low byte first
    | 0x6F =>
      let h := h.fill Object.retData.base
        [inputs.frameNumber.toUInt8, (inputs.frameNumber >>> 8).toUInt8]
      some (h.answer Object.retData.base 2)
    | 0xC5 => some ((h.command [.sampling req.wValue req.wIndex]).answer Object.null.base 0)
    -- the compatible ID, the one request that can be refused
    | 0x30 =>
      if req.wIndex = 0x04 then
        some (h.answer Object.msftCompatible.base (min req.wLength.toNat (dwLength h.mem)))
      else none
    | _ => some (h.answer Object.null.base 0)
  else some (h.answer Object.null.base 0)

/-- The eight characters of `udi_msft_magic` -/
def msftMagic : List UInt8 := [77, 83, 70, 84, 49, 48, 48, 48]

/-- `msft_string_handle` -/
def msftStringHandle (h : Handling) : Option Handling :=
  if (h.ctrlreq.req.wValue &&& 0xff) = 0xEE then
    -- `string[i]` is the i-th 16-bit word after the two bytes of the header
    let h := h.fill ⟨.extraStringsDesc, 2⟩ (msftMagic.flatMap fun c => [c, 0])
    let h := h.fill ⟨.extraStringsDesc, 0⟩ [18]
    some (h.setPayload Object.extraStringsDesc.base (min 18 h.ctrlreq.req.wLength.toNat))
  else none

end M1k.Control
