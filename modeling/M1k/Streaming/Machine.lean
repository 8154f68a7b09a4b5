import M1k.Library.Runs
import M1k.Streaming.State

/-! # The USB device core and the machine

What the host can do to the endpoints through the standard requests (`udc.c`,
`udi_vendor.c`), the other USB events, and the step function over all of them. -/

namespace M1k

/-- `main_vendor_enable` -/
def mainVendorEnable (s : Stream) : Stream :=
  mainVendorBulkInReceived .ok { s with mainBVendorEnable := true }

/-- `main_vendor_disable` -/
def mainVendorDisable (s : Stream) : Stream := { s with mainBVendorEnable := false }

/-- `udc_update_iface_desc`: the configuration has interface 0, with the settings 0 and 1. -/
def udcUpdateIfaceDesc (ifaceNum settingNum : Nat) (s : Stream) : Bool :=
  s.udcNumConfiguration ≠ 0 && ifaceNum < 1 && settingNum < 2

/-- `udc_iface_disable`.  Setting 1 has the two bulk endpoints, setting 0 has none. -/
def udcIfaceDisable (ifaceNum : Nat) (s : Stream) : Bool × Stream :=
  if udcUpdateIfaceDesc ifaceNum 0 s = false then (false, s)
  else if udcUpdateIfaceDesc ifaceNum s.udiVendorAlternateSetting s = false then (false, s)
  else if s.udiVendorAlternateSetting = 1 then
    (true, mainVendorDisable (onEp .bulkOut uddEpFree (onEp .bulkIn uddEpFree s)))
  else (true, s)

/-- Size of a bulk packet, from the endpoint descriptors of the bus speed -/
def Stream.bulkSize (s : Stream) : Nat := if s.highSpeed then 512 else 64

/-- The loop of `udd_ep_alloc` over an endpoint that is enabled. -/
def uddEpReallocOn (id : EpId) (s : Stream) : Bool × Stream :=
  let result := uddEpRealloc id.isIn (s.ep id)
  (result.1, callBack result.2.2 (s.setEp id result.2.1))

/-- `udd_ep_alloc`: endpoint 2 lies above endpoint 1 in memory and is moved with it. -/
def uddEpAlloc (id : EpId) (s : Stream) : Bool × Stream :=
  if (s.ep id).enabled then (false, s)
  else
    let s := s.setEp id { s.ep id with enabled := true, size := s.bulkSize }
    match id with
    | .bulkOut => uddEpReallocOn .bulkOut s
    | .bulkIn =>
      let moved := uddEpReallocOn .bulkIn s
      if moved.1 = false then moved else uddEpReallocOn .bulkOut moved.2

/-- `udi_vendor_enable`, for the setting that `udc_iface_enable` has found -/
def udiVendorEnable (settingNum : Nat) (s : Stream) : Bool × Stream :=
  let s := { s with udiVendorAlternateSetting := settingNum }
  (true, if settingNum = 1 then mainVendorEnable s else s)

/-- `udc_iface_enable` -/
def udcIfaceEnable (ifaceNum settingNum : Nat) (s : Stream) : Bool × Stream :=
  if udcUpdateIfaceDesc ifaceNum settingNum s = false then (false, s)
  else if settingNum = 1 then
    let allocated := uddEpAlloc .bulkIn s
    if allocated.1 = false then allocated
    else
      let allocated := uddEpAlloc .bulkOut allocated.2
      if allocated.1 = false then allocated else udiVendorEnable settingNum allocated.2
  else udiVendorEnable settingNum s

/-- `udc_reset` -/
def udcReset (s : Stream) : Stream :=
  let s := if s.udcNumConfiguration ≠ 0 then (udcIfaceDisable 0 s).2 else s
  { s with udcNumConfiguration := 0 }

/-- `udc_req_std_dev_set_configuration` -/
def udcReqStdDevSetConfiguration (wValue wLength : UInt16) (s : Stream) : Bool × Stream :=
  if wLength ≠ 0 then (false, s)
  else if s.address = 0 then (false, s)
  else if (wValue &&& 0xFF).toNat > 1 then (false, s)
  else
    let s := { udcReset s with udcNumConfiguration := (wValue &&& 0xFF).toNat }
    if s.udcNumConfiguration = 0 then (true, s) else udcIfaceEnable 0 0 s

/-- `udc_req_std_iface_set_setting` -/
def udcReqStdIfaceSetSetting (wValue wIndex wLength : UInt16) (s : Stream) : Bool × Stream :=
  if wLength ≠ 0 then (false, s)
  else if s.udcNumConfiguration = 0 then (false, s)
  else
    let disabled := udcIfaceDisable (wIndex &&& 0xFF).toNat s
    if disabled.1 = false then disabled
    else udcIfaceEnable (wIndex &&& 0xFF).toNat (wValue &&& 0xFF).toNat disabled.2

/-- The job that an endpoint address of a request selects: `udd_ep_job` has two. -/
def EpId.ofAddress (wIndex : UInt16) : Option EpId :=
  if wIndex &&& 0x0F = 1 then some .bulkIn
  else if wIndex &&& 0x0F = 2 then some .bulkOut
  else none

/-- `ep & USB_EP_DIR_IN` -/
def addressIsIn (wIndex : UInt16) : Bool := wIndex &&& 0x80 ≠ 0

/-- `udc_req_std_ep_set_feature`, for the endpoints that have a job.  The driver indexes
    `udd_ep_job` with any number and reaches beside the array; that is left out. -/
def udcReqStdEpSetFeature (wValue wIndex wLength : UInt16) (s : Stream) : Stream :=
  if wLength ≠ 0 ∨ wValue ≠ 0 then s
  else
    match EpId.ofAddress wIndex with
    | none => s
    | some id =>
      -- `udd_ep_abort` is given the address, whose direction need not be that of the endpoint
      let s := onEp id (uddEpAbort (addressIsIn wIndex)) s
      s.setEp id (uddEpSetHalt (addressIsIn wIndex) (s.ep id)).2

/-- `udc_req_std_ep_clear_feature` -/
def udcReqStdEpClearFeature (wValue wIndex wLength : UInt16) (junk : Status) (s : Stream) :
    Stream :=
  if wLength ≠ 0 ∨ wValue ≠ 0 then s
  else
    match EpId.ofAddress wIndex with
    | none => s
    | some id => onEp id (uddEpClearHalt junk) s

/-- The reset branch of the USB interrupt: `udd_ep_job_table_kill`, `udc_reset` and
    `udd_reset_ep_ctrl`.  The bus speed is settled during the reset. -/
def uddReset (highSpeed : Bool) (s : Stream) : Stream :=
  let s := onEp .bulkOut (uddEpFinishJob true) (onEp .bulkIn (uddEpFinishJob true) s)
  { udcReset s with address := 0, highSpeed := highSpeed }

/-! ## Data on the bulk endpoints -/

/-- The OUT channel moves a byte to where it stands in the buffer of its job. -/
def dmaOutByte (value : UInt8) (s : Stream) : Stream :=
  if s.epOut.dmaOn && s.epOut.enabled && s.epOut.dmaCount < s.epOut.job.bufLoad then
    match s.epOut.job.buf with
    | .packetsOut packet word =>
      let byte := 2 * word + (s.epOut.job.bufCnt - s.epOut.job.bufLoad) + s.epOut.dmaCount
      { s with
        packetsOut := fun p b => if p = packet ∧ b = byte then value else s.packetsOut p b
        epOut := { s.epOut with dmaCount := s.epOut.dmaCount + 1 }
        trace := s.trace ++ [.outByte value] }
    | _ => s
  else s

/-- The IN channel has put all its data into the banks, which are full until the host reads. -/
def dmaInDone (ep : Endpoint) : Endpoint × Option Completion :=
  if ep.dmaOn && ep.enabled then uddEpDmaInterrupt true { ep with dmaCount := ep.job.bufLoad }
  else (ep, none)

/-- The OUT channel has stopped: its buffer is full, or a short packet came in. -/
def dmaOutDone (ep : Endpoint) : Endpoint × Option Completion :=
  if ep.dmaOn && ep.enabled then uddEpDmaInterrupt false ep else (ep, none)

/-- A packet ended the transfer while no channel was enabled. -/
def outEndTr (s : Stream) : Stream :=
  if s.epOut.dmaOn = false then { s with epOut := { s.epOut with endTrSt := true } } else s

/-- The number of full IN banks changes; none left raises the bank interrupt. -/
def inBanks (banks : Nat) (s : Stream) : Stream :=
  let s := { s with epIn := { s.epIn with busyBanks := banks } }
  if banks = 0 then onEp .bulkIn uddEpBankInterrupt s else s

/-! ## The machine -/

inductive Event where
  | tc2
  | loop
  | sof (fnum : UInt32)
  | request (wValue wIndex : UInt16)
  | outByte (value : UInt8)
  | outDone
  | outEndTr
  | inDone
  | inBanks (banks : Nat)
  | busReset (highSpeed : Bool)
  /-- The end of a SET_ADDRESS request (`udc_valid_address`). -/
  | setAddress (wValue : UInt16)
  | setConfiguration (wValue wLength : UInt16)
  | setInterface (wValue wIndex wLength : UInt16)
  | setFeature (wValue wIndex wLength : UInt16)
  | clearFeature (wValue wIndex wLength : UInt16) (junk : Status)
  deriving DecidableEq

/-- One event.  An event that the state excludes changes nothing. -/
def step (s : Stream) : Event → Stream
  | .tc2 => tc2Interrupt s
  | .loop => mainLoop s
  | .sof fnum => mainSofAction fnum s
  | .request wValue wIndex => configureSampling wValue wIndex s
  | .outByte value => dmaOutByte value s
  | .outDone => onEp .bulkOut dmaOutDone s
  | .outEndTr => outEndTr s
  | .inDone => onEp .bulkIn dmaInDone s
  | .inBanks banks => inBanks banks s
  | .busReset highSpeed => uddReset highSpeed s
  | .setAddress wValue => { s with address := wValue &&& 0x7F }
  | .setConfiguration wValue wLength => (udcReqStdDevSetConfiguration wValue wLength s).2
  | .setInterface wValue wIndex wLength => (udcReqStdIfaceSetSetting wValue wIndex wLength s).2
  | .setFeature wValue wIndex wLength => udcReqStdEpSetFeature wValue wIndex wLength s
  | .clearFeature wValue wIndex wLength junk => udcReqStdEpClearFeature wValue wIndex wLength junk s

/-- The host configures the device and selects the streaming interface. -/
def bringUp : List Event := [.setAddress 1, .setConfiguration 1 0, .setInterface 1 0 0]

end M1k
