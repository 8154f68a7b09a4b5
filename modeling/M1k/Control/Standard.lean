import M1k.Control.Request

/-! # Standard requests

`udc_process_setup`: the USB core tries the standard requests first, and leaves what it refuses
to the application.  The core's own state is an input here; what its functions do to the bulk
endpoints belongs to the streaming machine. -/

namespace M1k.Control

open Library

/-! ## Descriptors -/

/-- The end of `udc_req_std_dev_get_str_desc`: `str` in UTF-16, behind a header -/
def stringDescriptor (str : List UInt8) (h : Handling) : Handling :=
  let h := h.fill ⟨.udcStringDesc, 2⟩ (str.flatMap fun c => [c, 0])
  let h := h.fill Object.udcStringDesc.base [UInt8.ofNat (2 + str.length * 2)]
  h.setPayload Object.udcStringDesc.base ((2 + str.length * 2) % 256)

/-- `USB_DEVICE_MANUFACTURE_NAME` -/
def manufacturerName : List UInt8 :=
  [65, 110, 97, 108, 111, 103, 32, 68, 101, 118, 105, 99, 101, 115, 44, 32, 73, 110, 99, 46]

/-- `USB_DEVICE_PRODUCT_NAME` -/
def productName : List UInt8 := [65, 68, 65, 76, 77, 49, 48, 48, 48]

/-- `udc_req_std_dev_get_str_desc` -/
def udcReqStdDevGetStrDesc (h : Handling) : Option Handling :=
  match (h.ctrlreq.req.wValue &&& 0xff).toNat with
  | 0 => some (h.setPayload (Object.udc 4).base 4)
  | 1 => some (stringDescriptor manufacturerName h)
  | 2 => some (stringDescriptor productName h)
  | 3 => some (stringDescriptor (h.mem.slice Object.serialNumber.base 33) h)
  | _ => msftStringHandle h

/-- The descriptor that `udc_req_std_dev_get_descriptor` looks up -/
def descriptor (h : Handling) : Option Handling :=
  let confNum := (h.ctrlreq.req.wValue &&& 0xff).toNat
  match (h.ctrlreq.req.wValue >>> 8).toNat with
  | 1 => some (h.setPayload (Object.udc 18).base 18)
  | 2 => if 1 ≤ confNum then none else some (h.setPayload (Object.udc 41).base 41)
  | 6 => some (h.setPayload (Object.udc 10).base 10)
  | 7 => if 1 ≤ confNum then none else some (h.setPayload (Object.udc 41).base 41)
  | 3 => udcReqStdDevGetStrDesc h
  -- there is no BOS descriptor
  | _ => none

/-- `udc_req_std_dev_get_descriptor` -/
def udcReqStdDevGetDescriptor (h : Handling) : Option Handling :=
  (descriptor h).map fun h =>
    if h.ctrlreq.req.wLength.toNat < h.ctrlreq.payloadSize then
      h.setPayload h.ctrlreq.payload h.ctrlreq.req.wLength.toNat
    else h

/-! ## `udc_reqstd` -/

/-- A reply of fixed length, for a request that asks for that length -/
def replyOf (size : Nat) (h : Handling) : Option Handling :=
  if h.ctrlreq.req.wLength.toNat ≠ size then none
  else some (h.setPayload (Object.udc size).base size)

/-- `udc_req_std_iface_get_setting` -/
def udcReqStdIfaceGetSetting (core : Core) (h : Handling) : Option Handling :=
  if h.ctrlreq.req.wLength ≠ 1 then none
  else if core.numConfiguration = 0 then none
  else if 1 ≤ (h.ctrlreq.req.wIndex &&& 0xFF).toNat then none
  else if core.updateIfaceDesc then some (h.setPayload (Object.udc 1).base 1) else none

/-- The standard requests with an IN data stage -/
def udcReqstdIn (core : Core) (h : Handling) : Option Handling :=
  if h.ctrlreq.req.recipient = 0 then
    match h.ctrlreq.req.bRequest.toNat with
    | 0 => replyOf 2 h
    | 6 => udcReqStdDevGetDescriptor h
    | 8 => replyOf 1 h
    | _ => none
  else if h.ctrlreq.req.recipient = 1 then
    match h.ctrlreq.req.bRequest.toNat with
    | 10 => udcReqStdIfaceGetSetting core h
    | _ => none
  else if h.ctrlreq.req.recipient = 2 then
    match h.ctrlreq.req.bRequest.toNat with
    | 0 => replyOf 2 h
    | _ => none
  else none

def Handling.setCallback (h : Handling) (callback : Callback) : Handling :=
  { h with ctrlreq := { h.ctrlreq with callback := some callback } }

/-- `udc_req_std_dev_set_feature`: this device has no remote wakeup, and the test modes only at
    high speed -/
def udcReqStdDevSetFeature (core : Core) (h : Handling) : Option Handling :=
  if h.ctrlreq.req.wValue = 2 ∧ core.highSpeed = true ∧ h.ctrlreq.req.wIndex &&& 0xff = 0 ∧
      1 ≤ (h.ctrlreq.req.wIndex >>> 8).toNat ∧ (h.ctrlreq.req.wIndex >>> 8).toNat ≤ 4 then
    some (h.setCallback .udc)
  else none

/-- `udc_req_std_dev_set_configuration` -/
def udcReqStdDevSetConfiguration (core : Core) (h : Handling) : Option Handling :=
  if core.addressed = false then none
  else if 1 < (h.ctrlreq.req.wValue &&& 0xFF).toNat then none
  else if (h.ctrlreq.req.wValue &&& 0xFF).toNat = 0 then some h
  else if core.ifaceEnable then some h else none

/-- `udc_req_std_iface_set_setting` -/
def udcReqStdIfaceSetSetting (core : Core) (h : Handling) : Option Handling :=
  if core.numConfiguration = 0 then none
  else if core.ifaceDisable = false then none
  else if core.ifaceEnable then some h else none

/-- The standard requests without an IN data stage: each asks for `wLength` 0 first. -/
def udcReqstdOut (core : Core) (h : Handling) : Option Handling :=
  if h.ctrlreq.req.wLength ≠ 0 then none
  else if h.ctrlreq.req.recipient = 0 then
    match h.ctrlreq.req.bRequest.toNat with
    | 5 => some (h.setCallback .udc)
    | 1 => if h.ctrlreq.req.wValue = 1 then some h else none
    | 3 => udcReqStdDevSetFeature core h
    | 9 => udcReqStdDevSetConfiguration core h
    | _ => none
  else if h.ctrlreq.req.recipient = 1 then
    match h.ctrlreq.req.bRequest.toNat with
    | 11 => udcReqStdIfaceSetSetting core h
    | _ => none
  else if h.ctrlreq.req.recipient = 2 then
    match h.ctrlreq.req.bRequest.toNat with
    | 1 => if h.ctrlreq.req.wValue = 0 ∧ core.clearHalt = true then some h else none
    | 3 => if h.ctrlreq.req.wValue = 0 ∧ core.setHalt = true then some h else none
    | _ => none
  else none

/-- `udc_reqstd`; `none` is `false`, which leaves `udd_g_ctrlreq` as it is. -/
def udcReqstd (core : Core) (h : Handling) : Option Handling :=
  if h.ctrlreq.req.isIn then
    if h.ctrlreq.req.wLength = 0 then none else udcReqstdIn core h
  else udcReqstdOut core h

/-! ## `udc_process_setup` -/

/-- `UDI_VENDOR_SETUP_IN_RECEIVED` and `UDI_VENDOR_SETUP_OUT_RECEIVED` -/
def udiVendorSetupReceived : Bool := false

/-- `udi_vendor_setup` -/
def udiVendorSetup (r : SetupReq) : Bool :=
  if r.isIn then r.isVendor && r.bRequest == 0 && udiVendorSetupReceived
  else r.isVendor && r.bRequest == 0 && r.wLength != 0 && udiVendorSetupReceived

/-- `udc_req_iface` -/
def udcReqIface (core : Core) (r : SetupReq) : Bool :=
  if core.numConfiguration = 0 then false
  else if 1 ≤ (r.wIndex &&& 0xFF).toNat then false
  else core.updateIfaceDesc && udiVendorSetup r

/-- `udc_req_ep`, over the one interface -/
def udcReqEp (core : Core) (r : SetupReq) : Bool :=
  if core.numConfiguration = 0 then false else core.updateIfaceDesc && udiVendorSetup r

/-- What `udc_process_setup` clears first -/
def Handling.clear (h : Handling) : Handling :=
  { h with ctrlreq :=
      { h.ctrlreq with payloadSize := 0, callback := none, overUnderRun := none } }

/-- What `udc_process_setup` tries once the core has refused a request, or was not asked -/
def udcDecodeOther (inputs : Inputs) (h : Handling) : Option Handling :=
  if h.ctrlreq.req.recipient = 1 && udcReqIface inputs.core h.ctrlreq.req then some h
  else if h.ctrlreq.req.recipient = 2 && udcReqEp inputs.core h.ctrlreq.req then some h
  else mainSetupHandle inputs h

/-- What `udc_process_setup` tries -/
def udcDecode (inputs : Inputs) (h : Handling) : Option Handling :=
  if h.ctrlreq.req.isIn && h.ctrlreq.req.wLength == 0 then none
  else if h.ctrlreq.req.setupType = 0 then
    match udcReqstd inputs.core h with
    | some h => some h
    | none => udcDecodeOther inputs h
  else udcDecodeOther inputs h

/-- `udc_process_setup` -/
def udcProcessSetup (inputs : Inputs) (h : Handling) : Bool × Handling :=
  match udcDecode inputs h.clear with
  | some h => (true, h)
  | none => (false, h.clear)

/-- The vendor interface takes no request. -/
theorem udiVendorSetup_refuses (r : SetupReq) : udiVendorSetup r = false := by
  simp [udiVendorSetup, udiVendorSetupReceived]

theorem udcDecodeOther_eq (inputs : Inputs) (h : Handling) :
    udcDecodeOther inputs h = mainSetupHandle inputs h := by
  simp [udcDecodeOther, udcReqIface, udcReqEp, udiVendorSetup_refuses]

/-- A vendor request goes straight to the application. -/
theorem udcDecode_vendor {h : Handling} (inputs : Inputs) (vendor : h.ctrlreq.req.isVendor = true)
    (asks : h.ctrlreq.req.isIn = true → h.ctrlreq.req.wLength ≠ 0) :
    udcDecode inputs h = mainSetupHandle inputs h := by
  have type : h.ctrlreq.req.setupType = 0x40 := by simpa [SetupReq.isVendor] using vendor
  have asked : (h.ctrlreq.req.isIn && h.ctrlreq.req.wLength == 0) = false := by
    cases direction : h.ctrlreq.req.isIn with
    | false => rfl
    | true => simpa using asks direction
  simp [udcDecode, asked, type, udcDecodeOther_eq]

end M1k.Control
