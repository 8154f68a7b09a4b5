import M1k.Streaming.Wiring
import M1k.Usb.Descriptors

/-! # The configuration of this device

The bytes of `udi_vendor_desc.c`, and the walks of the core over them: what the streaming machine
says of interfaces and settings is what the core finds there. -/

namespace M1k

open Library Library.Records Library.Runs Desc

/-! ## The descriptors -/

/-- `UDI_VENDOR_DESC`: the interface descriptor of a setting with `endpoints` endpoints -/
def interfaceDesc (setting endpoints : UInt8) : Record where
  body := [4, 0, setting, endpoints, 0xFF, 0xFF, 0xFF, 0]
  fits := by simp

/-- The descriptor of a bulk endpoint -/
def bulkDesc (address : UInt8) (size : Nat) : Record where
  body := [5, address, 2, UInt8.ofNat size, UInt8.ofNat (size / 256), 0]
  fits := by simp

/-- `UDI_VENDOR_EPS_SIZE_BULK_HS` and `UDI_VENDOR_EPS_SIZE_BULK_FS` -/
def bulkSizeOf (highSpeed : Bool) : Nat := if highSpeed then 512 else 64

/-- `udc_desc_hs` and `udc_desc_fs` -/
def udcDesc (highSpeed : Bool) : List UInt8 :=
  [9, 2, 41, 0, 1, 1, 0, 0x80, 250] ++ (interfaceDesc 0 0).bytes ++ (interfaceDesc 1 2).bytes ++
    (bulkDesc 0x81 (bulkSizeOf highSpeed)).bytes ++ (bulkDesc 0x02 (bulkSizeOf highSpeed)).bytes

def bulkMember (address : UInt8) (highSpeed : Bool) : Member where
  record := bulkDesc address (bulkSizeOf highSpeed)
  type := 5
  rest := [address, 2, UInt8.ofNat (bulkSizeOf highSpeed), UInt8.ofNat (bulkSizeOf highSpeed / 256), 0]
  body := rfl
  notInterface := by decide
  endpointFields _ := by simp

def idleSetting : Setting where
  record := interfaceDesc 0 0
  number := 0
  alternate := 0
  rest := [0, 0xFF, 0xFF, 0xFF, 0]
  body := rfl
  members := []

def streamSetting (highSpeed : Bool) : Setting where
  record := interfaceDesc 1 2
  number := 0
  alternate := 1
  rest := [2, 0xFF, 0xFF, 0xFF, 0]
  body := rfl
  members := [bulkMember 0x81 highSpeed, bulkMember 0x02 highSpeed]

/-- The one interface, with a setting that has no endpoints and one that has both. -/
def configuration (highSpeed : Bool) : Configuration where
  record := ⟨[2, 41, 0, 1, 1, 0, 0x80, 250], by decide⟩
  type := 2
  numInterfaces := 1
  rest := [1, 0, 0x80, 250]
  settings := [idleSetting, streamSetting highSpeed]
  totalLength := 41
  body := rfl
  notInterface := by decide
  members := []
  total := by cases highSpeed <;> rfl
  fits := by decide

/-- `udc_ptr_conf->desc` -/
def confOf (highSpeed : Bool) : Nat → UInt8 := Bytes.put (fun _ => 0) 0 (udcDesc highSpeed)

theorem placed_configuration (highSpeed : Bool) : Placed (configuration highSpeed) (confOf highSpeed) := by
  have bytes : (configuration highSpeed).bytes = udcDesc highSpeed := by cases highSpeed <;> rfl
  rw [Placed, bytes]
  exact Bytes.slice_put _ _ _

/-! ## What the core calls -/

/-- `udd_ep_alloc`, given what a descriptor says of the endpoint.  A control endpoint, or a size
    with more than one transaction for each frame, is refused. -/
def uddEpAllocDesc (e : EpDesc) (s : Stream) : Bool × Stream :=
  match EpId.ofAddress e.bEndpointAddress.toUInt16 with
  | none => (false, s)
  | some id =>
    if (s.ep id).enabled then (false, s)
    else if e.bmAttributes &&& 3 = 0 then (false, s)
    else if e.wMaxPacketSize &&& 0x1800 ≠ 0 then (false, s)
    else
      let s := s.setEp id { s.ep id with enabled := true, size := e.wMaxPacketSize }
      match id with
      | .bulkOut => uddEpReallocOn .bulkOut s
      | .bulkIn =>
        let moved := uddEpReallocOn .bulkIn s
        if moved.1 = false then moved else uddEpReallocOn .bulkOut moved.2

/-- `udd_ep_free`, given the address of the endpoint -/
def uddEpFreeAt (address : UInt8) (s : Stream) : Stream :=
  match EpId.ofAddress address.toUInt16 with
  | none => s
  | some id => onEp id uddEpFree s

/-- `udi_api_vendor`, over the driver of the two endpoints -/
def vendorStack : Stack Stream where
  alloc := uddEpAllocDesc
  free := uddEpFreeAt
  enable _ alternate s := udiVendorEnable alternate.toNat s
  disable _ s := if s.udiVendorAlternateSetting = 1 then mainVendorDisable s else s
  getsetting _ s := UInt8.ofNat s.udiVendorAlternateSetting

/-! ## The machine agrees with the walks -/

theorem find_configuration (highSpeed : Bool) (numConfiguration : Nat) (ifaceNum settingNum : UInt8) :
    (configuration highSpeed).find numConfiguration ifaceNum settingNum =
      if numConfiguration ≠ 0 ∧ ifaceNum = 0 then
        if settingNum = 0 then some idleSetting
        else if settingNum = 1 then some (streamSetting highSpeed) else none
      else none := by
  have beyond : (1 : UInt8) ≤ ifaceNum ↔ ¬ ifaceNum = 0 := by
    rw [UInt8.le_iff_toNat_le, ← UInt8.toNat_inj]
    simp only [UInt8.toNat_one, UInt8.toNat_zero]
    omega
  have settings : (configuration highSpeed).settings = [idleSetting, streamSetting highSpeed] := rfl
  have number : (configuration highSpeed).numInterfaces = 1 := rfl
  rw [Configuration.find, settings, number]
  by_cases configured : numConfiguration = 0
  · simp [configured]
  · by_cases first : ifaceNum = 0
    · subst first
      by_cases idle : settingNum = 0
      · simp [configured, beyond, idle, Setting.Is, idleSetting]
      · by_cases stream : settingNum = 1
        · simp [configured, beyond, stream, Setting.Is, idleSetting, streamSetting]
        · simp [configured, beyond, idle, stream, Setting.Is, idleSetting, streamSetting]
    · simp [configured, beyond, first]

/-- The size in the endpoint descriptors is that of the bus speed. -/
theorem uddEpAllocDesc_bulk {address : UInt8} {id : EpId}
    (selects : EpId.ofAddress address.toUInt16 = some id) (s : Stream) :
    uddEpAllocDesc ⟨address, 2, bulkSizeOf s.highSpeed⟩ s = uddEpAlloc id s := by
  have bulk : ¬ (2 &&& 3 : UInt8) = 0 := by decide
  have plain : bulkSizeOf s.highSpeed &&& 0x1800 = 0 := by cases s.highSpeed <;> rfl
  simp only [uddEpAllocDesc, selects, if_neg bulk, plain, ne_eq, not_true_eq_false, if_false,
    uddEpAlloc]
  cases id <;> rfl

theorem uddEpReallocOn_highSpeed (id : EpId) (s : Stream) :
    (uddEpReallocOn id s).2.highSpeed = s.highSpeed := by
  simp only [uddEpReallocOn, callBack_eq]
  cases id <;> rfl

theorem uddEpAlloc_highSpeed (id : EpId) (s : Stream) :
    (uddEpAlloc id s).2.highSpeed = s.highSpeed := by
  cases id with
  | bulkIn =>
    simp only [uddEpAlloc]
    split_ifs
    · rfl
    · exact uddEpReallocOn_highSpeed .bulkIn _
    · rw [uddEpReallocOn_highSpeed, uddEpReallocOn_highSpeed]
      rfl
  | bulkOut =>
    simp only [uddEpAlloc]
    split_ifs
    · rfl
    · exact uddEpReallocOn_highSpeed .bulkOut _

theorem endpoints_streamSetting (highSpeed : Bool) : (streamSetting highSpeed).endpoints =
    [⟨0x81, 2, bulkSizeOf highSpeed⟩, ⟨0x02, 2, bulkSizeOf highSpeed⟩] := by
  cases highSpeed <;> rfl

/-- Both endpoints in turn, as the machine has them -/
theorem visit_streamSetting (s : Stream) :
    visit vendorStack.alloc (streamSetting s.highSpeed).endpoints s =
      if (uddEpAlloc .bulkIn s).1 = false then uddEpAlloc .bulkIn s
      else uddEpAlloc .bulkOut (uddEpAlloc .bulkIn s).2 := by
  have first : vendorStack.alloc ⟨0x81, 2, bulkSizeOf s.highSpeed⟩ s = uddEpAlloc .bulkIn s :=
    uddEpAllocDesc_bulk (by decide) s
  have second (s : Stream) : vendorStack.alloc ⟨0x02, 2, bulkSizeOf s.highSpeed⟩ s =
      uddEpAlloc .bulkOut s := uddEpAllocDesc_bulk (by decide) s
  have speed := uddEpAlloc_highSpeed .bulkIn s
  rw [endpoints_streamSetting, visit, first]
  split_ifs with refused
  · rfl
  · have out := second (uddEpAlloc .bulkIn s).2
    rw [speed] at out
    rw [visit, out, visit]
    split_ifs with refusedOut
    · rfl
    · cases result : uddEpAlloc .bulkOut (uddEpAlloc .bulkIn s).2 with
      | mk accepted after =>
        rw [result] at refusedOut
        cases accepted with
        | false => exact absurd rfl refusedOut
        | true => rfl

theorem enable_configuration (ifaceNum settingNum : UInt8) (s : Stream) :
    (configuration s.highSpeed).enable vendorStack s.udcNumConfiguration ifaceNum settingNum s =
      M1k.udcIfaceEnable ifaceNum.toNat settingNum.toNat s := by
  have iface : ifaceNum.toNat < 1 ↔ ifaceNum = 0 := by
    rw [← UInt8.toNat_inj, UInt8.toNat_zero]
    omega
  have setting : settingNum.toNat = 1 ↔ settingNum = 1 := by
    rw [← UInt8.toNat_inj, UInt8.toNat_one]
  have known : settingNum.toNat < 2 ↔ settingNum = 0 ∨ settingNum = 1 := by
    rw [← UInt8.toNat_inj, ← UInt8.toNat_inj, UInt8.toNat_zero, UInt8.toNat_one]
    omega
  rw [Configuration.enable, find_configuration, M1k.udcIfaceEnable, M1k.udcUpdateIfaceDesc]
  simp only [iface, known, setting]
  by_cases reached : s.udcNumConfiguration ≠ 0 ∧ ifaceNum = 0
  · rw [if_pos reached]
    by_cases idle : settingNum = 0
    · subst idle
      simp [reached, idleSetting, Setting.endpoints, visit, vendorStack]
    · by_cases stream : settingNum = 1
      · subst stream
        simp only [if_neg idle, if_true, visit_streamSetting]
        by_cases refused : (uddEpAlloc .bulkIn s).1 = false
        · simp [reached, refused]
        · by_cases refusedOut : (uddEpAlloc .bulkOut (uddEpAlloc .bulkIn s).2).1 = false
          · simp [reached, refused, refusedOut]
          · simp [reached, refused, refusedOut, vendorStack, streamSetting]
      · simp [idle, stream]
  · rw [if_neg reached]
    have none : (decide (s.udcNumConfiguration ≠ 0) && decide (ifaceNum = 0)) = false := by
      rw [← Bool.decide_and, decide_eq_false reached]
    simp only [none, Bool.false_and, if_true]

theorem uddEpFreeAt_eq {address : UInt8} {id : EpId}
    (selects : EpId.ofAddress address.toUInt16 = some id) (s : Stream) :
    uddEpFreeAt address s = onEp id uddEpFree s := by
  rw [uddEpFreeAt, selects]

theorem onEp_udiVendorAlternateSetting (id : EpId) (f : Endpoint → Endpoint × Option Completion)
    (s : Stream) : (onEp id f s).udiVendorAlternateSetting = s.udiVendorAlternateSetting := by
  rw [onEp, callBack_eq]
  cases id <;> rfl

theorem disable_configuration {s : Stream} (setting : s.udiVendorAlternateSetting < 2)
    (ifaceNum : UInt8) :
    (configuration s.highSpeed).disable vendorStack s.udcNumConfiguration ifaceNum s =
      M1k.udcIfaceDisable ifaceNum.toNat s := by
  have iface : ifaceNum.toNat < 1 ↔ ifaceNum = 0 := by
    rw [← UInt8.toNat_inj, UInt8.toNat_zero]
    omega
  rw [Configuration.disable, find_configuration, M1k.udcIfaceDisable]
  simp only [M1k.udcUpdateIfaceDesc, iface]
  by_cases reached : s.udcNumConfiguration ≠ 0 ∧ ifaceNum = 0
  · rw [if_pos reached]
    simp only [if_true, find_configuration, if_pos reached]
    by_cases stream : s.udiVendorAlternateSetting = 1
    · have freed : (streamSetting s.highSpeed).endpoints.foldl
          (fun s e => vendorStack.free e.bEndpointAddress s) s =
          onEp .bulkOut uddEpFree (onEp .bulkIn uddEpFree s) := by
        have first : EpId.ofAddress (0x81 : UInt8).toUInt16 = some .bulkIn := by decide
        have second : EpId.ofAddress (0x02 : UInt8).toUInt16 = some .bulkOut := by decide
        have free : vendorStack.free = uddEpFreeAt := rfl
        rw [endpoints_streamSetting, List.foldl_cons, List.foldl_cons, List.foldl_nil, free,
          uddEpFreeAt_eq first, uddEpFreeAt_eq second]
      have getsetting : vendorStack.getsetting ifaceNum s = 1 := by simp [vendorStack, stream]
      have told (s' : Stream) (same : s'.udiVendorAlternateSetting = 1) :
          vendorStack.disable ifaceNum s' = mainVendorDisable s' := if_pos same
      have one : ¬ (1 : UInt8) = 0 := by decide
      simp only [getsetting, if_neg one, if_true, freed]
      rw [told _ (by rw [onEp_udiVendorAlternateSetting, onEp_udiVendorAlternateSetting, stream])]
      simp [reached, stream]
    · have idle : s.udiVendorAlternateSetting = 0 := by omega
      simp [reached, idle, vendorStack, idleSetting, Setting.endpoints]
  · rw [if_neg reached]
    have none : (decide (s.udcNumConfiguration ≠ 0) && decide (ifaceNum = 0)) = false := by
      rw [← Bool.decide_and, decide_eq_false reached]
    simp only [none, Bool.false_and, if_true]

/-- On this device's descriptors, at either speed, the walks of the core do to the endpoints and
    to the interface exactly what the machine does, in any state it can be in. -/
theorem machine_walks {s : Stream} (wired : Wired s) (ifaceNum settingNum : UInt8) :
    Desc.udcIfaceEnable (confOf s.highSpeed) vendorStack s.udcNumConfiguration ifaceNum settingNum s =
        some (M1k.udcIfaceEnable ifaceNum.toNat settingNum.toNat s) ∧
      Desc.udcIfaceDisable (confOf s.highSpeed) vendorStack s.udcNumConfiguration ifaceNum s =
        some (M1k.udcIfaceDisable ifaceNum.toNat s) := by
  have placed := placed_configuration s.highSpeed
  constructor
  · rw [enable_refines placed, enable_configuration]
  · rw [disable_refines placed, disable_configuration wired.setting]

/-- Setting 1 selected and given up in the configured device -/
theorem machine_walks_configured :
    Desc.udcIfaceEnable (confOf false) vendorStack 1 0 1 (run step {} bringUp) =
        some (M1k.udcIfaceEnable 0 1 (run step {} bringUp)) ∧
      Desc.udcIfaceDisable (confOf false) vendorStack 1 0 (run step {} bringUp) =
        some (M1k.udcIfaceDisable 0 (run step {} bringUp)) :=
  machine_walks (wired_run wired_boot bringUp).last 0 1

/-- The walks over the bytes of this device -/
theorem core_refines_vendor :
    Desc.udcIfaceEnable (confOf true) vendorStack 1 0 1 {} =
        some ((configuration true).enable vendorStack 1 0 1 {}) ∧
      Desc.udcIfaceDisable (confOf true) vendorStack 1 0 {} =
        some ((configuration true).disable vendorStack 1 0 {}) ∧
      Desc.udcReset (confOf true) vendorStack 1 {} =
        some ((configuration true).reset vendorStack 1 {}) ∧
      enableAll (confOf true) vendorStack 1 (ifaceNums (confOf true)) {} =
        some ((configuration true).enableFrom vendorStack 1
          ((List.range (configuration true).numInterfaces.toNat).map UInt8.ofNat) {}) :=
  core_refines (placed_configuration true) vendorStack 1 0 1 {}

end M1k
