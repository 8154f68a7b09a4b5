import M1k.Library.Records

/-! # The configuration descriptor and the core that walks it

`udc.c` knows the interfaces of a device only from the bytes of its configuration descriptor: it
steps from descriptor to descriptor to find a setting of an interface, and again to find the
endpoints of that setting.  Here these walks are over bytes, as the source has them, and beside
them stands what they are for: a configuration as a list of settings with their endpoints. -/

namespace M1k.Desc

open Library Library.Records

variable {σ : Type*}

/-! ## The walks of `udc.c` -/

/-- `udc_get_eof_conf`: the bytes are counted from the start of the descriptor. -/
def udcGetEofConf (conf : Nat → UInt8) : Nat := (conf 2).toNat + 256 * (conf 3).toNat

/-- `udc_next_desc_in_iface`: where the descriptor stands, if there is one before the next
    interface.  `none` is a walk that does not end. -/
def udcNextDescInIface (conf : Nat → UInt8) (desc : Nat) (descId : UInt8) : Option (Option Nat) :=
  let look : Nat → Option (Option Nat) := fun p =>
    if conf (p + 1) = 4 then some none
    else if descId = conf (p + 1) then some (some p)
    else none
  (scan conf (udcGetEofConf conf) look (udcGetEofConf conf + 1) (desc + (conf desc).toNat)).map
    Option.join

/-- `udc_update_iface_desc`: where `udc_ptr_iface` stands afterwards, if the interface is found. -/
def udcUpdateIfaceDesc (conf : Nat → UInt8) (numConfiguration : Nat) (ifaceNum settingNum : UInt8) :
    Option (Option Nat) :=
  let look : Nat → Option Nat := fun p =>
    if conf (p + 1) = 4 ∧ ifaceNum = conf (p + 2) ∧ settingNum = conf (p + 3) then some p else none
  if numConfiguration = 0 then some none
  else if conf 4 ≤ ifaceNum then some none
  else scan conf (udcGetEofConf conf) look (udcGetEofConf conf + 1) 0

/-- What is read of `usb_ep_desc_t` -/
structure EpDesc where
  bEndpointAddress : UInt8
  bmAttributes : UInt8
  wMaxPacketSize : Nat
  deriving DecidableEq

def epDescAt (conf : Nat → UInt8) (p : Nat) : EpDesc where
  bEndpointAddress := conf (p + 2)
  bmAttributes := conf (p + 3)
  wMaxPacketSize := (conf (p + 4)).toNat + 256 * (conf (p + 5)).toNat

/-- What the core calls: the endpoints of the driver, and the functions that an interface
    registers in `udi_api_t`. -/
structure Stack (σ : Type*) where
  /-- `udd_ep_alloc` -/
  alloc : EpDesc → σ → Bool × σ
  /-- `udd_ep_free` -/
  free : UInt8 → σ → σ
  /-- `enable` of an interface; it reads `bAlternateSetting` at `udc_ptr_iface`. -/
  enable : UInt8 → UInt8 → σ → Bool × σ
  disable : UInt8 → σ → σ
  getsetting : UInt8 → σ → UInt8

/-- The loops of `udc_iface_enable` and `udc_iface_disable`, from the descriptor at `desc` on: `f`
    is what they do with an endpoint descriptor, and `false` ends them. -/
def onEndpoints (conf : Nat → UInt8) (f : EpDesc → σ → Bool × σ) : Nat → Nat → σ → Option (Bool × σ)
  | 0, _, _ => none
  | fuel + 1, desc, s =>
    match udcNextDescInIface conf desc 5 with
    | none => none
    | some none => some (true, s)
    | some (some ep) =>
      let done := f (epDescAt conf ep) s
      if done.1 = false then some done else onEndpoints conf f fuel ep done.2

/-- `udc_iface_enable` -/
def udcIfaceEnable (conf : Nat → UInt8) (stack : Stack σ) (numConfiguration : Nat)
    (ifaceNum settingNum : UInt8) (s : σ) : Option (Bool × σ) :=
  match udcUpdateIfaceDesc conf numConfiguration ifaceNum settingNum with
  | none => none
  | some none => some (false, s)
  | some (some iface) =>
    (onEndpoints conf stack.alloc (udcGetEofConf conf + 1) iface s).map fun allocated =>
      if allocated.1 = false then allocated
      else stack.enable ifaceNum (conf (iface + 3)) allocated.2

/-- `udc_iface_disable` -/
def udcIfaceDisable (conf : Nat → UInt8) (stack : Stack σ) (numConfiguration : Nat)
    (ifaceNum : UInt8) (s : σ) : Option (Bool × σ) :=
  match udcUpdateIfaceDesc conf numConfiguration ifaceNum 0 with
  | none => none
  | some none => some (false, s)
  | some (some _) =>
    match udcUpdateIfaceDesc conf numConfiguration ifaceNum (stack.getsetting ifaceNum s) with
    | none => none
    | some none => some (false, s)
    | some (some iface) =>
      (onEndpoints conf (fun ep s => (true, stack.free ep.bEndpointAddress s))
        (udcGetEofConf conf + 1) iface s).map fun freed => (true, stack.disable ifaceNum freed.2)

/-- The loop of `udc_reset`: every interface is disabled, whatever the others answer. -/
def disableAll (conf : Nat → UInt8) (stack : Stack σ) (numConfiguration : Nat) :
    List UInt8 → σ → Option σ
  | [], s => some s
  | ifaceNum :: later, s =>
    match udcIfaceDisable conf stack numConfiguration ifaceNum s with
    | none => none
    | some disabled => disableAll conf stack numConfiguration later disabled.2

/-- The loop of `udc_req_std_dev_set_configuration`, up to the first refusal -/
def enableAll (conf : Nat → UInt8) (stack : Stack σ) (numConfiguration : Nat) :
    List UInt8 → σ → Option (Bool × σ)
  | [], s => some (true, s)
  | ifaceNum :: later, s =>
    match udcIfaceEnable conf stack numConfiguration ifaceNum 0 s with
    | none => none
    | some enabled =>
      if enabled.1 = false then some enabled
      else enableAll conf stack numConfiguration later enabled.2

/-- The numbers that `iface_num` takes: `bNumInterfaces` is at byte 4 of the configuration. -/
def ifaceNums (conf : Nat → UInt8) : List UInt8 := (List.range (conf 4).toNat).map UInt8.ofNat

/-- `udc_reset`, but for the assignments after its loop -/
def udcReset (conf : Nat → UInt8) (stack : Stack σ) (numConfiguration : Nat) (s : σ) : Option σ :=
  if numConfiguration = 0 then some s
  else disableAll conf stack numConfiguration (ifaceNums conf) s

/-! ## Configurations -/

/-- A descriptor that belongs to the interface before it: it is no interface descriptor, and an
    endpoint descriptor has the fields of one. -/
structure Member where
  record : Record
  type : UInt8
  rest : List UInt8
  body : record.body = type :: rest
  notInterface : type ≠ 4
  endpointFields : type = 5 → 4 ≤ rest.length

/-- An interface descriptor, with the descriptors up to the next -/
structure Setting where
  record : Record
  number : UInt8
  alternate : UInt8
  rest : List UInt8
  body : record.body = 4 :: number :: alternate :: rest
  members : List Member

/-- A configuration descriptor, with all that follows it -/
structure Configuration where
  record : Record
  type : UInt8
  numInterfaces : UInt8
  rest : List UInt8
  settings : List Setting
  totalLength : Nat
  body : record.body =
    type :: UInt8.ofNat totalLength :: UInt8.ofNat (totalLength / 256) :: numInterfaces :: rest
  notInterface : type ≠ 4
  /-- Descriptors before the first interface, such as those of interface associations -/
  members : List Member
  total : totalLength = record.size + (encode (members.map Member.record)).length +
    (encode (settings.flatMap fun s => s.record :: s.members.map Member.record)).length
  fits : totalLength < 65536

/-- The endpoint that a descriptor is about -/
def Member.endpoint (m : Member) : Option EpDesc :=
  if m.type = 5 then
    some {
      bEndpointAddress := m.rest.getD 0 0
      bmAttributes := m.rest.getD 1 0
      wMaxPacketSize := (m.rest.getD 2 0).toNat + 256 * (m.rest.getD 3 0).toNat }
  else none

namespace Setting

def records (s : Setting) : List Record := s.record :: s.members.map Member.record

def endpoints (s : Setting) : List EpDesc := s.members.filterMap Member.endpoint

/-- The interface and the setting that a request names -/
def Is (s : Setting) (ifaceNum settingNum : UInt8) : Prop := ifaceNum = s.number ∧ settingNum = s.alternate

instance (s : Setting) (ifaceNum settingNum : UInt8) : Decidable (s.Is ifaceNum settingNum) :=
  inferInstanceAs (Decidable (_ ∧ _))

end Setting

/-- `f` on each endpoint in turn, up to the first that is refused -/
def visit (f : EpDesc → σ → Bool × σ) : List EpDesc → σ → Bool × σ
  | [], s => (true, s)
  | e :: es, s => if (f e s).1 = false then f e s else visit f es (f e s).2

namespace Configuration

variable (c : Configuration)

def records : List Record :=
  (c.record :: c.members.map Member.record) ++ c.settings.flatMap Setting.records

def bytes : List UInt8 := encode c.records

/-- The setting that a request selects, in a device that has been given the configuration -/
def find (numConfiguration : Nat) (ifaceNum settingNum : UInt8) : Option Setting :=
  if numConfiguration = 0 then none
  else if c.numInterfaces ≤ ifaceNum then none
  else c.settings.find? fun s => s.Is ifaceNum settingNum

/-- Every endpoint of the setting is allocated, and then the interface is told. -/
def enable (stack : Stack σ) (numConfiguration : Nat) (ifaceNum settingNum : UInt8) (s : σ) :
    Bool × σ :=
  match c.find numConfiguration ifaceNum settingNum with
  | none => (false, s)
  | some setting =>
    let allocated := visit stack.alloc setting.endpoints s
    if allocated.1 = false then allocated
    else stack.enable ifaceNum setting.alternate allocated.2

/-- Every endpoint of the present setting is freed, and then the interface is told. -/
def disable (stack : Stack σ) (numConfiguration : Nat) (ifaceNum : UInt8) (s : σ) : Bool × σ :=
  match c.find numConfiguration ifaceNum 0 with
  | none => (false, s)
  | some _ =>
    match c.find numConfiguration ifaceNum (stack.getsetting ifaceNum s) with
    | none => (false, s)
    | some setting =>
      (true, stack.disable ifaceNum
        (setting.endpoints.foldl (fun s e => stack.free e.bEndpointAddress s) s))

/-- Every interface is disabled in turn. -/
def reset (stack : Stack σ) (numConfiguration : Nat) (s : σ) : σ :=
  if numConfiguration = 0 then s
  else ((List.range c.numInterfaces.toNat).map UInt8.ofNat).foldl
    (fun s ifaceNum => (c.disable stack numConfiguration ifaceNum s).2) s

/-- Setting 0 of every interface is enabled in turn, up to the first that is refused. -/
def enableFrom (stack : Stack σ) (numConfiguration : Nat) : List UInt8 → σ → Bool × σ
  | [], s => (true, s)
  | ifaceNum :: later, s =>
    let enabled := c.enable stack numConfiguration ifaceNum 0 s
    if enabled.1 = false then enabled else enableFrom stack numConfiguration later enabled.2

end Configuration

/-! ## The walks find what stands there -/

/-- The bytes of the configuration stand in memory. -/
def Placed (c : Configuration) (conf : Nat → UInt8) : Prop :=
  Bytes.slice conf 0 c.bytes.length = c.bytes

section Walk

variable {conf : Nat → UInt8} {p stop : Nat} {r : Record} {rest : List Record}

theorem Member.type_at {m : Member} (stands : Stands conf p (m.record :: rest) stop) :
    conf (p + 1) = m.type := by
  have byte := stands.head_byte 0 (by simp [m.body])
  simpa [m.body] using byte

theorem Configuration.fields_at {c : Configuration} (stands : Stands conf p (c.record :: rest) stop) :
    conf (p + 1) = c.type ∧ conf (p + 2) = UInt8.ofNat c.totalLength ∧
      conf (p + 3) = UInt8.ofNat (c.totalLength / 256) ∧ conf (p + 4) = c.numInterfaces := by
  have type := stands.head_byte 0 (by simp [c.body])
  have low := stands.head_byte 1 (by simp [c.body])
  have high := stands.head_byte 2 (by simp [c.body])
  have number := stands.head_byte 3 (by simp [c.body])
  simp only [c.body] at type low high number
  exact ⟨type, low, high, number⟩

theorem Setting.fields_at {s : Setting} (stands : Stands conf p (s.record :: rest) stop) :
    conf (p + 1) = 4 ∧ conf (p + 2) = s.number ∧ conf (p + 3) = s.alternate := by
  have type := stands.head_byte 0 (by simp [s.body])
  have number := stands.head_byte 1 (by simp [s.body])
  have alternate := stands.head_byte 2 (by simp [s.body])
  simp only [s.body] at type number alternate
  exact ⟨type, number, alternate⟩

theorem Member.endpoint_at {m : Member} (stands : Stands conf p (m.record :: rest) stop)
    (endpoint : m.type = 5) : m.endpoint = some (epDescAt conf p) := by
  have room := m.endpointFields endpoint
  have field (k : Nat) (inside : k < 4) : conf (p + 2 + k) = m.rest.getD k 0 := by
    have byte := stands.head_byte (k + 1) (by simp [m.body]; omega)
    rw [show p + 1 + (k + 1) = p + 2 + k by omega] at byte
    simp only [m.body] at byte
    rw [byte, List.getElem_cons_succ, List.getD_eq_getElem?_getD, List.getElem?_eq_getElem (by omega),
      Option.getD_some]
  have address := field 0 (by decide)
  have attrs := field 1 (by decide)
  have low := field 2 (by decide)
  have high := field 3 (by decide)
  simp only [Nat.add_zero, Nat.add_assoc, Nat.reduceAdd] at address attrs low high
  simp [Member.endpoint, endpoint, epDescAt, address, attrs, low, high]

/-- What ends the search for an endpoint, at a descriptor of a list -/
def lookEndpoint (p : Nat) (r : Record) : Option (Option Nat) :=
  if r.body.head? = some 4 then some none
  else if r.body.head? = some 5 then some (some p)
  else none

/-- What ends the search for an interface -/
def lookIface (ifaceNum settingNum : UInt8) (p : Nat) (r : Record) : Option Nat :=
  if r.body.take 3 = [4, ifaceNum, settingNum] then some p else none

/-- The descriptors of a configuration -/
inductive Belongs (r : Record) : Prop where
  | header (c : Configuration) : c.record = r → Belongs r
  | member (m : Member) : m.record = r → Belongs r
  | setting (s : Setting) : s.record = r → Belongs r

theorem lookEndpoint_at (belongs : Belongs r) (stands : Stands conf p (r :: rest) stop) :
    (if conf (p + 1) = 4 then some none else if (5 : UInt8) = conf (p + 1) then some (some p)
      else none) = lookEndpoint p r := by
  cases belongs with
  | header c same =>
    subst same
    simp only [(c.fields_at stands).1, lookEndpoint, c.body, List.head?_cons, Option.some.injEq,
      eq_comm (a := (5 : UInt8))]
  | member m same =>
    subst same
    simp only [m.type_at stands, lookEndpoint, m.body, List.head?_cons, Option.some.injEq,
      eq_comm (a := (5 : UInt8))]
  | setting s same =>
    subst same
    simp [(s.fields_at stands).1, lookEndpoint, s.body]

theorem lookIface_at (belongs : Belongs r) (stands : Stands conf p (r :: rest) stop)
    (ifaceNum settingNum : UInt8) :
    (if conf (p + 1) = 4 ∧ ifaceNum = conf (p + 2) ∧ settingNum = conf (p + 3) then some p else none) =
      lookIface ifaceNum settingNum p r := by
  cases belongs with
  | header c same =>
    subst same
    simp [(c.fields_at stands).1, c.notInterface, lookIface, c.body]
  | member m same =>
    subst same
    simp [m.type_at stands, m.notInterface, lookIface, m.body]
  | setting s same =>
    subst same
    obtain ⟨type, number, alternate⟩ := s.fields_at stands
    simp only [type, number, alternate, lookIface, s.body, List.take_succ_cons, List.take_zero,
      List.cons.injEq, true_and, and_true, eq_comm]

/-- The list of all records behind a place, in a memory whose configuration ends where they end -/
structure Behind (conf : Nat → UInt8) (p : Nat) (rs : List Record) : Prop where
  stands : Stands conf p rs (udcGetEofConf conf)
  belong : ∀ r ∈ rs, Belongs r

theorem Behind.tail (behind : Behind conf p (r :: rest)) : Behind conf (p + r.size) rest where
  stands := behind.stands.tail
  belong r' member := behind.belong r' (List.mem_cons_of_mem _ member)

/-- The walk for an endpoint is a search in the list of what stands there. -/
theorem udcNextDescInIface_eq (behind : Behind conf p (r :: rest)) :
    udcNextDescInIface conf p 5 = some (search lookEndpoint (p + r.size) rest).join := by
  have enough := behind.tail.stands.length_le
  have agrees (pos : Nat) (r' : Record) (rest' : List Record) (member : r' ∈ rest)
      (stands : Stands conf pos (r' :: rest') (udcGetEofConf conf)) :=
    lookEndpoint_at (behind.tail.belong r' member) stands
  rw [udcNextDescInIface, behind.stands.head_length,
    scan_eq_search behind.tail.stands agrees (by omega), Option.map_some]

/-- The walk for an interface is one too. -/
theorem udcUpdateIfaceDesc_eq {c : Configuration} (behind : Behind conf 0 (c.record :: rest))
    (numConfiguration : Nat) (ifaceNum settingNum : UInt8) :
    udcUpdateIfaceDesc conf numConfiguration ifaceNum settingNum =
      some (if numConfiguration = 0 ∨ c.numInterfaces ≤ ifaceNum then none
        else search (lookIface ifaceNum settingNum) 0 (c.record :: rest)) := by
  have number := (c.fields_at behind.stands).2.2.2
  rw [Nat.zero_add] at number
  have enough := behind.stands.length_le
  have agrees (pos : Nat) (r' : Record) (rest' : List Record) (member : r' ∈ c.record :: rest)
      (stands : Stands conf pos (r' :: rest') (udcGetEofConf conf)) :=
    lookIface_at (behind.belong r' member) stands ifaceNum settingNum
  rw [udcUpdateIfaceDesc, number]
  by_cases unconfigured : numConfiguration = 0
  · rw [if_pos unconfigured, if_pos (.inl unconfigured)]
  · by_cases beyond : c.numInterfaces ≤ ifaceNum
    · rw [if_neg unconfigured, if_pos beyond, if_pos (.inr beyond)]
    · rw [if_neg unconfigured, if_neg beyond, if_neg (not_or.mpr ⟨unconfigured, beyond⟩),
        scan_eq_search behind.stands agrees (by omega)]

/-! ## The endpoints of a setting -/

variable {members : List Member} {settings : List Setting}

theorem lookEndpoint_member (m : Member) (p : Nat) :
    lookEndpoint p m.record = if m.type = 5 then some (some p) else none := by
  simp [lookEndpoint, m.body, m.notInterface]

/-- Behind the last descriptor of a setting the walk ends: at the next interface, or at the end. -/
theorem next_end (behind : Behind conf p (r :: settings.flatMap Setting.records)) :
    udcNextDescInIface conf p 5 = some none := by
  rw [udcNextDescInIface_eq behind]
  cases settings with
  | nil => rfl
  | cons s later => simp [Setting.records, search, lookEndpoint, s.body]

/-- The loop over the endpoints meets those of the setting, in their order, and no others. -/
theorem onEndpoints_eq (f : EpDesc → σ → Bool × σ) {fuel : Nat}
    (behind : Behind conf p (r :: (members.map Member.record ++ settings.flatMap Setting.records)))
    (enough : members.length < fuel) (s : σ) :
    onEndpoints conf f fuel p s = some (visit f (members.filterMap Member.endpoint) s) := by
  induction members generalizing p r fuel s with
  | nil =>
    cases fuel with
    | zero => cases enough
    | succ fuel => rw [onEndpoints, next_end behind]; rfl
  | cons m members ih =>
    have here : Stands conf (p + r.size) (m.record ::
        (members.map Member.record ++ settings.flatMap Setting.records)) _ := behind.tail.stands
    cases fuel with
    | zero => cases enough
    | succ fuel =>
      have next := udcNextDescInIface_eq behind
      rw [List.map_cons, List.cons_append, search, lookEndpoint_member] at next
      by_cases endpoint : m.type = 5
      · -- the descriptor is of an endpoint: the loop goes on from it
        rw [if_pos endpoint] at next
        rw [onEndpoints, next]
        simp only [Option.join_some, List.filterMap_cons, m.endpoint_at here endpoint, visit]
        split_ifs with refused
        · rfl
        · exact ih behind.tail (Nat.lt_of_succ_lt_succ enough) _
      · -- any other is passed over, as if the loop stood on it
        have skipped : udcNextDescInIface conf p 5 = udcNextDescInIface conf (p + r.size) 5 := by
          rw [if_neg endpoint] at next
          rw [next, udcNextDescInIface_eq behind.tail]
          rfl
        have same : onEndpoints conf f (fuel + 1) (p + r.size) s = _ :=
          ih behind.tail (Nat.lt_of_succ_lt enough) s
        rw [onEndpoints] at same ⊢
        rw [skipped, same, List.filterMap_cons, Member.endpoint, if_neg endpoint]

/-! ## The setting that a request names -/

theorem lookIface_member (m : Member) (ifaceNum settingNum : UInt8) (p : Nat) :
    lookIface ifaceNum settingNum p m.record = none := by
  simp [lookIface, m.body, m.notInterface]

theorem lookIface_setting (s : Setting) (ifaceNum settingNum : UInt8) (p : Nat) :
    lookIface ifaceNum settingNum p s.record = if s.Is ifaceNum settingNum then some p else none := by
  simp only [lookIface, s.body, Setting.Is, List.take_succ_cons, List.take_zero, List.cons.injEq,
    true_and, and_true, eq_comm]
  exact if_congr Iff.rfl rfl rfl

theorem lookIface_members (members : List Member) (ifaceNum settingNum : UInt8) (p : Nat) :
    search (lookIface ifaceNum settingNum) p (members.map Member.record) = none := by
  apply search_none
  intro pos r member
  obtain ⟨m, -, same⟩ := List.mem_map.mp member
  rw [← same, lookIface_member]

/-- The search for an interface stops at the first setting that is the one asked for. -/
theorem search_settings (ifaceNum settingNum : UInt8)
    (behind : Behind conf p (settings.flatMap Setting.records)) :
    match settings.find? fun s => s.Is ifaceNum settingNum with
    | none => search (lookIface ifaceNum settingNum) p (settings.flatMap Setting.records) = none
    | some s => ∃ q later, search (lookIface ifaceNum settingNum) p
        (settings.flatMap Setting.records) = some q ∧
        Behind conf q (s.records ++ List.flatMap Setting.records later) := by
  induction settings generalizing p with
  | nil => rfl
  | cons s settings ih =>
    rw [List.flatMap_cons] at behind ⊢
    rw [List.find?_cons]
    by_cases same : s.Is ifaceNum settingNum
    · rw [decide_eq_true same]
      refine ⟨p, settings, ?_, behind⟩
      rw [Setting.records, List.cons_append, search, lookIface_setting, if_pos same]
    · have later : Behind conf (p + (encode s.records).length)
          (settings.flatMap Setting.records) :=
        ⟨(Stands.append_iff.mp behind.stands).2,
          fun r member => behind.belong r (List.mem_append_right _ member)⟩
      have none : search (lookIface ifaceNum settingNum) p s.records = none := by
        rw [Setting.records, search, lookIface_setting, if_neg same]
        exact lookIface_members s.members _ _ _
      rw [decide_eq_false same, search_append, none, Option.none_or]
      exact ih later

/-- A configuration in memory is what the walks have before them. -/
theorem behind_of_placed {c : Configuration} (placed : Placed c conf) : Behind conf 0 c.records := by
  have stands : Stands conf 0 c.records (0 + c.bytes.length) := Stands.of_slice placed
  have length : c.bytes.length = c.totalLength := by
    rw [c.total, Configuration.bytes, Configuration.records, encode_append,
      encode_cons, List.length_append, List.length_append, Record.length_bytes]
    rfl
  obtain ⟨-, low, high, -⟩ := c.fields_at stands
  have eof : udcGetEofConf conf = 0 + c.bytes.length := by
    have fits := c.fits
    rw [Nat.zero_add] at low high
    rw [udcGetEofConf, low, high, UInt8.toNat_ofNat', UInt8.toNat_ofNat', length]
    omega
  refine ⟨eof ▸ stands, fun r member => ?_⟩
  simp only [Configuration.records, List.mem_append, List.mem_cons, List.mem_map, List.mem_flatMap,
    Setting.records] at member
  obtain (rfl | ⟨m, -, rfl⟩) | ⟨s, -, rfl | ⟨m, -, rfl⟩⟩ := member
  · exact .header c rfl
  · exact .member m rfl
  · exact .setting s rfl
  · exact .member m rfl

/-- The walk finds the interface exactly where the configuration has it, and stands on it then. -/
theorem udcUpdateIfaceDesc_find {c : Configuration} (placed : Placed c conf) (numConfiguration : Nat)
    (ifaceNum settingNum : UInt8) :
    match c.find numConfiguration ifaceNum settingNum with
    | none => udcUpdateIfaceDesc conf numConfiguration ifaceNum settingNum = some none
    | some s => ∃ q later, udcUpdateIfaceDesc conf numConfiguration ifaceNum settingNum = some (some q) ∧
        Behind conf q (s.records ++ List.flatMap Setting.records later) := by
  have behind := behind_of_placed placed
  have update := udcUpdateIfaceDesc_eq (c := c) behind numConfiguration ifaceNum settingNum
  rw [update]
  by_cases refused : numConfiguration = 0 ∨ c.numInterfaces ≤ ifaceNum
  · have none : c.find numConfiguration ifaceNum settingNum = none := by
      rw [Configuration.find]
      rcases refused with unconfigured | beyond
      · rw [if_pos unconfigured]
      · split_ifs <;> rfl
    rw [none, if_pos refused]
  · have found : c.find numConfiguration ifaceNum settingNum =
        c.settings.find? fun s => s.Is ifaceNum settingNum := by
      rw [not_or] at refused
      rw [Configuration.find, if_neg refused.1, if_neg refused.2]
    rw [found, if_neg refused]
    have header : search (lookIface ifaceNum settingNum) 0 (c.record :: c.members.map Member.record) =
        none := by
      rw [search]
      have silent : lookIface ifaceNum settingNum 0 c.record = none := by
        simp [lookIface, c.body, c.notInterface]
      rw [silent]
      exact lookIface_members c.members _ _ _
    have later : Behind conf (0 + (encode (c.record :: c.members.map Member.record)).length)
        (c.settings.flatMap Setting.records) :=
      ⟨(Stands.append_iff.mp behind.stands).2,
        fun r member => behind.belong r (List.mem_append_right _ member)⟩
    have settings := search_settings ifaceNum settingNum later
    have whole : search (lookIface ifaceNum settingNum) 0 c.records =
        search (lookIface ifaceNum settingNum)
          (0 + (encode (c.record :: c.members.map Member.record)).length)
          (c.settings.flatMap Setting.records) := by
      rw [Configuration.records, search_append, header, Option.none_or]
    cases selected : c.settings.find? fun s => decide (s.Is ifaceNum settingNum) with
    | none =>
      rw [selected] at settings
      exact congrArg some (whole.trans settings)
    | some s =>
      rw [selected] at settings
      obtain ⟨q, rest, stopped, there⟩ := settings
      exact ⟨q, rest, congrArg some (whole.trans stopped), there⟩

/-! ## Enabling and disabling -/

/-- The loop over the endpoints of an interface that the walk has found. -/
theorem onEndpoints_setting (f : EpDesc → σ → Bool × σ) {setting : Setting} {later : List Setting}
    (behind : Behind conf p (setting.records ++ later.flatMap Setting.records)) (s : σ) :
    onEndpoints conf f (udcGetEofConf conf + 1) p s = some (visit f setting.endpoints s) := by
  have enough := behind.stands.length_le
  apply onEndpoints_eq f behind
  simp only [Setting.records, List.length_append, List.length_cons, List.length_map] at enough
  omega

theorem visit_always (f : EpDesc → σ → σ) (es : List EpDesc) (s : σ) :
    visit (fun e s => (true, f e s)) es s = (true, es.foldl (fun s e => f e s) s) := by
  induction es generalizing s with
  | nil => rfl
  | cons e es ih =>
    rw [visit, if_neg (by simp), ih]
    rfl

end Walk

section Refines

variable {c : Configuration} {conf : Nat → UInt8} (placed : Placed c conf) (stack : Stack σ)
  (numConfiguration : Nat)

include placed

theorem enable_refines (ifaceNum settingNum : UInt8) (s : σ) :
    udcIfaceEnable conf stack numConfiguration ifaceNum settingNum s =
      some (c.enable stack numConfiguration ifaceNum settingNum s) := by
  have walk := udcUpdateIfaceDesc_find placed numConfiguration ifaceNum settingNum
  rw [udcIfaceEnable, Configuration.enable]
  cases found : c.find numConfiguration ifaceNum settingNum with
  | none =>
    rw [found] at walk
    rw [walk]
  | some setting =>
    rw [found] at walk
    obtain ⟨q, later, stops, behind⟩ := walk
    have alternate := (setting.fields_at behind.stands).2.2
    rw [stops]
    simp only [onEndpoints_setting stack.alloc behind, Option.map_some, alternate]

theorem disable_refines (ifaceNum : UInt8) (s : σ) :
    udcIfaceDisable conf stack numConfiguration ifaceNum s =
      some (c.disable stack numConfiguration ifaceNum s) := by
  have first := udcUpdateIfaceDesc_find placed numConfiguration ifaceNum 0
  have present := udcUpdateIfaceDesc_find placed numConfiguration ifaceNum (stack.getsetting ifaceNum s)
  rw [udcIfaceDisable, Configuration.disable]
  cases found : c.find numConfiguration ifaceNum 0 with
  | none =>
    rw [found] at first
    rw [first]
  | some _ =>
    rw [found] at first
    obtain ⟨q, later, stops, -⟩ := first
    rw [stops]
    cases selected : c.find numConfiguration ifaceNum (stack.getsetting ifaceNum s) with
    | none =>
      rw [selected] at present
      simp only [present]
    | some setting =>
      rw [selected] at present
      obtain ⟨q', later', stops', behind⟩ := present
      simp only [stops', onEndpoints_setting _ behind, visit_always, Option.map_some]

theorem reset_refines (s : σ) :
    udcReset conf stack numConfiguration s = some (c.reset stack numConfiguration s) := by
  have each (ifaces : List UInt8) (s : σ) : disableAll conf stack numConfiguration ifaces s =
      some (ifaces.foldl (fun s ifaceNum => (c.disable stack numConfiguration ifaceNum s).2) s) := by
    induction ifaces generalizing s with
    | nil => rfl
    | cons ifaceNum later ih =>
      rw [disableAll, disable_refines placed]
      exact ih _
  have number := (c.fields_at (behind_of_placed placed).stands).2.2.2
  rw [Nat.zero_add] at number
  rw [udcReset, Configuration.reset]
  split_ifs
  · rfl
  · rw [each, ifaceNums, number]

theorem enableAll_refines (ifaces : List UInt8) (s : σ) :
    enableAll conf stack numConfiguration ifaces s =
      some (c.enableFrom stack numConfiguration ifaces s) := by
  induction ifaces generalizing s with
  | nil => rfl
  | cons ifaceNum later ih =>
    rw [enableAll, enable_refines placed, Configuration.enableFrom]
    simp only
    split_ifs
    · rfl
    · exact ih _

end Refines

/-- On the bytes of any configuration the walks end, and do to the endpoints and the interfaces
    what the configuration says, and nothing else. -/
theorem core_refines {c : Configuration} {conf : Nat → UInt8} (placed : Placed c conf)
    (stack : Stack σ) (numConfiguration : Nat) (ifaceNum settingNum : UInt8) (s : σ) :
    udcIfaceEnable conf stack numConfiguration ifaceNum settingNum s =
        some (c.enable stack numConfiguration ifaceNum settingNum s) ∧
      udcIfaceDisable conf stack numConfiguration ifaceNum s =
        some (c.disable stack numConfiguration ifaceNum s) ∧
      udcReset conf stack numConfiguration s = some (c.reset stack numConfiguration s) ∧
      enableAll conf stack numConfiguration (ifaceNums conf) s =
        some (c.enableFrom stack numConfiguration
          ((List.range c.numInterfaces.toNat).map UInt8.ofNat) s) := by
  have number := (c.fields_at (behind_of_placed placed).stands).2.2.2
  rw [Nat.zero_add] at number
  refine ⟨enable_refines placed stack numConfiguration ifaceNum settingNum s,
    disable_refines placed stack numConfiguration ifaceNum s,
    reset_refines placed stack numConfiguration s, ?_⟩
  rw [enableAll_refines placed, ifaceNums, number]

end M1k.Desc
