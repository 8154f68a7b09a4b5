import M1k.Control.MemorySafety
import M1k.Control.Replies

/-! # The calibration store

Completed requests and reboots, in any order: a read of the table returns at each offset the byte
that was written there last, and the page, the table and the serial number agree all the time. -/

namespace M1k.Control

open Library Library.Runs

variable {σ : Type*}

/-! ## What the store is for -/

/-- The packets of a data stage: all full, except perhaps the last. -/
def FullPackets : List (List UInt8) → Prop
  | [] => True
  | [last] => last ≠ [] ∧ last.length ≤ 64
  | packet :: packets => packet.length = 64 ∧ FullPackets packets

/-- A completed request of the host, or a reboot. -/
inductive Op where
  | write (req : SetupReq) (inputs : Inputs) (packets : List (List UInt8))
  | read (req : SetupReq) (inputs : Inputs)
  | reboot (pinHigh : Bool)

namespace Op

/-- What the host does for a request, from the SETUP packet to the end of the status stage. -/
def events : Op → List Event
  | .write req inputs packets =>
    .control { setup := some { req := req, inputs := inputs } } ::
      packets.map (fun packet => .control { out := some packet }) ++ [taken]
  | .read req inputs =>
    .control { setup := some { req := req, inputs := inputs } } ::
      List.replicate ((req.wLength.toNat + 63) / 64) taken ++ [.control { out := some [] }]
  | .reboot pinHigh => [.reboot pinHigh]

/-- Requests 0x02 and 0x05 that carry their data to an offset in the table, and requests 0x01
    that read from one. -/
def Proper : Op → Prop
  | .write req _ packets =>
    req.writesTable = true ∧ req.isIn = false ∧ req.tableOffset + req.wLength.toNat ≤ 256 ∧
      FullPackets packets ∧ packets.flatten.length = req.wLength.toNat
  | .read req _ =>
    req.isVendor = true ∧ req.bRequest = 0x01 ∧ req.isIn = true ∧ req.wLength ≠ 0 ∧
      req.wIndex.toNat + req.wLength.toNat ≤ 256
  | .reboot _ => True

/-- The contents of the store after a request. -/
def apply (table : Nat → UInt8) : Op → Nat → UInt8
  | .write req _ packets => Bytes.put table req.tableOffset packets.flatten
  | .read _ _ | .reboot _ => table

end Op

/-- The byte last written at each offset, or else the one that was there at first. -/
def latest (first : Nat → UInt8) (ops : List Op) : Nat → UInt8 := ops.foldl Op.apply first

/-- The hexadecimal digits, upper case -/
def hexChar (digit : Nat) : UInt8 := UInt8.ofNat (if digit < 10 then 48 + digit else 55 + digit)

/-- The unique ID in hexadecimal -/
def hexUid (uid : Nat → UInt32) : List UInt8 :=
  (List.range 16).flatMap fun i =>
    [hexChar ((uidByte uid i).toNat / 16), hexChar ((uidByte uid i).toNat % 16)]

/-- Four bytes as a number, high byte first. -/
def bigEndian (table : Nat → UInt8) (start : Nat) : Nat :=
  (table start).toNat * 2 ^ 24 + (table (start + 1)).toNat * 2 ^ 16 +
    (table (start + 2)).toNat * 2 ^ 8 + (table (start + 3)).toNat

/-- The serial number that goes with a table. -/
def serialOf (table : Nat → UInt8) (uid : Nat → UInt32) : List UInt8 :=
  if bigEndian table 220 = 0x01EE02DD then Bytes.slice table 224 32 else hexUid uid

/-- Everything that depends on the table agrees with it, and the rest of the flash is as at
    `first`. -/
structure Stored (efc : Efc σ) (uid : Nat → UInt32) (first table : Nat → UInt8) (d : Device σ) :
    Prop where
  serial : d.mem.slice Object.serialNumber.base 32 = serialOf table uid
  page : ∀ i, i < 256 → efc.byte d.chip (flashTableBase + i) = table i
  table : ∀ i, i < 256 → d.mem .flashTable i = table i
  rest : ∀ a, a < flashTableBase ∨ flashTableBase + 256 ≤ a → efc.byte d.chip a = first a

/-! ## The serial number -/

theorem hexDigit_high (byte : UInt8) : hexDigit ((byte &&& 0xF0) >>> 4) = hexChar (byte.toNat / 16) := by
  obtain ⟨⟨byte⟩⟩ := byte
  revert byte
  decide +kernel

theorem hexDigit_low (byte : UInt8) : hexDigit (byte &&& 0x0F) = hexChar (byte.toNat % 16) := by
  obtain ⟨⟨byte⟩⟩ := byte
  revert byte
  decide +kernel

theorem customSerialValid_toNat (table : Nat → UInt8) :
    (customSerialValid table).toNat = bigEndian table 220 := by
  have h1 := (table 220).toNat_lt
  have h2 := (table 221).toNat_lt
  have h3 := (table 222).toNat_lt
  have h4 := (table 223).toNat_lt
  have low := Nat.two_pow_add_eq_or_of_lt (i := 8) h4 (table 222).toNat
  have middle := Nat.two_pow_add_eq_or_of_lt (i := 16)
    (b := 2 ^ 8 * (table 222).toNat + (table 223).toNat) (by omega) (table 221).toNat
  have high := Nat.two_pow_add_eq_or_of_lt (i := 24)
    (b := 2 ^ 16 * (table 221).toNat + (2 ^ 8 * (table 222).toNat + (table 223).toNat)) (by omega)
    (table 220).toNat
  simp only [customSerialValid, customSerialValidOffset, UInt32.toNat_or, UInt32.toNat_shiftLeft,
    UInt8.toNat_toUInt32, Nat.or_assoc, Nat.shiftLeft_eq]
  change (table 220).toNat * 2 ^ 24 % 2 ^ 32 ||| ((table 221).toNat * 2 ^ 16 % 2 ^ 32 |||
    ((table 222).toNat * 2 ^ 8 % 2 ^ 32 ||| (table 223).toNat)) = _
  rw [Nat.mod_eq_of_lt (by omega), Nat.mod_eq_of_lt (by omega), Nat.mod_eq_of_lt (by omega)]
  rw [Nat.mul_comm (table 222).toNat, ← low, Nat.mul_comm (table 221).toNat, ← middle,
    Nat.mul_comm (table 220).toNat, ← high]
  simp only [bigEndian, Nat.reduceAdd]
  omega

theorem serialDigits_eq (table : Nat → UInt8) (uid : Nat → UInt32) :
    serialDigits table uid = serialOf table uid := by
  have marker : customSerialValid table = 0x01ee02dd ↔ bigEndian table 220 = 0x01EE02DD := by
    rw [← UInt32.toNat_inj, customSerialValid_toNat]
    rfl
  simp only [serialDigits, serialOf, hexUid, hexDigit_high, hexDigit_low, marker]

/-- The serial number depends on the table only. -/
theorem serialOf_congr {table table' : Nat → UInt8} (uid : Nat → UInt32)
    (same : ∀ i, i < 256 → table i = table' i) : serialOf table uid = serialOf table' uid := by
  have marker : bigEndian table 220 = bigEndian table' 220 := by
    simp only [bigEndian]
    rw [same 220 (by decide), same 221 (by decide), same 222 (by decide), same 223 (by decide)]
  have digits : Bytes.slice table 224 32 = Bytes.slice table' 224 32 :=
    Bytes.slice_congr fun i _ high => same i (by omega)
  simp only [serialOf, marker, digits]

theorem serialOf_length (table : Nat → UInt8) (uid : Nat → UInt32) :
    (serialOf table uid).length = 32 := by
  unfold serialOf
  split_ifs
  · exact Bytes.slice_length _ _ _
  · rfl

/-! ## A write -/

theorem Pointer.add_add (p : Pointer) (a b : Nat) : (p.add a).add b = p.add (a + b) := by
  simp [Pointer.add, Nat.add_assoc]

theorem Memory.put_put (mem : Memory) (dest : Pointer) (xs ys : List UInt8) :
    (mem.put dest xs).put (dest.add xs.length) ys = mem.put dest (xs ++ ys) := by
  cases flash : dest.object.inFlash with
  | true => simp [Memory.put, Pointer.add, flash]
  | false =>
    simp only [Memory.put, Pointer.add, flash, Bool.false_eq_true, if_false, Function.update_self,
      Function.update_idem, Bytes.put_append]

section Steps

variable {efc : Efc σ} {uid : Nat → UInt32} (reliable : efc.Reliable uid) {d : Device σ}

theorem fullPackets_some {packet : List UInt8} {packets : List (List UInt8)}
    (full : FullPackets (packet :: packets)) : 0 < (packet :: packets).flatten.length := by
  rw [List.flatten_cons, List.length_append]
  cases packets with
  | nil =>
    have some := List.length_pos_iff.mpr full.1
    omega
  | cons next packets =>
    have whole : packet.length = 64 := full.1
    omega

/-- The packets of a data stage that carry all of its data. -/
theorem run_packets (efc : Efc σ) {packets : List (List UInt8)} (full : FullPackets packets)
    (any : packets ≠ []) (stage : d.state = .dataOut) (first : d.prevPayloadBufCnt = 0)
    (size : d.ctrlreq.payloadSize = d.ctrlreq.req.wLength.toNat)
    (left : d.payloadBufCnt + packets.flatten.length = d.ctrlreq.payloadSize) :
    ∃ seen, sentPackets seen = [] ∧
      run (step efc) d (packets.map fun packet => .control { out := some packet }) = { d with
        state := .handshakeWaitInZlp
        payloadBufCnt := d.ctrlreq.payloadSize
        inSendInterrupt := true
        mem := d.mem.put (d.ctrlreq.payload.add d.payloadBufCnt) packets.flatten
        trace := d.trace ++ seen } := by
  have small : d.ctrlreq.payloadSize < 65536 := by rw [size]; exact UInt16.toNat_lt _
  -- over the packets; each but the last is full, so the stage stays open
  induction packets generalizing d with
  | nil => exact absurd rfl any
  | cons packet packets ih =>
    rw [List.flatten_cons, List.length_append] at left
    have room : packet.length ≤ d.ctrlreq.payloadSize - d.payloadBufCnt := by omega
    have count : (d.copied packet).payloadBufCnt = d.payloadBufCnt + packet.length := by
      rw [copied_whole room]
    have asked : (d.copied packet).ctrlreq.req.wLength.toNat = d.ctrlreq.payloadSize := size.symm
    have start : (d.copied packet).prevPayloadBufCnt = 0 := first
    have same : (d.copied packet).ctrlreq = d.ctrlreq := rfl
    rw [List.map_cons, run_cons, step_out, outReceived_data efc stage (by omega) small, outCopied_eq,
      Nat.min_eq_left room, asked, start, count]
    cases packets with
    | nil =>
      -- the last packet: the status stage follows
      rw [List.flatten_nil, List.length_nil, Nat.add_zero] at left
      rw [if_pos (.inr (by omega)), copied_whole room]
      refine ⟨[.received (d.ctrlreq.payload.add d.payloadBufCnt) packet, .zlpIn], rfl, ?_⟩
      simp [sendZlpIn, Device.observe, left, first]
    | cons next packets =>
      have whole : packet.length = 64 := full.1
      have more := fullPackets_some full.2
      rw [if_neg (by omega), same, if_neg (by omega)]
      obtain ⟨seen, none, later⟩ := ih (d := d.copied packet) full.2 (by simp) stage first size
        (by rw [count, same]; omega) small
      refine ⟨.received (d.ctrlreq.payload.add d.payloadBufCnt) packet :: seen, none, ?_⟩
      have joined := Memory.put_put d.mem (d.ctrlreq.payload.add d.payloadBufCnt) packet
        (next :: packets).flatten
      rw [Pointer.add_add, ← List.flatten_cons] at joined
      rw [later, copied_whole room, ← joined]
      simp only [List.append_assoc, List.singleton_append]

/-- A write of the table, as far as its data stage. -/
theorem udcDecode_write {req : SetupReq} (writes : req.writesTable = true) (out : req.isIn = false)
    (inputs : Inputs) :
    udcDecode inputs (d.handling req) = some (writeFlashTable req.tableOffset (d.handling req)) := by
  obtain ⟨vendor, code⟩ := (writesTable_iff req).mp writes
  rw [udcDecode_vendor inputs vendor fun read => absurd (out.symm.trans read) (by decide)]
  have byte (code : UInt8) (same : req.bRequest.toNat = code.toNat) : req.bRequest = code :=
    UInt8.toNat_inj.mp same
  cases code with
  | inl table =>
    rw [mainSetupHandle_write inputs vendor (byte 0x02 table), SetupReq.tableOffset,
      byte 0x02 table]
    rfl
  | inr serial =>
    rw [mainSetupHandle_writeSerial inputs vendor (byte 0x05 serial), SetupReq.tableOffset,
      byte 0x05 serial]
    rfl

/-- A write whose data has all come: the status stage is still to follow. -/
structure Collected (d d' : Device σ) (offset : Nat) (data : List UInt8) : Prop where
  state : d'.state = .handshakeWaitInZlp
  pending : d'.inSendInterrupt = true
  callback : d'.ctrlreq.callback = some .storeFlashTable
  mem : d'.mem = d.mem.put ⟨.flashTable, offset⟩ data
  chip : d'.chip = d.chip
  sent : sentPackets d'.trace = sentPackets d.trace

theorem run_write (efc : Efc σ) {req : SetupReq} (inputs : Inputs) {packets : List (List UInt8)}
    (stage : d.state = .setup) (writes : req.writesTable = true) (out : req.isIn = false)
    (full : FullPackets packets) (length : packets.flatten.length = req.wLength.toNat) :
    Collected d (run (step efc) d (.control { setup := some { req := req, inputs := inputs } } ::
      packets.map fun packet => .control { out := some packet })) req.tableOffset packets.flatten := by
  have setup : step efc d (.control { setup := some { req := req, inputs := inputs } }) =
      startStages efc false (d.entered efc req (writeFlashTable req.tableOffset (d.handling req))) :=
    step_accepted efc rfl stage (udcDecode_write writes out inputs)
  have direction : (d.entered efc req
      (writeFlashTable req.tableOffset (d.handling req))).ctrlreq.req.isIn = false := out
  have sent := sentPackets_entered efc d req
    (writeFlashTable req.tableOffset (d.handling req))
  have asked : (d.entered efc req
      (writeFlashTable req.tableOffset (d.handling req))).ctrlreq.req.wLength = req.wLength := rfl
  rw [run_cons, setup, startStages, direction, if_neg Bool.false_ne_true, asked]
  by_cases empty : req.wLength = 0
  · -- no data: the status stage follows the setup stage
    have nothing : packets = [] := by
      cases packets with
      | nil => rfl
      | cons packet packets =>
        have some := fullPackets_some full
        rw [length, empty] at some
        exact absurd some (by decide)
    rw [if_pos empty, nothing, List.map_nil, run_nil, List.flatten_nil]
    exact {
      state := rfl
      pending := rfl
      callback := rfl
      mem := (Memory.put_nil _ _).symm
      chip := rfl
      sent := by
        rw [sendZlpIn, Device.observe, sentPackets_append]
        exact (List.append_nil _).trans sent }
  · have some : packets ≠ [] := by
      intro none
      rw [none] at length
      exact empty (UInt16.toNat_inj.mp length.symm)
    obtain ⟨seen, none, received⟩ := run_packets efc
      (d := { d.entered efc req (writeFlashTable req.tableOffset (d.handling req)) with
        prevPayloadBufCnt := 0, payloadBufCnt := 0, state := .dataOut })
      full some rfl rfl rfl ((Nat.zero_add _).trans length)
    rw [if_neg empty, received]
    exact {
      state := rfl
      pending := rfl
      callback := rfl
      mem := rfl
      chip := rfl
      sent := by
        rw [sentPackets_append, none, List.append_nil]
        exact sent }

include reliable in
/-- The end of a write: what has been collected is stored, and everything else follows. -/
theorem stored_store {d' : Device σ} {offset : Nat} {data : List UInt8} {first table : Nat → UInt8}
    (stored : Stored efc uid first table d) (collected : Collected d d' offset data) :
    Stored efc uid first (Bytes.put table offset data) (ctrlInit (endofrequest efc d')) := by
  have spec := reliable.storeFlashTable_spec (d'.mem .flashTable) (d'.mem .serialNumber) d'.chip
  have now (i : Nat) (inside : i < 256) : d'.mem .flashTable i = Bytes.put table offset data i := by
    rw [collected.mem, Memory.put_same _ rfl, Bytes.put_apply, Bytes.put_apply]
    split_ifs
    · rfl
    · exact stored.table i inside
  have digits : (serialDigits (d'.mem .flashTable) uid).length = 32 := by
    rw [serialDigits_eq]; exact serialOf_length _ _
  rw [endofrequest_store efc collected.callback]
  exact {
    table := fun i inside => by
      rw [← now i inside]
      simp only [ctrlInit]
      rw [Function.update_of_ne (by decide)]
    page := fun i inside => by
      have page := Bytes.put_inside (efc.byte d'.chip) flashTableBase
        (Bytes.slice (d'.mem .flashTable) 0 256) i (by rw [Bytes.slice_length]; exact inside)
      rw [Bytes.slice_getElem, Nat.zero_add, now i inside] at page
      rw [← page]
      exact congrFun spec.1 _
    serial := by
      rw [← serialOf_congr uid now, ← serialDigits_eq]
      simp only [Memory.slice, ctrlInit, Object.base, Function.update_self, spec.2]
      rw [← digits]
      exact Bytes.slice_put _ _ _
    rest := fun a outside => by
      rw [← stored.rest a outside, ← collected.chip]
      refine (congrFun spec.1 a).trans (Bytes.put_outside ?_)
      rw [Bytes.slice_length]
      exact outside }

include reliable in
/-- A whole write leaves the new contents everywhere. -/
theorem stored_write {req : SetupReq} {inputs : Inputs} {packets : List (List UInt8)}
    {first table : Nat → UInt8} (stored : Stored efc uid first table d) (stage : d.state = .setup)
    (proper : (Op.write req inputs packets).Proper) :
    Stored efc uid first ((Op.write req inputs packets).apply table)
        (run (step efc) d (Op.write req inputs packets).events) ∧
      (run (step efc) d (Op.write req inputs packets).events).state = .setup := by
  obtain ⟨writes, out, -, full, length⟩ := proper
  have collected := run_write efc inputs stage writes out full length
  have done := stored_store reliable stored collected
  rw [Op.events, run_concat, step_taken efc collected.pending, inSent_handshake efc _ collected.state]
  exact ⟨done, rfl⟩

/-! ## A read -/

theorem udcDecode_read {req : SetupReq} (vendor : req.isVendor = true) (code : req.bRequest = 0x01)
    (asks : req.wLength ≠ 0) (inputs : Inputs) : udcDecode inputs (d.handling req) =
      some ((d.handling req).setPayload ⟨.flashTable, req.wIndex.toNat⟩ req.wLength.toNat) := by
  have answer : (d.handling req).answer ⟨.flashTable, req.wIndex.toNat⟩ req.wLength.toNat =
      (d.handling req).setPayload ⟨.flashTable, req.wIndex.toNat⟩ req.wLength.toNat := by
    rw [Handling.answer, if_neg (asked_pos asks)]
  rw [udcDecode_vendor inputs vendor fun _ => asks, ← answer]
  exact mainSetupHandle_read inputs vendor code

/-- A read of the table, as far as its handling -/
def Device.readsTable (efc : Efc σ) (req : SetupReq) (d : Device σ) : Device σ :=
  d.entered efc req ((d.handling req).setPayload ⟨.flashTable, req.wIndex.toNat⟩ req.wLength.toNat)

/-- A whole read sends its packets, and ends. -/
theorem run_read (efc : Efc σ) {req : SetupReq} {inputs : Inputs} (stage : d.state = .setup)
    (proper : (Op.read req inputs).Proper) :
    ∃ prev, run (step efc) d (Op.read req inputs).events =
      ctrlInit ((d.readsTable efc req).replied prev ((req.wLength.toNat + 63) / 64)) := by
  obtain ⟨vendor, code, direction, asks, inTable⟩ := proper
  have setup : step efc d (.control { setup := some { req := req, inputs := inputs } }) =
      startStages efc false (d.readsTable efc req) :=
    step_accepted efc rfl stage (udcDecode_read vendor code asks inputs)
  have positive : 0 < req.wLength.toNat := Nat.pos_of_ne_zero (asked_pos asks)
  have count : packetCount req.wLength.toNat req.wLength.toNat = (req.wLength.toNat + 63) / 64 := by
    unfold packetCount
    split_ifs <;> omega
  obtain ⟨prev, replied⟩ := run_reply efc (d.readsTable efc req) direction asks req.wLength.toNat_lt
    (.inl positive)
  have size : (d.readsTable efc req).ctrlreq.payloadSize = req.wLength.toNat := rfl
  have asked : (d.readsTable efc req).ctrlreq.req.wLength = req.wLength := rfl
  rw [size, asked, count] at replied
  refine ⟨prev, ?_⟩
  rw [Op.events, run_concat, run_cons, setup, replied, step_out]
  have callback : ((d.readsTable efc req).replied prev
      ((req.wLength.toNat + 63) / 64)).ctrlreq.callback ≠ some .storeFlashTable := by
    simp [Device.readsTable, Device.replied, Device.replying, Device.entered, Handling.setPayload,
      Device.handling]
  simp only [outReceived]
  rw [endofrequest_other efc callback, if_pos (by simp [Device.replied]),
    if_pos (by simp [Device.replied])]

/-- A whole read changes nothing, and delivers the bytes of the table. -/
theorem stored_read {req : SetupReq} {inputs : Inputs} {first table : Nat → UInt8}
    (stored : Stored efc uid first table d) (stage : d.state = .setup)
    (proper : (Op.read req inputs).Proper) :
    Stored efc uid first table (run (step efc) d (Op.read req inputs).events) ∧
      (run (step efc) d (Op.read req inputs).events).state = .setup ∧
      ∃ packets, sentPackets (run (step efc) d (Op.read req inputs).events).trace =
          sentPackets d.trace ++ packets ∧
        packets.flatten = Bytes.slice table req.wIndex.toNat req.wLength.toNat := by
  obtain ⟨prev, ended⟩ := run_read efc stage proper
  obtain ⟨vendor, code, direction, asks, inTable⟩ := proper
  rw [ended]
  refine ⟨?_, rfl, sentPackets
    ((List.range ((req.wLength.toNat + 63) / 64)).map (d.readsTable efc req).replyPacket), ?_, ?_⟩
  · exact {
      table := stored.table
      page := stored.page
      serial := stored.serial
      rest := stored.rest }
  · have before := sentPackets_entered efc d req
      ((d.handling req).setPayload ⟨.flashTable, req.wIndex.toNat⟩ req.wLength.toNat)
    simp only [ctrlInit, Device.replied, Device.replying]
    rw [sentPackets_append, Device.readsTable, before]
  · have size : (d.readsTable efc req).ctrlreq.payloadSize = req.wLength.toNat := rfl
    rw [replyPackets_flatten, size, Nat.min_eq_left (by omega)]
    change Bytes.slice (d.mem .flashTable) req.wIndex.toNat _ = _
    apply Bytes.slice_congr
    intro i _ high
    exact stored.table i (by omega)

include reliable in
/-- A boot reads everything from the page. -/
theorem stored_boot (pinHigh : Bool) (chip : σ) :
    Stored efc uid (efc.byte chip) (fun i => efc.byte chip (flashTableBase + i))
      (boot efc pinHigh chip) where
  table i inside := boot_table efc pinHigh chip ⟨i, inside⟩
  page i _ := by rw [boot_byte reliable]
  serial := by
    obtain ⟨serial, built⟩ := boot_serial reliable pinHigh chip
    have loaded (i : Nat) (inside : i < 256) :
        (boot efc pinHigh chip).mem .flashTable i = efc.byte chip (flashTableBase + i) :=
      boot_table efc pinHigh chip ⟨i, inside⟩
    have now := serialOf_congr uid loaded
    have length := serialOf_length ((boot efc pinHigh chip).mem .flashTable) uid
    simp only [Memory.slice, Object.base, built, serialDigits_eq]
    rw [← now, ← length]
    exact Bytes.slice_put _ _ _
  rest a _ := by rw [boot_byte reliable]

include reliable in
theorem stored_reboot {first table : Nat → UInt8} (stored : Stored efc uid first table d)
    (pinHigh : Bool) : Stored efc uid first table (step efc d (.reboot pinHigh)) := by
  have booted := stored_boot reliable pinHigh (efc.reset d.chip)
  rw [reliable.byte_reset] at booted
  simp only [step]
  generalize boot efc pinHigh (efc.reset d.chip) = restarted at booted
  exact {
    table := fun i inside => (booted.table i inside).trans (stored.page i inside)
    page := fun i inside => (booted.page i inside).trans (stored.page i inside)
    serial := booted.serial.trans (serialOf_congr uid stored.page)
    rest := fun a outside => (booted.rest a outside).trans (stored.rest a outside) }

include reliable in
theorem stored_op {first table : Nat → UInt8} (stored : Stored efc uid first table d)
    (stage : d.state = .setup) {op : Op} (proper : op.Proper) :
    Stored efc uid first (op.apply table) (run (step efc) d op.events) ∧
      (run (step efc) d op.events).state = .setup := by
  cases op with
  | write req inputs packets => exact stored_write reliable stored stage proper
  | read req inputs =>
    obtain ⟨after, idle, -⟩ := stored_read stored stage proper
    exact ⟨after, idle⟩
  | reboot pinHigh => exact ⟨stored_reboot reliable stored pinHigh, rfl⟩

include reliable in
theorem stored_ops {first : Nat → UInt8} {ops : List Op} (proper : ∀ op ∈ ops, op.Proper)
    {table : Nat → UInt8} (stored : Stored efc uid first table d) (stage : d.state = .setup) :
    Stored efc uid first (latest table ops) (run (step efc) d (ops.flatMap Op.events)) ∧
      (run (step efc) d (ops.flatMap Op.events)).state = .setup := by
  induction ops generalizing d table with
  | nil => exact ⟨stored, stage⟩
  | cons op ops ih =>
    obtain ⟨after, idle⟩ := stored_op reliable stored stage (proper op List.mem_cons_self)
    rw [List.flatMap_cons, run_append]
    exact ih (fun op member => proper op (List.mem_cons_of_mem _ member)) after idle

end Steps

/-! ## Whole runs -/

/-- Every sequence of completed requests and reboots: the table, its page and the serial number
    hold the bytes last written, the rest of the flash is untouched, and a read that follows
    delivers those bytes. -/
theorem calibration_round_trip {efc : Efc σ} {uid : Nat → UInt32} (reliable : efc.Reliable uid)
    (pinHigh : Bool) (chip : σ) {ops : List Op} (proper : ∀ op ∈ ops, op.Proper) :
    let contents := latest (fun i => efc.byte chip (flashTableBase + i)) ops
    let d := run (step efc) (boot efc pinHigh chip) (ops.flatMap Op.events)
    Stored efc uid (efc.byte chip) contents d ∧
      ∀ req inputs, (Op.read req inputs).Proper →
        ∃ packets, sentPackets (run (step efc) d (Op.read req inputs).events).trace =
            sentPackets d.trace ++ packets ∧
          packets.flatten = Bytes.slice contents req.wIndex.toNat req.wLength.toNat := by
  have done := stored_ops reliable proper (stored_boot reliable pinHigh chip) rfl
  refine ⟨done.1, fun req inputs read => ?_⟩
  exact (stored_read done.1 done.2 read).2.2

/-- The marker and the first characters of a serial number, a reboot, and a read across them. -/
theorem calibration_round_trip_marker :
    let d := run (step (flashChip fun _ => 0)) (boot (flashChip fun _ => 0) true { bytes := fun _ => 7 })
      ([Op.write ⟨0x40, 0x05, 0, 0, 6⟩ {} [[1, 0xEE, 2, 0xDD, 65, 66]],
        .reboot false].flatMap Op.events)
    ∃ packets, sentPackets
        (run (step (flashChip fun _ => 0)) d (Op.read ⟨0xC0, 0x01, 0, 218, 10⟩ {}).events).trace =
          sentPackets d.trace ++ packets ∧
      packets.flatten = [7, 7, 1, 0xEE, 2, 0xDD, 65, 66, 7, 7] := by
  have proper : ∀ op ∈ [Op.write ⟨0x40, 0x05, 0, 0, 6⟩ {} [[1, 0xEE, 2, 0xDD, 65, 66]],
      .reboot false], op.Proper := by
    intro op member
    simp only [List.mem_cons, List.not_mem_nil, or_false] at member
    rcases member with rfl | rfl
    · simp only [Op.Proper, FullPackets]
      decide
    · trivial
  have read : (Op.read ⟨0xC0, 0x01, 0, 218, 10⟩ {}).Proper := by
    simp only [Op.Proper]
    decide
  obtain ⟨packets, sent, bytes⟩ := (calibration_round_trip (flashChip_reliable fun _ => 0) true
    { bytes := fun _ => 7 } proper).2 _ _ read
  exact ⟨packets, sent, bytes⟩

end M1k.Control
