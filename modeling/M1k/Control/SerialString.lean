import M1k.Control.ReadLengths
import M1k.Control.RoundTrip

/-! # The serial number as a string

What the host gets when it asks for the string with the serial number, after any completed requests
and reboots. -/

namespace M1k.Control

open Library Library.Runs

variable {σ : Type*}

/-! ## What a string descriptor is -/

/-- A string descriptor: its length, its type, and a code unit for each character, low byte first -/
def stringOf (characters : List UInt8) : List UInt8 :=
  UInt8.ofNat (2 + 2 * characters.length) :: 3 :: characters.flatMap fun c => [c, 0]

/-- `GET_DESCRIPTOR(STRING, 3)` -/
def getSerial (wIndex wLength : UInt16) : SetupReq := ⟨0x80, 6, 0x0303, wIndex, wLength⟩

/-- What stands around the serial number: a byte of the array behind it, and the type of the
    descriptor. -/
structure Surrounds (d : Device σ) : Prop where
  behind : d.mem .serialNumber 32 = 0
  type : d.mem .udcStringDesc 1 = 3

/-! ## Devices with different identifiers -/

theorem hexChar_inj {a b : Nat} (inA : a < 16) (inB : b < 16) (same : hexChar a = hexChar b) : a = b := by
  have all : ∀ a < 16, ∀ b < 16, hexChar a = hexChar b → a = b := by decide
  exact all a inA b inB same

/-- Two devices without a serial number of their own report different ones, if their identifiers
    differ. -/
theorem serialOf_inj {table table' : Nat → UInt8} {uid uid' : Nat → UInt32}
    (none : bigEndian table 220 ≠ 0x01EE02DD) (none' : bigEndian table' 220 ≠ 0x01EE02DD)
    (same : serialOf table uid = serialOf table' uid') : ∀ k < 4, uid k = uid' k := by
  rw [serialOf, if_neg none, serialOf, if_neg none', hexUid, hexUid] at same
  have digits (i : Nat) (inId : i < 16) :
      [hexChar ((uidByte uid i).toNat / 16), hexChar ((uidByte uid i).toNat % 16)] =
        [hexChar ((uidByte uid' i).toNat / 16), hexChar ((uidByte uid' i).toNat % 16)] := by
    refine Bytes.flatMap_range_inj ?_ same i inId
    exact fun _ => rfl
  have byte (i : Nat) (inId : i < 16) : uidByte uid i = uidByte uid' i := by
    obtain ⟨high, low⟩ := List.cons.inj (digits i inId)
    have small := (uidByte uid i).toNat_lt
    have small' := (uidByte uid' i).toNat_lt
    have highSame := hexChar_inj (by omega) (by omega) high
    have lowSame := hexChar_inj (by omega) (by omega) (List.cons.inj low).1
    apply UInt8.toNat_inj.mp
    omega
  intro k inId
  apply Bytes.word_ext
  intro j inWord
  have ofId := byte (4 * k + j) (by omega)
  have word : (4 * k + j) / 4 = k := by omega
  have place : (4 * k + j) % 4 = j := by omega
  simpa only [uidByte, word, place] using ofId

/-! ## The descriptor that is built -/

theorem stringDescriptor_slice (str : List UInt8) (h : Handling) :
    (stringDescriptor str h).mem.slice Object.udcStringDesc.base (2 * str.length + 2) =
      UInt8.ofNat (2 + str.length * 2) :: h.mem .udcStringDesc 1 ::
        str.flatMap fun c => [c, 0] := by
  have units : (str.flatMap fun c => [c, (0 : UInt8)]).length = 2 * str.length := by
    rw [List.length_flatMap]
    simp [Nat.mul_comm]
  -- the characters go behind the header, and the length to its first byte at last
  let filled := Bytes.put (h.mem .udcStringDesc) 2 (str.flatMap fun c => [c, 0])
  have mem : (stringDescriptor str h).mem .udcStringDesc =
      Function.update filled 0 (UInt8.ofNat (2 + str.length * 2)) := by
    simp [stringDescriptor, Handling.setPayload, Handling.fill, Memory.put, Object.base, Object.inFlash,
      filled]
    rfl
  have type : filled 1 = h.mem .udcStringDesc 1 := Bytes.put_outside (by omega)
  have characters : Bytes.slice (Function.update filled 0 (UInt8.ofNat (2 + str.length * 2))) 2
      (2 * str.length) = str.flatMap fun c => [c, 0] := by
    have untouched : Bytes.slice (Function.update filled 0 (UInt8.ofNat (2 + str.length * 2))) 2
        (2 * str.length) = Bytes.slice filled 2 (2 * str.length) := by
      apply Bytes.slice_congr
      intro i low _
      exact Function.update_of_ne (by omega) _ _
    rw [untouched, ← units]
    exact Bytes.slice_put _ _ _
  simp only [Memory.slice, Object.base, mem, Bytes.slice, Nat.zero_add, Function.update_self]
  rw [Function.update_of_ne (by decide), type, characters]

theorem udcDecode_getSerial (d : Device σ) (wIndex : UInt16) {wLength : UInt16} (asks : wLength ≠ 0)
    (inputs : Inputs) : udcDecode inputs (d.handling (getSerial wIndex wLength)) =
      some ((stringDescriptor (d.mem.slice Object.serialNumber.base 33)
        (d.handling (getSerial wIndex wLength))).setPayload Object.udcStringDesc.base
          (min wLength.toNat 68)) := by
  -- the fields of the request select one branch of each function on the way
  have text : (getSerial wIndex wLength).wValue >>> 8 = 3 := by
    show (0x0303 : UInt16) >>> 8 = 3
    decide
  have string : (getSerial wIndex wLength).wValue &&& 0xff = 3 := by
    show (0x0303 : UInt16) &&& 0xff = 3
    decide
  have direction : (getSerial wIndex wLength).isIn = true := by
    show ((0x80 : UInt8) &&& 0x80 == 0x80) = true
    decide
  have standard : (getSerial wIndex wLength).setupType = 0 := by
    show (0x80 : UInt8) &&& 0x60 = 0
    decide
  have device : (getSerial wIndex wLength).recipient = 0 := by
    show (0x80 : UInt8) &&& 0x1F = 0
    decide
  have code : (getSerial wIndex wLength).bRequest = 6 := rfl
  have length : (getSerial wIndex wLength).wLength = wLength := rfl
  let built := stringDescriptor (d.mem.slice Object.serialNumber.base 33)
    (d.handling (getSerial wIndex wLength))
  have found : descriptor (d.handling (getSerial wIndex wLength)) = some built := by
    simp [descriptor, Device.handling, text, udcReqStdDevGetStrDesc, string, built]
  -- two bytes of header, and 33 characters of two bytes
  have size : built.ctrlreq.payloadSize = 68 := by
    show 2 + (d.mem.slice Object.serialNumber.base 33).length * 2 % 256 = 68
    rw [Memory.slice, Bytes.slice_length]
  have clipped : udcReqStdDevGetDescriptor (d.handling (getSerial wIndex wLength)) =
      some (built.setPayload Object.udcStringDesc.base (min wLength.toNat 68)) := by
    have asked : built.ctrlreq.req.wLength = wLength := rfl
    rw [udcReqStdDevGetDescriptor, found, Option.map_some, size, asked]
    split_ifs with short
    · rw [Nat.min_eq_left (Nat.le_of_lt short)]
      rfl
    · rw [Nat.min_eq_right (Nat.le_of_not_lt short), ← size]
      rfl
  have core : udcReqstd inputs.core (d.handling (getSerial wIndex wLength)) =
      some (built.setPayload Object.udcStringDesc.base (min wLength.toNat 68)) := by
    rw [← clipped]
    simp [udcReqstd, udcReqstdIn, Device.handling, direction, length, asks, device, code]
  simp only [udcDecode, core]
  simp [Device.handling, direction, length, asks, standard, built]

/-! ## What stands around the serial number -/

section Steps

variable {efc : Efc σ} {d : Device σ}

/-- The serial number that is built ends before the last byte of its array. -/
theorem initBuildUsbSerialNumber_behind (table serial : Nat → UInt8) (s : σ) :
    (initBuildUsbSerialNumber efc table serial s).1 32 = serial 32 := by
  have length := serialOf_length table (efc.readUniqueId s).1
  rw [← serialDigits_eq] at length
  exact Bytes.put_outside (.inr (by omega))

theorem storeFlashTable_behind (table serial : Nat → UInt8) (s : σ) :
    (storeFlashTable efc table serial s).1 32 = serial 32 := by
  simp only [storeFlashTable]
  split_ifs
  · rfl
  · rfl
  · rfl
  · exact initBuildUsbSerialNumber_behind _ _ _

theorem Surrounds.endofrequest (surrounds : Surrounds d) : Surrounds (endofrequest efc d) where
  behind := by
    by_cases store : d.ctrlreq.callback = some .storeFlashTable
    · rw [endofrequest_store efc store]
      simp only [Function.update_self, storeFlashTable_behind]
      exact surrounds.behind
    · rw [endofrequest_other efc store]
      exact surrounds.behind
  type := by
    rw [endofrequest_mem efc d (by decide)]
    exact surrounds.type

theorem surrounds_boot (efc : Efc σ) (pinHigh : Bool) (chip : σ) : Surrounds (boot efc pinHigh chip) where
  behind := by
    simp only [boot, Function.update_self, initBuildUsbSerialNumber_behind]
    rw [Function.update_of_ne (by decide)]
    cases pinHigh <;> rfl
  type := by
    simp only [boot]
    rw [Function.update_of_ne (by decide), Function.update_of_ne (by decide)]
    cases pinHigh <;> rfl

theorem surrounds_op (surrounds : Surrounds d) (stage : d.state = .setup) {op : Op}
    (proper : op.Proper) : Surrounds (run (step efc) d op.events) := by
  cases op with
  | write req inputs packets =>
    obtain ⟨writes, out, -, full, length⟩ := proper
    have collected := run_write efc inputs stage writes out full length
    -- the data stage changes the table alone; the store follows at the handshake
    have data : Surrounds (run (step efc) d (.control { setup := some { req := req, inputs := inputs } } ::
        packets.map fun packet => .control { out := some packet })) := by
      constructor
      · rw [collected.mem]
        simpa [Memory.put, Object.inFlash] using surrounds.behind
      · rw [collected.mem]
        simpa [Memory.put, Object.inFlash] using surrounds.type
    rw [Op.events, run_concat, step_taken efc collected.pending, inSent_handshake efc _ collected.state]
    exact { data.endofrequest with }
  | read req inputs =>
    obtain ⟨prev, ended⟩ := run_read efc stage proper
    rw [ended]
    exact { surrounds with }
  | reboot pinHigh => exact { surrounds_boot efc pinHigh (efc.reset d.chip) with }

theorem surrounds_ops {uid : Nat → UInt32} (reliable : efc.Reliable uid) {ops : List Op}
    (proper : ∀ op ∈ ops, op.Proper) {first table : Nat → UInt8} (stored : Stored efc uid first table d)
    (surrounds : Surrounds d) (stage : d.state = .setup) :
    Surrounds (run (step efc) d (ops.flatMap Op.events)) := by
  induction ops generalizing d table with
  | nil => exact surrounds
  | cons op ops inductionHypothesis =>
    obtain ⟨after, idle⟩ := stored_op reliable stored stage (proper op List.mem_cons_self)
    rw [List.flatMap_cons, run_append]
    exact inductionHypothesis (fun op member => proper op (List.mem_cons_of_mem _ member)) after
      (surrounds_op surrounds stage (proper op List.mem_cons_self)) idle

/-! ## The reply -/

/-- The host gets the serial number and one character more. -/
theorem run_getSerial (surrounds : Surrounds d) (stage : d.state = .setup) {characters : List UInt8}
    (serial : d.mem.slice Object.serialNumber.base 32 = characters) (wIndex : UInt16)
    {wLength : UInt16} (asks : wLength ≠ 0) (inputs : Inputs) {n : Nat} (enough : 1024 ≤ n) :
    ∃ packets, sentPackets (run (step efc) d
        (.control { setup := some { req := getSerial wIndex wLength, inputs := inputs } } ::
          List.replicate n taken)).trace = sentPackets d.trace ++ packets ∧
      packets.flatten = (stringOf (characters ++ [0])).take (min wLength.toNat 68) := by
  let str := d.mem.slice Object.serialNumber.base 33
  let h := (stringDescriptor str (d.handling (getSerial wIndex wLength))).setPayload
    Object.udcStringDesc.base (min wLength.toNat 68)
  have setup : step efc d (.control { setup := some { req := getSerial wIndex wLength, inputs := inputs } }) =
      startStages efc false (d.entered efc (getSerial wIndex wLength) h) :=
    step_accepted efc rfl stage (udcDecode_getSerial d wIndex asks inputs)
  have direction : (getSerial wIndex wLength).isIn = true := by
    show ((0x80 : UInt8) &&& 0x80 == 0x80) = true
    decide
  have small : min wLength.toNat 68 < 65536 := by omega
  obtain ⟨-, packets, sent, bytes⟩ := run_payload efc (d.entered efc (getSerial wIndex wLength) h)
    direction asks small enough
  rw [sentPackets_entered] at sent
  refine ⟨packets, by rw [run_cons, setup]; exact sent, ?_⟩
  -- the character too many is byte 32 of the array, which stays zero
  have whole : str = characters ++ [0] := by
    rw [← serial, ← surrounds.behind]
    exact Bytes.slice_add _ 0 32 1
  have length : str.length = 33 := Bytes.slice_length _ _ _
  have descriptor : h.mem.slice Object.udcStringDesc.base 68 = stringOf (characters ++ [0]) := by
    have built := stringDescriptor_slice str (d.handling (getSerial wIndex wLength))
    have type : (d.handling (getSerial wIndex wLength)).mem .udcStringDesc 1 = 3 := surrounds.type
    rw [type, length] at built
    rw [← whole, stringOf, length]
    exact built
  have clipped : min (min wLength.toNat 68) 68 = min wLength.toNat 68 := by omega
  rw [bytes, ← descriptor, Memory.slice, Memory.slice, Bytes.take_slice, clipped]
  rfl

end Steps

/-- After a boot and any completed requests and reboots: the string that the host gets has one
    character more than the serial number, and its length says so.  Whatever the host asks for, no
    reply is what a descriptor of the serial number alone would be. -/
theorem serial_string_too_long {efc : Efc σ} {uid : Nat → UInt32} (reliable : efc.Reliable uid)
    (pinHigh : Bool) (chip : σ) {ops : List Op} (proper : ∀ op ∈ ops, op.Proper) (wIndex : UInt16)
    {wLength : UInt16} (asks : 2 ≤ wLength.toNat) (inputs : Inputs) {n : Nat} (enough : 1024 ≤ n) :
    let table := latest (fun i => efc.byte chip (flashTableBase + i)) ops
    let d := run (step efc) (boot efc pinHigh chip) (ops.flatMap Op.events)
    ∃ packets, sentPackets (run (step efc) d
        (.control { setup := some { req := getSerial wIndex wLength, inputs := inputs } } ::
          List.replicate n taken)).trace = sentPackets d.trace ++ packets ∧
      packets.flatten = (stringOf (serialOf table uid ++ [0])).take (min wLength.toNat 68) ∧
      packets.flatten ≠ (stringOf (serialOf table uid)).take (min wLength.toNat 66) := by
  intro table d
  have booted := stored_boot reliable pinHigh chip
  obtain ⟨stored, stage⟩ := stored_ops reliable proper booted rfl
  have surrounds := surrounds_ops reliable proper booted (surrounds_boot efc pinHigh chip) rfl
  have nonzero : wLength ≠ 0 := by
    intro zero
    rw [zero] at asks
    exact absurd asks (by decide)
  obtain ⟨packets, sent, bytes⟩ := run_getSerial surrounds stage stored.serial wIndex nonzero inputs enough
  refine ⟨packets, sent, bytes, ?_⟩
  intro same
  -- the first bytes are the two lengths, and no `wLength` from 2 on cuts them off
  have long : (stringOf (serialOf table uid ++ [0])).head? = some 68 := by
    rw [stringOf, List.length_append, serialOf_length]
    rfl
  have short : (stringOf (serialOf table uid)).head? = some 66 := by
    rw [stringOf, serialOf_length]
    rfl
  have first := congrArg List.head? (bytes.symm.trans same)
  rw [List.head?_take, List.head?_take, if_neg (by omega), if_neg (by omega), long, short] at first
  exact absurd first (by decide)

/-- A device with an empty table, right after its boot. -/
theorem serial_string_after_boot :
    ∃ packets, sentPackets (run (step (flashChip fun _ => 0))
        (boot (flashChip fun _ => 0) true { bytes := fun _ => 0 })
        (.control { setup := some { req := getSerial 0x0409 255 } } ::
          List.replicate 1024 taken)).trace =
        sentPackets (boot (flashChip fun _ => 0) true { bytes := fun _ => 0 }).trace ++ packets ∧
      packets.flatten ≠
        (stringOf (serialOf (latest (fun _ => 0) []) fun _ => 0)).take (min (255 : UInt16).toNat 66) := by
  have none : ∀ op ∈ ([] : List Op), op.Proper := by
    intro op member
    cases member
  have asks : 2 ≤ (255 : UInt16).toNat := by decide
  obtain ⟨packets, sent, -, different⟩ := serial_string_too_long (flashChip_reliable fun _ => 0) true
    { bytes := fun _ => 0 } none 0x0409 asks {} (Nat.le_refl 1024)
  exact ⟨packets, sent, different⟩

/-- The serial number of such a device is 32 times `0`.  The reply to a host that asks for 255 bytes
    has 68 of them, and ends with a character that is zero. -/
theorem serial_string_ends_with_zero :
    let reply := (sentPackets (run (step (flashChip fun _ => 0))
      (boot (flashChip fun _ => 0) true { bytes := fun _ => 0 })
      [.control { setup := some { req := getSerial 0x0409 255 } }, taken, taken]).trace).flatten
    serialOf (fun _ => 0) (fun _ => 0) = List.replicate 32 48 ∧
      reply = [68, 3] ++ (List.replicate 32 [48, 0]).flatten ++ [0, 0] ∧
      reply ≠ (stringOf (List.replicate 32 48)).take 66 := by
  decide +kernel

end M1k.Control
