import M1k.Control.Request

/-! # The flash page of the calibration table

`flash_efc.c` over the flash controller, and the functions of `main.c` that load the table at
boot and store it.  The controller is a parameter: `Efc` is what the driver can do with it,
`Efc.Reliable` what its documentation promises when every command succeeds. -/

namespace M1k.Control

open Library

variable {σ : Type*}

/-- `EFC_FCMD_…` -/
inductive FlashCommand where
  | ewp
  | wp
  | slb
  | clb
  | stui
  | spui
  deriving DecidableEq

/-- The flash and its controller. -/
structure Efc (σ : Type*) where
  /-- `EEFC_FMR` -/
  fmr : σ → UInt32
  writeFmr : UInt32 → σ → σ
  /-- A command, with the error flags of `EEFC_FSR` once the controller is ready again. -/
  perform : FlashCommand → Nat → σ → UInt32 × σ
  /-- A store to an address of the flash: it goes to the latch buffer. -/
  storeWord : Nat → UInt32 → σ → σ
  /-- The latch buffer, one page of words. -/
  latched : σ → Nat → UInt32
  /-- The byte at an address of the flash. -/
  byte : σ → Nat → UInt8
  /-- The words at `READ_BUFF_ADDR` between `STUI` and `SPUI`. -/
  readBuff : σ → Nat → UInt32
  /-- What a reset of the chip does to the controller. -/
  reset : σ → σ

/-- `IFLASH_ADDR` -/
def iflashAddr : Nat := 0x80000

/-- `FLASH_TABLE_BASE`, the last page of the flash -/
def flashTableBase : Nat := iflashAddr + 0x20000 - 256

/-! ## The driver -/

namespace Efc

variable (efc : Efc σ)

/-- `efc_set_wait_state` -/
def setWaitState (fws : UInt32) (s : σ) : σ :=
  efc.writeFmr ((efc.fmr s &&& ~~~(0xF00 : UInt32)) ||| (fws <<< 8 &&& 0xF00)) s

/-- `efc_get_wait_state` -/
def getWaitState (s : σ) : UInt32 := (efc.fmr s &&& 0xF00) >>> 8

/-- `efc_perform_read_sequence` with `STUI` and `SPUI`, as `flash_read_unique_id` calls it -/
def readUniqueId (s : σ) : (Nat → UInt32) × σ :=
  let s := efc.writeFmr (efc.fmr s ||| 0x10000) s
  let s := (efc.perform .stui 0 s).2
  let uid := efc.readBuff s
  let s := (efc.perform .spui 0 s).2
  (uid, efc.writeFmr (efc.fmr s &&& ~~~(0x10000 : UInt32)) s)

end Efc

/-- `translate_address`: the page, and the offset in it -/
def translateAddress (address : Nat) : Nat × Nat :=
  ((address - iflashAddr) / 256 % 65536, (address - iflashAddr) % 256)

/-- `compute_address` at offset 0 -/
def pageAddress (page : Nat) : Nat := iflashAddr + page * 256

/-- `compute_lock_range` -/
def computeLockRange (first last : Nat) : Nat × Nat :=
  (first - first % 8192, last - last % 8192 + 8192 - 1)

namespace Efc

variable (efc : Efc σ)

/-- `flash_init` -/
def flashInit (mode fws : UInt32) (s : σ) : σ := efc.writeFmr (mode ||| (fws <<< 8 &&& 0xF00)) s

/-- One command on each page, up to the first error -/
def performAll (command : FlashCommand) : List Nat → σ → UInt32 × σ
  | [], s => (0, s)
  | page :: pages, s =>
    let done := efc.perform command page s
    if done.1 ≠ 0 then done else performAll command pages done.2

/-- The loop of `flash_lock` and `flash_unlock`: every 32nd page of the regions of a range -/
def onRegions (command : FlashCommand) (first last : Nat) (s : σ) : UInt32 × σ :=
  let range := computeLockRange first last
  let startPage := (translateAddress range.1).1
  let endPage := (translateAddress range.2).1
  efc.performAll command (List.range' startPage ((endPage - startPage + 31) / 32) 32) s

/-- `flash_unlock` -/
def flashUnlock (first last : Nat) (s : σ) : UInt32 × σ := efc.onRegions .clb first last s

/-- `flash_lock` -/
def flashLock (first last : Nat) (s : σ) : UInt32 × σ := efc.onRegions .slb first last s

/-- The stores `*p_aligned_dest++ = gs_ul_page_buffer[ul_idx]` -/
def storeWords (address : Nat) : List UInt32 → σ → σ
  | [], s => s
  | w :: ws, s => storeWords (address + 4) ws (efc.storeWord address w s)

/-- One turn of the loop of `flash_write`: `bytes` go into a page, and its other bytes are
    written back. -/
def writePage (erase : Bool) (page offset : Nat) (bytes : List UInt8) (s : σ) : UInt32 × σ :=
  let address := pageAddress page
  let padding := 256 - offset - bytes.length
  let pageBuffer := Bytes.slice (efc.byte s) address offset ++ bytes ++
    Bytes.slice (efc.byte s) (address + offset + bytes.length) padding
  let s := efc.storeWords address (Bytes.words pageBuffer) s
  efc.perform (if erase then .ewp else .wp) page s

/-- The loop of `flash_write` -/
def writePages (erase : Bool) (page offset : Nat) (bytes : List UInt8) (s : σ) : UInt32 × σ :=
  if bytes = [] then (0, s)
  else
    let writeSize := min (256 - offset) bytes.length
    let done := efc.writePage erase page offset (bytes.take writeSize) s
    if done.1 ≠ 0 then done
    else writePages erase ((page + 1) % 65536) 0 (bytes.drop writeSize) done.2
termination_by (bytes.length, offset)
decreasing_by
  have some : bytes.length ≠ 0 := by rwa [ne_eq, List.length_eq_zero_iff]
  rw [List.length_drop]
  by_cases whole : offset < 256
  · exact Prod.Lex.left _ _ (by omega)
  · rw [show 256 - offset = 0 by omega, Nat.zero_min, Nat.sub_zero]
    exact Prod.Lex.right _ (by omega)

/-- `flash_write` -/
def flashWrite (address : Nat) (bytes : List UInt8) (erase : Bool) (s : σ) : UInt32 × σ :=
  let at_ := translateAddress address
  let fws := efc.getWaitState s
  let done := efc.writePages erase at_.1 at_.2 bytes (efc.setWaitState 6 s)
  if done.1 ≠ 0 then done else (0, efc.setWaitState fws done.2)

end Efc

/-! ## The serial number -/

/-- `"0123456789ABCDEF"[digit]` -/
def hexDigit (digit : UInt8) : UInt8 := if digit < 10 then 48 + digit else 55 + digit

/-- `((uint8_t *)uid)[i]` -/
def uidByte (uid : Nat → UInt32) (i : Nat) : UInt8 := Bytes.wordByte (uid (i / 4)) (i % 4)

/-- `custom_serial_valid` -/
def customSerialValid (table : Nat → UInt8) : UInt32 :=
  ((table customSerialValidOffset).toUInt32 <<< 24) |||
  ((table (customSerialValidOffset + 1)).toUInt32 <<< 16) |||
  ((table (customSerialValidOffset + 2)).toUInt32 <<< 8) |||
  (table (customSerialValidOffset + 3)).toUInt32

/-- The 32 characters that `init_build_usb_serial_number` writes -/
def serialDigits (table : Nat → UInt8) (uid : Nat → UInt32) : List UInt8 :=
  if customSerialValid table = 0x01ee02dd then Bytes.slice table 224 32
  else (List.range 16).flatMap fun i =>
    [hexDigit ((uidByte uid i &&& 0xF0) >>> 4), hexDigit (uidByte uid i &&& 0x0F)]

/-- `init_build_usb_serial_number`, over `serial_number` and the controller -/
def initBuildUsbSerialNumber (efc : Efc σ) (table serial : Nat → UInt8) (s : σ) :
    (Nat → UInt8) × σ :=
  let id := efc.readUniqueId s
  (Bytes.put serial 0 (serialDigits table id.1), id.2)

/-- `store_flash_table`, over `serial_number` and the controller -/
def storeFlashTable (efc : Efc σ) (table serial : Nat → UInt8) (s : σ) : (Nat → UInt8) × σ :=
  let s := efc.flashInit 0 6 s
  let unlocked := efc.flashUnlock flashTableBase (flashTableBase + 256 - 1) s
  if unlocked.1 ≠ 0 then (serial, unlocked.2)
  else
    let written := efc.flashWrite flashTableBase (Bytes.slice table 0 256) true unlocked.2
    if written.1 ≠ 0 then (serial, written.2)
    else
      let locked := efc.flashLock flashTableBase (flashTableBase + 256 - 1) written.2
      if locked.1 ≠ 0 then (serial, locked.2)
      else initBuildUsbSerialNumber efc table serial locked.2

/-- `read_flash_table` -/
def readFlashTable (efc : Efc σ) (s : σ) (table : Nat → UInt8) : Nat → UInt8 :=
  Bytes.put table 0 (Bytes.slice (efc.byte s) flashTableBase 256)

/-- The serial number is made of the words that the controller shows as its identifier. -/
theorem Efc.serialDigits_uid (efc : Efc σ) {uid : Nat → UInt32}
    (shown : ∀ s k, k < 4 → efc.readBuff (efc.perform .stui 0 s).2 k = uid k) (table : Nat → UInt8)
    (s : σ) : serialDigits table (efc.readUniqueId s).1 = serialDigits table uid := by
  have digit (i : Nat) (inId : i < 16) : uidByte (efc.readUniqueId s).1 i = uidByte uid i := by
    simp only [uidByte, readUniqueId]
    rw [shown _ _ (by omega)]
  simp only [serialDigits]
  split_ifs with custom
  · rfl
  · simp only [List.flatMap_def]
    congr 1
    apply List.map_congr_left
    intro i member
    rw [digit i (List.mem_range.mp member)]

/-! ## A controller whose commands succeed -/

/-- What the controller is documented to do, when every command succeeds: the erase-and-write
    command stores the words latched for its page, and nothing else changes the flash. -/
structure Efc.Reliable (efc : Efc σ) (uid : Nat → UInt32) : Prop where
  succeeds : ∀ command argument s, (efc.perform command argument s).1 = 0
  latched_storeWord : ∀ address w s, efc.latched (efc.storeWord address w s) =
    Function.update (efc.latched s) (address / 4 % 64) w
  byte_ewp : ∀ page s a, efc.byte (efc.perform .ewp page s).2 a =
    if pageAddress page ≤ a ∧ a < pageAddress page + 256 then
      Bytes.wordByte (efc.latched s (a / 4 % 64)) (a % 4)
    else efc.byte s a
  byte_perform : ∀ command argument s, command ≠ .ewp → command ≠ .wp →
    efc.byte (efc.perform command argument s).2 = efc.byte s
  byte_storeWord : ∀ address w s, efc.byte (efc.storeWord address w s) = efc.byte s
  byte_writeFmr : ∀ fmr s, efc.byte (efc.writeFmr fmr s) = efc.byte s
  byte_reset : ∀ s, efc.byte (efc.reset s) = efc.byte s
  readBuff_stui : ∀ s k, k < 4 → efc.readBuff (efc.perform .stui 0 s).2 k = uid k

/-! ## The latch buffer -/

/-- What stores to the flash are documented to do, whatever the commands answer. -/
structure Efc.Latches (efc : Efc σ) : Prop where
  latched_storeWord : ∀ address w s, efc.latched (efc.storeWord address w s) =
    Function.update (efc.latched s) (address / 4 % 64) w
  byte_storeWord : ∀ address w s, efc.byte (efc.storeWord address w s) = efc.byte s

/-- The command has stored the words latched for its page. -/
def Efc.Stores (efc : Efc σ) (page : Nat) (s s' : σ) : Prop :=
  ∀ a, efc.byte s' a = if pageAddress page ≤ a ∧ a < pageAddress page + 256 then
    Bytes.wordByte (efc.latched s (a / 4 % 64)) (a % 4) else efc.byte s a

namespace Efc.Latches

variable {efc : Efc σ} (latches : efc.Latches)

include latches

theorem byte_storeWords (address : Nat) (ws : List UInt32) (s : σ) :
    efc.byte (efc.storeWords address ws s) = efc.byte s := by
  induction ws generalizing address s with
  | nil => rfl
  | cons w ws ih => rw [storeWords, ih, latches.byte_storeWord]

/-- Words stored one after the other stand in the latch buffer one after the other. -/
theorem latched_storeWords {address : Nat} {ws : List UInt32} {s : σ}
    (room : address / 4 % 64 + ws.length ≤ 64) :
    efc.latched (efc.storeWords address ws s) =
      Bytes.put (efc.latched s) (address / 4 % 64) ws := by
  induction ws generalizing address s with
  | nil => rfl
  | cons w ws ih =>
    rw [List.length_cons] at room
    cases ws with
    | nil => rw [storeWords, storeWords, latches.latched_storeWord]; rfl
    | cons w' ws =>
      rw [List.length_cons] at room ih
      have next : (address + 4) / 4 % 64 = address / 4 % 64 + 1 := by omega
      rw [storeWords, ih (by omega), latches.latched_storeWord, next]
      rfl

/-- A page written from a buffer holds the buffer, and the other pages keep their bytes. -/
theorem byte_stores {page : Nat} {buffer : List UInt8} {s s' : σ} (whole : buffer.length = 256)
    (stores : efc.Stores page (efc.storeWords (pageAddress page) (Bytes.words buffer) s) s') :
    efc.byte s' = Bytes.put (efc.byte s) (pageAddress page) buffer := by
  have length := Bytes.words_length (n := 64) whole
  have aligned : pageAddress page / 4 % 64 = 0 := by simp only [pageAddress, iflashAddr]; omega
  have latched := latches.latched_storeWords (s := s)
    (show pageAddress page / 4 % 64 + (Bytes.words buffer).length ≤ 64 by omega)
  rw [aligned] at latched
  funext a
  rw [stores a, latched, latches.byte_storeWords]
  split_ifs with inside
  · have word := Bytes.put_inside (efc.latched s) 0 (Bytes.words buffer)
      ((a - pageAddress page) / 4) (by omega)
    have byte := Bytes.words_byte (n := 64) whole (a - pageAddress page) (by omega) (by omega)
    have here := Bytes.put_inside (efc.byte s) (pageAddress page) buffer
      (a - pageAddress page) (by omega)
    have index : a / 4 % 64 = 0 + (a - pageAddress page) / 4 := by
      simp only [pageAddress, iflashAddr] at inside ⊢; omega
    have offset : a % 4 = (a - pageAddress page) % 4 := by
      simp only [pageAddress, iflashAddr] at inside ⊢; omega
    rw [Nat.add_sub_cancel' inside.1] at here
    rw [index, word, offset, byte, here]
  · exact (Bytes.put_outside (by omega)).symm

/-- The bytes of a page that `flash_write` has changed, once its command has stored them. -/
theorem byte_writePage (page : Nat) {offset : Nat} {bytes : List UInt8} {s : σ}
    (room : offset + bytes.length ≤ 256)
    (stores : ∀ t, efc.perform .ewp page t = efc.writePage true page offset bytes s →
      efc.Stores page t (efc.perform .ewp page t).2) :
    efc.byte (efc.writePage true page offset bytes s).2 =
      Bytes.put (efc.byte s) (pageAddress page + offset) bytes := by
  have whole : (Bytes.slice (efc.byte s) (pageAddress page) offset ++ bytes ++
      Bytes.slice (efc.byte s) (pageAddress page + offset + bytes.length)
        (256 - offset - bytes.length)).length = 256 := by
    simp only [List.length_append, Bytes.slice_length]; omega
  simp only [writePage, if_true]
  rw [latches.byte_stores whole (stores _ (by simp only [writePage, if_true])), Bytes.put_between]

end Efc.Latches

namespace Efc.Reliable

variable {efc : Efc σ} {uid : Nat → UInt32} (reliable : efc.Reliable uid)

include reliable

theorem latches : efc.Latches :=
  ⟨reliable.latched_storeWord, reliable.byte_storeWord⟩

theorem writePage_ok (page offset : Nat) (bytes : List UInt8) (s : σ) :
    (efc.writePage true page offset bytes s).1 = 0 :=
  reliable.succeeds _ _ _

theorem byte_writePage (page offset : Nat) (bytes : List UInt8) (s : σ)
    (room : offset + bytes.length ≤ 256) :
    efc.byte (efc.writePage true page offset bytes s).2 =
      Bytes.put (efc.byte s) (pageAddress page + offset) bytes :=
  reliable.latches.byte_writePage page room fun t _ => reliable.byte_ewp page t

/-- The loop of `flash_write` writes the bytes where they belong, over as many pages as they take. -/
theorem writePages_spec (page offset : Nat) (bytes : List UInt8) (s : σ) (inPage : offset < 256)
    (inFlash : 256 * page + (offset + bytes.length) ≤ 0x20000) :
    (efc.writePages true page offset bytes s).1 = 0 ∧
      efc.byte (efc.writePages true page offset bytes s).2 =
        Bytes.put (efc.byte s) (pageAddress page + offset) bytes := by
  by_cases done : bytes = []
  · rw [writePages, if_pos done, done]
    exact ⟨rfl, rfl⟩
  rw [writePages, if_neg done]
  simp only [reliable.writePage_ok, ne_eq, not_true_eq_false, if_false]
  by_cases last : bytes.length ≤ 256 - offset
  · -- the page takes all that is left
    rw [Nat.min_eq_right last, List.drop_length, List.take_length, writePages, if_pos rfl]
    exact ⟨rfl, reliable.byte_writePage _ _ _ s (by omega)⟩
  · have taken : (bytes.take (256 - offset)).length = 256 - offset :=
      List.length_take_of_le (by omega)
    have left : (bytes.drop (256 - offset)).length = bytes.length - (256 - offset) :=
      List.length_drop
    have fits : 256 * (page + 1) + (0 + (bytes.drop (256 - offset)).length) ≤ 0x20000 := by
      rw [left, Nat.zero_add]; omega
    have nextPage : (page + 1) % 65536 = page + 1 := Nat.mod_eq_of_lt (by omega)
    have next : pageAddress (page + 1) + 0 = pageAddress page + offset + (256 - offset) := by
      simp only [pageAddress]; omega
    have first := reliable.byte_writePage page offset (bytes.take (256 - offset)) s (by omega)
    have rest := writePages_spec (page + 1) 0 (bytes.drop (256 - offset))
      (efc.writePage true page offset (bytes.take (256 - offset)) s).2 (by decide) fits
    have split := Bytes.put_append (efc.byte s) (pageAddress page + offset)
      (bytes.take (256 - offset)) (bytes.drop (256 - offset))
    rw [List.take_append_drop, taken] at split
    rw [Nat.min_eq_left (by omega), nextPage, rest.1, rest.2, first, split, next]
    exact ⟨rfl, rfl⟩
termination_by bytes.length
decreasing_by omega

/-- `flash_write` writes the bytes at the address, and leaves the rest of the flash alone. -/
theorem flashWrite_spec (address : Nat) (bytes : List UInt8) (s : σ) (low : iflashAddr ≤ address)
    (high : address + bytes.length ≤ iflashAddr + 0x20000) :
    (efc.flashWrite address bytes true s).1 = 0 ∧
      efc.byte (efc.flashWrite address bytes true s).2 = Bytes.put (efc.byte s) address bytes := by
  have page : (address - iflashAddr) / 256 % 65536 = (address - iflashAddr) / 256 := by
    simp only [iflashAddr] at low high ⊢; omega
  have spec := reliable.writePages_spec ((address - iflashAddr) / 256) ((address - iflashAddr) % 256) bytes
    (efc.setWaitState 6 s) (by omega)
    (by simp only [iflashAddr] at low high ⊢; omega)
  have back : pageAddress ((address - iflashAddr) / 256) + (address - iflashAddr) % 256 = address := by
    simp only [pageAddress]; omega
  rw [back, setWaitState, reliable.byte_writeFmr] at spec
  simp only [flashWrite, translateAddress, page]
  simp only [setWaitState, spec.1, ne_eq, not_true_eq_false, if_false, reliable.byte_writeFmr]
  exact ⟨trivial, spec.2⟩

theorem performAll_spec (command : FlashCommand) (pages : List Nat) (s : σ)
    (other : command ≠ .ewp ∧ command ≠ .wp) :
    (efc.performAll command pages s).1 = 0 ∧
      efc.byte (efc.performAll command pages s).2 = efc.byte s := by
  induction pages generalizing s with
  | nil => exact ⟨rfl, rfl⟩
  | cons page pages ih =>
    simp only [performAll, reliable.succeeds, ne_eq, not_true_eq_false, if_false]
    rw [(ih _).2, reliable.byte_perform _ _ _ other.1 other.2]
    exact ⟨(ih _).1, rfl⟩

theorem flashUnlock_spec (first last : Nat) (s : σ) :
    (efc.flashUnlock first last s).1 = 0 ∧ efc.byte (efc.flashUnlock first last s).2 = efc.byte s :=
  reliable.performAll_spec _ _ _ ⟨by decide, by decide⟩

theorem flashLock_spec (first last : Nat) (s : σ) :
    (efc.flashLock first last s).1 = 0 ∧ efc.byte (efc.flashLock first last s).2 = efc.byte s :=
  reliable.performAll_spec _ _ _ ⟨by decide, by decide⟩

theorem byte_readUniqueId (s : σ) : efc.byte (efc.readUniqueId s).2 = efc.byte s := by
  simp only [readUniqueId, reliable.byte_writeFmr]
  rw [reliable.byte_perform _ _ _ (by decide) (by decide)]
  rw [reliable.byte_perform _ _ _ (by decide) (by decide), reliable.byte_writeFmr]

theorem serialDigits_readUniqueId (table : Nat → UInt8) (s : σ) :
    serialDigits table (efc.readUniqueId s).1 = serialDigits table uid :=
  efc.serialDigits_uid reliable.readBuff_stui table s

/-- `store_flash_table` puts the table into the last page, and the serial number is rebuilt. -/
theorem storeFlashTable_spec (table serial : Nat → UInt8) (s : σ) :
    efc.byte (storeFlashTable efc table serial s).2 =
        Bytes.put (efc.byte s) flashTableBase (Bytes.slice table 0 256) ∧
      (storeFlashTable efc table serial s).1 = Bytes.put serial 0 (serialDigits table uid) := by
  have unlocked (s : σ) := reliable.flashUnlock_spec flashTableBase (flashTableBase + 256 - 1) s
  have written (s : σ) := reliable.flashWrite_spec flashTableBase (Bytes.slice table 0 256) s (by decide) (by rw [Bytes.slice_length]; decide)
  have locked (s : σ) := reliable.flashLock_spec flashTableBase (flashTableBase + 256 - 1) s
  simp only [storeFlashTable, (unlocked _).1, (written _).1, (locked _).1, ne_eq, not_true_eq_false,
    if_false, initBuildUsbSerialNumber, reliable.serialDigits_readUniqueId, and_true]
  rw [reliable.byte_readUniqueId, (locked _).2, (written _).2, (unlocked _).2, flashInit,
    reliable.byte_writeFmr]

end Efc.Reliable

/-! ## A chip that keeps the promises -/

structure FlashChip where
  fmr : UInt32 := 0
  latch : Nat → UInt32 := fun _ => 0
  bytes : Nat → UInt8

/-- The page of the chip that a command writes. -/
def FlashChip.erasedAndWritten (chip : FlashChip) (page : Nat) : FlashChip :=
  { chip with bytes := fun a =>
      if pageAddress page ≤ a ∧ a < pageAddress page + 256 then
        Bytes.wordByte (chip.latch (a / 4 % 64)) (a % 4)
      else chip.bytes a }

/-- A controller whose commands all succeed. -/
def flashChip (uid : Nat → UInt32) : Efc FlashChip where
  fmr chip := chip.fmr
  writeFmr fmr chip := { chip with fmr := fmr }
  perform command argument chip :=
    match command with
    | .ewp | .wp => (0, chip.erasedAndWritten argument)
    | .slb | .clb | .stui | .spui => (0, chip)
  storeWord address w chip := { chip with latch := Function.update chip.latch (address / 4 % 64) w }
  latched chip := chip.latch
  byte chip := chip.bytes
  readBuff _ := uid
  reset chip := { chip with fmr := 0 }

theorem flashChip_reliable (uid : Nat → UInt32) : (flashChip uid).Reliable uid where
  succeeds command _ _ := by cases command <;> rfl
  latched_storeWord _ _ _ := rfl
  byte_ewp _ _ _ := rfl
  byte_perform command _ _ ewp wp := by cases command <;> first | rfl | contradiction
  byte_storeWord _ _ _ := rfl
  byte_writeFmr _ _ := rfl
  byte_reset _ := rfl
  readBuff_stui _ _ _ := rfl

end M1k.Control
