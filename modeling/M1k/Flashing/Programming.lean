import M1k.Control.Stages
import M1k.Flashing.SamBa
import Mathlib.Data.List.GetD

/-! # What the flashing script does to a chip

The boot monitor does the word writes that the script sends: to the flash they fill the latch of a
page, and to the register of the flash controller they give it a command. -/

namespace M1k.SamBa

open Library
open Control (Efc pageAddress iflashAddr flashTableBase)

variable {σ : Type*}

/-! ## The monitor and the chip -/

/-- A chip that runs its boot monitor -/
structure Programmer (σ : Type*) where
  efc : Efc σ
  /-- A region of the flash is locked. -/
  locked : σ → Bool
  /-- The command `EA` -/
  eraseAll : σ → σ
  /-- The command `SGPB` -/
  setGpnvm : Nat → σ → σ
  gpnvm : σ → Nat → Bool

namespace Programmer

variable (p : Programmer σ)

/-- A write to `EEFC_FCR`: the key, the argument, and the command -/
def command (value : Nat) (s : σ) : σ :=
  if value / 2 ^ 24 % 256 = 0x5A then
    match value % 256 with
    | 0x03 => (p.efc.perform .ewp (value / 256 % 65536) s).2
    | 0x05 => p.eraseAll s
    | 0x0B => p.setGpnvm (value / 256 % 65536) s
    | _ => s
  else s

/-- A word write of the monitor -/
def write (s : σ) (w : Nat × Nat) : σ :=
  if w.1 = 0x400E0804 then p.command w.2 s
  else if iflashAddr ≤ w.1 ∧ w.1 < iflashAddr + 0x20000 then p.efc.storeWord w.1 (UInt32.ofNat w.2) s
  else s

/-- What the commands of a script do; those that write nothing change nothing. -/
def monitor (commands : List (List Char)) (s : σ) : σ := (writes commands).foldl p.write s

/-- What the flash controller is documented to do, where the pages of the image are not locked: the
    flash is erased as a whole or, if any of its regions is locked, not at all. -/
structure Documented (p : Programmer σ) (uid : Nat → UInt32) : Prop where
  reliable : p.efc.Reliable uid
  byte_eraseAll : ∀ s a, p.efc.byte (p.eraseAll s) a =
    if p.locked s = false ∧ iflashAddr ≤ a ∧ a < iflashAddr + 0x20000 then 0xFF else p.efc.byte s a
  byte_setGpnvm : ∀ n s, p.efc.byte (p.setGpnvm n s) = p.efc.byte s
  gpnvm_setGpnvm : ∀ n s, p.gpnvm (p.setGpnvm n s) = Function.update (p.gpnvm s) n true
  gpnvm_eraseAll : ∀ s, p.gpnvm (p.eraseAll s) = p.gpnvm s
  gpnvm_perform : ∀ command argument s, p.gpnvm (p.efc.perform command argument s).2 = p.gpnvm s
  gpnvm_storeWord : ∀ address w s, p.gpnvm (p.efc.storeWord address w s) = p.gpnvm s

end Programmer

/-! ## The words of a page -/

theorem peek_word (b0 b1 b2 b3 : UInt8) (rest : List UInt8) :
    UInt32.ofNat (peek (b0 :: b1 :: b2 :: b3 :: rest) 0) = Bytes.word b0 b1 b2 b3 := by
  have value : peek (b0 :: b1 :: b2 :: b3 :: rest) 0 =
      b0.toNat + 256 * b1.toNat + 65536 * b2.toNat + 16777216 * b3.toNat := by
    simp [peek, Nat.ofDigits_cons]
    ring
  rw [value, Bytes.word]

/-- The words at the positions of an array are its words. -/
theorem words_peek {n : Nat} {bytes : List UInt8} (whole : bytes.length = 4 * n) :
    (List.range n).map (fun i => UInt32.ofNat (peek bytes (4 * i))) = Bytes.words bytes := by
  induction n generalizing bytes with
  | zero => rw [List.length_eq_zero_iff.mp whole]; rfl
  | succ n inductionHypothesis =>
    match bytes, whole with
    | b0 :: b1 :: b2 :: b3 :: rest, whole =>
      have length : rest.length = 4 * n := by
        simp only [List.length_cons] at whole
        omega
      have later := inductionHypothesis length
      rw [List.range_succ_eq_map, List.map_cons, Nat.mul_zero, peek_word, List.map_map, Bytes.words,
        ← later]
      congr 1

/-- The bytes of a page of the image -/
def pageBytes (fw : List UInt8) (page : Nat) : List UInt8 := (fw.drop (256 * page)).take 256

theorem peek_pageBytes (fw : List UInt8) (page : Nat) {i : Nat} (inPage : i < 64) :
    peek fw (256 * page + 4 * i) = peek (pageBytes fw page) (4 * i) := by
  rw [peek, peek, pageBytes, List.drop_take, List.take_take, List.drop_drop,
    Nat.min_eq_left (by omega)]

namespace Programmer

variable {p : Programmer σ}

theorem write_flash {s : σ} {address value : Nat} (inside : iflashAddr ≤ address)
    (bound : address < iflashAddr + 0x20000) :
    p.write s (address, value) = p.efc.storeWord address (UInt32.ofNat value) s := by
  have notRegister : address ≠ 0x400E0804 := by
    simp only [iflashAddr] at bound
    omega
  rw [write, if_neg notRegister, if_pos ⟨inside, bound⟩]

/-- The word writes of a page fill the latch as `flash_write` does. -/
theorem write_words {page : Nat} {fw : List UInt8} (whole : (pageBytes fw page).length = 256)
    (inFlash : page < 512) (s : σ) :
    (wordWrites fw page).foldl p.write s =
      p.efc.storeWords (pageAddress page) (Bytes.words (pageBytes fw page)) s := by
  have stores (n k : Nat) (s : σ) (bound : k + n ≤ 64) :
      ((List.range' k n).map fun i =>
        (flashBase + (256 * page + 4 * i), peek fw (256 * page + 4 * i))).foldl p.write s =
      p.efc.storeWords (pageAddress page + 4 * k)
        ((List.range' k n).map fun i => UInt32.ofNat (peek (pageBytes fw page) (4 * i))) s := by
    induction n generalizing k s with
    | zero => rfl
    | succ n inductionHypothesis =>
      have place : flashBase + (256 * page + 4 * k) = pageAddress page + 4 * k := by
        simp only [flashBase, pageAddress, iflashAddr]
        omega
      have inside : p.write s (pageAddress page + 4 * k, peek (pageBytes fw page) (4 * k)) =
          p.efc.storeWord (pageAddress page + 4 * k)
            (UInt32.ofNat (peek (pageBytes fw page) (4 * k))) s :=
        write_flash (by simp only [pageAddress]; omega) (by simp only [pageAddress]; omega)
      have next : pageAddress page + 4 * k + 4 = pageAddress page + 4 * (k + 1) := by omega
      rw [List.range'_succ, List.map_cons, List.map_cons, List.foldl_cons, Efc.storeWords, place,
        peek_pageBytes fw page (by omega), inside, next]
      exact inductionHypothesis (k + 1) _ (by omega)
  have all := stores 64 0 s (by omega)
  rw [← List.range_eq_range', words_peek (n := 64) whole] at all
  exact all

theorem write_pageWrite {page : Nat} (inFlash : page < 512) (s : σ) :
    p.write s (pageWrite page) = (p.efc.perform .ewp page s).2 := by
  have key : (0x5A000003 + page * 256) / 2 ^ 24 % 256 = 0x5A := by omega
  have order : (0x5A000003 + page * 256) % 256 = 0x03 := by omega
  have argument : (0x5A000003 + page * 256) / 256 % 65536 = page := by omega
  rw [write, pageWrite, if_pos rfl, command, if_pos key, order, argument]
  rfl

variable {uid : Nat → UInt32} (documented : p.Documented uid)

include documented

/-- A page that has been written holds its part of the image. -/
theorem byte_page {page : Nat} {fw : List UInt8} (whole : (pageBytes fw page).length = 256)
    (inFlash : page < 512) (s : σ) :
    p.efc.byte ((wordWrites fw page ++ [pageWrite page]).foldl p.write s) =
      Bytes.put (p.efc.byte s) (pageAddress page) (pageBytes fw page) := by
  rw [List.foldl_append, write_words whole inFlash, List.foldl_cons, List.foldl_nil,
    write_pageWrite inFlash]
  exact documented.reliable.latches.byte_stores whole (documented.reliable.byte_ewp page _)

theorem byte_pages {fw : List UInt8} {n : Nat} (whole : 256 * n ≤ fw.length) (inFlash : n ≤ 512) (s : σ) :
    p.efc.byte (((List.range n).flatMap fun page => wordWrites fw page ++ [pageWrite page]).foldl
      p.write s) = Bytes.put (p.efc.byte s) flashBase (fw.take (256 * n)) := by
  induction n with
  | zero => rfl
  | succ page inductionHypothesis =>
    have length : (pageBytes fw page).length = 256 := by
      simp only [pageBytes, List.length_take, List.length_drop]
      omega
    have before : (fw.take (256 * page)).length = 256 * page := by
      rw [List.length_take]
      omega
    have split : fw.take (256 * (page + 1)) = fw.take (256 * page) ++ pageBytes fw page := by
      rw [Nat.mul_succ, List.take_add, pageBytes]
    have place : flashBase + 256 * page = pageAddress page := by
      simp only [flashBase, pageAddress, iflashAddr]
      omega
    rw [List.range_succ, List.flatMap_append, List.flatMap_singleton, List.foldl_append,
      byte_page documented length (by omega), inductionHypothesis (by omega) (by omega), split,
      Bytes.put_append, before, place]

/-- Nothing but the last command of the script changes a GPNVM bit. -/
theorem gpnvm_write {w : Nat × Nat} (other : w.1 = 0x400E0804 → w.2 % 256 ≠ 0x0B) (s : σ) :
    p.gpnvm (p.write s w) = p.gpnvm s := by
  rw [write]
  by_cases register : w.1 = 0x400E0804
  · rw [if_pos register, command]
    by_cases key : w.2 / 2 ^ 24 % 256 = 0x5A
    · rw [if_pos key]
      split
      · exact documented.gpnvm_perform _ _ _
      · exact documented.gpnvm_eraseAll _
      · rename_i order
        exact absurd order (other register)
      · rfl
    · rw [if_neg key]
  · rw [if_neg register]
    split_ifs
    · exact documented.gpnvm_storeWord _ _ _
    · rfl

theorem gpnvm_writes {ws : List (Nat × Nat)} (others : ∀ w ∈ ws, w.1 = 0x400E0804 → w.2 % 256 ≠ 0x0B)
    (s : σ) : p.gpnvm (ws.foldl p.write s) = p.gpnvm s := by
  induction ws generalizing s with
  | nil => rfl
  | cons w ws inductionHypothesis =>
    rw [List.foldl_cons, inductionHypothesis fun later member => others later (List.mem_cons_of_mem _ member),
      gpnvm_write documented (others w List.mem_cons_self)]

end Programmer

/-! ## The script -/

/-- Before its last command the script gives no command but erasing and writing pages. -/
theorem imageWrites_orders {raw : List UInt8} (small : raw.length < 65536) :
    ∀ w ∈ imageWrites raw, w.1 = 0x400E0804 → w.2 % 256 ≠ 0x0B := by
  intro w member register
  rw [imageWrites_eq] at member
  obtain ⟨page, inImage, inPage⟩ := List.mem_flatMap.mp member
  have bound : page < pages raw := List.mem_range.mp inImage
  rw [pages] at bound
  obtain word | write := List.mem_append.mp inPage
  · obtain ⟨i, inWords, rfl⟩ := List.mem_map.mp word
    have position : i < 64 := List.mem_range.mp inWords
    simp only [flashBase] at register
    omega
  · rw [List.mem_singleton.mp write, pageWrite]
    omega

section Script

variable {p : Programmer σ} {uid : Nat → UInt32} (documented : p.Documented uid) (device : Device)
  {raw : List UInt8} (small : raw.length < 65536)

include small in
/-- A script that comes to its end erases, writes the image, and sets the bit. -/
theorem monitor_finished (p : Programmer σ) (finished : (pageLoop device raw).2 = true) (s : σ) :
    p.monitor (script device raw) s =
      p.setGpnvm 1 ((imageWrites raw).foldl p.write (p.eraseAll s)) := by
  have whole := (writes_pageLoop device raw).2 finished
  rw [spelled_of_small small] at whole
  rw [Programmer.monitor, writes_script, whole, if_pos finished, List.foldl_append, List.foldl_cons]
  rfl

include documented small in
/-- The flash holds the image, and behind it what erasing has left there. -/
theorem byte_finished (finished : (pageLoop device raw).2 = true) (s : σ) {a : Nat}
    (inFlash : a < 0x20000) :
    p.efc.byte (p.monitor (script device raw) s) (flashBase + a) =
      (padded raw).getD a (if p.locked s then p.efc.byte s (flashBase + a) else 0xFF) := by
  have length := length_padded raw
  have inImage : 256 * pages raw ≤ (padded raw).length := by
    rw [length, pages]
  have fits : pages raw ≤ 512 := by
    rw [pages]
    omega
  have all : (padded raw).take (256 * pages raw) = padded raw := by
    apply List.take_of_length_le
    rw [length, pages]
  rw [monitor_finished device small p finished, documented.byte_setGpnvm, imageWrites_eq,
    Programmer.byte_pages documented inImage fits, all]
  by_cases inside : a < (padded raw).length
  · rw [Bytes.put_inside _ flashBase _ a inside, List.getD_eq_getElem _ _ inside]
  · have here : iflashAddr ≤ flashBase + a ∧ flashBase + a < iflashAddr + 0x20000 := by
      simp only [flashBase, iflashAddr]
      omega
    rw [Bytes.put_outside (by omega), List.getD_eq_default _ _ (by omega), documented.byte_eraseAll]
    cases locked : p.locked s with
    | true => simp
    | false => simp [here]

end Script

/-- An image of less than 64 KiB stands in the flash once the script has come to its end, with zeros
    up to the end of its last page, and the chip is set to start from it.  Behind it the flash is
    erased, or as it was if a region was locked.  A script that the device has ended before leaves
    the bit as it was. -/
theorem script_programs_image {p : Programmer σ} {uid : Nat → UInt32} (documented : p.Documented uid)
    (device : Device) {raw : List UInt8} (small : raw.length < 65536) (s : σ) :
    let s' := p.monitor (script device raw) s
    ((pageLoop device raw).2 = true →
      (∀ a, a < 0x20000 → p.efc.byte s' (flashBase + a) =
        (padded raw).getD a (if p.locked s then p.efc.byte s (flashBase + a) else 0xFF)) ∧
        p.gpnvm s' 1 = true) ∧
      ((pageLoop device raw).2 = false → p.gpnvm s' = p.gpnvm s) := by
  intro s'
  refine ⟨fun finished => ⟨fun a inFlash => ?_, ?_⟩, fun ended => ?_⟩
  · exact byte_finished documented device small finished s inFlash
  · have reached := monitor_finished device small p finished s
    rw [show s' = _ from reached, documented.gpnvm_setGpnvm]
    simp
  · obtain ⟨first, -⟩ := writes_pageLoop device raw
    rw [spelled_of_small small] at first
    have reached : s' = (writes (pageLoop device raw).1).foldl p.write (p.eraseAll s) := by
      show (writes (script device raw)).foldl p.write s = _
      rw [writes_script, ended, if_neg Bool.false_ne_true, List.append_nil, List.foldl_cons]
      rfl
    have orders : ∀ w ∈ writes (pageLoop device raw).1, w.1 = 0x400E0804 → w.2 % 256 ≠ 0x0B :=
      fun w member => imageWrites_orders small w (first.subset member)
    rw [reached, Programmer.gpnvm_writes documented orders, documented.gpnvm_eraseAll]

/-- The calibration outlives the script exactly if a region of the flash was locked, as the region of
    the table is once it has been stored: a device that starts from what the script has written has
    loaded it.  Otherwise the table is erased, and the serial number is that of the chip. -/
theorem script_keeps_locked_calibration {p : Programmer σ} {uid : Nat → UInt32}
    (documented : p.Documented uid) (device : Device) {raw : List UInt8} (small : raw.length < 65536)
    (finished : (pageLoop device raw).2 = true) (s : σ) (pinHigh : Bool) :
    let d := Control.boot p.efc pinHigh (p.monitor (script device raw) s)
    (p.locked s = true → ∀ i, d.table i = p.efc.byte s (flashTableBase + (i : Nat))) ∧
      (p.locked s = false → (∀ i, d.table i = 0xFF) ∧
        Bytes.slice (d.mem .serialNumber) 0 32 = (List.range 16).flatMap fun i =>
          [Control.hexDigit ((Control.uidByte uid i &&& 0xF0) >>> 4),
            Control.hexDigit (Control.uidByte uid i &&& 0x0F)]) := by
  intro d
  have table (i : Fin 256) : d.table i =
      if p.locked s then p.efc.byte s (flashTableBase + (i : Nat)) else 0xFF := by
    have place : flashTableBase + (i : Nat) = flashBase + (0x1FF00 + i) :=
      Nat.add_assoc flashBase 0x1FF00 i
    have behind : (padded raw).length ≤ 0x1FF00 + i := by
      rw [length_padded]
      omega
    rw [Control.Device.table, Control.boot_table, place,
      byte_finished documented device small finished s (by omega), List.getD_eq_default _ _ behind]
  refine ⟨fun locked i => by rw [table, if_pos locked], fun unlocked => ?_⟩
  have erased (i : Fin 256) : d.table i = 0xFF := by
    rw [table, unlocked, if_neg Bool.false_ne_true]
  refine ⟨erased, ?_⟩
  obtain ⟨serial, isSerial⟩ := Control.boot_serial documented.reliable pinHigh
    (p.monitor (script device raw) s)
  -- four erased bytes are no mark of a serial number
  have unmarked : Control.customSerialValid (d.mem .flashTable) ≠ 0x01ee02dd := by
    have byte (i : Nat) (inTable : i < 256) : d.mem .flashTable i = 0xFF := erased ⟨i, inTable⟩
    rw [Control.customSerialValid, byte _ (by decide), byte _ (by decide), byte _ (by decide),
      byte _ (by decide)]
    decide
  have digits : Control.serialDigits (d.mem .flashTable) uid = (List.range 16).flatMap fun i =>
      [Control.hexDigit ((Control.uidByte uid i &&& 0xF0) >>> 4),
        Control.hexDigit (Control.uidByte uid i &&& 0x0F)] := by
    rw [Control.serialDigits, if_neg unmarked]
  have read := Bytes.slice_put serial 0 (Control.serialDigits (d.mem .flashTable) uid)
  rw [← isSerial, digits] at read
  exact read

/-! ## A chip that keeps the promises -/

/-- A chip with its GPNVM bits, and whether a region is locked -/
structure BootChip where
  flash : Control.FlashChip
  gpnvm : Nat → Bool
  locked : Bool

def bootChip (uid : Nat → UInt32) : Programmer BootChip where
  efc :=
    let efc := Control.flashChip uid
    { fmr := fun s => efc.fmr s.flash
      writeFmr := fun fmr s => { s with flash := efc.writeFmr fmr s.flash }
      perform := fun command argument s =>
        ((efc.perform command argument s.flash).1,
          { s with flash := (efc.perform command argument s.flash).2 })
      storeWord := fun address w s => { s with flash := efc.storeWord address w s.flash }
      latched := fun s => efc.latched s.flash
      byte := fun s => efc.byte s.flash
      readBuff := fun s => efc.readBuff s.flash
      reset := fun s => { s with flash := efc.reset s.flash } }
  locked s := s.locked
  eraseAll s := { s with flash := { s.flash with bytes := fun a =>
    if s.locked = false ∧ iflashAddr ≤ a ∧ a < iflashAddr + 0x20000 then 0xFF else s.flash.bytes a } }
  setGpnvm n s := { s with gpnvm := Function.update s.gpnvm n true }
  gpnvm s := s.gpnvm

theorem bootChip_documented (uid : Nat → UInt32) : (bootChip uid).Documented uid where
  reliable :=
    have reliable := Control.flashChip_reliable uid
    { succeeds := fun command argument s => reliable.succeeds command argument s.flash
      latched_storeWord := fun address w s => reliable.latched_storeWord address w s.flash
      byte_ewp := fun page s => reliable.byte_ewp page s.flash
      byte_perform := fun command argument s => reliable.byte_perform command argument s.flash
      byte_storeWord := fun address w s => reliable.byte_storeWord address w s.flash
      byte_writeFmr := fun fmr s => reliable.byte_writeFmr fmr s.flash
      byte_reset := fun s => reliable.byte_reset s.flash
      readBuff_stui := fun s => reliable.readBuff_stui s.flash }
  byte_eraseAll _ _ := rfl
  byte_setGpnvm _ _ := rfl
  gpnvm_setGpnvm _ _ := rfl
  gpnvm_eraseAll _ := rfl
  gpnvm_perform _ _ _ := rfl
  gpnvm_storeWord _ _ _ := rfl

/-- A chip that holds something already -/
def usedChip (locked : Bool) : BootChip where
  flash := { bytes := fun _ => 0x55 }
  gpnvm _ := false
  locked := locked

theorem script_programs_image_three :
    let p := bootChip fun _ => 0
    let s' := p.monitor (script goodDevice [1, 2, 3]) (usedChip false)
    p.efc.byte s' (flashBase + 2) = 3 ∧ p.efc.byte s' (flashBase + 4) = 0 ∧
      p.efc.byte s' (flashBase + 256) = 0xFF ∧ p.gpnvm s' 1 = true :=
  have small : ([1, 2, 3] : List UInt8).length < 65536 := by decide
  have programmed := (script_programs_image (bootChip_documented fun _ => 0) goodDevice small
    (usedChip false)).1 (writeWords_goodDevice _ _ _)
  ⟨programmed.1 2 (by decide), programmed.1 4 (by decide), programmed.1 256 (by decide), programmed.2⟩

theorem script_keeps_locked_calibration_three :
    (Control.boot (bootChip fun _ => 0).efc true
      ((bootChip fun _ => 0).monitor (script goodDevice [1, 2, 3]) (usedChip true))).table 0 = 0x55 :=
  have small : ([1, 2, 3] : List UInt8).length < 65536 := by decide
  (script_keeps_locked_calibration (bootChip_documented fun _ => 0) goodDevice small
    (writeWords_goodDevice _ _ _) (usedChip true) true).1 rfl 0

end M1k.SamBa
