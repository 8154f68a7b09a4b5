import M1k.Control.FailedStores
import M1k.Library.Locks
import M1k.Library.Refinement

/-! # The flash service

`flash_lock`, `flash_unlock` and `flash_write`, on any part of the flash.  The locks are by regions of
8 KiB, which the service finds from addresses, and a write goes page by page; over a controller that
honours its lock bits the calls are those of a memory in lockable regions. -/

namespace M1k.Control

open Library Library.Runs Library.Locks

variable {σ : Type*}

/-- The lock region of an address -/
def lockRegion (address : Nat) : Nat := (address - iflashAddr) / 8192

/-! ## Calls -/

/-- The addresses that a call is given -/
structure Span where
  first : Nat
  last : Nat
  low : iflashAddr ≤ first
  ordered : first ≤ last
  high : last < iflashAddr + 0x20000

/-- The data that a call is given -/
structure Burst where
  address : Nat
  bytes : List UInt8
  low : iflashAddr ≤ address
  high : address + bytes.length ≤ iflashAddr + 0x20000

inductive FlashCall where
  | lock (span : Span)
  | unlock (span : Span)
  /-- `flash_write` with `ul_erase_flag` -/
  | write (burst : Burst)

def Efc.call (efc : Efc σ) (s : σ) : FlashCall → UInt32 × σ
  | .lock span => efc.flashLock span.first span.last s
  | .unlock span => efc.flashUnlock span.first span.last s
  | .write burst => efc.flashWrite burst.address burst.bytes true s

/-- What a call is for -/
def FlashCall.op : FlashCall → Locks.Op UInt8
  | .lock span => .set true span.first span.last
  | .unlock span => .set false span.first span.last
  | .write burst => .write burst.address burst.bytes

/-! ## The controller -/

/-- What commands are documented to do to the flash, whatever they are answered: one that is answered
    with an error has not been carried out. -/
structure Efc.Commands (efc : Efc σ) : Prop where
  latches : efc.Latches
  byte_writeFmr : ∀ fmr s, efc.byte (efc.writeFmr fmr s) = efc.byte s
  byte_reset : ∀ s, efc.byte (efc.reset s) = efc.byte s
  byte_ewp : ∀ page s, (efc.perform .ewp page s).1 = 0 →
    efc.Stores page s (efc.perform .ewp page s).2
  byte_perform : ∀ command argument s, command ≠ .ewp ∧ command ≠ .wp ∨
    (efc.perform command argument s).1 ≠ 0 → efc.byte (efc.perform command argument s).2 = efc.byte s

/-- And what they do to the lock bits -/
structure Efc.LockBits (efc : Efc σ) (locked : σ → Nat → Bool) : Prop where
  locked_storeWord : ∀ address w s, locked (efc.storeWord address w s) = locked s
  locked_writeFmr : ∀ fmr s, locked (efc.writeFmr fmr s) = locked s
  locked_reset : ∀ s, locked (efc.reset s) = locked s
  locked_slb : ∀ page s, (efc.perform .slb page s).1 = 0 →
    locked (efc.perform .slb page s).2 = Function.update (locked s) (page / 32) true
  locked_clb : ∀ page s, (efc.perform .clb page s).1 = 0 →
    locked (efc.perform .clb page s).2 = Function.update (locked s) (page / 32) false
  locked_perform : ∀ command argument s, command ≠ .clb ∧ command ≠ .slb ∨
    (efc.perform command argument s).1 ≠ 0 → locked (efc.perform command argument s).2 = locked s

/-- A controller whose only error is `FLOCKE`: a page of a locked region was to be written. -/
structure Efc.Honours (efc : Efc σ) (locked : σ → Nat → Bool) : Prop
    extends efc.Commands, efc.LockBits locked where
  ewp_answer : ∀ page s, (efc.perform .ewp page s).1 = if locked s (page / 32) then 4 else 0
  slb_answer : ∀ page s, (efc.perform .slb page s).1 = 0
  clb_answer : ∀ page s, (efc.perform .clb page s).1 = 0

/-- The flash as a memory in lockable regions -/
def Efc.view (efc : Efc σ) (locked : σ → Nat → Bool) (s : σ) : Store UInt8 where
  bytes := efc.byte s
  locked := locked s

theorem lockRegion_page (page : Nat) {k : Nat} (inPage : k < 256) :
    lockRegion (pageAddress page + k) = page / 32 := by
  simp only [lockRegion, pageAddress]
  omega

theorem Efc.writePages_nil (efc : Efc σ) (erase : Bool) (page offset : Nat) (s : σ) :
    efc.writePages erase page offset [] s = (0, s) := by
  rw [writePages, if_pos rfl]

/-- A turn of the loop is stores to the latch buffer, and one command. -/
theorem Efc.writePage_issue (efc : Efc σ) (page offset : Nat) (bytes : List UInt8) (s : σ) :
    ∃ ws, efc.writePage true page offset bytes s =
      efc.perform .ewp page (efc.storeWords (pageAddress page) ws s) := ⟨_, rfl⟩

/-- A page is written, or nothing is. -/
theorem Efc.Commands.byte_writePage {efc : Efc σ} (commands : efc.Commands) (page : Nat) {offset : Nat}
    {bytes : List UInt8} (s : σ) (room : offset + bytes.length ≤ 256) :
    efc.byte (efc.writePage true page offset bytes s).2 =
      if (efc.writePage true page offset bytes s).1 = 0 then
        Bytes.put (efc.byte s) (pageAddress page + offset) bytes
      else efc.byte s := by
  by_cases done : (efc.writePage true page offset bytes s).1 = 0
  · rw [if_pos done]
    apply commands.latches.byte_writePage page room
    intro t same
    rw [← same] at done
    exact commands.byte_ewp page t done
  · obtain ⟨ws, issue⟩ := efc.writePage_issue page offset bytes s
    rw [if_neg done]
    rw [issue] at done ⊢
    rw [commands.byte_perform _ _ _ (.inr done), commands.latches.byte_storeWords]

namespace Efc.LockBits

variable {efc : Efc σ} {locked : σ → Nat → Bool} (lockBits : efc.LockBits locked)

include lockBits

theorem locked_storeWords (address : Nat) (ws : List UInt32) (s : σ) :
    locked (efc.storeWords address ws s) = locked s := by
  induction ws generalizing address s with
  | nil => rfl
  | cons w ws inductionHypothesis => rw [storeWords, inductionHypothesis, lockBits.locked_storeWord]

theorem locked_writePage (page offset : Nat) (bytes : List UInt8) (s : σ) :
    locked (efc.writePage true page offset bytes s).2 = locked s := by
  obtain ⟨ws, issue⟩ := efc.writePage_issue page offset bytes s
  rw [issue, lockBits.locked_perform _ _ _ (.inl (by decide)), lockBits.locked_storeWords]

end Efc.LockBits

namespace Efc.Honours

variable {efc : Efc σ} {locked : σ → Nat → Bool} (honours : efc.Honours locked)

include honours

theorem setWaitState_effect (fws : UInt32) (s : σ) :
    efc.view locked (efc.setWaitState fws s) = efc.view locked s := by
  simp only [view, setWaitState, honours.byte_writeFmr, honours.locked_writeFmr]

theorem writePage_answer (page offset : Nat) (bytes : List UInt8) (s : σ) :
    (efc.writePage true page offset bytes s).1 = if locked s (page / 32) then 4 else 0 := by
  simp only [writePage, if_true, honours.ewp_answer, honours.locked_storeWords]

/-- The loop of `flash_write` writes up to the first page of a locked region. -/
theorem writePages_refines (page offset : Nat) (bytes : List UInt8) (s : σ) (inPage : offset < 256)
    (inFlash : 256 * page + (offset + bytes.length) ≤ 0x20000) :
    let op := Locks.Op.write (pageAddress page + offset) bytes
    efc.view locked (efc.writePages true page offset bytes s).2 =
        (efc.view locked s).step lockRegion op ∧
      ((efc.writePages true page offset bytes s).1 = 0 ↔ (efc.view locked s).Completes lockRegion op) := by
  by_cases done : bytes = []
  · rw [writePages, if_pos done, done]
    exact ⟨rfl, iff_of_true rfl rfl⟩
  have some : 0 < bytes.length := List.length_pos_of_ne_nil done
  have answer := honours.writePage_answer page offset (bytes.take (min (256 - offset) bytes.length)) s
  have room : offset + (bytes.take (min (256 - offset) bytes.length)).length ≤ 256 := by
    rw [List.length_take]
    omega
  have effect := honours.byte_writePage page s room
  have locks := honours.locked_writePage page offset (bytes.take (min (256 - offset) bytes.length)) s
  have here := lockRegion_page page inPage
  rw [writePages, if_neg done]
  cases isLocked : locked s (page / 32) with
  | true =>
    -- the controller refuses the first page
    rw [isLocked, if_pos rfl] at answer
    have refused : (4 : UInt32) ≠ 0 := by decide
    rw [answer, if_neg refused] at effect
    have none : reach lockRegion (locked s) (pageAddress page + offset) bytes.length = 0 :=
      reach_locked (by rw [here, isLocked]) _
    simp only [answer, refused, ne_eq, not_false_eq_true, if_true, view, Store.step, Store.Completes, none,
      List.take_zero, Bytes.put_nil, effect, locks, true_and]
    exact iff_of_false not_false (by omega)
  | false =>
    rw [isLocked, if_neg Bool.false_ne_true] at answer
    rw [answer, if_pos rfl] at effect
    have opened (n : Nat) (inside : offset + n ≤ 256) :
        ∀ k < n, locked s (lockRegion (pageAddress page + offset + k)) = false := by
      intro k less
      rw [Nat.add_assoc, lockRegion_page page (by omega), isLocked]
    by_cases last : bytes.length ≤ 256 - offset
    · -- the page takes all that is left
      have all := reach_open (opened bytes.length (by omega))
      rw [Nat.min_eq_right last, List.take_length] at answer effect locks
      rw [Nat.min_eq_right last]
      simp only [List.take_length, List.drop_length, answer, ne_eq, not_true_eq_false, if_false,
        writePages_nil, view, Store.step, Store.Completes, all, effect, locks, and_self]
    · have taken : (bytes.take (256 - offset)).length = 256 - offset := List.length_take_of_le (by omega)
      have left : (bytes.drop (256 - offset)).length = bytes.length - (256 - offset) := List.length_drop
      have fits : 256 * (page + 1) + (0 + (bytes.drop (256 - offset)).length) ≤ 0x20000 := by
        rw [left]
        omega
      have nextPage : (page + 1) % 65536 = page + 1 := Nat.mod_eq_of_lt (by omega)
      have next : pageAddress (page + 1) + 0 = pageAddress page + offset + (256 - offset) := by
        simp only [pageAddress]
        omega
      have total : bytes.length = 256 - offset + (bytes.drop (256 - offset)).length := by
        rw [left]
        omega
      have past := reach_add (opened (256 - offset) (by omega)) (bytes.drop (256 - offset)).length
      rw [← total, ← next] at past
      rw [Nat.min_eq_left (Nat.le_of_not_le last)] at answer effect locks
      have rest := writePages_refines (page + 1) 0 (bytes.drop (256 - offset))
        (efc.writePage true page offset (bytes.take (256 - offset)) s).2 (by decide) fits
      have split := Bytes.put_append (efc.byte s) (pageAddress page + offset) (bytes.take (256 - offset))
      rw [taken, ← next] at split
      rw [Nat.min_eq_left (Nat.le_of_not_le last), nextPage]
      simp only [answer, ne_eq, not_true_eq_false, if_false]
      simp only [view, Store.step, Store.Completes, effect, locks] at rest ⊢
      obtain ⟨memory, ends⟩ := rest
      refine ⟨?_, ends.trans ?_⟩
      · rw [memory, past, List.take_add, split]
      · rw [past]
        omega
termination_by bytes.length
decreasing_by omega

/-- `flash_write` writes up to the first locked region, and succeeds if it meets none. -/
theorem flashWrite_refines (burst : Burst) (s : σ) :
    let op := Locks.Op.write burst.address burst.bytes
    efc.view locked (efc.flashWrite burst.address burst.bytes true s).2 =
        (efc.view locked s).step lockRegion op ∧
      ((efc.flashWrite burst.address burst.bytes true s).1 = 0 ↔
        (efc.view locked s).Completes lockRegion op) := by
  obtain ⟨address, bytes, low, high⟩ := burst
  have page : (address - iflashAddr) / 256 % 65536 = (address - iflashAddr) / 256 := by
    simp only [iflashAddr] at low high ⊢
    omega
  have back : pageAddress ((address - iflashAddr) / 256) + (address - iflashAddr) % 256 = address := by
    simp only [pageAddress]
    omega
  have spec := honours.writePages_refines ((address - iflashAddr) / 256) ((address - iflashAddr) % 256) bytes
    (efc.setWaitState 6 s) (by omega) (by simp only [iflashAddr] at low high ⊢; omega)
  rw [back, honours.setWaitState_effect] at spec
  obtain ⟨memory, ends⟩ := spec
  simp only [flashWrite, translateAddress, page]
  by_cases failed : (efc.writePages true ((address - iflashAddr) / 256) ((address - iflashAddr) % 256) bytes
      (efc.setWaitState 6 s)).1 = 0
  · simp only [failed, ne_eq, not_true_eq_false, if_false, honours.setWaitState_effect, memory, true_and]
    exact iff_of_true trivial (ends.mp failed)
  · simp only [failed, ne_eq, not_false_eq_true, if_true, memory, true_and]
    exact iff_of_false id fun completes => failed (ends.mpr completes)

/-! ## Locks -/

/-- One command on a page of each of the regions that follow one another -/
theorem performAll_set (lock : Bool) (first n : Nat) (s : σ) :
    let done := efc.performAll (if lock then .slb else .clb) (List.range' (32 * first) n 32) s
    done.1 = 0 ∧ efc.view locked done.2 =
      { efc.view locked s with
        locked := fun r => if first ≤ r ∧ r < first + n then lock else locked s r } := by
  induction n generalizing first s with
  | zero =>
    refine ⟨rfl, ?_⟩
    simp only [view, Store.mk.injEq]
    refine ⟨rfl, funext fun r => ?_⟩
    have outside : ¬ (first ≤ r ∧ r < first + 0) := by omega
    exact (if_neg outside).symm
  | succ n inductionHypothesis =>
    have answer : (efc.perform (if lock then .slb else .clb) (32 * first) s).1 = 0 := by
      cases lock with
      | true => exact honours.slb_answer _ s
      | false => exact honours.clb_answer _ s
    have byte : efc.byte (efc.perform (if lock then .slb else .clb) (32 * first) s).2 = efc.byte s := by
      apply honours.byte_perform
      cases lock <;> exact .inl (by decide)
    have locks : locked (efc.perform (if lock then .slb else .clb) (32 * first) s).2 =
        Function.update (locked s) first lock := by
      have region : 32 * first / 32 = first := Nat.mul_div_cancel_left first (by decide)
      cases lock with
      | true =>
        have set := honours.locked_slb (32 * first) s answer
        rwa [region] at set
      | false =>
        have set := honours.locked_clb (32 * first) s answer
        rwa [region] at set
    have rest := inductionHypothesis (first + 1) (efc.perform (if lock then .slb else .clb) (32 * first) s).2
    rw [show 32 * (first + 1) = 32 * first + 32 from rfl] at rest
    rw [List.range'_succ]
    simp only [performAll, answer, ne_eq, not_true_eq_false, if_false]
    refine ⟨rest.1, rest.2.trans ?_⟩
    simp only [view, byte, Store.mk.injEq, true_and]
    funext r
    rw [locks]
    by_cases here : r = first
    · subst here
      rw [if_neg (by omega), if_pos (by omega), Function.update_self]
    · rw [Function.update_of_ne here]
      by_cases inside : first + 1 ≤ r ∧ r < first + 1 + n
      · rw [if_pos inside, if_pos (by omega)]
      · rw [if_neg inside, if_neg (by omega)]

theorem onRegions_refines (lock : Bool) (span : Span) (s : σ) :
    let done := efc.onRegions (if lock then .slb else .clb) span.first span.last s
    done.1 = 0 ∧
      efc.view locked done.2 = (efc.view locked s).step lockRegion (.set lock span.first span.last) := by
  obtain ⟨first, last, low, ordered, high⟩ := span
  have startPage : (translateAddress (computeLockRange first last).1).1 = 32 * lockRegion first := by
    simp only [translateAddress, computeLockRange, lockRegion, iflashAddr] at low high ⊢
    omega
  have pages : ((translateAddress (computeLockRange first last).2).1 -
      (translateAddress (computeLockRange first last).1).1 + 31) / 32 =
        lockRegion last - lockRegion first + 1 := by
    simp only [translateAddress, computeLockRange, lockRegion, iflashAddr] at low ordered high ⊢
    omega
  have regions : lockRegion first ≤ lockRegion last := by
    simp only [lockRegion]
    omega
  obtain ⟨answer, memory⟩ := honours.performAll_set lock (lockRegion first)
    (lockRegion last - lockRegion first + 1) s
  simp only [onRegions, pages]
  rw [startPage]
  refine ⟨answer, memory.trans ?_⟩
  simp only [view, Store.step, Store.mk.injEq, true_and]
  funext r
  by_cases inside : lockRegion first ≤ r ∧ r ≤ lockRegion last
  · rw [if_pos (by omega), if_pos inside]
  · rw [if_neg (by omega), if_neg inside]

/-- Every call does what it is for. -/
theorem call_refines (s : σ) (call : FlashCall) :
    efc.view locked (efc.call s call).2 = (efc.view locked s).step lockRegion call.op ∧
      ((efc.call s call).1 = 0 ↔ (efc.view locked s).Completes lockRegion call.op) := by
  cases call with
  | lock span =>
    obtain ⟨answer, memory⟩ := honours.onRegions_refines true span s
    exact ⟨memory, iff_of_true answer trivial⟩
  | unlock span =>
    obtain ⟨answer, memory⟩ := honours.onRegions_refines false span s
    exact ⟨memory, iff_of_true answer trivial⟩
  | write burst => exact honours.flashWrite_refines burst s

theorem refines_store : Refines (fun s call => (efc.call s call).2) (Store.step lockRegion) (fun _ => True)
    (efc.view locked) (fun _ call => [call.op]) where
  keeps _ _ _ := trivial
  agrees s call _ := (honours.call_refines s call).1

end Efc.Honours

theorem translate_calls (efc : Efc σ) (s : σ) (calls : List FlashCall) :
    translate (fun s call => (efc.call s call).2) (fun _ call => [call.op]) s calls =
      calls.map FlashCall.op := by
  induction calls generalizing s with
  | nil => rfl
  | cons call calls inductionHypothesis =>
    rw [translate_cons, inductionHypothesis]
    rfl

/-- Over a controller that honours its lock bits, any calls of the flash service one after the other
    leave the flash and the locks as the same operations leave a memory in lockable regions, and each
    reports success exactly if it has done all that it was asked for.  What is locked keeps its bytes
    until a call unlocks it. -/
theorem flash_service_refines {efc : Efc σ} {locked : σ → Nat → Bool} (honours : efc.Honours locked)
    (s : σ) (calls : List FlashCall) :
    let serve := fun s call => (efc.call s call).2
    efc.view locked (run serve s calls) =
        run (Store.step lockRegion) (efc.view locked s) (calls.map FlashCall.op) ∧
      Throughout serve (fun s call =>
        (efc.call s call).1 = 0 ↔ (efc.view locked s).Completes lockRegion call.op) s calls ∧
      ∀ r, locked s r = true → (∀ call ∈ calls, ¬ call.op.Unlocks lockRegion r) →
        ∀ a, lockRegion a = r → efc.byte (run serve s calls) a = efc.byte s a := by
  intro serve
  have memory : efc.view locked (run serve s calls) =
      run (Store.step lockRegion) (efc.view locked s) (calls.map FlashCall.op) := by
    have refined : efc.view locked (run serve s calls) = run (Store.step lockRegion) (efc.view locked s)
        (translate serve (fun _ call => [call.op]) s calls) := honours.refines_store.run trivial calls
    exact refined.trans (congrArg _ (translate_calls efc s calls))
  refine ⟨memory, fun done call _ => (honours.call_refines _ call).2, fun r isLocked keeps a inRegion => ?_⟩
  have never : ∀ op ∈ calls.map FlashCall.op, ¬ op.Unlocks lockRegion r := by
    intro op member
    obtain ⟨call, called, rfl⟩ := List.mem_map.mp member
    exact keeps call called
  have kept := (locked_kept (s := efc.view locked s) isLocked never).2 a inRegion
  rw [← memory] at kept
  exact kept

/-! ## A chip that honours its locks -/

/-- A write into a locked region is refused, and nothing else is. -/
def honouringChip (uid : Nat → UInt32) : Efc LockingChip where
  fmr chip := chip.fmr
  writeFmr fmr chip := { chip with fmr := fmr }
  perform command argument chip :=
    if (command = .ewp ∨ command = .wp) ∧ chip.locked (argument / 32) = true then (4, chip)
    else (0, chip.carryOut argument command)
  storeWord address w chip := { chip with latch := Function.update chip.latch (address / 4 % 64) w }
  latched chip := chip.latch
  byte chip := chip.bytes
  readBuff _ := uid
  reset chip := { chip with fmr := 0 }

theorem honouringChip_honours (uid : Nat → UInt32) : (honouringChip uid).Honours LockingChip.locked where
  latches := ⟨fun _ _ _ => rfl, fun _ _ _ => rfl⟩
  byte_writeFmr _ _ := rfl
  byte_reset _ := rfl
  byte_ewp page s done a := by
    cases isLocked : s.locked (page / 32) with
    | true => simp [honouringChip, isLocked] at done
    | false => simp [honouringChip, isLocked, LockingChip.carryOut]
  byte_perform command argument s other := by
    cases command with
    | ewp | wp =>
      cases isLocked : s.locked (argument / 32) with
      | true => simp [honouringChip, isLocked]
      | false => simp [honouringChip, isLocked] at other
    | slb | clb | stui | spui => rfl
  locked_storeWord _ _ _ := rfl
  locked_writeFmr _ _ := rfl
  locked_reset _ := rfl
  locked_slb _ _ _ := rfl
  locked_clb _ _ _ := rfl
  locked_perform command argument s other := by
    cases command with
    | ewp | wp => cases isLocked : s.locked (argument / 32) <;> simp [honouringChip, isLocked, LockingChip.carryOut]
    | slb | clb => simp [honouringChip] at other
    | stui | spui => rfl
  ewp_answer page s := by
    cases isLocked : s.locked (page / 32) <;> simp [honouringChip, isLocked]
  slb_answer _ _ := rfl
  clb_answer _ _ := rfl

/-- Two pages in the middle of the flash, the second of which belongs to a region that stays locked -/
theorem flash_service_refines_half :
    let serve := fun s call => ((honouringChip fun _ => 0).call s call).2
    let unlock := FlashCall.unlock ⟨0x80000, 0x81FFF, by decide, by decide, by decide⟩
    let write := FlashCall.write ⟨0x81FF0, List.replicate 32 7, by decide, by decide⟩
    (run serve {} [unlock, write]).bytes 0x81FFF = 7 ∧ (run serve {} [unlock, write]).bytes 0x82000 = 0xFF := by
  intro serve unlock write
  obtain ⟨memory, -, kept⟩ :=
    flash_service_refines (honouringChip_honours fun _ => 0) {} [unlock, write]
  have keeps : ∀ call ∈ [unlock, write], ¬ call.op.Unlocks lockRegion 1 := by
    simp [unlock, write, FlashCall.op, Locks.Op.Unlocks, lockRegion, iflashAddr]
  exact ⟨(congrFun (congrArg Store.bytes memory) 0x81FFF).trans (by decide +kernel),
    kept 1 rfl keeps 0x82000 (by decide)⟩

end M1k.Control
