import M1k.Control.Flash

/-! # Stores that fail

`store_flash_table` issues three commands to the flash controller: to unlock the region of the
table, to write its page, and to lock the region again.  It returns at the first error, and none
of its exits undoes what has been done by then. -/

namespace M1k.Control

open Library

variable {σ : Type*}

/-- The lock region that the page of the table belongs to -/
def tableRegion : Nat := 15

/-- What the controller is documented to do when commands may fail: `errors n` is what the n-th
    command is answered with, and a command that is answered with an error has not been carried
    out.  `issued` counts the commands, `locked` are the lock bits. -/
structure Efc.Fallible (efc : Efc σ) (uid : Nat → UInt32) (issued : σ → Nat)
    (locked : σ → Nat → Bool) (errors : Nat → UInt32) : Prop where
  answers : ∀ command argument s, (efc.perform command argument s).1 = errors (issued s)
  issued_perform : ∀ command argument s,
    issued (efc.perform command argument s).2 = issued s + 1
  issued_storeWord : ∀ address w s, issued (efc.storeWord address w s) = issued s
  issued_writeFmr : ∀ fmr s, issued (efc.writeFmr fmr s) = issued s
  latches : efc.Latches
  byte_writeFmr : ∀ fmr s, efc.byte (efc.writeFmr fmr s) = efc.byte s
  byte_ewp : ∀ page s, (efc.perform .ewp page s).1 = 0 →
    efc.Stores page s (efc.perform .ewp page s).2
  byte_perform : ∀ command argument s, command ≠ .ewp ∧ command ≠ .wp ∨
    (efc.perform command argument s).1 ≠ 0 → efc.byte (efc.perform command argument s).2 = efc.byte s
  locked_storeWord : ∀ address w s, locked (efc.storeWord address w s) = locked s
  locked_writeFmr : ∀ fmr s, locked (efc.writeFmr fmr s) = locked s
  locked_clb : ∀ page s, (efc.perform .clb page s).1 = 0 →
    locked (efc.perform .clb page s).2 = Function.update (locked s) (page / 32) false
  locked_slb : ∀ page s, (efc.perform .slb page s).1 = 0 →
    locked (efc.perform .slb page s).2 = Function.update (locked s) (page / 32) true
  locked_perform : ∀ command argument s, command ≠ .clb ∧ command ≠ .slb ∨
    (efc.perform command argument s).1 ≠ 0 → locked (efc.perform command argument s).2 = locked s
  readBuff_stui : ∀ s k, k < 4 → efc.readBuff (efc.perform .stui 0 s).2 k = uid k

/-- The table, its page and the serial number all come from one table. -/
structure Reflects (efc : Efc σ) (uid : Nat → UInt32) (table serial : Nat → UInt8) (s : σ) : Prop where
  page : ∀ i < 256, efc.byte s (flashTableBase + i) = table i
  serial : ∀ i, (inside : i < (serialDigits table uid).length) → serial i = (serialDigits table uid)[i]

/-- After a store of `table` the region is locked, and the table, its page and the serial number
    either all reflect the new table, or are all as they were: `before` is the table before the
    write request. -/
structure Consistent (efc : Efc σ) (uid : Nat → UInt32) (locked : σ → Nat → Bool)
    (before table serial : Nat → UInt8) (s : σ) : Prop where
  locked : locked (storeFlashTable efc table serial s).2 tableRegion = true
  agree : Reflects efc uid table (storeFlashTable efc table serial s).1
      (storeFlashTable efc table serial s).2 ∨
    (∀ i < 256, table i = before i) ∧
      (∀ i < 256, efc.byte (storeFlashTable efc table serial s).2 (flashTableBase + i) =
        efc.byte s (flashTableBase + i)) ∧
      (storeFlashTable efc table serial s).1 = serial

/-- The commands that lock and unlock the table go to one page. -/
theorem onRegions_table (efc : Efc σ) (command : FlashCommand) (s : σ) :
    efc.onRegions command flashTableBase (flashTableBase + 256 - 1) s = efc.perform command 480 s := by
  have pages : List.range' (translateAddress (computeLockRange flashTableBase
      (flashTableBase + 256 - 1)).1).1
      (((translateAddress (computeLockRange flashTableBase (flashTableBase + 256 - 1)).2).1 -
        (translateAddress (computeLockRange flashTableBase
          (flashTableBase + 256 - 1)).1).1 + 31) / 32) 32 = [480] := by decide
  rw [Efc.onRegions, pages, Efc.performAll]
  split_ifs with failed
  · rfl
  · rw [Efc.performAll]
    exact Prod.ext (not_not.mp failed).symm rfl

namespace Efc.Fallible

variable {efc : Efc σ} {uid : Nat → UInt32} {issued : σ → Nat} {locked : σ → Nat → Bool}
  {errors : Nat → UInt32} (fallible : efc.Fallible uid issued locked errors)

include fallible

theorem issued_storeWords (address : Nat) (ws : List UInt32) (s : σ) :
    issued (efc.storeWords address ws s) = issued s := by
  induction ws generalizing address s with
  | nil => rfl
  | cons w ws ih => rw [storeWords, ih, fallible.issued_storeWord]

theorem locked_storeWords (address : Nat) (ws : List UInt32) (s : σ) :
    locked (efc.storeWords address ws s) = locked s := by
  induction ws generalizing address s with
  | nil => rfl
  | cons w ws ih => rw [storeWords, ih, fallible.locked_storeWord]

/-- What a command leaves that is not carried out, or has nothing to do with pages and locks. -/
theorem perform_failed (command : FlashCommand) (argument : Nat) {s : σ}
    (failed : errors (issued s) ≠ 0) : efc.byte (efc.perform command argument s).2 = efc.byte s ∧
      locked (efc.perform command argument s).2 = locked s := by
  rw [← fallible.answers command argument s] at failed
  exact ⟨fallible.byte_perform _ _ _ (.inr failed), fallible.locked_perform _ _ _ (.inr failed)⟩

/-- The one page that `flash_write` writes for the table. -/
theorem writePage_table (bytes : List UInt8) (s : σ) (whole : bytes.length = 256) :
    (efc.writePage true 511 0 bytes s).1 = errors (issued s) ∧
      issued (efc.writePage true 511 0 bytes s).2 = issued s + 1 ∧
      locked (efc.writePage true 511 0 bytes s).2 = locked s ∧
      efc.byte (efc.writePage true 511 0 bytes s).2 =
        if errors (issued s) = 0 then Bytes.put (efc.byte s) flashTableBase bytes else efc.byte s := by
  have issue : ∃ ws, efc.writePage true 511 0 bytes s =
      efc.perform .ewp 511 (efc.storeWords (pageAddress 511) ws s) := ⟨_, rfl⟩
  obtain ⟨ws, issue⟩ := issue
  have answer : (efc.writePage true 511 0 bytes s).1 = errors (issued s) := by
    rw [issue, fallible.answers, fallible.issued_storeWords]
  refine ⟨answer, ?_, ?_, ?_⟩
  · rw [issue, fallible.issued_perform, fallible.issued_storeWords]
  · rw [issue, fallible.locked_perform _ _ _ (.inl (by decide)), fallible.locked_storeWords]
  · split_ifs with done
    · have written := fallible.latches.byte_writePage 511 (s := s)
        (show 0 + bytes.length ≤ 256 by omega) fun t same => by
          apply fallible.byte_ewp
          rw [same, answer, done]
      exact written
    · rw [← answer, issue] at done
      rw [issue, fallible.byte_perform _ _ _ (.inr done), fallible.latches.byte_storeWords]

theorem flashWrite_table (bytes : List UInt8) (s : σ) (whole : bytes.length = 256) :
    (efc.flashWrite flashTableBase bytes true s).1 = errors (issued s) ∧
      issued (efc.flashWrite flashTableBase bytes true s).2 = issued s + 1 ∧
      locked (efc.flashWrite flashTableBase bytes true s).2 = locked s ∧
      efc.byte (efc.flashWrite flashTableBase bytes true s).2 =
        if errors (issued s) = 0 then Bytes.put (efc.byte s) flashTableBase bytes else efc.byte s := by
  have at_ : translateAddress flashTableBase = (511, 0) := by decide
  have some : bytes ≠ [] := by
    intro none
    rw [none] at whole
    cases whole
  -- the table is one page, so that the loop writes a single one
  have one : efc.writePages true 511 0 bytes (efc.setWaitState 6 s) =
      efc.writePage true 511 0 bytes (efc.setWaitState 6 s) := by
    have all : min (256 - 0) bytes.length = bytes.length := by omega
    rw [writePages, if_neg some, all]
    simp only [List.take_length, List.drop_length]
    split_ifs with failed
    · rfl
    · rw [writePages, if_pos rfl]
      exact Prod.ext (not_not.mp failed).symm rfl
  obtain ⟨answer, count, locks, page⟩ :=
    fallible.writePage_table bytes (efc.setWaitState 6 s) whole
  have start : issued (efc.setWaitState 6 s) = issued s := fallible.issued_writeFmr _ _
  rw [start] at answer count page
  rw [show locked (efc.setWaitState 6 s) = locked s from fallible.locked_writeFmr _ _] at locks
  rw [show efc.byte (efc.setWaitState 6 s) = efc.byte s from fallible.byte_writeFmr _ _] at page
  have result : efc.flashWrite flashTableBase bytes true s =
      if (efc.writePage true 511 0 bytes (efc.setWaitState 6 s)).1 ≠ 0 then
        efc.writePage true 511 0 bytes (efc.setWaitState 6 s)
      else (0, efc.setWaitState (efc.getWaitState s)
        (efc.writePage true 511 0 bytes (efc.setWaitState 6 s)).2) := by
    simp only [flashWrite, at_, one]
  rw [result]
  by_cases failed : (efc.writePage true 511 0 bytes (efc.setWaitState 6 s)).1 ≠ 0
  · rw [if_pos failed]
    exact ⟨answer, count, locks, page⟩
  · rw [if_neg failed]
    simp only [setWaitState, fallible.issued_writeFmr, fallible.locked_writeFmr, fallible.byte_writeFmr]
    exact ⟨(not_not.mp failed).symm.trans answer, count, locks, page⟩

/-- The unique identifier is read without a page or a lock being touched. -/
theorem readUniqueId_kept (s : σ) : efc.byte (efc.readUniqueId s).2 = efc.byte s ∧
    locked (efc.readUniqueId s).2 = locked s := by
  constructor
  · simp only [readUniqueId, fallible.byte_writeFmr]
    rw [fallible.byte_perform _ _ _ (.inl (by decide)),
      fallible.byte_perform _ _ _ (.inl (by decide)), fallible.byte_writeFmr]
  · simp only [readUniqueId, fallible.locked_writeFmr]
    rw [fallible.locked_perform _ _ _ (.inl (by decide)),
      fallible.locked_perform _ _ _ (.inl (by decide)), fallible.locked_writeFmr]

theorem flashInit_kept (s : σ) : issued (efc.flashInit 0 6 s) = issued s ∧
    locked (efc.flashInit 0 6 s) = locked s ∧ efc.byte (efc.flashInit 0 6 s) = efc.byte s :=
  ⟨fallible.issued_writeFmr _ _, fallible.locked_writeFmr _ _, fallible.byte_writeFmr _ _⟩

/-- The region cannot be unlocked: nothing is done. -/
theorem store_refused (table serial : Nat → UInt8) {s : σ} (failed : errors (issued s) ≠ 0) :
    (storeFlashTable efc table serial s).1 = serial ∧
      efc.byte (storeFlashTable efc table serial s).2 = efc.byte s ∧
      locked (storeFlashTable efc table serial s).2 = locked s := by
  obtain ⟨count, locks, bytes⟩ := fallible.flashInit_kept s
  have answer := fallible.answers .clb 480 (efc.flashInit 0 6 s)
  rw [count] at answer
  have kept := fallible.perform_failed .clb 480 (s := efc.flashInit 0 6 s) (by rwa [count])
  rw [locks, bytes] at kept
  simp only [storeFlashTable, flashUnlock, onRegions_table, answer, ne_eq, failed, not_false_eq_true,
    if_true]
  exact ⟨trivial, kept.1, kept.2⟩

/-- What the two last commands find, once the region is unlocked. -/
theorem store_unlocked (table serial : Nat → UInt8) {s : σ} (unlocked : errors (issued s) = 0) :
    ∃ written : UInt32 × σ, storeFlashTable efc table serial s =
        (if written.1 ≠ 0 then (serial, written.2)
        else if (efc.perform .slb 480 written.2).1 ≠ 0 then
          (serial, (efc.perform .slb 480 written.2).2)
        else initBuildUsbSerialNumber efc table serial (efc.perform .slb 480 written.2).2) ∧
      written.1 = errors (issued s + 1) ∧ issued written.2 = issued s + 2 ∧
      locked written.2 tableRegion = false ∧
      (errors (issued s + 1) = 0 →
        efc.byte written.2 = Bytes.put (efc.byte s) flashTableBase (Bytes.slice table 0 256)) := by
  obtain ⟨count, locks, bytes⟩ := fallible.flashInit_kept s
  have answer := fallible.answers .clb 480 (efc.flashInit 0 6 s)
  rw [count, unlocked] at answer
  have opened := fallible.locked_clb 480 (efc.flashInit 0 6 s) answer
  obtain ⟨result, after, region, page⟩ := fallible.flashWrite_table (Bytes.slice table 0 256)
    (efc.perform .clb 480 (efc.flashInit 0 6 s)).2 (Bytes.slice_length _ _ _)
  rw [fallible.issued_perform, count] at result after page
  refine ⟨efc.flashWrite flashTableBase (Bytes.slice table 0 256) true
    (efc.perform .clb 480 (efc.flashInit 0 6 s)).2, ?_, result, after, ?_, ?_⟩
  · simp only [storeFlashTable, flashUnlock, flashLock, onRegions_table, answer, ne_eq,
      not_true_eq_false, if_false]
  · rw [region, opened]
    exact Function.update_self _ _ _
  · intro done
    rw [page, if_pos done, fallible.byte_perform _ _ _ (.inl (by decide)), bytes]

/-- The page cannot be written or the region cannot be locked: it stays unlocked. -/
theorem store_open (table serial : Nat → UInt8) {s : σ} (unlocked : errors (issued s) = 0)
    (failed : errors (issued s + 1) ≠ 0 ∨ errors (issued s + 2) ≠ 0) :
    locked (storeFlashTable efc table serial s).2 tableRegion = false := by
  obtain ⟨written, store, result, count, region, -⟩ := fallible.store_unlocked table serial unlocked
  have answer := fallible.answers .slb 480 written.2
  rw [count] at answer
  by_cases write : written.1 = 0
  · have lock : errors (issued s + 2) ≠ 0 := by
      apply failed.resolve_left
      rw [← result]
      exact fun error => error write
    have kept := fallible.perform_failed .slb 480 (s := written.2) (by rwa [count])
    rw [store, if_neg (not_not.mpr write), answer, if_pos lock]
    rw [← region]
    exact congrFun kept.2 tableRegion
  · rw [store, if_pos write]
    exact region

/-- All three commands are carried out. -/
theorem store_done (table serial : Nat → UInt8) {s : σ} (unlocked : errors (issued s) = 0)
    (write : errors (issued s + 1) = 0) (lock : errors (issued s + 2) = 0) :
    locked (storeFlashTable efc table serial s).2 tableRegion = true ∧
      efc.byte (storeFlashTable efc table serial s).2 =
        Bytes.put (efc.byte s) flashTableBase (Bytes.slice table 0 256) ∧
      (storeFlashTable efc table serial s).1 = Bytes.put serial 0 (serialDigits table uid) := by
  obtain ⟨written, store, result, count, -, page⟩ := fallible.store_unlocked table serial unlocked
  have answer := fallible.answers .slb 480 written.2
  rw [count, lock] at answer
  have closed := fallible.locked_slb 480 written.2 answer
  rw [write] at result
  rw [store, result, answer]
  simp only [ne_eq, not_true_eq_false, if_false, initBuildUsbSerialNumber]
  obtain ⟨bytes, locks⟩ := fallible.readUniqueId_kept (efc.perform .slb 480 written.2).2
  refine ⟨?_, ?_, ?_⟩
  · rw [locks, closed]
    exact Function.update_self _ _ _
  · rw [bytes, fallible.byte_perform _ _ _ (.inl (by decide)), page write]
  · rw [efc.serialDigits_uid fallible.readBuff_stui]

end Efc.Fallible

/-! ## A chip with lock bits -/

structure LockingChip where
  fmr : UInt32 := 0
  latch : Nat → UInt32 := fun _ => 0
  bytes : Nat → UInt8 := fun _ => 0xFF
  locked : Nat → Bool := fun _ => true
  issued : Nat := 0

/-- A command that is carried out. -/
def LockingChip.carryOut (chip : LockingChip) (page : Nat) : FlashCommand → LockingChip
  | .ewp | .wp =>
    { chip with bytes := fun a =>
        if pageAddress page ≤ a ∧ a < pageAddress page + 256 then
          Bytes.wordByte (chip.latch (a / 4 % 64)) (a % 4)
        else chip.bytes a }
  | .slb => { chip with locked := Function.update chip.locked (page / 32) true }
  | .clb => { chip with locked := Function.update chip.locked (page / 32) false }
  | .stui | .spui => chip

/-- A controller that answers its n-th command with `errors n`. -/
def lockingChip (uid : Nat → UInt32) (errors : Nat → UInt32) : Efc LockingChip where
  fmr chip := chip.fmr
  writeFmr fmr chip := { chip with fmr := fmr }
  perform command argument chip :=
    (errors chip.issued,
      { (if errors chip.issued = 0 then chip.carryOut argument command else chip) with
        issued := chip.issued + 1 })
  storeWord address w chip := { chip with latch := Function.update chip.latch (address / 4 % 64) w }
  latched chip := chip.latch
  byte chip := chip.bytes
  readBuff _ := uid
  reset chip := { chip with fmr := 0 }

theorem lockingChip_fallible (uid : Nat → UInt32) (errors : Nat → UInt32) :
    (lockingChip uid errors).Fallible uid LockingChip.issued LockingChip.locked errors where
  answers _ _ _ := rfl
  issued_perform _ _ _ := rfl
  issued_storeWord _ _ _ := rfl
  issued_writeFmr _ _ := rfl
  latches := ⟨fun _ _ _ => rfl, fun _ _ _ => rfl⟩
  byte_writeFmr _ _ := rfl
  byte_ewp page s done a := by
    have done : errors s.issued = 0 := done
    simp [lockingChip, done, LockingChip.carryOut]
  byte_perform command argument s other := by
    by_cases done : errors s.issued = 0
    · have data := other.resolve_right fun failed => failed done
      cases command <;> simp_all [lockingChip, LockingChip.carryOut]
    · simp [lockingChip, done]
  locked_storeWord _ _ _ := rfl
  locked_writeFmr _ _ := rfl
  locked_clb page s done := by
    have done : errors s.issued = 0 := done
    simp [lockingChip, done, LockingChip.carryOut]
  locked_slb page s done := by
    have done : errors s.issued = 0 := done
    simp [lockingChip, done, LockingChip.carryOut]
  locked_perform command argument s other := by
    by_cases done : errors s.issued = 0
    · have data := other.resolve_right fun failed => failed done
      cases command <;> simp_all [lockingChip, LockingChip.carryOut]
    · simp [lockingChip, done]
  readBuff_stui _ _ _ := rfl

/-! ## What a store leaves -/

/-- A store leaves a consistent device exactly when all its commands succeed, or when the first one
    fails and the table is the one from before, or the one that is stored already. -/
theorem store_consistent_iff {efc : Efc σ} {uid : Nat → UInt32} {issued : σ → Nat}
    {locked : σ → Nat → Bool} {errors : Nat → UInt32}
    (fallible : efc.Fallible uid issued locked errors) (before table serial : Nat → UInt8) (s : σ)
    (closed : locked s tableRegion = true) :
    Consistent efc uid locked before table serial s ↔
      errors (issued s) = 0 ∧ errors (issued s + 1) = 0 ∧ errors (issued s + 2) = 0 ∨
        errors (issued s) ≠ 0 ∧
          ((∀ i < 256, table i = before i) ∨ Reflects efc uid table serial s) := by
  by_cases unlocked : errors (issued s) = 0
  · by_cases rest : errors (issued s + 1) = 0 ∧ errors (issued s + 2) = 0
    · -- all three commands are carried out
      obtain ⟨locks, page, number⟩ := fallible.store_done table serial unlocked rest.1 rest.2
      apply iff_of_true
      · refine ⟨locks, .inl ⟨fun i inside => ?_, fun i inside => ?_⟩⟩
        · have here := Bytes.put_inside (efc.byte s) flashTableBase (Bytes.slice table 0 256) i
            (by rwa [Bytes.slice_length])
          rwa [Bytes.slice_getElem, Nat.zero_add, ← page] at here
        · have here := Bytes.put_inside serial 0 (serialDigits table uid) i inside
          rwa [Nat.zero_add, ← number] at here
      · exact .inl ⟨unlocked, rest⟩
    · -- the region has been unlocked, and a later command fails
      apply iff_of_false
      · intro consistent
        have opened := fallible.store_open table serial unlocked (not_and_or.mp rest)
        rw [consistent.locked] at opened
        cases opened
      · rintro (all | refused)
        · exact rest all.2
        · exact refused.1 unlocked
  · -- the unlock is refused: flash and serial number stay as they were
    obtain ⟨number, page, locks⟩ := fallible.store_refused table serial unlocked
    have same : Reflects efc uid table (storeFlashTable efc table serial s).1
        (storeFlashTable efc table serial s).2 ↔ Reflects efc uid table serial s := by
      rw [number]
      constructor
      · intro new
        exact ⟨fun i inside => by rw [← page]; exact new.page i inside, new.serial⟩
      · intro old
        exact ⟨fun i inside => by rw [page]; exact old.page i inside, old.serial⟩
    constructor
    · intro consistent
      apply Or.inr
      refine ⟨unlocked, ?_⟩
      cases consistent.agree with
      | inl new => exact .inr (same.mp new)
      | inr old => exact .inl old.1
    · intro condition
      obtain ⟨-, condition⟩ := condition.resolve_left fun all => unlocked all.1
      refine ⟨by rw [locks]; exact closed, ?_⟩
      cases condition with
      | inl old => exact .inr ⟨old, fun i _ => by rw [page], number⟩
      | inr new => exact .inl (same.mpr new)

/-- A store whose three commands are carried out. -/
theorem store_consistent_done : Consistent (lockingChip (fun _ => 0) fun _ => 0) (fun _ => 0)
    LockingChip.locked (fun _ => 0) (fun _ => 7) (fun _ => 0) {} :=
  (store_consistent_iff (lockingChip_fallible (fun _ => 0) fun _ => 0) (fun _ => 0) (fun _ => 7)
    (fun _ => 0) {} rfl).mpr (.inl ⟨rfl, rfl, rfl⟩)

/-- The second command, which is to write the page, fails: the region stays unlocked. -/
theorem store_leaves_unlocked :
    LockingChip.locked {} tableRegion = true ∧
      ¬ Consistent (lockingChip (fun _ => 0) fun n => if n = 1 then 2 else 0) (fun _ => 0)
        LockingChip.locked (fun _ => 0) (fun _ => 7) (fun _ => 0) {} := by
  refine ⟨rfl, fun consistent => ?_⟩
  have opened := (lockingChip_fallible (fun _ => 0) fun n => if n = 1 then 2 else 0).store_open
    (fun _ => 7) (fun _ => 0) (s := {}) rfl (.inl (by decide))
  rw [consistent.locked] at opened
  cases opened

end M1k.Control
