import M1k.Control.FlashService
import M1k.Firmware.Containment
import M1k.Flashing.Programming

/-! # The program in the flash

The firmware runs from the flash that it stores its calibration table in.  Whatever it is asked for,
and whatever the flash controller answers, it writes to the last page only, and touches the lock bit
of the region of that page only. -/

namespace M1k

open Library Library.Runs Control

variable {σ : Type*} {efc : Control.Efc σ}

namespace Control

/-! ## What reaches the chip -/

section Chip

variable {P : σ → Prop} (stores : ∀ table serial s, P s → P (storeFlashTable efc table serial s).2)

include stores

theorem endofrequest_chip {d : Device σ} (holds : P d.chip) : P (endofrequest efc d).chip := by
  rw [endofrequest]
  cases d.ctrlreq.callback with
  | none => exact holds
  | some callback =>
    cases callback with
    | storeFlashTable => exact stores _ _ _ holds
    | udc => exact holds

theorem inSent_chip (outNow : Bool) {d : Device σ} (holds : P d.chip) : P (inSent efc outNow d).chip := by
  have sends (nbRemain : Nat) (d : Device σ) : (sendNext outNow nbRemain d).chip = d.chip := by
    cases outNow <;> rfl
  simp only [inSent]
  split_ifs with ends
  · exact endofrequest_chip stores (d := { d with inSendInterrupt := false }) holds
  · exact holds
  · cases d.ctrlreq.overUnderRun with
    | none =>
      rw [sends]
      exact holds
    | some refill => cases refill
  · rw [sends]
    exact holds

omit stores in
theorem outCopied_chip (nbData : Nat) (d : Device σ) : (outCopied nbData d).chip = d.chip := by
  simp only [outCopied]
  split_ifs
  · cases d.ctrlreq.overUnderRun with
    | none => rfl
    | some refill => cases refill
  · cases d.ctrlreq.overUnderRun with
    | none => rfl
    | some refill => cases refill
  · rfl

omit stores in
theorem underflow_chip (outNow : Bool) (d : Device σ) : (underflow outNow d).chip = d.chip := by
  simp only [underflow]
  split_ifs <;> rfl

omit stores in
theorem overflow_chip (inNow : Bool) (d : Device σ) : (overflow inNow d).chip = d.chip := by
  simp only [overflow]
  split_ifs <;> rfl

theorem outReceived_chip (packet : List UInt8) {d : Device σ} (holds : P d.chip) :
    P (outReceived efc packet d).chip := by
  by_cases other : d.state ≠ .dataOut
  · rw [outReceived, if_pos other]
    split_ifs
    · exact endofrequest_chip stores holds
    · exact holds
  · rw [outReceived, if_neg other]
    simp only [outCopied_chip]
    exact holds

theorem interruptRequest_chip {d : Device σ} (holds : P d.chip) : P (interruptRequest efc d).chip := by
  rw [interruptRequest]
  split_ifs
  · exact endofrequest_chip stores holds
  · exact holds

theorem setupReceived_chip (packet : SetupPacket) (outNow : Bool) {d : Device σ} (holds : P d.chip) :
    P (setupReceived efc packet outNow d).chip := by
  have first := interruptRequest_chip stores holds
  simp only [setupReceived]
  split_ifs with short handled
  · exact first
  · rw [startStages]
    split_ifs
    · exact inSent_chip stores outNow first
    · exact first
    · exact first
  · exact first

theorem ctrlInterrupt_chip (status : CtrlStatus) {d : Device σ} (holds : P d.chip) :
    P (ctrlInterrupt efc status d).chip := by
  rw [ctrlInterrupt]
  cases status.setup with
  | some packet => exact setupReceived_chip stores packet status.outNow holds
  | none =>
    by_cases sends : (status.inSent && d.inSendInterrupt) = true
    · simp only [if_pos sends]
      exact inSent_chip stores status.outNow holds
    · simp only [if_neg sends]
      cases status.out with
      | some packet => exact outReceived_chip stores packet holds
      | none =>
        simp only
        split_ifs
        · rwa [overflow_chip]
        · rwa [underflow_chip]
        · exact holds

/-- The control endpoint does nothing to the chip but store the table, and read the identifier when
    `main` starts. -/
theorem step_chip (resets : ∀ s, P s → P (efc.reset s)) (reads : ∀ s, P s → P (efc.readUniqueId s).2)
    {d : Device σ} (holds : P d.chip) (event : Event) : P (step efc d event).chip := by
  cases event with
  | control status => exact ctrlInterrupt_chip stores status holds
  | reset => exact holds
  | reboot pinHigh => exact reads _ (resets _ holds)

end Chip

/-! ## What a store of the table leaves alone -/

/-- The table is one page, so that the loop of `flash_write` writes a single one. -/
theorem Efc.writePages_table (efc : Efc σ) {bytes : List UInt8} (whole : bytes.length = 256) (s : σ) :
    efc.writePages true 511 0 bytes s = efc.writePage true 511 0 bytes s := by
  have some : bytes ≠ [] := by
    intro none
    rw [none] at whole
    cases whole
  have all : min (256 - 0) bytes.length = bytes.length := by omega
  rw [writePages, if_neg some, all]
  simp only [List.take_length, List.drop_length]
  split_ifs with failed
  · rfl
  · rw [efc.writePages_nil]
    exact Prod.ext (not_not.mp failed).symm rfl

/-- The flash has the same bytes but for the page of the table. -/
def ProgramKept (efc : Efc σ) (s s' : σ) : Prop :=
  ∀ a, a < flashTableBase ∨ flashTableBase + 256 ≤ a → efc.byte s' a = efc.byte s a

/-- The same lock bits are set but for the region of the table. -/
def LocksKept (locked : σ → Nat → Bool) (s s' : σ) : Prop := ∀ r, r ≠ tableRegion → locked s' r = locked s r

section Stores

variable {locked : σ → Nat → Bool} (commands : efc.Commands) (lockBits : efc.LockBits locked)

include commands

theorem Efc.Commands.flashWrite_table {bytes : List UInt8} (whole : bytes.length = 256) (s : σ) :
    ProgramKept efc s (efc.flashWrite flashTableBase bytes true s).2 := by
  intro a outside
  have at_ : translateAddress flashTableBase = (511, 0) := by decide
  have page : pageAddress 511 + 0 = flashTableBase := by decide
  have start : efc.byte (efc.setWaitState 6 s) = efc.byte s := commands.byte_writeFmr _ _
  have written := commands.byte_writePage 511 (efc.setWaitState 6 s) (show 0 + bytes.length ≤ 256 by omega)
  rw [start, page] at written
  have same : efc.byte (efc.writePage true 511 0 bytes (efc.setWaitState 6 s)).2 a = efc.byte s a := by
    rw [written]
    split_ifs
    · exact Bytes.put_outside (by omega)
    · rfl
  simp only [Efc.flashWrite, at_, efc.writePages_table whole]
  split_ifs
  · exact same
  · rw [Efc.setWaitState, commands.byte_writeFmr]
    exact same

theorem Efc.Commands.byte_readUniqueId (s : σ) : efc.byte (efc.readUniqueId s).2 = efc.byte s := by
  simp only [Efc.readUniqueId, commands.byte_writeFmr]
  rw [commands.byte_perform _ _ _ (.inl (by decide)), commands.byte_perform _ _ _ (.inl (by decide)),
    commands.byte_writeFmr]

/-- At whichever command a store ends, it has written to the page of the table only. -/
theorem Efc.Commands.storeFlashTable_kept (table serial : Nat → UInt8) (s : σ) :
    ProgramKept efc s (storeFlashTable efc table serial s).2 := by
  intro a outside
  have unlocked (s : σ) : efc.byte (efc.flashUnlock flashTableBase (flashTableBase + 256 - 1) s).2 =
      efc.byte s := by
    rw [Efc.flashUnlock, onRegions_table]
    exact commands.byte_perform _ _ _ (.inl (by decide))
  have locked (s : σ) : efc.byte (efc.flashLock flashTableBase (flashTableBase + 256 - 1) s).2 =
      efc.byte s := by
    rw [Efc.flashLock, onRegions_table]
    exact commands.byte_perform _ _ _ (.inl (by decide))
  have start : efc.byte (efc.flashInit 0 6 s) = efc.byte s := commands.byte_writeFmr _ _
  have written (s : σ) := commands.flashWrite_table (Bytes.slice_length table 0 256) s a outside
  simp only [storeFlashTable]
  split_ifs
  · rw [unlocked, start]
  · rw [written, unlocked, start]
  · rw [locked, written, unlocked, start]
  · rw [initBuildUsbSerialNumber, commands.byte_readUniqueId, locked, written, unlocked, start]

omit commands
include lockBits

theorem Efc.LockBits.flashWrite_table {bytes : List UInt8} (whole : bytes.length = 256) (s : σ) :
    locked (efc.flashWrite flashTableBase bytes true s).2 = locked s := by
  have at_ : translateAddress flashTableBase = (511, 0) := by decide
  have start : locked (efc.setWaitState 6 s) = locked s := lockBits.locked_writeFmr _ _
  simp only [Efc.flashWrite, at_, efc.writePages_table whole]
  split_ifs
  · rw [lockBits.locked_writePage, start]
  · rw [Efc.setWaitState, lockBits.locked_writeFmr, lockBits.locked_writePage, start]

theorem Efc.LockBits.locked_readUniqueId (s : σ) : locked (efc.readUniqueId s).2 = locked s := by
  simp only [Efc.readUniqueId, lockBits.locked_writeFmr]
  rw [lockBits.locked_perform _ _ _ (.inl (by decide)), lockBits.locked_perform _ _ _ (.inl (by decide)),
    lockBits.locked_writeFmr]

/-- A command on page 480 moves the bit of the region of the table, if it moves any. -/
theorem Efc.LockBits.perform_table {command : FlashCommand} (moves : command = .slb ∨ command = .clb)
    (s : σ) : LocksKept locked s (efc.perform command 480 s).2 := by
  intro r other
  by_cases done : (efc.perform command 480 s).1 = 0
  · rcases moves with rfl | rfl
    · rw [lockBits.locked_slb 480 s done]
      exact Function.update_of_ne other _ _
    · rw [lockBits.locked_clb 480 s done]
      exact Function.update_of_ne other _ _
  · rw [lockBits.locked_perform _ _ _ (.inr done)]

theorem Efc.LockBits.storeFlashTable_kept (table serial : Nat → UInt8) (s : σ) :
    LocksKept locked s (storeFlashTable efc table serial s).2 := by
  intro r other
  have unlocked (s : σ) : locked (efc.flashUnlock flashTableBase (flashTableBase + 256 - 1) s).2 r =
      locked s r := by
    rw [Efc.flashUnlock, onRegions_table]
    exact lockBits.perform_table (.inr rfl) s r other
  have relocked (s : σ) : locked (efc.flashLock flashTableBase (flashTableBase + 256 - 1) s).2 r =
      locked s r := by
    rw [Efc.flashLock, onRegions_table]
    exact lockBits.perform_table (.inl rfl) s r other
  have start : locked (efc.flashInit 0 6 s) = locked s := lockBits.locked_writeFmr _ _
  have written (s : σ) := congrFun (lockBits.flashWrite_table (Bytes.slice_length table 0 256) s) r
  simp only [storeFlashTable]
  split_ifs
  · rw [unlocked, start]
  · rw [written, unlocked, start]
  · rw [relocked, written, unlocked, start]
  · rw [initBuildUsbSerialNumber, lockBits.locked_readUniqueId, relocked, written, unlocked, start]

end Stores

end Control

namespace Firmware

/-! ## Every run -/

/-- What the stores, the resets and the readings of the identifier keep holds throughout a run. -/
theorem always_chip {P : σ → Prop} (stores : ∀ table serial s, P s → P (storeFlashTable efc table serial s).2)
    (resets : ∀ s, P s → P (efc.reset s)) (reads : ∀ s, P s → P (efc.readUniqueId s).2) {f : Firmware σ}
    (start : P f.ctrl.chip) (events : List Event) :
    Always (step efc) (fun f => P f.ctrl.chip) f events := by
  intro done _
  have control (d : Control.Device σ) (holds : P d.chip) (events : List Control.Event) :
      P (run (Control.step efc) d events).chip := by
    induction events generalizing d with
    | nil => exact holds
    | cons event events inductionHypothesis =>
      exact inductionHypothesis _ (step_chip stores resets reads holds event)
  rw [(refines_control efc).run trivial done]
  exact control _ start _

theorem always_program (commands : efc.Commands) (powerUp : PowerUp) (chip : σ) (events : List Event) :
    Always (step efc) (fun f => ProgramKept efc chip f.ctrl.chip) (boot efc powerUp chip) events := by
  apply always_chip (P := ProgramKept efc chip)
  · intro table serial s program a outside
    exact (commands.storeFlashTable_kept table serial s a outside).trans (program a outside)
  · intro s program a outside
    rw [commands.byte_reset]
    exact program a outside
  · intro s program a outside
    rw [commands.byte_readUniqueId]
    exact program a outside
  · intro a _
    exact congrFun (commands.byte_readUniqueId chip) a

theorem always_locks {locked : σ → Nat → Bool} (lockBits : efc.LockBits locked) (powerUp : PowerUp)
    (chip : σ) (events : List Event) :
    Always (step efc) (fun f => LocksKept locked chip f.ctrl.chip) (boot efc powerUp chip) events := by
  apply always_chip (P := LocksKept locked chip)
  · intro table serial s locks r other
    exact (lockBits.storeFlashTable_kept table serial s r other).trans (locks r other)
  · intro s locks r other
    rw [lockBits.locked_reset]
    exact locks r other
  · intro s locks r other
    rw [lockBits.locked_readUniqueId]
    exact locks r other
  · intro r _
    exact congrFun (lockBits.locked_readUniqueId chip) r

/-- The transfer of a request that writes one byte of the table -/
def oneByteWritten (value : UInt8) : List Event :=
  [.control { setup := some { req := ⟨0x40, 2, 0, 0, 1⟩ } } {}, .control { out := some [value] } {},
    .control { inSent := true } {}]

theorem commands_of_reliable {uid : Nat → UInt32} (reliable : efc.Reliable uid) : efc.Commands where
  latches := reliable.latches
  byte_writeFmr := reliable.byte_writeFmr
  byte_reset := reliable.byte_reset
  byte_ewp page s _ := reliable.byte_ewp page s
  byte_perform command argument s other := by
    obtain ⟨ewp, wp⟩ := other.resolve_right fun failed => failed (reliable.succeeds command argument s)
    exact reliable.byte_perform command argument s ewp wp

end Firmware

end M1k
