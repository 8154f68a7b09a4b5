import Mathlib.Data.Nat.Bitwise

/-! # The sample interrupt

The state the sample timer's interrupt reads and writes (`main.h`) and `TC2_Handler`
itself.  Addresses of the packet buffers are kept as array and word index, so that
what a DMA channel was programmed with can be read off its register. -/

namespace M1k

/-- `#define A 0`, `#define B 1`: the values of `current_chan`. -/
inductive Chan where
  | A
  | B
  deriving DecidableEq

/-- `current_chan ^= true` -/
def Chan.toggle : Chan → Chan
  | .A => .B
  | .B => .A

/-- What the sampling code takes the address of. -/
inductive Ptr where
  | null
  /-- `&packets_in[packet][word]` -/
  | packetsIn (packet word : Nat)
  /-- `&packets_out[packet][word]` -/
  | packetsOut (packet word : Nat)
  | v1AdcConf
  | i1AdcConf
  | v2AdcConf
  | i2AdcConf
  | da
  | db
  deriving DecidableEq

/-- The peripheral DMA registers of one USART. -/
structure Pdc where
  rpr : Ptr := .null
  rcr : Nat := 0
  tpr : Ptr := .null
  tcr : Nat := 0
  tnpr : Ptr := .null
  tncr : Nat := 0
  deriving DecidableEq

/-- The variables of `main.h` and `main.c` that `TC2_Handler` uses, with the registers it
    writes.  The main loop and the 0xC5 request share them. -/
structure Sampler where
  currentChan : Chan := .A
  slotOffsetIn : UInt8 := 0
  slotOffsetOut : UInt8 := 0
  packetIndexIn : UInt32 := 0
  packetIndexOut : UInt32 := 0
  packetIndexSendIn : UInt32 := 0
  packetIndexSendOut : UInt32 := 0
  sendIn : Bool := false
  sendOut : Bool := false
  notANewTransfer : UInt8 := 0
  /-- Level of the DAC's `N_SYNC` line. -/
  nSync : Bool := true
  usart0 : Pdc := {}
  usart1 : Pdc := {}
  usart2 : Pdc := {}
  deriving DecidableEq

/-- An ADC transaction: the configuration word out, two bytes of a packet in. -/
def Pdc.convert (pdc : Pdc) (conf : Ptr) (packet word : Nat) : Pdc :=
  { pdc with tpr := conf, rpr := .packetsIn packet word, rcr := 2, tcr := 2 }

/-- A DAC transaction: one command byte, then two bytes of a packet. -/
def Pdc.load (pdc : Pdc) (command : Ptr) (packet word : Nat) : Pdc :=
  { pdc with tpr := command, tnpr := .packetsOut packet word, tcr := 1, tncr := 2 }

/-- The registers ask for an ADC transaction into `&packets_in[packet][word]`. -/
def Pdc.Converts (pdc : Pdc) (conf : Ptr) (packet word : Nat) : Prop :=
  pdc.tpr = conf ∧ pdc.tcr = 2 ∧ pdc.rpr = .packetsIn packet word ∧ pdc.rcr = 2

/-- The registers ask for `command` and the word `&packets_out[packet][word]` to be sent. -/
def Pdc.Loads (pdc : Pdc) (command : Ptr) (packet word : Nat) : Prop :=
  pdc.tpr = command ∧ pdc.tcr = 1 ∧ pdc.tnpr = .packetsOut packet word ∧ pdc.tncr = 2

theorem Pdc.convert_converts (pdc : Pdc) (conf : Ptr) (packet word : Nat) :
    (pdc.convert conf packet word).Converts conf packet word := ⟨rfl, rfl, rfl, rfl⟩

theorem Pdc.load_loads (pdc : Pdc) (command : Ptr) (packet word : Nat) :
    (pdc.load command packet word).Loads command packet word := ⟨rfl, rfl, rfl, rfl⟩

/-- `switch (slot_offset_out)` at the end of a channel-B interrupt -/
def switchSlotOffsetOut (s : Sampler) : Sampler :=
  if s.slotOffsetOut = 0 then
    { s with
      packetIndexSendIn := s.packetIndexIn
      packetIndexOut := s.packetIndexOut ^^^ 1
      sendIn := true }
  else if s.slotOffsetOut = 2 then
    { s with packetIndexIn := s.packetIndexIn ^^^ 1 }
  else if s.slotOffsetOut = 4 then
    { s with
      slotOffsetOut := s.slotOffsetOut - s.notANewTransfer
      slotOffsetIn := s.slotOffsetIn - s.notANewTransfer
      notANewTransfer := 0 }
  else if s.slotOffsetOut = 127 then
    { s with
      packetIndexSendOut := s.packetIndexOut ^^^ 1
      sendOut := true }
  else s

/-- `case A` of `TC2_Handler` -/
def tc2HandlerA (s : Sampler) : Sampler :=
  { s with
    usart1 := s.usart1.convert .v1AdcConf s.packetIndexIn.toNat (s.slotOffsetIn.toNat * 4 + 0)
    usart2 := s.usart2.convert .v2AdcConf s.packetIndexIn.toNat (s.slotOffsetIn.toNat * 4 + 1)
    usart0 := s.usart0.load .da s.packetIndexOut.toNat (s.slotOffsetOut.toNat * 2 + 0)
    currentChan := s.currentChan.toggle
    nSync := false }

/-- `case B` of `TC2_Handler`, up to the switch on the slot -/
def tc2HandlerB (s : Sampler) : Sampler :=
  { s with
    usart1 := s.usart1.convert .i1AdcConf s.packetIndexIn.toNat (s.slotOffsetIn.toNat * 4 + 3)
    usart2 := s.usart2.convert .i2AdcConf s.packetIndexIn.toNat (s.slotOffsetIn.toNat * 4 + 2)
    usart0 := s.usart0.load .db s.packetIndexOut.toNat (s.slotOffsetOut.toNat * 2 + 1)
    currentChan := s.currentChan.toggle
    nSync := false
    slotOffsetIn := s.slotOffsetIn + 1
    slotOffsetOut := s.slotOffsetOut + 1 }

/-- `TC2_Handler`.  Nothing runs between its statements: it is the interrupt of highest
    priority, and the DMA it starts moves no word before `US_TCR` is written. -/
def tc2Handler (s : Sampler) : Sampler :=
  match s.currentChan with
  | .A => tc2HandlerA s
  | .B => switchSlotOffsetOut (tc2HandlerB s)

/-- The interrupt sets `send_in`, whatever it was. -/
def raisesSendIn (s : Sampler) : Bool := (tc2Handler { s with sendIn := false }).sendIn

/-- The interrupt sets `send_out`, whatever it was. -/
def raisesSendOut (s : Sampler) : Bool := (tc2Handler { s with sendOut := false }).sendOut

/-! ## What one interrupt does -/

theorem tc2Handler_A {s : Sampler} (chan : s.currentChan = .A) : tc2Handler s = tc2HandlerA s := by
  simp [tc2Handler, chan]

theorem tc2Handler_B {s : Sampler} (chan : s.currentChan = .B) :
    tc2Handler s = switchSlotOffsetOut (tc2HandlerB s) := by
  simp [tc2Handler, chan]

/-! The switch on the slot, one variable at a time.  The four slots it acts on are distinct,
    so each variable depends on one test only. -/

section Switch

variable (s : Sampler)

@[simp] theorem switchSlotOffsetOut_currentChan :
    (switchSlotOffsetOut s).currentChan = s.currentChan := by
  simp only [switchSlotOffsetOut]; split_ifs <;> rfl

@[simp] theorem switchSlotOffsetOut_usart0 : (switchSlotOffsetOut s).usart0 = s.usart0 := by
  simp only [switchSlotOffsetOut]; split_ifs <;> rfl

@[simp] theorem switchSlotOffsetOut_usart1 : (switchSlotOffsetOut s).usart1 = s.usart1 := by
  simp only [switchSlotOffsetOut]; split_ifs <;> rfl

@[simp] theorem switchSlotOffsetOut_usart2 : (switchSlotOffsetOut s).usart2 = s.usart2 := by
  simp only [switchSlotOffsetOut]; split_ifs <;> rfl

@[simp] theorem switchSlotOffsetOut_sendIn :
    (switchSlotOffsetOut s).sendIn = (s.sendIn || decide (s.slotOffsetOut = 0)) := by
  simp only [switchSlotOffsetOut]; split_ifs <;> simp_all

@[simp] theorem switchSlotOffsetOut_sendOut :
    (switchSlotOffsetOut s).sendOut = (s.sendOut || decide (s.slotOffsetOut = 127)) := by
  simp only [switchSlotOffsetOut]; split_ifs <;> simp_all

theorem switchSlotOffsetOut_packetIndexOut :
    (switchSlotOffsetOut s).packetIndexOut =
      if s.slotOffsetOut = 0 then s.packetIndexOut ^^^ 1 else s.packetIndexOut := by
  simp only [switchSlotOffsetOut]; split_ifs <;> rfl

theorem switchSlotOffsetOut_packetIndexSendIn :
    (switchSlotOffsetOut s).packetIndexSendIn =
      if s.slotOffsetOut = 0 then s.packetIndexIn else s.packetIndexSendIn := by
  simp only [switchSlotOffsetOut]; split_ifs <;> rfl

theorem switchSlotOffsetOut_packetIndexIn :
    (switchSlotOffsetOut s).packetIndexIn =
      if s.slotOffsetOut = 2 then s.packetIndexIn ^^^ 1 else s.packetIndexIn := by
  simp only [switchSlotOffsetOut]; split_ifs <;> simp_all

theorem switchSlotOffsetOut_slotOffsetOut :
    (switchSlotOffsetOut s).slotOffsetOut =
      if s.slotOffsetOut = 4 then s.slotOffsetOut - s.notANewTransfer else s.slotOffsetOut := by
  simp only [switchSlotOffsetOut]; split_ifs <;> simp_all

theorem switchSlotOffsetOut_slotOffsetIn :
    (switchSlotOffsetOut s).slotOffsetIn =
      if s.slotOffsetOut = 4 then s.slotOffsetIn - s.notANewTransfer else s.slotOffsetIn := by
  simp only [switchSlotOffsetOut]; split_ifs <;> simp_all

theorem switchSlotOffsetOut_notANewTransfer :
    (switchSlotOffsetOut s).notANewTransfer =
      if s.slotOffsetOut = 4 then 0 else s.notANewTransfer := by
  simp only [switchSlotOffsetOut]; split_ifs <;> simp_all

theorem switchSlotOffsetOut_packetIndexSendOut :
    (switchSlotOffsetOut s).packetIndexSendOut =
      if s.slotOffsetOut = 127 then s.packetIndexOut ^^^ 1 else s.packetIndexSendOut := by
  simp only [switchSlotOffsetOut]; split_ifs <;> simp_all

end Switch

theorem raisesSendIn_iff (s : Sampler) :
    raisesSendIn s = true ↔ s.currentChan = .B ∧ s.slotOffsetOut + 1 = 0 := by
  simp only [raisesSendIn]
  cases s.currentChan with
  | A => simp [tc2Handler, tc2HandlerA]
  | B => simp [tc2Handler, tc2HandlerB]

theorem raisesSendOut_iff (s : Sampler) :
    raisesSendOut s = true ↔ s.currentChan = .B ∧ s.slotOffsetOut + 1 = 127 := by
  simp only [raisesSendOut]
  cases s.currentChan with
  | A => simp [tc2Handler, tc2HandlerA]
  | B => simp [tc2Handler, tc2HandlerB]

/-- `send_in` after an interrupt: it was set already, or this interrupt raised it. -/
theorem tc2Handler_sendIn (s : Sampler) :
    (tc2Handler s).sendIn = (s.sendIn || raisesSendIn s) := by
  cases chan : s.currentChan with
  | A => simp [raisesSendIn, tc2Handler, tc2HandlerA, chan]
  | B => simp [raisesSendIn, tc2Handler, tc2HandlerB, chan]

theorem tc2Handler_sendOut (s : Sampler) :
    (tc2Handler s).sendOut = (s.sendOut || raisesSendOut s) := by
  cases chan : s.currentChan with
  | A => simp [raisesSendOut, tc2Handler, tc2HandlerA, chan]
  | B => simp [raisesSendOut, tc2Handler, tc2HandlerB, chan]

end M1k
