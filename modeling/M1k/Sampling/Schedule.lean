import M1k.Sampling.Handler
import Mathlib.Tactic.IntervalCases
import Mathlib.Tactic.NormNum

/-! # The schedule of a streaming session

The abstract view of the sampler: after `t` interrupts of a session everything the interrupt
keeps is a function of `t`.  Eight interrupts of warm-up come first; the interrupts after them
make pairs, 256 pairs a frame, and the two packets of each direction take turns.  Input runs
two slots behind output, because the conversion read in a slot is the response to the DAC
word sent two slots earlier.

`Follows t s` says that the variables of `TC2_Handler` are those of the schedule; one
interrupt takes `Follows t` to `Follows (t + 1)`. -/

namespace M1k.Schedule

/-- The pair of interrupts that interrupt `t` belongs to, counted from the end of warm-up. -/
def pair (t : Nat) : Nat := (t - 8) / 2

def slotOut (t : Nat) : Nat := if t < 8 then t / 2 else pair t % 256

def packetOut (t : Nat) : Nat := if t < 8 then 0 else pair t / 256 % 2

def slotIn (t : Nat) : Nat := (slotOut t + 254) % 256

/-- The input packet flips at slot 2 of the warm-up already, and back two slots after it. -/
def packetIn (t : Nat) : Nat :=
  if t < 4 then 0 else if t < 12 then 1 else (pair t - 2) / 256 % 2

/-- Input frames handed over in the first `t` interrupts. -/
def framesIn (t : Nat) : Nat := (t - 8) / 512

/-- Output frames asked for in the first `t` interrupts. -/
def framesOut (t : Nat) : Nat := (t - 8 + 258) / 512

/-- The frame that interrupt `t` plays. -/
def frameOut (t : Nat) : Nat := (t - 8) / 512

/-- The word of its frame that interrupt `t` plays.  Warm-up plays the first words of frame 0. -/
def wordOut (t : Nat) : Nat := if t < 8 then t else (t - 8) % 512

/-- The input frame that the conversions started by interrupt `t` belong to: the conversion
    in pair `k` answers the output of pair `k - 2`.  Before that pair there is no frame. -/
def frameIn (t : Nat) : Option Nat := if t < 12 then none else some ((pair t - 2) / 256)

/-- The sampler's variables are those of the schedule after `t` interrupts. -/
structure Follows (t : Nat) (s : Sampler) : Prop where
  currentChan : s.currentChan = if t % 2 = 0 then .A else .B
  slotOffsetOut : s.slotOffsetOut.toNat = slotOut t
  slotOffsetIn : s.slotOffsetIn.toNat = slotIn t
  packetIndexOut : s.packetIndexOut.toNat = packetOut t
  packetIndexIn : s.packetIndexIn.toNat = packetIn t
  notANewTransfer : s.notANewTransfer = if t < 8 then 4 else 0
  packetIndexSendIn : s.packetIndexSendIn.toNat = (framesIn t - 1) % 2
  packetIndexSendOut : s.packetIndexSendOut.toNat = framesOut t % 2

/-- The last interrupt of a frame of output. -/
def endsFrame (t : Nat) : Prop := 8 ≤ t ∧ (t - 8) % 512 = 511

/-- The interrupt that asks for the next frame of output: the end of slot 126. -/
def asksFrame (t : Nat) : Prop := 8 ≤ t ∧ (t - 8) % 512 = 253

instance (t : Nat) : Decidable (endsFrame t) := inferInstanceAs (Decidable (_ ∧ _))
instance (t : Nat) : Decidable (asksFrame t) := inferInstanceAs (Decidable (_ ∧ _))

/-! ## Arithmetic of the schedule -/

theorem packetOut_lt (t : Nat) : packetOut t < 2 := by
  simp only [packetOut]; split_ifs <;> omega

theorem packetIn_lt (t : Nat) : packetIn t < 2 := by
  simp only [packetIn]; split_ifs <;> omega

theorem packetOut_eq (t : Nat) : packetOut t = frameOut t % 2 := by
  simp only [packetOut, frameOut, pair]; split_ifs <;> omega

theorem slotOut_eq (t : Nat) : slotOut t * 2 + t % 2 = wordOut t := by
  simp only [slotOut, wordOut, pair]; split_ifs <;> omega

theorem wordOut_lt (t : Nat) : wordOut t < 512 := by
  simp only [wordOut]; split_ifs <;> omega

/-- A frame of output is asked for at most one frame ahead. -/
theorem framesOut_le (t : Nat) : framesOut t ≤ frameOut t + 1 := by
  simp only [framesOut, frameOut]; omega

/-- Within a frame, the next is asked for once. -/
theorem framesOut_of_asksFrame {t : Nat} (asks : asksFrame t) : framesOut t = framesIn t := by
  simp only [asksFrame] at asks
  simp only [framesOut, framesIn]; omega

theorem toggle_packet {x : UInt32} {n : Nat} (value : x.toNat = n) (bound : n < 2) :
    (x ^^^ 1).toNat = (n + 1) % 2 := by
  rw [UInt32.toNat_xor, value]
  interval_cases n <;> rfl

theorem succ_slot {x : UInt8} {n : Nat} (value : x.toNat = n) : (x + 1).toNat = (n + 1) % 256 := by
  rw [UInt8.toNat_add, value]; rfl

theorem slot_eq_iff {x : UInt8} {n c : Nat} (value : x.toNat = n) (bound : c < 256) :
    x = UInt8.ofNat c ↔ n = c := by
  rw [← UInt8.toNat_inj, value, UInt8.toNat_ofNat', Nat.mod_eq_of_lt bound]

theorem framesIn_succ (t : Nat) :
    framesIn (t + 1) = framesIn t + if endsFrame t then 1 else 0 := by
  by_cases ends : endsFrame t
  · rw [if_pos ends]
    unfold endsFrame at ends
    unfold framesIn
    omega
  · rw [if_neg ends]
    unfold endsFrame at ends
    unfold framesIn
    omega

theorem framesOut_succ (t : Nat) :
    framesOut (t + 1) = framesOut t + if asksFrame t then 1 else 0 := by
  by_cases asks : asksFrame t
  · rw [if_pos asks]
    unfold asksFrame at asks
    unfold framesOut
    omega
  · rw [if_neg asks]
    unfold asksFrame at asks
    unfold framesOut
    omega

/-- The slot that the switch at the end of a channel-B interrupt sees. -/
def switchSlot (t : Nat) : Nat := (slotOut t + 1) % 256

section Odd

variable {t : Nat} (odd : t % 2 = 1)
include odd

theorem endsFrame_iff : endsFrame t ↔ switchSlot t = 0 := by
  simp only [endsFrame, switchSlot, slotOut, pair]
  split_ifs <;> omega

theorem asksFrame_iff : asksFrame t ↔ switchSlot t = 127 := by
  simp only [asksFrame, switchSlot, slotOut, pair]
  split_ifs <;> omega

/-- Only the rewind at the end of warm-up breaks the count of the slots. -/
theorem slotOut_succ :
    slotOut (t + 1) = if switchSlot t = 4 ∧ t < 8 then 0 else switchSlot t := by
  simp only [switchSlot, slotOut, pair]
  split_ifs <;> omega

theorem slotIn_succ :
    slotIn (t + 1) = if switchSlot t = 4 ∧ t < 8 then 254 else (slotIn t + 1) % 256 := by
  simp only [slotIn, slotOut_succ odd]
  split_ifs with rewind
  · rfl
  · simp only [switchSlot]; omega

theorem packetOut_succ :
    packetOut (t + 1) = if switchSlot t = 0 then (packetOut t + 1) % 2 else packetOut t := by
  simp only [switchSlot, packetOut, slotOut, pair]
  split_ifs <;> omega

theorem packetIn_succ :
    packetIn (t + 1) = if switchSlot t = 2 then (packetIn t + 1) % 2 else packetIn t := by
  simp only [switchSlot, packetIn, slotOut, pair]
  split_ifs <;> omega

/-- The packet handed over at the end of a frame is the one being filled. -/
theorem packetIn_of_endsFrame (ends : endsFrame t) : packetIn t = framesIn t % 2 := by
  simp only [endsFrame] at ends
  simp only [packetIn, framesIn, pair]
  split_ifs <;> omega

/-- The packet asked for is the one not being played. -/
theorem packetOut_of_asksFrame (asks : asksFrame t) : packetOut t = framesOut t % 2 := by
  simp only [asksFrame] at asks
  simp only [packetOut, framesOut, pair]
  split_ifs <;> omega

end Odd

/-! ## One interrupt -/

section Step

variable {t : Nat} {s : Sampler}

/-- Channel A moves no counter: an even interrupt and the one after it share slot and packets. -/
theorem follows_A (follows : Follows t s) (even : t % 2 = 0) : Follows (t + 1) (tc2Handler s) := by
  have chan : s.currentChan = .A := by rw [follows.currentChan, if_pos even]
  rw [tc2Handler_A chan]
  have samePair : pair (t + 1) = pair t := by unfold pair; omega
  have sameSlot : slotOut (t + 1) = slotOut t := by
    unfold slotOut; rw [samePair]; split_ifs <;> omega
  exact {
    currentChan := by simp [tc2HandlerA, chan, Chan.toggle]; omega
    slotOffsetOut := by rw [sameSlot]; exact follows.slotOffsetOut
    slotOffsetIn := by rw [slotIn, sameSlot]; exact follows.slotOffsetIn
    packetIndexOut := by
      refine follows.packetIndexOut.trans ?_
      unfold packetOut; rw [samePair]; split_ifs <;> omega
    packetIndexIn := by
      refine follows.packetIndexIn.trans ?_
      unfold packetIn; rw [samePair]; split_ifs <;> omega
    notANewTransfer := by
      refine follows.notANewTransfer.trans ?_
      split_ifs <;> first | rfl | omega
    packetIndexSendIn := by
      refine follows.packetIndexSendIn.trans ?_
      unfold framesIn; omega
    packetIndexSendOut := by
      refine follows.packetIndexSendOut.trans ?_
      unfold framesOut; omega }

/-- The counters after the assignments of channel B, before the switch on the slot. -/
theorem counters_B (follows : Follows t s) :
    (tc2HandlerB s).slotOffsetOut.toNat = (slotOut t + 1) % 256 ∧
      (tc2HandlerB s).slotOffsetIn.toNat = (slotIn t + 1) % 256 :=
  ⟨succ_slot follows.slotOffsetOut, succ_slot follows.slotOffsetIn⟩

/-- Subtracting `not_a_new_transfer` rewinds a counter once, at the end of warm-up. -/
theorem rewind_counter (follows : Follows t s) (counter : UInt8) :
    counter - (tc2HandlerB s).notANewTransfer = if t < 8 then counter - 4 else counter := by
  change counter - s.notANewTransfer = _
  rw [follows.notANewTransfer]
  split_ifs <;> simp

theorem follows_B (follows : Follows t s) (odd : t % 2 = 1) : Follows (t + 1) (tc2Handler s) := by
  have chan : s.currentChan = .B := by rw [follows.currentChan, if_neg (by omega)]
  obtain ⟨out, input⟩ := counters_B follows
  -- each test of the switch is a test on the schedule
  have onSlot (c : Nat) (bound : c < 256) :
      (tc2HandlerB s).slotOffsetOut = UInt8.ofNat c ↔ switchSlot t = c := slot_eq_iff out bound
  have onSlot0 : (tc2HandlerB s).slotOffsetOut = 0 ↔ switchSlot t = 0 := onSlot 0 (by omega)
  have onSlot2 : (tc2HandlerB s).slotOffsetOut = 2 ↔ switchSlot t = 2 := onSlot 2 (by omega)
  have onSlot4 : (tc2HandlerB s).slotOffsetOut = 4 ↔ switchSlot t = 4 := onSlot 4 (by omega)
  have onSlot127 : (tc2HandlerB s).slotOffsetOut = 127 ↔ switchSlot t = 127 := onSlot 127 (by omega)
  rw [tc2Handler_B chan]
  exact {
    currentChan := by
      rw [if_pos (by omega)]; simp [tc2HandlerB, chan, Chan.toggle]
    slotOffsetOut := by
      simp only [switchSlotOffsetOut_slotOffsetOut, onSlot4, slotOut_succ odd, rewind_counter follows]
      split_ifs with slot4 early rewind rewind
      · rw [onSlot4.mpr slot4]; rfl
      · omega
      · omega
      · exact out
      · omega
      · exact out
    slotOffsetIn := by
      simp only [switchSlotOffsetOut_slotOffsetIn, onSlot4, slotIn_succ odd, rewind_counter follows]
      split_ifs with slot4 early rewind rewind
      · -- the input counter stands at 2 when the rewind takes 4 from it
        have atTwo : (slotIn t + 1) % 256 = 2 := by
          simp only [switchSlot] at slot4; simp only [slotIn]; omega
        rw [(slot_eq_iff (input.trans atTwo) (by omega : 2 < 256)).mpr rfl]
        rfl
      · omega
      · omega
      · exact input
      · omega
      · exact input
    packetIndexOut := by
      simp only [switchSlotOffsetOut_packetIndexOut, onSlot0, packetOut_succ odd]
      split_ifs
      · exact toggle_packet follows.packetIndexOut (packetOut_lt t)
      · exact follows.packetIndexOut
    packetIndexIn := by
      simp only [switchSlotOffsetOut_packetIndexIn, onSlot2, packetIn_succ odd]
      split_ifs
      · exact toggle_packet follows.packetIndexIn (packetIn_lt t)
      · exact follows.packetIndexIn
    notANewTransfer := by
      simp only [switchSlotOffsetOut_notANewTransfer, onSlot4]
      have kept : (tc2HandlerB s).notANewTransfer = _ := follows.notANewTransfer
      rw [kept]
      simp only [switchSlot, slotOut]
      split_ifs <;> first | rfl | omega
    packetIndexSendIn := by
      simp only [switchSlotOffsetOut_packetIndexSendIn, onSlot0, framesIn_succ, endsFrame_iff odd]
      split_ifs with slot0
      · refine follows.packetIndexIn.trans ?_
        rw [packetIn_of_endsFrame odd ((endsFrame_iff odd).mpr slot0)]
        rfl
      · exact follows.packetIndexSendIn
    packetIndexSendOut := by
      simp only [switchSlotOffsetOut_packetIndexSendOut, onSlot127, framesOut_succ, asksFrame_iff odd]
      split_ifs with slot127
      · -- the packet asked for is the one that is not being played
        have asked := packetOut_of_asksFrame odd ((asksFrame_iff odd).mpr slot127)
        rw [toggle_packet (x := (tc2HandlerB s).packetIndexOut) follows.packetIndexOut (packetOut_lt t),
          asked]
        omega
      · exact follows.packetIndexSendOut }

theorem follows_succ (follows : Follows t s) : Follows (t + 1) (tc2Handler s) := by
  rcases Nat.mod_two_eq_zero_or_one t with even | odd
  · exact follows_A follows even
  · exact follows_B follows odd

theorem raisesSendIn_iff_endsFrame (follows : Follows t s) : raisesSendIn s = true ↔ endsFrame t := by
  rw [raisesSendIn_iff, follows.currentChan]
  rcases Nat.mod_two_eq_zero_or_one t with even | odd
  · simp only [even, endsFrame]
    constructor
    · simp
    · omega
  · have onSlot0 : s.slotOffsetOut + 1 = 0 ↔ switchSlot t = 0 :=
      slot_eq_iff (c := 0) (counters_B follows).1 (by omega)
    simp [odd, onSlot0, endsFrame_iff odd]

theorem raisesSendOut_iff_asksFrame (follows : Follows t s) :
    raisesSendOut s = true ↔ asksFrame t := by
  rw [raisesSendOut_iff, follows.currentChan]
  rcases Nat.mod_two_eq_zero_or_one t with even | odd
  · simp only [even, asksFrame]
    constructor
    · simp
    · omega
  · have onSlot127 : s.slotOffsetOut + 1 = 127 ↔ switchSlot t = 127 :=
      slot_eq_iff (c := 127) (counters_B follows).1 (by omega)
    simp [odd, onSlot127, asksFrame_iff odd]

/-- The DAC word of interrupt `t`. -/
theorem loads_of_follows (follows : Follows t s) :
    (tc2Handler s).usart0.Loads (if t % 2 = 0 then .da else .db) (packetOut t)
      (slotOut t * 2 + t % 2) := by
  rcases Nat.mod_two_eq_zero_or_one t with even | odd
  · rw [tc2Handler_A (by rw [follows.currentChan, if_pos even]), if_pos even, even,
      ← follows.packetIndexOut, ← follows.slotOffsetOut]
    exact Pdc.load_loads _ _ _ _
  · rw [tc2Handler_B (by rw [follows.currentChan, if_neg (by omega)]), if_neg (by omega), odd,
      switchSlotOffsetOut_usart0, ← follows.packetIndexOut, ← follows.slotOffsetOut]
    exact Pdc.load_loads _ _ _ _

/-- The conversions of an even interrupt: words 0 and 1 of the input slot. -/
theorem converts_A (follows : Follows t s) (even : t % 2 = 0) :
    (tc2Handler s).usart1.Converts .v1AdcConf (packetIn t) (slotIn t * 4 + 0) ∧
      (tc2Handler s).usart2.Converts .v2AdcConf (packetIn t) (slotIn t * 4 + 1) := by
  rw [tc2Handler_A (by rw [follows.currentChan, if_pos even]),
    ← follows.packetIndexIn, ← follows.slotOffsetIn]
  exact ⟨Pdc.convert_converts _ _ _ _, Pdc.convert_converts _ _ _ _⟩

/-- The conversions of an odd interrupt: words 3 and 2 of the input slot. -/
theorem converts_B (follows : Follows t s) (odd : t % 2 = 1) :
    (tc2Handler s).usart1.Converts .i1AdcConf (packetIn t) (slotIn t * 4 + 3) ∧
      (tc2Handler s).usart2.Converts .i2AdcConf (packetIn t) (slotIn t * 4 + 2) := by
  rw [tc2Handler_B (by rw [follows.currentChan, if_neg (by omega)]),
    switchSlotOffsetOut_usart1, switchSlotOffsetOut_usart2,
    ← follows.packetIndexIn, ← follows.slotOffsetIn]
  exact ⟨Pdc.convert_converts _ _ _ _, Pdc.convert_converts _ _ _ _⟩

/-- Every interrupt of a session finds the sampler on schedule. -/
theorem follows_iterate_from (follows : Follows t s) (n : Nat) :
    Follows (t + n) (tc2Handler^[n] s) := by
  induction n with
  | zero => exact follows
  | succ n inductionHypothesis =>
    rw [Function.iterate_succ_apply']
    exact follows_succ inductionHypothesis

end Step

end M1k.Schedule
