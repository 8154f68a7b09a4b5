import M1k.Board.Accesses
import M1k.Library.Waveform
import Mathlib.Tactic.IntervalCases

/-! # Requests and what they name

A request names a pin by its number in the table of pins, a channel and a mode by their values, or
the period of the sampling timer.  What it touches is compared with what it names. -/

namespace M1k.Board

open Control (Command SetupReq)
open Library.Waveform

/-! ## What requests name -/

/-- The pin of a number: those of port A come first, then those of port B. -/
def documentedPin (number : Nat) : Option Pin :=
  if number < 32 then some ⟨0, number⟩ else if number < 64 then some ⟨1, number - 32⟩ else none

def namedChan : Nat → Option Chan
  | 0 => some .A
  | 1 => some .B
  | _ => none

def namedMode : Nat → Option ChanMode
  | 0 => some .disabled
  | 1 => some .svmi
  | 2 => some .simv
  | _ => none

/-- The pins that switch the mode, the sense loop and the output of a channel -/
def switchPins : Chan → List Pin
  | .A => [⟨1, 19⟩, ⟨1, 2⟩, ⟨1, 3⟩]
  | .B => [⟨1, 20⟩, ⟨1, 7⟩, ⟨1, 8⟩]

/-- The resources of a channel; `N_SYNC` is the line that frames what is sent to the DAC. -/
def Belongs (chan : Chan) : Resource → Prop
  | .pin p => p ∈ switchPins chan ∨ p = ⟨0, 16⟩
  | .mode c => c = chan
  | .dac address => address = match chan with | .A => 0 | .B => 1
  | .register _ _ => False

/-- The potentiometers of a channel -/
def potentiometer : Chan → UInt8
  | .A => 0x2f
  | .B => 0x23

/-! ## What requests should do -/

/-- Nothing but the pin of this number is touched. -/
def OnlyPin (number : Nat) (accesses : List Access) : Prop :=
  ∀ r, Touched accesses r → ∃ p, documentedPin number = some p ∧ r = .pin p

structure SetsPin (number : Nat) (level : Bool) (accesses : List Access) : Prop where
  only : OnlyPin number accesses
  drives : ∀ p, documentedPin number = some p → ∀ pins,
    (performAll accesses pins p).pio = true ∧ (performAll accesses pins p).output = true ∧
      (performAll accesses pins p).level = level

structure GetsPin (number : Nat) (accesses : List Access) : Prop where
  only : OnlyPin number accesses
  configures : ∀ p, documentedPin number = some p → ∀ pins,
    (performAll accesses pins p).pio = true ∧ (performAll accesses pins p).output = false
  samples : ∀ p, documentedPin number = some p → .pinRead p.port p.bit ∈ accesses

structure SetsMode (channel mode : Nat) (accesses : List Access) : Prop where
  only : ∀ r, Touched accesses r → ∃ chan m,
    namedChan channel = some chan ∧ namedMode mode = some m ∧ Belongs chan r
  sets : ∀ chan m, namedChan channel = some chan → namedMode mode = some m →
    .mode chan m ∈ accesses

/-- The register of a chip that an access writes -/
def Access.register? : Access → Option (UInt8 × UInt8)
  | .i2c chip register _ => some (chip, register)
  | .pio .. | .pinRead .. | .mode .. | .dac .. => none

def SetsPotentiometer (channel : Nat) (accesses : List Access) : Prop :=
  accesses.map Access.register? =
    match namedChan channel with
    | some chan => [some (potentiometer chan, 0x10), some (potentiometer chan, 0x11)]
    | none => []

/-- The timer that a start request programs.  Its registers take 16 bits; the output that `ra` sets
    loads the DAC, and the one that `rb` sets starts a conversion. -/
structure Compares (tc : TimerChannel) : Prop where
  positive : 0 < tc.rb.toUInt16
  converts : tc.rb.toUInt16 < tc.rc.toUInt16
  loads : tc.ra.toUInt16 < tc.rc.toUInt16
  conversions : RisesEveryPeriod tc.rc.toUInt16.toNat tc.rb.toUInt16.toNat
  dacLoads : RisesEveryPeriod tc.rc.toUInt16.toNat tc.ra.toUInt16.toNat

/-- What a request does concerns what it names, and nothing else. -/
structure ActsOnNamed (stack : UInt8) (inputs : Control.Inputs) (req : SetupReq)
    (payload : Control.Pointer) (mem : Control.Memory) (s : Stream) : Prop where
  low : req.bRequest = 0x50 →
    SetsPin req.wValue.toNat false (performed stack inputs req payload mem)
  high : req.bRequest = 0x51 →
    SetsPin req.wValue.toNat true (performed stack inputs req payload mem)
  get : req.bRequest = 0x91 → GetsPin req.wValue.toNat (performed stack inputs req payload mem)
  mode : req.bRequest = 0x53 →
    SetsMode req.wValue.toNat req.wIndex.toNat (performed stack inputs req payload mem)
  potentiometers : req.bRequest = 0x59 →
    SetsPotentiometer req.wValue.toNat (performed stack inputs req payload mem)
  sampling : req.bRequest = 0xC5 → 1 ≤ req.wValue → Compares (sampled inputs req payload mem s).tc

/-- The arguments name a pin of the table; or a channel and a mode, where their low four bits do; or
    a channel; or a period that is long enough. -/
structure NamesResource (req : SetupReq) : Prop where
  pin : req.bRequest = 0x50 ∨ req.bRequest = 0x51 ∨ req.bRequest = 0x91 → req.wValue.toNat < 64
  mode : req.bRequest = 0x53 → req.wValue.toNat % 16 < 2 → req.wIndex.toNat % 16 < 3 →
    req.wValue.toNat < 16 ∧ req.wIndex.toNat < 16
  potentiometers : req.bRequest = 0x59 → req.wValue.toNat < 2
  sampling : req.bRequest = 0xC5 → req.wValue.toNat = 0 ∨ 31 ≤ req.wValue.toNat

/-! ## What is touched -/

section Touched

@[simp] theorem touched_nil (r : Resource) : ¬ Touched [] r := by
  rintro ⟨_, member, _⟩
  cases member

@[simp] theorem touched_cons (access : Access) (accesses : List Access) (r : Resource) :
    Touched (access :: accesses) r ↔ access.Touches r ∨ Touched accesses r := by
  simp [Touched]

@[simp] theorem touched_append (first second : List Access) (r : Resource) :
    Touched (first ++ second) r ↔ Touched first r ∨ Touched second r := by
  simp [Touched, or_and_right, exists_or]

/-- A write to a register with the mask of one pin touches this pin. -/
theorem touches_pio (port : Nat) (register : PioRegister) {index : UInt32}
    (small : index.toNat < 32) (r : Resource) :
    (Access.pio port register (Control.pin index)).Touches r ↔ r = .pin ⟨port, index.toNat⟩ := by
  constructor
  · rintro ⟨bit, inMask, rfl⟩
    rw [(testBit_pin small bit).mp inMask]
  · intro same
    exact ⟨index.toNat, (testBit_pin small _).mpr rfl, same⟩

/-- Writes to registers of one port, all with the mask of one pin -/
theorem touched_registers (port : Nat) {registers : List PioRegister} (some : registers ≠ [])
    {index : UInt32} (small : index.toNat < 32) (r : Resource) :
    Touched (registers.map fun register => .pio port register (Control.pin index)) r ↔
      r = .pin ⟨port, index.toNat⟩ := by
  constructor
  · rintro ⟨access, member, touches⟩
    obtain ⟨register, -, rfl⟩ := List.mem_map.mp member
    exact (touches_pio port register small r).mp touches
  · intro same
    obtain ⟨register, member⟩ := List.exists_mem_of_ne_nil registers some
    exact ⟨_, List.mem_map.mpr ⟨register, member, rfl⟩, (touches_pio port register small r).mpr same⟩

end Touched

/-! ## Pins -/

/-- The pin that requests 0x50, 0x51 and 0x91 configure -/
def selectedPin (wValue : UInt16) : Pin := ⟨portOf (wValue > 0x1F), wValue.toNat % 32⟩

theorem selectedPin_index (wValue : UInt16) : (wValue &&& 0x1F).toUInt32.toNat = wValue.toNat % 32 := by
  simp only [UInt16.toNat_toUInt32, UInt16.toNat_and]
  exact Nat.and_two_pow_sub_one_eq_mod wValue.toNat 5

theorem selectedPin_port (wValue : UInt16) :
    portOf (wValue > 0x1F) = if wValue.toNat < 32 then 0 else 1 := by
  have portB : wValue > 0x1F ↔ ¬ wValue.toNat < 32 := by
    rw [gt_iff_lt, UInt16.lt_iff_toNat_lt]
    show 31 < wValue.toNat ↔ _
    omega
  by_cases portA : wValue.toNat < 32 <;> simp [portOf, portB, portA]

theorem documentedPin_selected {wValue : UInt16} (small : wValue.toNat < 64) :
    documentedPin wValue.toNat = some (selectedPin wValue) := by
  rw [documentedPin, selectedPin, selectedPin_port]
  by_cases portA : wValue.toNat < 32
  · rw [if_pos portA, if_pos portA, Nat.mod_eq_of_lt portA]
  · have bit : wValue.toNat % 32 = wValue.toNat - 32 := by omega
    rw [if_neg portA, if_neg portA, if_pos small, bit]

/-- Where one pin is touched, it is the one of the number exactly for the numbers of the table. -/
theorem onlyPin_iff {wValue : UInt16} {accesses : List Access}
    (touched : Touched accesses (.pin (selectedPin wValue)))
    (nothingElse : wValue.toNat < 64 → ∀ r, Touched accesses r → r = .pin (selectedPin wValue)) :
    OnlyPin wValue.toNat accesses ↔ wValue.toNat < 64 := by
  constructor
  · intro only
    -- a number beyond the table names no pin, but a pin is touched
    by_contra large
    obtain ⟨p, documented, -⟩ := only _ touched
    have none : documentedPin wValue.toNat = none := by
      rw [documentedPin, if_neg (by omega), if_neg large]
    rw [none] at documented
    cases documented
  · intro small r touches
    exact ⟨selectedPin wValue, documentedPin_selected small, nothingElse small r touches⟩

/-- Where only the pin of a number is touched, every other one stays as it is. -/
theorem OnlyPin.others {number : Nat} {accesses : List Access} (only : OnlyPin number accesses) {p : Pin}
    (other : documentedPin number ≠ some p) (pins : Pin → PinState) :
    performAll accesses pins p = pins p := by
  apply performAll_untouched
  intro touched
  obtain ⟨named, documented, same⟩ := only _ touched
  cases same
  exact other documented

def outputRegisters (level : Bool) : List PioRegister :=
  [.idr, .pudr, .mddr, if level then .sodr else .codr, .oer, .per]

theorem pioSetOutput_eq (port : Nat) (mask : UInt32) (level : Bool) :
    pioSetOutput port mask level false false =
      (outputRegisters level).map fun register => .pio port register mask := rfl

def inputRegisters : List PioRegister := [.idr, .pudr, .ifdr, .odr, .per]

theorem pioSetInput_eq (port : Nat) (mask : UInt32) :
    pioSetInput port mask 0 = inputRegisters.map fun register => .pio port register mask := rfl

/-- The mask that a request passes has the bit of its pin. -/
theorem testBit_selected (wValue : UInt16) :
    (Control.pin (wValue &&& 0x1F).toUInt32).toNat.testBit (selectedPin wValue).bit = true := by
  have index := selectedPin_index wValue
  rw [testBit_pin (by omega), index]
  rfl

theorem touched_selected (wValue : UInt16) {registers : List PioRegister} (some : registers ≠ [])
    (r : Resource) :
    Touched (registers.map fun register =>
        .pio (portOf (wValue > 0x1F)) register (Control.pin (wValue &&& 0x1F).toUInt32)) r ↔
      r = .pin (selectedPin wValue) := by
  have index := selectedPin_index wValue
  rw [touched_registers _ some (by omega), index]
  rfl

/-- Requests 0x50 and 0x51 -/
theorem setsPin_iff (wValue : UInt16) (level : Bool) :
    SetsPin wValue.toNat level (pioSetOutput (portOf (wValue > 0x1F))
      (Control.pin (wValue &&& 0x1F).toUInt32) level false false) ↔ wValue.toNat < 64 := by
  rw [pioSetOutput_eq]
  have some : outputRegisters level ≠ [] := by simp [outputRegisters]
  have touched := touched_selected wValue some
  have only := onlyPin_iff ((touched _).mpr rfl) fun _ r => (touched r).mp
  constructor
  · exact fun sets => only.mp sets.only
  · intro small
    refine ⟨only.mpr small, ?_⟩
    intro p documented pins
    obtain rfl := Option.some.inj ((documentedPin_selected small).symm.trans documented)
    have state := performAll_pin (outputRegisters level) (testBit_selected wValue) pins
    have port : (selectedPin wValue).port = portOf (wValue > 0x1F) := rfl
    rw [port] at state
    rw [state]
    cases level <;> exact ⟨rfl, rfl, rfl⟩

/-- The pin that request 0x91 reads -/
theorem pioGetPinValue_eq (wValue : UInt16) : pioGetPinValue (wValue &&& 0xFF).toUInt32 =
    [.pinRead (wValue.toNat % 256 / 32) (wValue.toNat % 32)] := by
  have low : (wValue &&& 0xFF).toUInt32.toNat = wValue.toNat % 256 := by
    simp only [UInt16.toNat_toUInt32, UInt16.toNat_and]
    exact Nat.and_two_pow_sub_one_eq_mod wValue.toNat 8
  have bit : ((wValue &&& 0xFF).toUInt32 &&& 0x1F).toNat = wValue.toNat % 32 := by
    have five : wValue.toNat % 256 &&& 31 = wValue.toNat % 256 % 32 :=
      Nat.and_two_pow_sub_one_eq_mod _ 5
    rw [UInt32.toNat_and, low]
    show wValue.toNat % 256 &&& 31 = _
    omega
  have port : ((wValue &&& 0xFF).toUInt32 >>> 5).toNat = wValue.toNat % 256 / 32 := by
    rw [UInt32.toNat_shiftRight, low]
    exact Nat.shiftRight_eq_div_pow _ _
  rw [pioGetPinValue, port, bit]

/-- Request 0x91 reads the pin that it configures, except for a number beyond the table whose low
    byte is of another port. -/
theorem reads_selected_iff (wValue : UInt16) : pioGetPinValue (wValue &&& 0xFF).toUInt32 =
      [.pinRead (selectedPin wValue).port (selectedPin wValue).bit] ↔
    wValue.toNat < 64 ∨ wValue.toNat % 256 / 32 = 1 := by
  have bound := wValue.toNat_lt
  rw [pioGetPinValue_eq, selectedPin, selectedPin_port]
  simp only [List.cons.injEq, Access.pinRead.injEq, and_true]
  split_ifs <;> omega

/-- Request 0x91 -/
theorem getsPin_iff (wValue : UInt16) :
    GetsPin wValue.toNat (pioSetInput (portOf (wValue > 0x1F))
      (Control.pin (wValue &&& 0x1F).toUInt32) 0 ++ pioGetPinValue (wValue &&& 0xFF).toUInt32) ↔
      wValue.toNat < 64 := by
  rw [pioSetInput_eq]
  have some : inputRegisters ≠ [] := by simp [inputRegisters]
  have touched := touched_selected wValue some
  have only : OnlyPin wValue.toNat (inputRegisters.map (fun register => .pio (portOf (wValue > 0x1F))
      register (Control.pin (wValue &&& 0x1F).toUInt32)) ++
        pioGetPinValue (wValue &&& 0xFF).toUInt32) ↔ wValue.toNat < 64 := by
    apply onlyPin_iff
    · exact (touched_append _ _ _).mpr (.inl ((touched _).mpr rfl))
    · intro small r touches
      -- below 64 the pin that is read is the one that is configured
      rw [touched_append, touched, (reads_selected_iff wValue).mpr (.inl small)] at touches
      simpa [Access.Touches] using touches
  constructor
  · exact fun gets => only.mp gets.only
  · intro small
    refine ⟨only.mpr small, ?_, ?_⟩
    · intro p documented pins
      obtain rfl := Option.some.inj ((documentedPin_selected small).symm.trans documented)
      have state := performAll_pin inputRegisters (testBit_selected wValue) pins
      have port : (selectedPin wValue).port = portOf (wValue > 0x1F) := rfl
      rw [port] at state
      have reading : performAll (pioGetPinValue (wValue &&& 0xFF).toUInt32) = id := rfl
      rw [performAll, List.foldl_append]
      show (performAll (pioGetPinValue (wValue &&& 0xFF).toUInt32) (performAll _ pins) _).pio = true ∧
        (performAll (pioGetPinValue (wValue &&& 0xFF).toUInt32) (performAll _ pins) _).output = false
      rw [reading, id, state]
      exact ⟨rfl, rfl⟩
    · intro p documented
      obtain rfl := Option.some.inj ((documentedPin_selected small).symm.trans documented)
      rw [(reads_selected_iff wValue).mpr (.inl small)]
      exact List.mem_append_right _ List.mem_cons_self

/-! ## Channels -/

theorem touched_pioSet (port : Nat) {index : UInt32} (small : index.toNat < 32) (r : Resource) :
    Touched (pioSet port (Control.pin index)) r ↔ r = .pin ⟨port, index.toNat⟩ :=
  touched_registers port (show [PioRegister.sodr] ≠ [] by simp) small r

theorem touched_pioClear (port : Nat) {index : UInt32} (small : index.toNat < 32) (r : Resource) :
    Touched (pioClear port (Control.pin index)) r ↔ r = .pin ⟨port, index.toNat⟩ :=
  touched_registers port (show [PioRegister.codr] ≠ [] by simp) small r

theorem touched_writeAd5663 (conf : UInt8) (data : UInt16) (r : Resource) :
    Touched (writeAd5663 conf data) r ↔ r = .pin ⟨0, 16⟩ ∨ r = .dac (conf &&& 7) := by
  have select := touched_pioClear 0 (show (16 : UInt32).toNat < 32 by decide) r
  have deselect := touched_pioSet 0 (show (16 : UInt32).toNat < 32 by decide) r
  have line : (16 : UInt32).toNat = 16 := rfl
  rw [writeAd5663, nSync, touched_append, touched_append, touched_cons, select, deselect, line]
  simp only [touched_nil, or_false, Access.Touches]
  tauto

/-- What one case of `set_mode` may touch: the mode variable, three pins, and the DAC with the line
    that frames what is sent to it. -/
theorem touched_setChannelMode (chan : Chan) (conf : UInt8) {i j k : UInt32} (smallI : i.toNat < 32)
    (smallJ : j.toNat < 32) (smallK : k.toNat < 32) {m : UInt32} {r : Resource}
    (touched : Touched (setChannelMode ⟨chan, Control.pin i, Control.pin j, Control.pin k, conf⟩ m) r) :
    r = .mode chan ∨ r = .pin ⟨1, i.toNat⟩ ∨ r = .pin ⟨1, j.toNat⟩ ∨ r = .pin ⟨1, k.toNat⟩ ∨
      r = .pin ⟨0, 16⟩ ∨ r = .dac (conf &&& 7) := by
  unfold setChannelMode at touched
  split at touched
  · -- `DISABLED`, the only mode that writes to the DAC
    simp only [touched_append, touched_cons, touched_nil, touched_pioSet 1 smallI,
      touched_pioClear 1 smallJ, touched_pioSet 1 smallK, touched_writeAd5663, Access.Touches] at touched
    tauto
  · simp only [touched_append, touched_cons, touched_nil, touched_pioClear 1 smallI,
      touched_pioClear 1 smallJ, touched_pioClear 1 smallK, Access.Touches] at touched
    tauto
  · simp only [touched_append, touched_cons, touched_nil, touched_pioSet 1 smallI,
      touched_pioClear 1 smallJ, touched_pioClear 1 smallK, Access.Touches] at touched
    tauto
  · exact absurd touched (touched_nil r)

/-- Each of the two cases of `set_mode` touches resources of its channel only. -/
theorem belongs_switchesA {m : UInt32} {r : Resource} (touched : Touched (setChannelMode switchesA m) r) :
    Belongs .A r := by
  rcases touched_setChannelMode .A 0 (by decide) (by decide) (by decide) touched with
    rfl | rfl | rfl | rfl | rfl | rfl <;> simp [Belongs, switchPins]

theorem belongs_switchesB {m : UInt32} {r : Resource} (touched : Touched (setChannelMode switchesB m) r) :
    Belongs .B r := by
  rcases touched_setChannelMode .B 1 (by decide) (by decide) (by decide) touched with
    rfl | rfl | rfl | rfl | rfl | rfl <;> simp [Belongs, switchPins]
  decide

/-- A mode that there is gets assigned. -/
theorem mode_mem_setChannelMode (c : Switches) {m : UInt32} {mode : ChanMode}
    (named : namedMode m.toNat = some mode) : .mode c.chan mode ∈ setChannelMode c m := by
  unfold namedMode at named
  split at named
  · cases named
    simp [setChannelMode, *]
  · cases named
    simp [setChannelMode, *]
  · cases named
    simp [setChannelMode, *]
  · cases named

/-- For any other mode nothing is done. -/
theorem setChannelMode_other (c : Switches) {m : UInt32} (other : 3 ≤ m.toNat) :
    setChannelMode c m = [] := by
  unfold setChannelMode
  split
  · omega
  · omega
  · omega
  · rfl

theorem lowNibble (value : UInt16) : (value &&& 0xF).toUInt32.toNat = value.toNat % 16 := by
  simp only [UInt16.toNat_toUInt32, UInt16.toNat_and]
  exact Nat.and_two_pow_sub_one_eq_mod value.toNat 4

theorem namedChan_lt {n : Nat} {chan : Chan} (named : namedChan n = some chan) : n < 2 := by
  unfold namedChan at named
  split at named
  · decide
  · decide
  · cases named

theorem namedMode_lt {n : Nat} {mode : ChanMode} (named : namedMode n = some mode) : n < 3 := by
  unfold namedMode at named
  split at named
  · decide
  · decide
  · decide
  · cases named

theorem namedMode_some {n : Nat} (small : n < 3) : ∃ mode, namedMode n = some mode := by
  interval_cases n
  · exact ⟨_, rfl⟩
  · exact ⟨_, rfl⟩
  · exact ⟨_, rfl⟩

/-- What `set_mode` does for a channel that there is -/
theorem setMode_named {chan : UInt32} (small : chan.toNat < 2) (m : UInt32) :
    ∃ c : Switches, namedChan chan.toNat = some c.chan ∧ setMode chan m = setChannelMode c m ∧
      ∀ r, Touched (setChannelMode c m) r → Belongs c.chan r := by
  by_cases zero : chan.toNat = 0
  · refine ⟨switchesA, ?_, ?_, fun r => belongs_switchesA⟩
    · rw [zero]
      rfl
    · rw [setMode, zero]
      rfl
  · have one : chan.toNat = 1 := by omega
    refine ⟨switchesB, ?_, ?_, fun r => belongs_switchesB⟩
    · rw [one]
      rfl
    · rw [setMode, one]
      rfl

/-- For any other channel or mode `set_mode` does nothing. -/
theorem setMode_other {chan m : UInt32} (other : 2 ≤ chan.toNat ∨ 3 ≤ m.toNat) : setMode chan m = [] := by
  unfold setMode
  split
  · exact setChannelMode_other _ (by omega)
  · exact setChannelMode_other _ (by omega)
  · rfl

/-- `set_mode` itself acts on exactly the channel that it is called for. -/
theorem setsMode_setMode (chan m : UInt32) : SetsMode chan.toNat m.toNat (setMode chan m) := by
  by_cases known : chan.toNat < 2 ∧ m.toNat < 3
  · obtain ⟨c, isChan, called, belongs⟩ := setMode_named known.1 m
    obtain ⟨mode, isMode⟩ := namedMode_some known.2
    rw [called]
    constructor
    · intro r touched
      exact ⟨c.chan, mode, isChan, isMode, belongs r touched⟩
    · intro chan' mode' named namedToo
      obtain rfl := Option.some.inj (isChan.symm.trans named)
      exact mode_mem_setChannelMode c namedToo
  · rw [setMode_other (by omega)]
    constructor
    · exact fun r touched => absurd touched (touched_nil r)
    · intro chan' mode' named namedToo
      exact absurd ⟨namedChan_lt named, namedMode_lt namedToo⟩ known

/-- Request 0x53 -/
theorem setsMode_iff (wValue wIndex : UInt16) :
    SetsMode wValue.toNat wIndex.toNat
        (setMode (wValue &&& 0xF).toUInt32 (wIndex &&& 0xF).toUInt32) ↔
      (wValue.toNat % 16 < 2 → wIndex.toNat % 16 < 3 →
        wValue.toNat < 16 ∧ wIndex.toNat < 16) := by
  have channel := lowNibble wValue
  have mode := lowNibble wIndex
  have called := setsMode_setMode (wValue &&& 0xF).toUInt32 (wIndex &&& 0xF).toUInt32
  rw [channel, mode] at called
  constructor
  · intro sets smallChan smallMode
    -- the assignment of the mode variable gives the named channel away
    obtain ⟨c, isChan, -, -⟩ := setMode_named (channel.symm ▸ smallChan) 0
    obtain ⟨m, isMode⟩ := namedMode_some smallMode
    rw [channel] at isChan
    have assigned : Touched (setMode (wValue &&& 0xF).toUInt32 (wIndex &&& 0xF).toUInt32)
        (.mode c.chan) := ⟨_, called.sets c.chan m isChan isMode, rfl⟩
    obtain ⟨chan, named, namedChannel, namedToo, -⟩ := sets.only _ assigned
    have chanLt := namedChan_lt namedChannel
    have modeLt := namedMode_lt namedToo
    omega
  · intro small
    by_cases acts : wValue.toNat % 16 < 2 ∧ wIndex.toNat % 16 < 3
    · obtain ⟨smallChan, smallMode⟩ := small acts.1 acts.2
      rwa [Nat.mod_eq_of_lt smallChan, Nat.mod_eq_of_lt smallMode] at called
    · rw [setMode_other (by omega)]
      constructor
      · exact fun r touched => absurd touched (touched_nil r)
      · intro chan m named namedToo
        have chanLt := namedChan_lt named
        have modeLt := namedMode_lt namedToo
        omega

theorem dac_setChannelMode (c : Switches) (m : UInt32) (conf : UInt8) (data : UInt16) :
    .dac conf data ∈ setChannelMode c m ↔
      m.toNat = 0 ∧ conf = c.conf ∧ data = Dac.swap16 Dac.defDataI0Dac := by
  unfold setChannelMode
  split
  · rename_i disabled
    simp [writeAd5663, pioSet, pioClear, disabled]
  · rename_i svmi
    simp [pioClear, svmi]
  · rename_i simv
    simp [pioSet, pioClear, simv]
  · rename_i other _ _
    simpa using fun disabled => absurd disabled other

/-- What `set_mode` sends to the DAC, as the writers of the DAC have it. -/
theorem dac_setMode (chan m : UInt32) (conf : UInt8) (data : UInt16) :
    .dac conf data ∈ setMode chan m ↔ Dac.setMode chan m = some (conf, data) := by
  unfold setMode
  split
  · rename_i isA
    rw [dac_setChannelMode, Dac.setMode, isA]
    cases mode : m.toNat <;> simp [switchesA, eq_comm]
  · rename_i isB
    rw [dac_setChannelMode, Dac.setMode, isB]
    cases mode : m.toNat <;> simp [switchesB, eq_comm]
  · rename_i notA notB
    rw [Dac.setMode]
    split
    · exact absurd ‹chan.toNat = 0› notA
    · exact absurd ‹chan.toNat = 1› notB
    · simp

/-- Request 0x59 -/
theorem setsPotentiometer_iff (stack : UInt8) (wValue : UInt16) (r1 r2 : UInt8) :
    SetsPotentiometer wValue.toNat (writeAd5122 stack (wValue &&& 0xF).toUInt32 r1 r2) ↔
      wValue.toNat < 2 := by
  have channel := lowNibble wValue
  constructor
  · intro sets
    -- nothing should be written, but `write_ad5122` always writes twice
    by_contra large
    have none : namedChan wValue.toNat = none := by
      unfold namedChan
      split
      · omega
      · omega
      · rfl
    rw [SetsPotentiometer, none] at sets
    cases sets
  · intro small
    have isA (zero : wValue.toNat = 0) : (wValue &&& 0xF).toUInt32 = 0 := by
      apply UInt32.toNat_inj.mp
      rw [channel, zero]
      rfl
    have isB (one : wValue.toNat = 1) : (wValue &&& 0xF).toUInt32 = 1 := by
      apply UInt32.toNat_inj.mp
      rw [channel, one]
      rfl
    by_cases zero : wValue.toNat = 0
    · rw [isA zero, zero]
      have chip : (0x2f : UInt8) &&& 0x7F = 0x2f := by decide
      simp [SetsPotentiometer, writeAd5122, twiMasterWrite, Access.register?, namedChan, potentiometer,
        chip]
    · have one : wValue.toNat = 1 := by omega
      rw [isB one, one]
      have chip : (0x23 : UInt8) &&& 0x7F = 0x23 := by decide
      simp [SetsPotentiometer, writeAd5122, twiMasterWrite, Access.register?, namedChan, potentiometer,
        chip]

/-! ## The sampling timer -/

/-- What request 0xC5 programs into the registers of 16 bits. -/
theorem compares_iff {wValue : UInt16} (start : 1 ≤ wValue) (wIndex : UInt16) (s : Stream) :
    Compares (configureSampling wValue wIndex s).tc ↔ 31 ≤ wValue.toNat := by
  have positive : 1 ≤ wValue.toNat := UInt16.le_iff_toNat_le.mp start
  have bound := wValue.toNat_lt
  have rc : wValue.toUInt32.toUInt16.toNat = wValue.toNat := by simp
  -- the subtraction is on 32 bits, of which the register takes 16
  have rb : (wValue.toUInt32 - 30).toUInt16.toNat = (wValue.toNat + 65506) % 65536 := by
    rw [UInt32.toNat_toUInt16, UInt32.toNat_sub, UInt16.toNat_toUInt32]
    show (2 ^ 32 - 30 + wValue.toNat) % 2 ^ 32 % 2 ^ 16 = _
    omega
  have ra : (10 : UInt32).toUInt16.toNat = 10 := rfl
  rw [configureSampling_start start]
  constructor
  · -- below 30 the difference wraps around to values above RC; at 30 it is zero
    rintro ⟨some, converts, -, -, -⟩
    have some := UInt16.lt_iff_toNat_lt.mp some
    have converts := UInt16.lt_iff_toNat_lt.mp converts
    simp only [rb, rc] at some converts
    have zero : (0 : UInt16).toNat = 0 := rfl
    omega
  · intro long
    have length : (wValue.toNat + 65506) % 65536 = wValue.toNat - 30 := by omega
    exact {
      positive := by
        apply UInt16.lt_iff_toNat_lt.mpr
        rw [rb, length]
        show 0 < wValue.toNat - 30
        omega
      converts := by
        apply UInt16.lt_iff_toNat_lt.mpr
        rw [rb, rc, length]
        omega
      loads := by
        apply UInt16.lt_iff_toNat_lt.mpr
        rw [ra, rc]
        omega
      conversions := by
        rw [rb, rc, length]
        exact risesEveryPeriod (by omega) (by omega)
      dacLoads := by
        rw [ra, rc]
        exact risesEveryPeriod (by omega) (by omega) }

/-! ## The requests -/

section Requests

variable {inputs : Control.Inputs} {req : SetupReq} {payload : Control.Pointer} {mem : Control.Memory}

/-- The command of a request, by its code -/
def hardwareCommand (req : SetupReq) (code : Nat) : List Command :=
  match code with
  | 0x50 => [.pioSetOutput (req.wValue > 0x1F) (Control.pin (req.wValue &&& 0x1F).toUInt32) false]
  | 0x51 => [.pioSetOutput (req.wValue > 0x1F) (Control.pin (req.wValue &&& 0x1F).toUInt32) true]
  | 0x91 => [.pioSetInput (req.wValue > 0x1F) (Control.pin (req.wValue &&& 0x1F).toUInt32)]
  | 0x53 => [.setMode (req.wValue &&& 0xF) (req.wIndex &&& 0xF)]
  | 0x59 => [.writeAd5122 (req.wValue &&& 0xF) (req.wIndex >>> 8).toUInt8 (req.wIndex &&& 0xFF).toUInt8]
  | 0xC5 => [.sampling req.wValue req.wIndex]
  | _ => []

theorem commandsOf_eq (vendor : req.isVendor = true) {code : Nat}
    (known : code = 0x50 ∨ code = 0x51 ∨ code = 0x91 ∨ code = 0x53 ∨ code = 0x59 ∨ code = 0xC5)
    (isCode : req.bRequest.toNat = code) :
    commandsOf inputs req payload mem = hardwareCommand req code := by
  rcases known with rfl | rfl | rfl | rfl | rfl | rfl <;>
    simp [commandsOf, Control.mainSetupHandle, Control.asked, vendor, isCode, hardwareCommand,
      Control.Handling.answer, Control.Handling.command, Control.Handling.fill,
      Control.Handling.setPayload]

theorem performed_eq (vendor : req.isVendor = true) (stack : UInt8) {code : Nat}
    (known : code = 0x50 ∨ code = 0x51 ∨ code = 0x91 ∨ code = 0x53 ∨ code = 0x59 ∨ code = 0xC5)
    (isCode : req.bRequest.toNat = code) :
    performed stack inputs req payload mem = (hardwareCommand req code).flatMap (accesses stack) ++
      if code = 0x91 then pioGetPinValue (req.wValue &&& 0xFF).toUInt32 else [] := by
  have get : req.bRequest = 0x91 ↔ code = 0x91 := by
    rw [← UInt8.toNat_inj, isCode]
    rfl
  rw [performed, commandsOf_eq vendor known isCode]
  simp only [get]

end Requests

/-- Each of the six requests acts on exactly what it names, if and only if its arguments name
    something that there is, and in no more bits than are looked at. -/
theorem acts_on_named_iff (stack : UInt8) (inputs : Control.Inputs) {req : SetupReq}
    (vendor : req.isVendor = true) (payload : Control.Pointer) (mem : Control.Memory) (s : Stream) :
    ActsOnNamed stack inputs req payload mem s ↔ NamesResource req := by
  -- one equivalence for each request
  have low (code : req.bRequest = 0x50) :
      SetsPin req.wValue.toNat false (performed stack inputs req payload mem) ↔
        req.wValue.toNat < 64 := by
    rw [performed_eq vendor stack (.inl rfl) (congrArg UInt8.toNat code)]
    exact setsPin_iff req.wValue false
  have high (code : req.bRequest = 0x51) :
      SetsPin req.wValue.toNat true (performed stack inputs req payload mem) ↔
        req.wValue.toNat < 64 := by
    rw [performed_eq vendor stack (.inr (.inl rfl)) (congrArg UInt8.toNat code)]
    exact setsPin_iff req.wValue true
  have get (code : req.bRequest = 0x91) :
      GetsPin req.wValue.toNat (performed stack inputs req payload mem) ↔
        req.wValue.toNat < 64 := by
    rw [performed_eq vendor stack (.inr (.inr (.inl rfl))) (congrArg UInt8.toNat code)]
    exact getsPin_iff req.wValue
  have mode (code : req.bRequest = 0x53) :
      SetsMode req.wValue.toNat req.wIndex.toNat (performed stack inputs req payload mem) ↔
        (req.wValue.toNat % 16 < 2 → req.wIndex.toNat % 16 < 3 →
          req.wValue.toNat < 16 ∧ req.wIndex.toNat < 16) := by
    rw [performed_eq vendor stack (.inr (.inr (.inr (.inl rfl)))) (congrArg UInt8.toNat code),
      ← setsMode_iff]
    simp [hardwareCommand, accesses]
  have potentiometers (code : req.bRequest = 0x59) :
      SetsPotentiometer req.wValue.toNat (performed stack inputs req payload mem) ↔
        req.wValue.toNat < 2 := by
    rw [performed_eq vendor stack (.inr (.inr (.inr (.inr (.inl rfl))))) (congrArg UInt8.toNat code)]
    exact setsPotentiometer_iff stack req.wValue _ _
  have sampling (code : req.bRequest = 0xC5) (start : 1 ≤ req.wValue) :
      Compares (sampled inputs req payload mem s).tc ↔ 31 ≤ req.wValue.toNat := by
    rw [sampled, commandsOf_eq vendor (.inr (.inr (.inr (.inr (.inr rfl))))) (congrArg UInt8.toNat code)]
    exact compares_iff start req.wIndex s
  have started : 1 ≤ req.wValue ↔ req.wValue.toNat ≠ 0 := by
    rw [UInt16.le_iff_toNat_le]
    exact Nat.one_le_iff_ne_zero
  -- the clauses of both sides, one by one
  constructor
  · intro acts
    constructor
    · rintro (code | code | code)
      · exact (low code).mp (acts.low code)
      · exact (high code).mp (acts.high code)
      · exact (get code).mp (acts.get code)
    · exact fun code => (mode code).mp (acts.mode code)
    · exact fun code => (potentiometers code).mp (acts.potentiometers code)
    · intro code
      by_cases stop : req.wValue.toNat = 0
      · exact .inl stop
      · exact .inr ((sampling code (started.mpr stop)).mp (acts.sampling code (started.mpr stop)))
  · intro names
    constructor
    · exact fun code => (low code).mpr (names.pin (.inl code))
    · exact fun code => (high code).mpr (names.pin (.inr (.inl code)))
    · exact fun code => (get code).mpr (names.pin (.inr (.inr code)))
    · exact fun code => (mode code).mpr (names.mode code)
    · exact fun code => (potentiometers code).mpr (names.potentiometers code)
    · intro code start
      exact (sampling code start).mpr ((names.sampling code).resolve_left (started.mp start))

/-- Request 0x53 for channel B and mode `SIMV` -/
theorem acts_on_named_simv :
    SetsMode 1 2 (performed 0 {} ⟨0x40, 0x53, 1, 2, 0⟩ Control.Object.null.base fun _ _ => 0) := by
  have vendor : SetupReq.isVendor ⟨0x40, 0x53, 1, 2, 0⟩ = true := by decide
  have names : NamesResource ⟨0x40, 0x53, 1, 2, 0⟩ := by
    constructor <;> simp
  exact ((acts_on_named_iff 0 {} vendor Control.Object.null.base (fun _ _ => 0) {}).mpr names).mode rfl

/-- A start request for a period of 20 ticks has the conversions start at 65526, which the counter
    never reaches.  The potentiometers of a channel that there is not are written at the address
    that the stack happens to hold.  The request to read pin 83 configures pin 51, and reads another
    one. -/
theorem acts_on_others :
    let mem : Control.Memory := fun _ _ => 0
    let start : SetupReq := ⟨0x40, 0xC5, 20, 0, 0⟩
    let channel2 : SetupReq := ⟨0x40, 0x59, 2, 0x3040, 0⟩
    let pin83 : SetupReq := ⟨0xC0, 0x91, 83, 0, 1⟩
    (sampled {} start Control.Object.null.base mem {}).tc = { ra := 10, rb := 0xFFFFFFF6, rc := 20 } ∧
      (0xFFFFFFF6 : UInt32).toUInt16.toNat = 65526 ∧
      (∀ tick, ¬ Rises 20 65526 tick) ∧
      performed 0x58 {} channel2 Control.Object.null.base mem =
        [.i2c 0x58 0x10 0x30, .i2c 0x58 0x11 0x40] ∧
      performed 0x58 {} pin83 Control.Object.null.base mem =
        inputRegisters.map (fun register => .pio 1 register (Control.pin 19)) ++ [.pinRead 2 19] ∧
      ¬ ActsOnNamed 0x58 {} start Control.Object.null.base mem {} ∧
      ¬ ActsOnNamed 0x58 {} channel2 Control.Object.null.base mem {} ∧
      ¬ ActsOnNamed 0x58 {} pin83 Control.Object.null.base mem {} := by
  intro mem start channel2 pin83
  have programmed : (sampled {} start Control.Object.null.base mem {}).tc =
      { ra := 10, rb := 0xFFFFFFF6, rc := 20 } := by decide +kernel
  have written : performed 0x58 {} channel2 Control.Object.null.base mem =
      [.i2c 0x58 0x10 0x30, .i2c 0x58 0x11 0x40] := by decide +kernel
  have reads : performed 0x58 {} pin83 Control.Object.null.base mem =
      inputRegisters.map (fun register => .pio 1 register (Control.pin 19)) ++ [.pinRead 2 19] := by
    decide +kernel
  refine ⟨programmed, by decide, never_rises (by decide) (by decide), written, reads, ?_, ?_, ?_⟩
  · intro acts
    have converts := (acts.sampling rfl (by decide)).converts
    rw [programmed] at converts
    exact absurd converts (by decide)
  · intro acts
    have sets := acts.potentiometers rfl
    rw [written] at sets
    exact absurd sets (by simp [SetsPotentiometer, namedChan, channel2])
  · intro acts
    have touched : Touched (performed 0x58 {} pin83 Control.Object.null.base mem)
        (.pin ⟨2, 19⟩) := by
      rw [reads]
      exact ⟨_, List.mem_append_right _ List.mem_cons_self, rfl⟩
    obtain ⟨p, documented, -⟩ := (acts.get rfl).only _ touched
    cases documented

end M1k.Board
