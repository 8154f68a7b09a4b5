import M1k.Control.MemorySafety
import M1k.Dac.Writers
import M1k.Streaming.Effects

/-! # What requests do to the board

The requests that set and read pins, and set the modes of the channels and their potentiometers,
down to the accesses to the peripherals: the functions of `main.c`, and those of the drivers that
they call. -/

namespace M1k.Board

open Control (Command SetupReq)

/-! ## Accesses -/

/-- The registers of a PIO controller that are written.  A write concerns the pins whose bits are
    set, and leaves the others alone. -/
inductive PioRegister where
  | idr
  | puer
  | pudr
  | mder
  | mddr
  | ifer
  | ifdr
  | scifsr
  | difsr
  | sodr
  | codr
  | oer
  | odr
  | per
  deriving DecidableEq

/-- `chan_mode` -/
inductive ChanMode where
  | disabled
  | svmi
  | simv
  deriving DecidableEq

inductive Access where
  /-- A write to a register of a port: 0 is `PIOA`, 1 is `PIOB`. -/
  | pio (port : Nat) (register : PioRegister) (mask : UInt32)
  /-- One bit of `PIO_PDSR` is read. -/
  | pinRead (port bit : Nat)
  /-- `ma` or `mb` is assigned. -/
  | mode (chan : Chan) (m : ChanMode)
  /-- USART0 sends the DAC a command byte and a data word. -/
  | dac (conf : UInt8) (data : UInt16)
  /-- A chip on the I2C bus is addressed, and sent the number of a register and a byte for it. -/
  | i2c (chip register value : UInt8)
  deriving DecidableEq

/-! ## `pio.c` -/

/-- `pio_set` -/
def pioSet (port : Nat) (mask : UInt32) : List Access := [.pio port .sodr mask]

/-- `pio_clear` -/
def pioClear (port : Nat) (mask : UInt32) : List Access := [.pio port .codr mask]

/-- `pio_pull_up` -/
def pioPullUp (port : Nat) (mask : UInt32) (enable : Bool) : List Access :=
  [.pio port (if enable then .puer else .pudr) mask]

/-- `pio_set_output` -/
def pioSetOutput (port : Nat) (mask : UInt32) (level multidrive pullUp : Bool) : List Access :=
  [.pio port .idr mask] ++ pioPullUp port mask pullUp ++
    [.pio port (if multidrive then .mder else .mddr) mask,
      .pio port (if level then .sodr else .codr) mask,
      .pio port .oer mask,
      .pio port .per mask]

/-- `pio_set_input`; of the attributes, bit 0 is `PIO_PULLUP`, bit 1 `PIO_DEGLITCH` and bit 3
    `PIO_DEBOUNCE`. -/
def pioSetInput (port : Nat) (mask attributes : UInt32) : List Access :=
  [.pio port .idr mask] ++ pioPullUp port mask (attributes &&& 1 != 0) ++
    [.pio port (if attributes &&& (2 ||| 8) ≠ 0 then .ifer else .ifdr) mask] ++
    (if attributes &&& 2 ≠ 0 then [.pio port .scifsr mask]
      else if attributes &&& 8 ≠ 0 then [.pio port .difsr mask] else []) ++
    [.pio port .odr mask, .pio port .per mask]

/-- `pio_get_pin_value` -/
def pioGetPinValue (pin : UInt32) : List Access :=
  [.pinRead (pin >>> 5).toNat (pin &&& 0x1F).toNat]

/-! ## `main.c` -/

/-- `N_SYNC` -/
def nSync : UInt32 := Control.pin 16

/-- `write_ad5663` -/
def writeAd5663 (conf : UInt8) (data : UInt16) : List Access :=
  pioClear 0 nSync ++ [.dac conf data] ++ pioSet 0 nSync

/-- What `set_mode` uses of a channel: the pins of port B, and the command byte for its DAC. -/
structure Switches where
  chan : Chan
  modeSwitch : UInt32
  senseLoop : UInt32
  output : UInt32
  conf : UInt8

def switchesA : Switches := ⟨.A, Control.pin 19, Control.pin 2, Control.pin 3, 0⟩

def switchesB : Switches := ⟨.B, Control.pin 20, Control.pin 7, Control.pin 8, 1⟩

/-- One case of `set_mode` -/
def setChannelMode (c : Switches) (m : UInt32) : List Access :=
  match m.toNat with
  | 0 =>
    [.mode c.chan .disabled] ++ pioSet 1 c.modeSwitch ++ pioClear 1 c.senseLoop ++ pioSet 1 c.output ++
      writeAd5663 c.conf (Dac.swap16 Dac.defDataI0Dac)
  | 1 => [.mode c.chan .svmi] ++ pioClear 1 c.modeSwitch ++ pioClear 1 c.senseLoop ++ pioClear 1 c.output
  | 2 => [.mode c.chan .simv] ++ pioSet 1 c.modeSwitch ++ pioClear 1 c.senseLoop ++ pioClear 1 c.output
  | _ => []

/-- `set_mode` -/
def setMode (chan m : UInt32) : List Access :=
  match chan.toNat with
  | 0 => setChannelMode switchesA m
  | 1 => setChannelMode switchesB m
  | _ => []

/-- `twi_master_write` of one byte, with a register address of one byte.  Of `chip`, `TWI_MMR_DADR`
    takes seven bits. -/
def twiMasterWrite (chip register value : UInt8) : List Access := [.i2c (chip &&& 0x7F) register value]

/-- `write_ad5122`; `stack` is what stands where `p.chip` is. -/
def writeAd5122 (stack : UInt8) (ch : UInt32) (r1 r2 : UInt8) : List Access :=
  let chip := if ch = 1 then 0x23 else if ch = 0 then 0x2f else stack
  twiMasterWrite chip 0x10 (r1 &&& 0x7f) ++ twiMasterWrite chip 0x11 (r2 &&& 0x7f)

/-! ## Requests -/

/-- The port that `PB ? PIOB : PIOA` selects -/
def portOf (portB : Bool) : Nat := if portB then 1 else 0

/-- The accesses of a command: the commands that are not listed belong to other requests. -/
def accesses (stack : UInt8) : Command → List Access
  | .pioSetOutput portB mask high => pioSetOutput (portOf portB) mask high false false
  | .pioSetInput portB mask => pioSetInput (portOf portB) mask 0
  | .setMode chan m => setMode chan.toUInt32 m.toUInt32
  | .writeAd5122 ch r1 r2 => writeAd5122 stack ch.toUInt32 r1 r2
  | _ => []

/-- What `main_setup_handle` has done for a request. -/
def commandsOf (inputs : Control.Inputs) (req : SetupReq) (payload : Control.Pointer)
    (mem : Control.Memory) : List Command :=
  match Control.mainSetupHandle inputs (Control.asked req payload mem) with
  | some h => h.commands
  | none => []

/-- The accesses of a request.  Request 0x91 reads the pin that it has configured, by
    `pio_get_pin_value(wValue&0xFF)`. -/
def performed (stack : UInt8) (inputs : Control.Inputs) (req : SetupReq) (payload : Control.Pointer)
    (mem : Control.Memory) : List Access :=
  (commandsOf inputs req payload mem).flatMap (accesses stack) ++
    if req.bRequest = 0x91 then pioGetPinValue (req.wValue &&& 0xFF).toUInt32 else []

/-- The sampling timer and everything else that request 0xC5 sets -/
def sampled (inputs : Control.Inputs) (req : SetupReq) (payload : Control.Pointer)
    (mem : Control.Memory) (s : Stream) : Stream :=
  (commandsOf inputs req payload mem).foldl (fun s command =>
    match command with
    | .sampling wValue wIndex => configureSampling wValue wIndex s
    | _ => s) s

/-! ## Pins -/

structure Pin where
  port : Nat
  bit : Nat
  deriving DecidableEq

/-- What a PIO controller keeps for a pin. -/
structure PinState where
  interrupt : Bool
  pullUp : Bool
  multiDrive : Bool
  /-- The input filter, and whether it is the one against bouncing -/
  filter : Bool
  debounce : Bool
  level : Bool
  output : Bool
  /-- The PIO controller drives the pin, and not a peripheral. -/
  pio : Bool

/-- A write with the bit of the pin set -/
def PioRegister.write (register : PioRegister) (p : PinState) : PinState :=
  match register with
  | .idr => { p with interrupt := false }
  | .puer => { p with pullUp := true }
  | .pudr => { p with pullUp := false }
  | .mder => { p with multiDrive := true }
  | .mddr => { p with multiDrive := false }
  | .ifer => { p with filter := true }
  | .ifdr => { p with filter := false }
  | .scifsr => { p with debounce := false }
  | .difsr => { p with debounce := true }
  | .sodr => { p with level := true }
  | .codr => { p with level := false }
  | .oer => { p with output := true }
  | .odr => { p with output := false }
  | .per => { p with pio := true }

/-- The pins after an access. -/
def Access.perform (pins : Pin → PinState) (access : Access) : Pin → PinState :=
  match access with
  | .pio port register mask => fun p =>
    if p.port = port ∧ mask.toNat.testBit p.bit = true then register.write (pins p) else pins p
  | .pinRead .. | .mode .. | .dac .. | .i2c .. => pins

def performAll (accesses : List Access) (pins : Pin → PinState) : Pin → PinState :=
  accesses.foldl Access.perform pins

/-! ## What an access touches -/

inductive Resource where
  | pin (p : Pin)
  | mode (chan : Chan)
  /-- A channel of the DAC, by its address in the command byte -/
  | dac (address : UInt8)
  | register (chip register : UInt8)
  deriving DecidableEq

def Access.Touches (access : Access) (r : Resource) : Prop :=
  match access with
  | .pio port _ mask => ∃ bit, mask.toNat.testBit bit = true ∧ r = .pin ⟨port, bit⟩
  | .pinRead port bit => r = .pin ⟨port, bit⟩
  | .mode chan _ => r = .mode chan
  | .dac conf _ => r = .dac (conf &&& 7)
  | .i2c chip register _ => r = .register chip register

/-- The resources that a list of accesses touches -/
def Touched (accesses : List Access) (r : Resource) : Prop := ∃ access ∈ accesses, access.Touches r

/-- A pin that is not touched stays as it is. -/
theorem performAll_untouched {accesses : List Access} {p : Pin}
    (untouched : ¬ Touched accesses (.pin p)) (pins : Pin → PinState) :
    performAll accesses pins p = pins p := by
  induction accesses generalizing pins with
  | nil => rfl
  | cons access accesses inductionHypothesis =>
    have later : ¬ Touched accesses (.pin p) := fun ⟨other, member, touches⟩ =>
      untouched ⟨other, List.mem_cons_of_mem _ member, touches⟩
    have now : access.perform pins p = pins p := by
      cases access with
      | pio port register mask =>
        apply if_neg
        rintro ⟨samePort, inMask⟩
        exact untouched ⟨_, List.mem_cons_self, p.bit, inMask, by rw [← samePort]⟩
      | pinRead port bit => rfl
      | mode chan m => rfl
      | dac conf data => rfl
      | i2c chip register value => rfl
    exact (inductionHypothesis later (access.perform pins)).trans now

/-- Writes to registers of one port, all with the bit of the pin -/
theorem performAll_pin (registers : List PioRegister) {p : Pin} {mask : UInt32}
    (inMask : mask.toNat.testBit p.bit = true) (pins : Pin → PinState) :
    performAll (registers.map fun register => .pio p.port register mask) pins p =
      registers.foldl (fun state register => register.write state) (pins p) := by
  induction registers generalizing pins with
  | nil => rfl
  | cons register registers inductionHypothesis =>
    have now : (Access.pio p.port register mask).perform pins p = register.write (pins p) :=
      if_pos ⟨rfl, inMask⟩
    have later := inductionHypothesis ((Access.pio p.port register mask).perform pins)
    rw [now] at later
    exact later

/-- The mask of one pin has its bit, and no other. -/
theorem testBit_pin {index : UInt32} (small : index.toNat < 32) (bit : Nat) :
    (Control.pin index).toNat.testBit bit = true ↔ bit = index.toNat := by
  have bound : 2 ^ index.toNat < 2 ^ 32 := Nat.pow_lt_pow_right (by decide) small
  have mask : (Control.pin index).toNat = 2 ^ index.toNat := by
    rw [Control.pin, UInt32.toNat_shiftLeft, Nat.mod_eq_of_lt small]
    simp only [UInt32.toNat_one, Nat.shiftLeft_eq, Nat.one_mul]
    exact Nat.mod_eq_of_lt bound
  rw [mask, Nat.testBit_two_pow, decide_eq_true_eq]
  exact eq_comm

end M1k.Board
