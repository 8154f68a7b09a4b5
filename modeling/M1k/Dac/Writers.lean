import M1k.Library.Runs
import M1k.Library.Transmit
import M1k.Sampling.Handler

/-! # The two writers of the DAC

`TC2_Handler` and `write_ad5663` both send the DAC a command byte and a data word, through the
transmit DMA of USART0 and between edges of `N_SYNC`.  `write_ad5663` runs in the USB interrupt,
which the sample interrupt cuts; the bytes leave while either of them runs, and after.  So every
statement on USART0 or `N_SYNC` is a step of its own, and so is every byte shifted out. -/

namespace M1k.Dac

open Library.Transmit

/-- What a writer has USART0 read. -/
inductive Object where
  /-- `conf` of a call of `write_ad5663` -/
  | conf (call : Nat)
  /-- `data` of a call of `write_ad5663` -/
  | data (call : Nat)
  | ram (p : Ptr)
  deriving DecidableEq

/-! ## `write_ad5663` and `set_mode` -/

/-- `SWAP16(x)` -/
def swap16 (x : UInt16) : UInt16 := ((x &&& 0xff00) >>> 8) ||| ((x &&& 0x00ff) <<< 8)

/-- `def_data[i0_dac]` -/
def defDataI0Dac : UInt16 := 26600

/-- `write_ad5663`, without its delays: anything may happen between two statements. -/
def writeAd5663 (call : Nat) : List (Stmt Object) :=
  [.tpr (.conf call), .tnpr (.data call), .sync false, .tcr 1, .tncr 2, .waitTxEmpty, .sync true]

/-- The arguments of the `write_ad5663` that `set_mode` calls, if it calls it.  The pins it sets
    besides are none of the DAC's. -/
def setMode (chan m : UInt32) : Option (UInt8 × UInt16) :=
  match chan.toNat with
  | 0 =>
    match m.toNat with
    | 0 => some (0, swap16 defDataI0Dac)
    | _ => none
  | 1 =>
    match m.toNat with
    | 0 => some (1, swap16 defDataI0Dac)
    | _ => none
  | _ => none

/-! ## `TC2_Handler` -/

/-- A writer of the DAC. -/
inductive Writer where
  /-- a call of `write_ad5663` -/
  | write (call : Nat)
  /-- a sample interrupt, with its channel and the word of `packets_out` for its slot -/
  | slot (chan : Chan) (packet word : Nat)
  deriving DecidableEq

namespace Writer

def command : Writer → Object
  | .write call => .conf call
  | .slot .A _ _ => .ram .da
  | .slot .B _ _ => .ram .db

def data : Writer → Object
  | .write call => .data call
  | .slot _ packet word => .ram (.packetsOut packet word)

/-- The bytes a writer has to send: its command byte, and the two bytes of its word. -/
def frame (writer : Writer) : List (Object × Nat) :=
  [(writer.command, 0), (writer.data, 0), (writer.data, 1)]

/-- The bytes tell who wrote them. -/
theorem frame_injective : Function.Injective frame := by
  intro first second same
  simp only [frame, List.cons.injEq, Prod.mk.injEq, and_true] at same
  obtain ⟨sameCommand, sameData, -⟩ := same
  cases first with
  | write call =>
    cases second with
    | write other =>
      cases sameCommand
      rfl
    | slot chan packet word => cases chan <;> cases sameCommand
  | slot chan packet word =>
    cases second with
    | write other => cases chan <;> cases sameCommand
    | slot chan' packet' word' =>
      cases sameData
      cases chan <;> cases chan' <;> cases sameCommand <;> rfl

end Writer

/-- The writer that a sample interrupt is. -/
def slotOf (smp : Sampler) : Writer :=
  match smp.currentChan with
  | .A => .slot .A smp.packetIndexOut.toNat (smp.slotOffsetOut.toNat * 2 + 0)
  | .B => .slot .B smp.packetIndexOut.toNat (smp.slotOffsetOut.toNat * 2 + 1)

/-- The statements of `TC2_Handler` on USART0 and `N_SYNC`, with the values it writes. -/
def tc2Statements (smp : Sampler) : List (Stmt Object) :=
  let usart0 := (tc2Handler smp).usart0
  [.sync true, .tpr (.ram usart0.tpr), .tnpr (.ram usart0.tnpr), .sync false, .tcr usart0.tcr,
    .tncr usart0.tncr]

theorem writeAd5663_eq (call : Nat) :
    writeAd5663 call =
      load (Writer.write call).command 1 (Writer.write call).data 2 ++
        [.waitTxEmpty, .sync true] := rfl

theorem tc2Statements_eq (smp : Sampler) :
    tc2Statements smp = .sync true :: load (slotOf smp).command 1 (slotOf smp).data 2 := by
  cases chan : smp.currentChan with
  | A => simp [tc2Statements, tc2Handler_A chan, slotOf, chan, tc2HandlerA, Pdc.load, load,
      Writer.command, Writer.data]
  | B => simp [tc2Statements, tc2Handler_B chan, slotOf, chan, tc2HandlerB, Pdc.load, load,
      Writer.command, Writer.data]

/-! ## The machine -/

structure State where
  smp : Sampler
  line : Line Object
  /-- What `TC2_Handler` has left to do. -/
  handler : List (Stmt Object) := []
  /-- What the `write_ad5663` of the USB interrupt has left to do. -/
  writer : List (Stmt Object) := []
  /-- The arguments of the calls of `write_ad5663`. -/
  calls : List (UInt8 × UInt16) := []
  /-- Calls and sample interrupts, in the order in which they began. -/
  begun : List Writer := []

inductive Event where
  /-- The sample timer expires: `TC2_Handler` is entered. -/
  | tc2
  /-- The next statement of `TC2_Handler`. -/
  | handler
  /-- The USB interrupt calls `set_mode(chan, m)`. -/
  | setMode (chan m : UInt32)
  /-- The next statement of `write_ad5663`. -/
  | writer
  /-- USART0 shifts a byte out. -/
  | shift
  /-- Request 0xC5 or the main loop assign the sampling variables. -/
  | assign (smp : Sampler)

/-- An event that cannot happen yet does nothing: `TC2_Handler` is not interrupted by either, and
    one USB request is served at a time. -/
def step (s : State) : Event → State
  | .tc2 =>
    if s.handler = [] then
      { s with
        smp := tc2Handler s.smp
        handler := tc2Statements s.smp
        begun := s.begun ++ [slotOf s.smp] }
    else s
  | .handler =>
    match s.handler with
    | [] => s
    | statement :: rest => { s with line := s.line.exec statement, handler := rest }
  | .setMode chan m =>
    if s.handler = [] ∧ s.writer = [] then
      match setMode chan m with
      -- only one mode has something sent to the DAC
      | none => s
      | some arguments =>
        { s with
          writer := writeAd5663 s.calls.length
          calls := s.calls ++ [arguments]
          begun := s.begun ++ [.write s.calls.length] }
    else s
  | .writer =>
    if s.handler = [] then
      match s.writer with
      | [] => s
      -- the busy wait for `TXEMPTY`
      | .waitTxEmpty :: rest => if s.line.channel.Idle then { s with writer := rest } else s
      | statement :: rest => { s with line := s.line.exec statement, writer := rest }
    else s
  | .shift => { s with line := s.line.shift }
  | .assign smp => if s.handler = [] then { s with smp := smp } else s

/-- As the initialisation leaves the DAC. -/
structure Fresh (s : State) : Prop where
  clear : s.line.Clear
  closed : s.line.closed = []
  handler : s.handler = []
  writer : s.writer = []
  calls : s.calls = []
  begun : s.begun = []

/-- The call of `write_ad5663` has returned. -/
def State.Finished (s : State) (call : Nat) : Prop :=
  call + 1 < s.calls.length ∨ call + 1 = s.calls.length ∧ s.writer = []

/-- Frames are not mixed: each interval in which `N_SYNC` was low is one frame of one writer, the
    bytes sent since it last fell begin one, and `write_ad5663` has sent its frame once when it
    returns, and never twice. -/
structure Unmixed (s : State) : Prop where
  frames : ∀ interval ∈ s.line.closed, ∃ writer ∈ s.begun, interval = writer.frame
  current : s.line.nSync = false → ∃ writer ∈ s.begun, s.line.current <+: writer.frame
  once : ∀ call, s.Finished call → s.line.closed.count (Writer.write call).frame = 1
  notTwice : ∀ call, s.line.closed.count (Writer.write call).frame ≤ 1

end M1k.Dac
