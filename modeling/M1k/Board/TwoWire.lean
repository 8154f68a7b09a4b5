import M1k.Board.Accesses
import M1k.Control.Request
import M1k.Library.Runs

/-! # The driver of the I2C bus

`twi_master_write` and `twi_master_read` write a few registers and then read the status again and
again, until a flag lets them go on.  Each is a machine here whose events are the readings, so that
whatever the interface and the chips on the bus do is a list of them. -/

namespace M1k.Twi

open Library.Runs

/-- What `TWI_SR` says, with what `TWI_RHR` holds then -/
structure Reading where
  nack : Bool := false
  txrdy : Bool := false
  rxrdy : Bool := false
  txcomp : Bool := false
  rhr : UInt8 := 0

/-- A write to a register of the interface -/
inductive Access where
  | mmr (value : UInt32)
  | iadr (value : UInt32)
  | cr (start stop : Bool)
  | thr (byte : UInt8)
  deriving DecidableEq

/-- `TWI_SUCCESS` and the errors -/
inductive Result where
  | success
  | invalidArgument
  | receiveNack
  | errorTimeout
  deriving DecidableEq

-- Named, so that a literal of `Fin 3` carries no proof of its own into the bodies below
local instance addrNonempty : @NeZero Nat Zero.ofOfNat0 3 := Nat.instNeZeroSucc

/-- `twi_packet_t`, but for its buffer -/
structure Packet where
  addr : Fin 3 → UInt8
  addrLength : Fin 4
  chip : UInt8

/-- `twi_mk_addr` -/
def twiMkAddr (addr : Fin 3 → UInt8) (len : Fin 4) : UInt32 :=
  let first := if len = 0 then 0 else (addr 0).toUInt32
  let second := if len > 1 then first <<< 8 ||| (addr 1).toUInt32 else first
  if len > 2 then second <<< 8 ||| (addr 2).toUInt32 else second

/-- `TWI_MMR_MREAD`, `TWI_MMR_DADR` and the field `IADRSZ` -/
def mmrOf (mread : Bool) (packet : Packet) : UInt32 :=
  let dadr := packet.chip.toUInt32 <<< 16
  let iadrsz := UInt32.ofNat packet.addrLength <<< 8
  (if mread then (0x1000 : UInt32) else 0) ||| (dadr &&& (0x7F0000 : UInt32)) ||| (iadrsz &&& (0x300 : UInt32))

def setup (mread : Bool) (packet : Packet) : List Access :=
  [.mmr 0, .mmr (mmrOf mread packet), .iadr 0, .iadr (twiMkAddr packet.addr packet.addrLength)]

/-! ## Writing -/

inductive WriteAt where
  /-- `while (cnt > 0)`, with these bytes left in the buffer -/
  | bytes (next : UInt8) (later : List UInt8)
  /-- `while (1)` -/
  | last
  /-- `while (!(p_twi->TWI_SR & TWI_SR_TXCOMP))` -/
  | complete
  | returned (result : Result)

structure Write where
  at_ : WriteAt
  accesses : List Access

/-- Where the loop over the bytes stands -/
def WriteAt.of : List UInt8 → WriteAt
  | [] => .last
  | byte :: later => .bytes byte later

/-- `twi_master_write` up to its first reading of the status -/
def Write.start (packet : Packet) (buffer : List UInt8) : Write :=
  if buffer = [] then { at_ := .returned .invalidArgument, accesses := [] }
  else { at_ := .of buffer, accesses := setup false packet }

/-- `twi_master_write` from one reading to the next -/
def Write.step (w : Write) (status : Reading) : Write :=
  match w.at_ with
  | .bytes next later =>
    if status.nack then { w with at_ := .returned .receiveNack }
    else if status.txrdy then { at_ := .of later, accesses := w.accesses ++ [.thr next] }
    else w
  | .last =>
    if status.nack then { w with at_ := .returned .receiveNack }
    else if status.txrdy then { at_ := .complete, accesses := w.accesses ++ [.cr false true] }
    else w
  | .complete => if status.txcomp then { w with at_ := .returned .success } else w
  | .returned _ => w

/-! ## Reading -/

def twiTimeout : Nat := 15000

inductive ReadAt where
  /-- `while (cnt > 0)`, with `cnt = more + 1` -/
  | bytes (more timeout : Nat) (stopSent : Bool)
  /-- `while (!(p_twi->TWI_SR & TWI_SR_TXCOMP))` -/
  | complete
  | returned (result : Result)

structure Read where
  at_ : ReadAt
  accesses : List Access
  buffer : List UInt8 := []

/-- `twi_master_read` up to its first reading of the status.  A single byte is asked for with both
    conditions at once. -/
def Read.start (packet : Packet) : Nat → Read
  | 0 => { at_ := .returned .invalidArgument, accesses := [] }
  | more + 1 =>
    { at_ := .bytes more twiTimeout (more = 0)
      accesses := setup true packet ++ [.cr true (more = 0)] }

/-- `twi_master_read` from one reading to the next -/
def Read.step (r : Read) (status : Reading) : Read :=
  match r.at_ with
  | .bytes more timeout stopSent =>
    if status.nack then { r with at_ := .returned .receiveNack }
    else if timeout = 0 then { r with at_ := .returned .errorTimeout }
    else
      let stops := more = 0 ∧ stopSent = false
      let accesses := if stops then r.accesses ++ [.cr false true] else r.accesses
      let stopSent := stopSent || decide (more = 0)
      if status.rxrdy = false then
        { r with at_ := .bytes more (timeout - 1) stopSent, accesses := accesses }
      else
        { at_ := if more = 0 then .complete else .bytes (more - 1) twiTimeout stopSent
          accesses := accesses
          buffer := r.buffer ++ [status.rhr] }
  | .complete => if status.txcomp then { r with at_ := .returned .success } else r
  | .returned _ => r

/-! ## What a write does -/

/-- The accesses that are still to come when nothing goes wrong -/
def WriteAt.pending : WriteAt → List Access
  | .bytes next later => (next :: later).map .thr ++ [.cr false true]
  | .last => [.cr false true]
  | .complete => []
  | .returned _ => []

theorem WriteAt.pending_of (buffer : List UInt8) :
    (WriteAt.of buffer).pending = buffer.map .thr ++ [.cr false true] := by
  cases buffer with
  | nil => rfl
  | cons byte later => rfl

theorem WriteAt.pending_bytes (next : UInt8) (later : List UInt8) :
    (WriteAt.bytes next later).pending = .thr next :: (WriteAt.of later).pending := by
  rw [pending_of]
  rfl

/-- The readings with `TXRDY` before the first with `NACK` -/
def readyCount (readings : List Reading) : Nat :=
  (readings.takeWhile fun status => !status.nack).countP Reading.txrdy

theorem readyCount_cons (status : Reading) (readings : List Reading) :
    readyCount (status :: readings) =
      if status.nack then 0 else readyCount readings + if status.txrdy then 1 else 0 := by
  cases nack : status.nack with
  | true => simp [readyCount, nack]
  | false => simp [readyCount, nack, List.countP_cons]

/-- The registers are written in the one order, one write for each reading that allows it. -/
theorem Write.run_accesses (w : Write) (readings : List Reading) :
    (run Write.step w readings).accesses = w.accesses ++ w.at_.pending.take (readyCount readings) := by
  induction readings generalizing w with
  | nil => simp [readyCount]
  | cons status readings inductionHypothesis =>
    obtain ⟨at_, accesses⟩ := w
    rw [run_cons, inductionHypothesis, readyCount_cons]
    cases at_ with
    | bytes next later =>
      cases nack : status.nack with
      | true => simp [step, nack, WriteAt.pending]
      | false =>
        cases ready : status.txrdy with
        | true => simp [step, nack, ready, WriteAt.pending_bytes]
        | false => simp [step, nack, ready]
    | last =>
      cases nack : status.nack with
      | true => simp [step, nack, WriteAt.pending]
      | false =>
        cases ready : status.txrdy with
        | true => simp [step, nack, ready, WriteAt.pending]
        | false => simp [step, nack, ready]
    | complete =>
      cases done : status.txcomp with
      | true => simp [step, done, WriteAt.pending]
      | false => simp [step, done, WriteAt.pending]
    | returned result => simp [step, WriteAt.pending]

/-- A `NACK` comes before `count` readings with `TXRDY` have. -/
def Refused (count : Nat) (readings : List Reading) : Prop :=
  ∃ first status later, readings = first ++ status :: later ∧ (∀ r ∈ first, r.nack = false) ∧
    first.countP Reading.txrdy < count ∧ status.nack = true

/-- `count` readings with `TXRDY` come without a `NACK`, and after them one with `TXCOMP`. -/
def Completed (count : Nat) (readings : List Reading) : Prop :=
  ∃ first later, readings = first ++ later ∧ (∀ r ∈ first, r.nack = false) ∧
    first.countP Reading.txrdy = count ∧ ∃ r ∈ later, r.txcomp = true

theorem not_refused_zero (readings : List Reading) : ¬ Refused 0 readings := by
  rintro ⟨first, status, later, -, -, few, -⟩
  exact Nat.not_lt_zero _ few

theorem not_refused_nil (count : Nat) : ¬ Refused count [] := by
  rintro ⟨first, status, later, none, -⟩
  simp at none

theorem refused_cons (count : Nat) (status : Reading) (readings : List Reading) :
    Refused (count + 1) (status :: readings) ↔ status.nack = true ∨
      status.nack = false ∧ Refused (if status.txrdy then count else count + 1) readings := by
  constructor
  · rintro ⟨first, refusal, later, same, quiet, few, nack⟩
    cases first with
    | nil =>
      obtain ⟨rfl, rfl⟩ := List.cons_eq_cons.mp same
      exact .inl nack
    | cons head first =>
      obtain ⟨rfl, rfl⟩ := List.cons_eq_cons.mp same
      refine .inr ⟨quiet status List.mem_cons_self, first, refusal, later, rfl,
        fun r member => quiet r (List.mem_cons_of_mem _ member), ?_, nack⟩
      rw [List.countP_cons] at few
      cases ready : status.txrdy with
      | true =>
        rw [if_pos ready] at few
        simpa using few
      | false => simpa [ready] using few
  · rintro (nack | ⟨quiet, first, refusal, later, rfl, silent, few, nack⟩)
    · exact ⟨[], status, readings, rfl, by simp, by simp, nack⟩
    · refine ⟨status :: first, refusal, later, rfl, ?_, ?_, nack⟩
      · rintro r (_ | ⟨_, member⟩)
        · exact quiet
        · exact silent r member
      · rw [List.countP_cons]
        cases ready : status.txrdy with
        | true =>
          rw [if_pos ready] at few
          simpa using few
        | false => simpa [ready] using few

theorem completed_zero (readings : List Reading) : Completed 0 readings ↔ ∃ r ∈ readings, r.txcomp = true := by
  constructor
  · rintro ⟨first, later, rfl, -, -, r, member, done⟩
    exact ⟨r, List.mem_append_right _ member, done⟩
  · intro done
    exact ⟨[], readings, rfl, by simp, rfl, done⟩

theorem not_completed_nil (count : Nat) : ¬ Completed count [] := by
  rintro ⟨first, later, none, -, -, r, member, -⟩
  obtain ⟨-, rfl⟩ := List.append_eq_nil_iff.mp none.symm
  cases member

theorem completed_cons (count : Nat) (status : Reading) (readings : List Reading) :
    Completed (count + 1) (status :: readings) ↔
      status.nack = false ∧ Completed (if status.txrdy then count else count + 1) readings := by
  constructor
  · rintro ⟨first, later, same, quiet, enough, done⟩
    cases first with
    | nil => simp at enough
    | cons head first =>
      obtain ⟨rfl, rfl⟩ := List.cons_eq_cons.mp same
      refine ⟨quiet status List.mem_cons_self, first, later, rfl,
        fun r member => quiet r (List.mem_cons_of_mem _ member), ?_, done⟩
      rw [List.countP_cons] at enough
      cases ready : status.txrdy with
      | true =>
        rw [if_pos ready] at enough
        simpa using enough
      | false => simpa [ready] using enough
  · rintro ⟨quiet, first, later, rfl, silent, enough, done⟩
    refine ⟨status :: first, later, rfl, ?_, ?_, done⟩
    · rintro r (_ | ⟨_, member⟩)
      · exact quiet
      · exact silent r member
    · rw [List.countP_cons, enough]
      cases ready : status.txrdy with
      | true => simp
      | false => simp

theorem Write.run_returned (w : Write) {result : Result} (ended : w.at_ = .returned result)
    (readings : List Reading) : (run Write.step w readings).at_ = .returned result := by
  induction readings generalizing w with
  | nil => exact ended
  | cons status readings inductionHypothesis =>
    apply inductionHypothesis
    rw [step, ended]
    exact ended

/-- The two ways in which a write that is under way can end -/
theorem Write.run_result (w : Write) (underWay : ∀ result, w.at_ ≠ .returned result)
    (readings : List Reading) :
    ((run Write.step w readings).at_ = .returned .receiveNack ↔
        Refused w.at_.pending.length readings) ∧
      ((run Write.step w readings).at_ = .returned .success ↔
        Completed w.at_.pending.length readings) := by
  induction readings generalizing w with
  | nil =>
    exact ⟨iff_of_false (underWay _) (not_refused_nil _), iff_of_false (underWay _) (not_completed_nil _)⟩
  | cons status readings inductionHypothesis =>
    obtain ⟨at_, accesses⟩ := w
    rw [run_cons]
    cases at_ with
    | bytes next later =>
      rw [WriteAt.pending_bytes, List.length_cons, refused_cons, completed_cons]
      cases nack : status.nack with
      | true =>
        have ended : (step ⟨.bytes next later, accesses⟩ status).at_ = .returned .receiveNack := by
          simp [step, nack]
        rw [run_returned _ ended]
        simp
      | false =>
        cases ready : status.txrdy with
        | true =>
          have put : step ⟨.bytes next later, accesses⟩ status =
              ⟨.of later, accesses ++ [.thr next]⟩ := by simp [step, nack, ready]
          have going : ∀ result, WriteAt.of later ≠ .returned result := by cases later <;> simp [WriteAt.of]
          rw [put]
          simpa using inductionHypothesis ⟨.of later, accesses ++ [.thr next]⟩ going
        | false =>
          have same : step ⟨.bytes next later, accesses⟩ status = ⟨.bytes next later, accesses⟩ := by
            simp [step, nack, ready]
          rw [same]
          simpa [WriteAt.pending_bytes] using inductionHypothesis ⟨.bytes next later, accesses⟩ underWay
    | last =>
      have one : WriteAt.last.pending.length = 0 + 1 := rfl
      rw [one, refused_cons, completed_cons]
      cases nack : status.nack with
      | true =>
        have ended : (step ⟨.last, accesses⟩ status).at_ = .returned .receiveNack := by simp [step, nack]
        rw [run_returned _ ended]
        simp
      | false =>
        cases ready : status.txrdy with
        | true =>
          have put : step ⟨.last, accesses⟩ status = ⟨.complete, accesses ++ [.cr false true]⟩ := by
            simp [step, nack, ready]
          rw [put]
          simpa [WriteAt.pending] using
            inductionHypothesis ⟨.complete, accesses ++ [.cr false true]⟩ (by simp)
        | false =>
          have same : step ⟨.last, accesses⟩ status = ⟨.last, accesses⟩ := by simp [step, nack, ready]
          rw [same]
          simpa [WriteAt.pending] using inductionHypothesis ⟨.last, accesses⟩ underWay
    | complete =>
      have none : WriteAt.complete.pending.length = 0 := rfl
      rw [none, iff_false_right (not_refused_zero _), completed_zero, List.exists_mem_cons_iff]
      cases done : status.txcomp with
      | true =>
        have ended : (step ⟨.complete, accesses⟩ status).at_ = .returned .success := by simp [step, done]
        rw [run_returned _ ended]
        simp
      | false =>
        have same : step ⟨.complete, accesses⟩ status = ⟨.complete, accesses⟩ := by simp [step, done]
        obtain ⟨refused, completed⟩ := inductionHypothesis ⟨.complete, accesses⟩ underWay
        rw [none, iff_false_right (not_refused_zero _)] at refused
        rw [none, completed_zero] at completed
        rw [same]
        simpa using ⟨refused, completed⟩
    | returned result => exact absurd rfl (underWay result)

/-- Whatever the status says, `twi_master_write` puts the bytes on the bus in their order and ends with
    a STOP, one access for each time that it finds the transmitter ready, and none after a NACK.  It
    reports a NACK exactly if one was seen before the last of these times, and success exactly if they
    all came and the transfer was completed. -/
theorem write_follows_status (packet : Packet) {buffer : List UInt8} (some : buffer ≠ [])
    (readings : List Reading) :
    let w := run Write.step (Write.start packet buffer) readings
    w.accesses = setup false packet ++
        (buffer.map Access.thr ++ [Access.cr false true]).take (readyCount readings) ∧
      (w.at_ = .returned .receiveNack ↔ Refused (buffer.length + 1) readings) ∧
      (w.at_ = .returned .success ↔ Completed (buffer.length + 1) readings) := by
  intro w
  have start : w = run Write.step ⟨.of buffer, setup false packet⟩ readings := by
    simp only [w, Write.start, if_neg some]
  have underWay : ∀ result, WriteAt.of buffer ≠ .returned result := by cases buffer <;> simp [WriteAt.of]
  have total : (WriteAt.of buffer).pending.length = buffer.length + 1 := by simp [WriteAt.pending_of]
  have accesses := Write.run_accesses ⟨.of buffer, setup false packet⟩ readings
  have result := Write.run_result ⟨.of buffer, setup false packet⟩ underWay readings
  simp only [total] at result
  rw [WriteAt.pending_of] at accesses
  rw [start]
  exact ⟨accesses, result⟩

theorem write_follows_status_refused :
    let w := run Write.step (Write.start ⟨fun _ => 0x10, 1, 0x2f⟩ [0x30, 0x31])
      [{}, { txrdy := true }, { nack := true, txrdy := true }, { txrdy := true }]
    w.accesses = [.mmr 0, .mmr 0x2F0100, .iadr 0, .iadr 0x10, .thr 0x30] ∧
      w.at_ = .returned .receiveNack := by
  obtain ⟨accesses, refused, -⟩ := write_follows_status ⟨fun _ => 0x10, 1, 0x2f⟩ (List.cons_ne_nil 0x30 [0x31])
    [{}, { txrdy := true }, { nack := true, txrdy := true }, { txrdy := true }]
  refine ⟨accesses, refused.mpr ⟨[{}, { txrdy := true }], _, _, rfl, ?_, by decide, rfl⟩⟩
  simp

/-! ## The potentiometers -/

/-- The packet of `write_ad5122`; what is not assigned stands on the stack. -/
def ad5122Packet (stack : UInt8) (rest : Fin 3 → UInt8) (ch : UInt32) (register : UInt8) : Packet where
  addr := Function.update rest 0 register
  addrLength := 1
  chip := if ch = 1 then 0x23 else if ch = 0 then 0x2f else stack

/-- `write_ad5122`, with the readings of its two transfers.  What they return is not looked at. -/
def writeAd5122 (stack : UInt8) (rest : Fin 3 → UInt8) (ch : UInt32) (r1 r2 : UInt8)
    (first second : List Reading) : List Access :=
  let send register value := run Write.step (Write.start (ad5122Packet stack rest ch register) [value])
  (send 0x10 (r1 &&& 0x7f) first).accesses ++ (send 0x11 (r2 &&& 0x7f) second).accesses

/-- A register of a chip on the bus is given a value: the registers of the interface for it -/
def onWire (chip register value : UInt8) : List Access :=
  [.mmr 0, .mmr (chip.toUInt32 <<< 16 ||| 0x100), .iadr 0, .iadr register.toUInt32, .thr value,
    .cr false true]

theorem setup_ad5122 (stack : UInt8) (rest : Fin 3 → UInt8) (ch : UInt32) (register value : UInt8) :
    setup false (ad5122Packet stack rest ch register) ++ [.thr value, .cr false true] =
      onWire ((ad5122Packet stack rest ch register).chip &&& 0x7F) register value := by
  have one : (UInt32.ofNat (1 : Fin 4) <<< 8) &&& 0x300 = 0x100 := by decide
  have mask : (0x7F : UInt8).toUInt32 <<< 16 = 0x7F0000 := by decide
  have address : twiMkAddr (Function.update rest 0 register) 1 = register.toUInt32 := by
    simp [twiMkAddr]
  simp only [setup, mmrOf, ad5122Packet, address, one, onWire, UInt8.toUInt32_and, UInt32.shiftLeft_and,
    mask]
  simp

/-- Each of the two writes that the board is known to make goes over the bus in its own transfer, or
    the part of it that the chip has acknowledged; the second is made whatever came of the first. -/
theorem ad5122_on_wire (stack : UInt8) (rest : Fin 3 → UInt8) (ch : UInt32) (r1 r2 : UInt8)
    (first second : List Reading) :
    ∃ chip, Board.writeAd5122 stack ch r1 r2 =
        [.i2c chip 0x10 (r1 &&& 0x7f), .i2c chip 0x11 (r2 &&& 0x7f)] ∧
      writeAd5122 stack rest ch r1 r2 first second =
        (onWire chip 0x10 (r1 &&& 0x7f)).take (4 + readyCount first) ++
          (onWire chip 0x11 (r2 &&& 0x7f)).take (4 + readyCount second) := by
  have sent (register value : UInt8) (readings : List Reading) :
      (run Write.step (Write.start (ad5122Packet stack rest ch register) [value]) readings).accesses =
        (onWire ((ad5122Packet stack rest ch register).chip &&& 0x7F) register value).take
          (4 + readyCount readings) := by
    have start : Write.start (ad5122Packet stack rest ch register) [value] =
        ⟨.of [value], setup false (ad5122Packet stack rest ch register)⟩ := rfl
    rw [start, Write.run_accesses, WriteAt.pending_of, ← setup_ad5122]
    show _ = List.take ((setup false (ad5122Packet stack rest ch register)).length + readyCount readings) _
    rw [List.take_length_add_append]
    rfl
  refine ⟨(ad5122Packet stack rest ch 0).chip &&& 0x7F, rfl, ?_⟩
  simp only [writeAd5122, sent]
  rfl

/-! ## What a read does -/

/-- The reading, as the control endpoint's model of the driver has it -/
def Reading.poll (status : Reading) : Control.TwiPoll :=
  { nack := status.nack, received := if status.rxrdy then some status.rhr else none }

/-- What is received from here on -/
def ReadAt.received (readings : List Reading) : ReadAt → List UInt8
  | .bytes more timeout _ => Control.twiMasterRead (readings.map Reading.poll) (more + 1) timeout
  | .complete => []
  | .returned _ => []

theorem twiMasterRead_zero (polls : List Control.TwiPoll) (timeout : Nat) :
    Control.twiMasterRead polls 0 timeout = [] := by
  cases polls <;> rfl

theorem Read.run_buffer (r : Read) (readings : List Reading) :
    (run Read.step r readings).buffer = r.buffer ++ r.at_.received readings := by
  induction readings generalizing r with
  | nil =>
    cases r.at_ <;> simp [ReadAt.received, Control.twiMasterRead]
  | cons status readings inductionHypothesis =>
    obtain ⟨at_, accesses, buffer⟩ := r
    rw [run_cons, inductionHypothesis]
    cases at_ with
    | bytes more timeout stopSent =>
      cases nack : status.nack with
      | true => simp [step, nack, ReadAt.received, Control.twiMasterRead, Reading.poll]
      | false =>
        by_cases late : timeout = 0
        · simp [step, nack, late, ReadAt.received, Control.twiMasterRead, Reading.poll]
        · cases ready : status.rxrdy with
          | false => simp [step, nack, late, ready, ReadAt.received, Control.twiMasterRead, Reading.poll]
          | true =>
            cases more with
            | zero =>
              simp [step, nack, late, ready, ReadAt.received, Control.twiMasterRead, Reading.poll,
                twiMasterRead_zero]
            | succ more =>
              simp [step, nack, late, ready, ReadAt.received, Control.twiMasterRead, Reading.poll, twiTimeout]
    | complete => by_cases done : status.txcomp = true <;> simp [step, done, ReadAt.received]
    | returned result => simp [step, ReadAt.received]

/-- The accesses before the first byte -/
def begun (packet : Packet) (n : Nat) : List Access := setup true packet ++ [.cr true (n = 1)]

/-- The STOP that goes out while the last of several bytes is awaited -/
def ending (n : Nat) : List Access := if n = 1 then [] else [.cr false true]

/-- Where a read of `n` bytes can be -/
inductive Read.Stage (packet : Packet) (n : Nat) : Read → Prop where
  | refused (empty : n = 0) : Stage packet n { at_ := .returned .invalidArgument, accesses := [] }
  | waits {more timeout : Nat} {buffer : List UInt8} (left : buffer.length + (more + 1) = n)
    (several : n ≠ 1) :
    Stage packet n { at_ := .bytes more timeout false, accesses := begun packet n, buffer := buffer }
  | stops {timeout : Nat} {buffer : List UInt8} (left : buffer.length + 1 = n) :
    Stage packet n { at_ := .bytes 0 timeout true, accesses := begun packet n ++ ending n, buffer := buffer }
  | complete {buffer : List UInt8} (all : buffer.length = n) :
    Stage packet n { at_ := .complete, accesses := begun packet n ++ ending n, buffer := buffer }
  | done {buffer : List UInt8} (all : buffer.length = n) :
    Stage packet n { at_ := .returned .success, accesses := begun packet n ++ ending n, buffer := buffer }
  | failed {result : Result} {buffer : List UInt8} {accesses : List Access} (less : buffer.length < n)
    (bad : result = .receiveNack ∨ result = .errorTimeout)
    (made : accesses = begun packet n ∨
      accesses = begun packet n ++ ending n ∧ buffer.length + 1 = n) :
    Stage packet n { at_ := .returned result, accesses := accesses, buffer := buffer }

theorem Read.stage_start (packet : Packet) (n : Nat) : (Read.start packet n).Stage packet n := by
  match n with
  | 0 => exact .refused rfl
  | 1 => exact .stops rfl
  | more + 2 => exact .waits (Nat.zero_add _) (by omega)

theorem Read.Stage.step {packet : Packet} {n : Nat} {r : Read} (stage : r.Stage packet n)
    (status : Reading) : (r.step status).Stage packet n := by
  cases stage with
  | refused empty => exact .refused empty
  | @waits more timeout buffer left several =>
    cases nack : status.nack with
    | true =>
      simp only [Read.step, nack, if_true]
      exact .failed (by omega) (.inl rfl) (.inl rfl)
    | false =>
      by_cases late : timeout = 0
      · simp only [Read.step, nack, Bool.false_eq_true, if_false, late, if_true]
        exact .failed (by omega) (.inr rfl) (.inl rfl)
      · have stop : ending n = [.cr false true] := if_neg several
        cases more with
        | zero =>
          cases ready : status.rxrdy with
          | false =>
            simp only [Read.step, nack, late, ready, Bool.false_eq_true, if_false, if_true, and_self,
              decide_true, Bool.or_true]
            rw [← stop]
            exact .stops left
          | true =>
            simp only [Read.step, nack, late, ready, Bool.false_eq_true, Bool.true_eq_false, if_false,
              if_true, and_self]
            rw [← stop]
            exact .complete (by simpa using left)
        | succ more =>
          cases ready : status.rxrdy with
          | false =>
            simp only [Read.step, nack, late, ready, Bool.false_eq_true, if_false, if_true,
              Nat.add_eq_zero_iff, Nat.one_ne_zero, and_false, decide_false, Bool.or_false]
            exact .waits left several
          | true =>
            simp only [Read.step, nack, late, ready, Bool.false_eq_true, Bool.true_eq_false, if_false,
              Nat.add_eq_zero_iff, Nat.one_ne_zero, and_false, decide_false, Bool.or_false,
              Nat.add_sub_cancel]
            exact .waits (by simpa [Nat.add_assoc, Nat.add_comm, Nat.add_left_comm] using left) several
  | @stops timeout buffer left =>
    cases nack : status.nack with
    | true =>
      simp only [Read.step, nack, if_true]
      exact .failed (by omega) (.inl rfl) (.inr ⟨rfl, left⟩)
    | false =>
      by_cases late : timeout = 0
      · simp only [Read.step, nack, Bool.false_eq_true, if_false, late, if_true]
        exact .failed (by omega) (.inr rfl) (.inr ⟨rfl, left⟩)
      · cases ready : status.rxrdy with
        | false =>
          simp only [Read.step, nack, late, ready, Bool.false_eq_true, Bool.true_eq_false, if_false, if_true,
            and_false, Bool.true_or]
          exact .stops left
        | true =>
          simp only [Read.step, nack, late, ready, Bool.false_eq_true, Bool.true_eq_false, if_false, if_true,
            and_false]
          exact .complete (by simpa using left)
  | complete all =>
    cases done : status.txcomp with
    | true =>
      simp only [Read.step, done, if_true]
      exact .done all
    | false =>
      simp only [Read.step, done, Bool.false_eq_true, if_false]
      exact .complete all
  | done all => exact .done all
  | failed less bad made => exact .failed less bad made

theorem Read.Stage.run {packet : Packet} {n : Nat} {r : Read} (stage : r.Stage packet n)
    (readings : List Reading) : (Library.Runs.run Read.step r readings).Stage packet n := by
  induction readings generalizing r with
  | nil => exact stage
  | cons status readings inductionHypothesis => exact inductionHypothesis (stage.step status)

/-- The readings that a loop over the bytes can still make -/
def ReadAt.patience : ReadAt → Nat
  | .bytes more timeout _ => more * (twiTimeout + 1) + timeout + 1
  | .complete => 0
  | .returned _ => 0

theorem Read.patience_step (r : Read) (status : Reading) :
    (r.step status).at_.patience ≤ r.at_.patience - 1 := by
  obtain ⟨at_, accesses, buffer⟩ := r
  cases at_ with
  | bytes more timeout stopSent =>
    cases nack : status.nack with
    | true => simp [step, nack, ReadAt.patience]
    | false =>
      by_cases late : timeout = 0
      · simp [step, nack, late, ReadAt.patience]
      · cases ready : status.rxrdy with
        | false =>
          simp only [step, nack, late, ready, Bool.false_eq_true, if_false, if_true, ReadAt.patience]
          omega
        | true =>
          cases more with
          | zero => simp [step, nack, late, ready, ReadAt.patience]
          | succ more =>
            simp only [step, nack, late, ready, Bool.false_eq_true, Bool.true_eq_false, if_false,
              ReadAt.patience, Nat.add_eq_zero_iff, Nat.one_ne_zero, and_false, Nat.add_sub_cancel,
              Nat.succ_mul]
            omega
  | complete => by_cases done : status.txcomp = true <;> simp [step, done, ReadAt.patience]
  | returned result => simp [step, ReadAt.patience]

theorem Read.patience_run (r : Read) (readings : List Reading) :
    (run Read.step r readings).at_.patience ≤ r.at_.patience - readings.length := by
  induction readings generalizing r with
  | nil => simp
  | cons status readings inductionHypothesis =>
    have one := r.patience_step status
    have later := inductionHypothesis (r.step status)
    rw [run_cons, List.length_cons]
    omega

/-- The next reading is one that waits for the byte before the last `more`. -/
def Read.Awaits (more : Nat) (r : Read) : Prop :=
  ∃ timeout stopSent, r.at_ = .bytes more timeout stopSent

/-- No time-out is set beyond `TWI_TIMEOUT`. -/
def Read.Timed (r : Read) : Prop :=
  ∀ more timeout stopSent, r.at_ = .bytes more timeout stopSent → timeout ≤ twiTimeout

theorem Read.timed_start (packet : Packet) (n : Nat) : (Read.start packet n).Timed := by
  rintro more timeout stopSent at_
  cases n with
  | zero => cases at_
  | succ rest =>
    cases at_
    exact Nat.le_refl _

theorem Read.Timed.step {r : Read} (timed : r.Timed) (status : Reading) : (r.step status).Timed := by
  obtain ⟨at_, accesses, buffer⟩ := r
  cases at_ with
  | bytes more timeout stopSent =>
    have now := timed more timeout stopSent rfl
    intro more' timeout' stopSent' at'
    cases nack : status.nack with
    | true => simp [Read.step, nack] at at'
    | false =>
      by_cases late : timeout = 0
      · simp [Read.step, nack, late] at at'
      · cases ready : status.rxrdy with
        | false =>
          simp only [Read.step, nack, late, ready, Bool.false_eq_true, if_false, if_true,
            ReadAt.bytes.injEq] at at'
          omega
        | true =>
          cases more with
          | zero => simp [Read.step, nack, late, ready] at at'
          | succ more =>
            simp only [Read.step, nack, late, ready, Bool.false_eq_true, Bool.true_eq_false, if_false,
              Nat.add_eq_zero_iff, Nat.one_ne_zero, and_false, ReadAt.bytes.injEq] at at'
            omega
  | complete =>
    intro more timeout stopSent at'
    by_cases done : status.txcomp = true <;> simp [Read.step, done] at at'
  | returned result =>
    intro more timeout stopSent at'
    cases at'

theorem Read.Timed.run {r : Read} (timed : r.Timed) (readings : List Reading) :
    (Library.Runs.run Read.step r readings).Timed := by
  induction readings generalizing r with
  | nil => exact timed
  | cons status readings inductionHypothesis => exact inductionHypothesis (timed.step status)

theorem Read.Awaits.patience {more : Nat} {r : Read} (awaits : r.Awaits more) :
    more * (twiTimeout + 1) < r.at_.patience := by
  obtain ⟨timeout, stopSent, at_⟩ := awaits
  simp only [at_, ReadAt.patience]
  omega

theorem Read.Timed.patience {more : Nat} {r : Read} (timed : r.Timed) (awaits : r.Awaits more) :
    r.at_.patience ≤ more * (twiTimeout + 1) + (twiTimeout + 1) := by
  obtain ⟨timeout, stopSent, at_⟩ := awaits
  have := timed more timeout stopSent at_
  simp only [at_, ReadAt.patience]
  omega

/-- No more readings wait for one byte than the time-out has it. -/
theorem Read.Timed.wait_length {more : Nat} {r : Read} (timed : r.Timed) (wait : List Reading)
    (awaits : Throughout Read.step (fun r _ => r.Awaits more) r wait) :
    wait.length ≤ twiTimeout + 1 := by
  cases wait using List.reverseRecOn with
  | nil => exact Nat.zero_le _
  | append_singleton earlier last =>
    -- the byte is awaited at the first reading and still at the last
    have first : r.Awaits more := by
      cases earlier with
      | nil => exact awaits [] last (List.prefix_refl _)
      | cons head tail => exact awaits [] head (by simp)
    have still := (awaits earlier last (List.prefix_refl _)).patience
    have spent := r.patience_run earlier
    have most := timed.patience first
    rw [List.length_append, List.length_singleton]
    omega

/-- As long as the chip answers in time, every byte that it sends is taken. -/
theorem twiMasterRead_answered {readings : List Reading} (heard : ∀ r ∈ readings, r.nack = false)
    (apart : ∀ quiet, quiet <:+: readings → (∀ r ∈ quiet, r.rxrdy = false) → quiet.length < twiTimeout)
    {timeout : Nat}
    (inTime : ∀ quiet, quiet <+: readings → (∀ r ∈ quiet, r.rxrdy = false) → quiet.length < timeout)
    (cnt : Nat) :
    Control.twiMasterRead (readings.map Reading.poll) cnt timeout =
      ((readings.filter Reading.rxrdy).map Reading.rhr).take cnt := by
  induction readings generalizing timeout cnt with
  | nil => simp [Control.twiMasterRead]
  | cons status readings inductionHypothesis =>
    have later : ∀ r ∈ readings, r.nack = false := fun r member => heard r (List.mem_cons_of_mem _ member)
    have apartLater (quiet : List Reading) (part : quiet <:+: readings) :=
      apart quiet (part.trans (List.suffix_cons status readings).isInfix)
    have now : timeout ≠ 0 := by
      have := inTime [] List.nil_prefix (by simp)
      simp only [List.length_nil] at this
      omega
    have nack := heard status List.mem_cons_self
    cases cnt with
    | zero => simp [twiMasterRead_zero]
    | succ cnt =>
      cases ready : status.rxrdy with
      | true =>
        have rest := inductionHypothesis later apartLater (fun quiet part => apartLater quiet part.isInfix) cnt
        simp [Control.twiMasterRead, Reading.poll, nack, now, ready, ← rest, twiTimeout]
      | false =>
        have soon (quiet : List Reading) (part : quiet <+: readings)
            (silent : ∀ r ∈ quiet, r.rxrdy = false) : quiet.length < timeout - 1 := by
          have all : ∀ r ∈ status :: quiet, r.rxrdy = false := List.forall_mem_cons.mpr ⟨ready, silent⟩
          have one := inTime (status :: quiet) (List.cons_prefix_cons.mpr ⟨rfl, part⟩) all
          rw [List.length_cons] at one
          omega
        have rest := inductionHypothesis later apartLater soon (cnt + 1)
        simp [Control.twiMasterRead, Reading.poll, nack, now, ready, ← rest]

/-- What a read has done at any moment -/
structure Read.Sound (packet : Packet) (n : Nat) (r : Read) : Prop where
  inOrder : r.accesses <+: begun packet n ++ ending n
  whole : r.at_ = .returned .success → r.accesses = begun packet n ++ ending n ∧ r.buffer.length = n
  short : r.at_ = .returned .receiveNack ∨ r.at_ = .returned .errorTimeout → r.buffer.length < n
  /-- The STOP is not sent before the last byte is awaited, whatever ends the read. -/
  early : r.buffer.length + 1 < n → r.accesses = begun packet n

theorem Read.Stage.sound {packet : Packet} {n : Nat} {r : Read} (stage : r.Stage packet n) :
    r.Sound packet n := by
  cases stage with
  | refused empty =>
    refine ⟨List.nil_prefix, by simp, by simp, fun early => ?_⟩
    simp only [List.length_nil] at early
    omega
  | waits left several => exact ⟨List.prefix_append _ _, by simp, by simp, fun _ => rfl⟩
  | stops left => exact ⟨List.prefix_refl _, by simp, by simp, fun early => by simp only at early; omega⟩
  | complete all => exact ⟨List.prefix_refl _, by simp, by simp, fun early => by simp only at early; omega⟩
  | done all =>
    exact ⟨List.prefix_refl _, fun _ => ⟨rfl, all⟩, by simp, fun early => by simp only at early; omega⟩
  | failed less bad made =>
    refine ⟨?_, ?_, fun _ => less, fun early => ?_⟩
    · rcases made with made | ⟨made, -⟩
      · rw [made]
        exact List.prefix_append _ _
      · rw [made]
    · rintro returned
      rcases bad with rfl | rfl <;> cases returned
    · rcases made with made | ⟨-, last⟩
      · exact made
      · simp only at early
        omega

/-- Whatever the status says, `twi_master_read` stores what the control endpoint's model has it store;
    at every moment it has sent one START, and a STOP only when the last byte is awaited; it makes at
    most 15001 readings for each byte, and so leaves the loop over the bytes; and where the chip answers
    without a NACK and within 15000 readings, the buffer holds the bytes that it has sent. -/
theorem read_follows_status (packet : Packet) (n : Nat) (readings : List Reading) :
    let r := run Read.step (Read.start packet n) readings
    r.buffer = Control.twiMasterRead (readings.map Reading.poll) n twiTimeout ∧ r.Sound packet n ∧
      (∀ earlier wait later more, readings = earlier ++ wait ++ later →
        Throughout Read.step (fun r _ => r.Awaits more) (run Read.step (Read.start packet n) earlier) wait →
        wait.length ≤ twiTimeout + 1) ∧
      (n * (twiTimeout + 1) ≤ readings.length →
        ∀ more timeout stopSent, r.at_ ≠ .bytes more timeout stopSent) ∧
      ((∀ status ∈ readings, status.nack = false) →
        (∀ quiet, quiet <:+: readings → (∀ status ∈ quiet, status.rxrdy = false) →
          quiet.length < twiTimeout) →
        r.buffer = ((readings.filter Reading.rxrdy).map Reading.rhr).take n) := by
  intro r
  have stored : r.buffer = Control.twiMasterRead (readings.map Reading.poll) n twiTimeout := by
    have buffer := Read.run_buffer (Read.start packet n) readings
    cases n with
    | zero =>
      rw [twiMasterRead_zero]
      exact buffer
    | succ more => exact buffer
  refine ⟨stored, ((Read.stage_start packet n).run readings).sound,
    fun earlier wait later more split awaits =>
      ((Read.timed_start packet n).run earlier).wait_length wait awaits,
    fun enough more timeout stopSent at_ => ?_, fun heard apart => ?_⟩
  · have patience := (Read.start packet n).patience_run readings
    have first : (Read.start packet n).at_.patience ≤ n * (twiTimeout + 1) := by
      cases n with
      | zero => exact Nat.zero_le _
      | succ more =>
        simp only [Read.start, ReadAt.patience]
        rw [Nat.succ_mul, Nat.add_assoc]
    have left : 0 < r.at_.patience := by
      rw [at_]
      exact Nat.succ_pos _
    have := Nat.lt_of_lt_of_le left patience
    omega
  · rw [stored]
    exact twiMasterRead_answered heard apart (fun quiet part => apart quiet part.isInfix) n

end M1k.Twi
