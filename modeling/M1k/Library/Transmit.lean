import Mathlib.Data.List.Basic

/-! # A transmit DMA channel behind a chip-select line

A channel has a current pointer and counter and a next pointer and counter; the next pair is
taken when the current counter is 0.  The bytes it sends are framed by a line that is low while
the receiver listens.  Bytes are named by the address they are read from: an object of type `α`
and an offset into it.

`load` is the usual way to send two blocks as one frame.  `Loading` says what holds after each of
its statements, whatever has been sent meanwhile; with it, a routine that nobody disturbs is
followed statement by statement. -/

namespace M1k.Library.Transmit

/-- The bytes of an object from its start. -/
def block {α : Type*} (object : α) (length : Nat) : List (α × Nat) :=
  (List.range length).map fun offset => (object, offset)

/-- The transmit half of a peripheral DMA channel. -/
structure Channel (α : Type*) where
  tpr : α × Nat
  tcr : Nat := 0
  tnpr : α × Nat
  tncr : Nat := 0
  deriving DecidableEq

/-- What a routine does to the channel and to the line. -/
inductive Stmt (α : Type*) where
  | tpr (object : α)
  | tcr (count : Nat)
  | tnpr (object : α)
  | tncr (count : Nat)
  /-- Set (`true`) or clear the line. -/
  | sync (level : Bool)
  /-- Wait until everything has been sent. -/
  | waitTxEmpty
  deriving DecidableEq

/-- The channel, the line, and what the receiver has been sent while it was low. -/
structure Line (α : Type*) where
  channel : Channel α
  nSync : Bool := true
  /-- The bytes since the line last fell. -/
  current : List (α × Nat) := []
  /-- The earlier low intervals, oldest first. -/
  closed : List (List (α × Nat)) := []
  deriving DecidableEq

variable {α : Type*}

namespace Channel

/-- The next pointer and counter are taken as soon as the current counter is 0. -/
def reload (channel : Channel α) : Channel α :=
  if channel.tcr = 0 ∧ channel.tncr ≠ 0 then
    { channel with tpr := channel.tnpr, tcr := channel.tncr, tncr := 0 }
  else channel

/-- Everything asked for has been sent. -/
def Idle (channel : Channel α) : Prop := channel.tcr = 0 ∧ channel.tncr = 0

instance (channel : Channel α) : Decidable channel.Idle := inferInstanceAs (Decidable (_ ∧ _))

/-- The bytes still to be sent. -/
def pending (channel : Channel α) : List (α × Nat) :=
  (List.range channel.tcr).map (fun i => (channel.tpr.1, channel.tpr.2 + i)) ++
    (List.range channel.tncr).map (fun i => (channel.tnpr.1, channel.tnpr.2 + i))

@[simp] theorem pending_reload (channel : Channel α) : channel.reload.pending = channel.pending := by
  unfold reload
  split_ifs with reloads
  · simp [pending, reloads.1]
  · rfl

theorem pending_of_idle {channel : Channel α} (idle : channel.Idle) : channel.pending = [] := by
  simp [pending, idle.1, idle.2]

/-- There is nothing to reload. -/
theorem reload_of_last {channel : Channel α} (last : channel.tncr = 0) :
    channel.reload = channel := by
  simp [reload, last]

/-- The first byte to be sent is the one at the current pointer. -/
theorem pending_cons {channel : Channel α} (sending : channel.tcr ≠ 0) :
    channel.pending =
      channel.tpr ::
        { channel with tpr := (channel.tpr.1, channel.tpr.2 + 1), tcr := channel.tcr - 1 }.pending := by
  obtain ⟨count, counts⟩ := Nat.exists_eq_succ_of_ne_zero sending
  simp only [pending, counts, Nat.succ_eq_add_one, Nat.add_sub_cancel, List.range_succ_eq_map,
    List.map_cons, List.map_map, Nat.add_zero, List.cons_append]
  congr 2
  apply List.map_congr_left
  intro i _
  simp only [Function.comp_apply, Nat.succ_eq_add_one]
  rw [Nat.add_assoc, Nat.add_comm 1 i]

end Channel

namespace Line

/-- Setting the line ends a low interval; clearing it begins one, unless it is low already. -/
def sync (line : Line α) : Bool → Line α
  | true =>
    if line.nSync then line
    else { line with nSync := true, current := [], closed := line.closed ++ [line.current] }
  | false => { line with nSync := false }

def exec (line : Line α) : Stmt α → Line α
  | .tpr object => { line with channel := { line.channel with tpr := (object, 0) } }
  | .tcr count => { line with channel := { line.channel with tcr := count }.reload }
  | .tnpr object => { line with channel := { line.channel with tnpr := (object, 0) } }
  | .tncr count => { line with channel := { line.channel with tncr := count }.reload }
  | .sync level => line.sync level
  | .waitTxEmpty => line

/-- The next byte goes out.  The receiver does not see it while the line is high. -/
def shift (line : Line α) : Line α :=
  if line.channel.tcr = 0 then line
  else
    { line with
      channel :=
        { line.channel with
          tpr := (line.channel.tpr.1, line.channel.tpr.2 + 1)
          tcr := line.channel.tcr - 1 }.reload
      current := if line.nSync then line.current else line.current ++ [line.channel.tpr] }

/-- The line is high and nothing is being sent. -/
structure Clear (line : Line α) : Prop where
  high : line.nSync = true
  idle : line.channel.Idle
  empty : line.current = []

theorem Clear.shift {line : Line α} (clear : line.Clear) : line.shift = line := by
  rw [Line.shift, if_pos clear.idle.1]

@[simp] theorem closed_shift (line : Line α) : line.shift.closed = line.closed := by
  unfold shift
  split_ifs <;> rfl

@[simp] theorem nSync_shift (line : Line α) : line.shift.nSync = line.nSync := by
  unfold shift
  split_ifs <;> rfl

theorem shift_of_idle {line : Line α} (idle : line.channel.Idle) : line.shift = line := by
  rw [shift, if_pos idle.1]

/-- While the line is low, sending only moves bytes from those to come to those sent. -/
theorem shift_conserves {line : Line α} (low : line.nSync = false) :
    line.shift.current ++ line.shift.channel.pending = line.current ++ line.channel.pending := by
  unfold shift
  split_ifs with sent high
  · rfl
  · exact absurd high (by simp [low])
  · rw [Channel.pending_reload, Channel.pending_cons sent, List.append_assoc]
    rfl

/-- Raising the line closes the interval. -/
theorem sync_high {line : Line α} (low : line.nSync = false) :
    line.sync true =
      { line with nSync := true, current := [], closed := line.closed ++ [line.current] } := by
  simp [sync, low]

theorem sync_high_of_high {line : Line α} (high : line.nSync = true) : line.sync true = line := by
  simp [sync, high]

end Line

/-! ## Sending one frame -/

/-- The bytes of a frame: one block, then another. -/
def frame (first : α) (m : Nat) (second : α) (n : Nat) : List (α × Nat) :=
  block first m ++ block second n

/-- Send the two blocks as one frame. -/
def load (first : α) (m : Nat) (second : α) (n : Nat) : List (Stmt α) :=
  [.tpr first, .tnpr second, .sync false, .tcr m, .tncr n]

variable {first second : α} {m n : Nat}

/-- How far a `load` has come: what it has left to do, and the line. -/
inductive Loading (first : α) (m : Nat) (second : α) (n : Nat) : List (Stmt α) → Line α → Prop
  | fresh {line} (clear : line.Clear) : Loading first m second n (load first m second n) line
  | pointed {line} (clear : line.Clear) (tpr : line.channel.tpr = (first, 0)) :
    Loading first m second n [.tnpr second, .sync false, .tcr m, .tncr n] line
  | bothPointed {line} (clear : line.Clear) (tpr : line.channel.tpr = (first, 0))
      (tnpr : line.channel.tnpr = (second, 0)) :
    Loading first m second n [.sync false, .tcr m, .tncr n] line
  | lowered {line} (low : line.nSync = false) (empty : line.current = [])
      (idle : line.channel.Idle) (tpr : line.channel.tpr = (first, 0))
      (tnpr : line.channel.tnpr = (second, 0)) :
    Loading first m second n [.tcr m, .tncr n] line
  | counting {line} (low : line.nSync = false) (tncr : line.channel.tncr = 0)
      (tnpr : line.channel.tnpr = (second, 0))
      (sent : line.current ++ line.channel.pending = block first m) :
    Loading first m second n [.tncr n] line
  | loaded {line} (low : line.nSync = false)
      (sent : line.current ++ line.channel.pending = frame first m second n) :
    Loading first m second n [] line

namespace Loading

/-- The next statement is executed. -/
theorem exec {rest : List (Stmt α)} {statement : Stmt α} {line : Line α}
    (loading : Loading first m second n (statement :: rest) line) :
    Loading first m second n rest (line.exec statement) := by
  cases loading with
  | fresh clear => exact .pointed ⟨clear.high, clear.idle, clear.empty⟩ rfl
  | pointed clear tpr => exact .bothPointed ⟨clear.high, clear.idle, clear.empty⟩ tpr rfl
  | bothPointed clear tpr tnpr => exact .lowered rfl clear.empty clear.idle tpr tnpr
  | lowered low empty idle tpr tnpr =>
    have same : line.exec (.tcr m) = { line with channel := { line.channel with tcr := m } } := by
      show { line with channel := Channel.reload _ } = _
      rw [Channel.reload_of_last (by exact idle.2)]
    rw [same]
    apply Loading.counting
    · exact low
    · exact idle.2
    · exact tnpr
    · show line.current ++ Channel.pending _ = block first m
      simp [Channel.pending, empty, idle.2, tpr, block]
  | counting low tncr tnpr sent =>
    apply Loading.loaded
    · exact low
    · show line.current ++ (Channel.reload _).pending = frame first m second n
      rw [Channel.pending_reload, frame, ← sent, List.append_assoc]
      simp [Channel.pending, tncr, tnpr, block]

/-- The next byte is sent. -/
theorem shift {rest : List (Stmt α)} {line : Line α}
    (loading : Loading first m second n rest line) :
    Loading first m second n rest line.shift := by
  cases loading with
  | fresh clear => rw [clear.shift]; exact .fresh clear
  | pointed clear tpr => rw [clear.shift]; exact .pointed clear tpr
  | bothPointed clear tpr tnpr => rw [clear.shift]; exact .bothPointed clear tpr tnpr
  | lowered low empty idle tpr tnpr =>
    rw [Line.shift_of_idle idle]
    exact .lowered low empty idle tpr tnpr
  | counting low tncr tnpr sent =>
    have kept : line.shift.channel.tncr = 0 ∧ line.shift.channel.tnpr = (second, 0) := by
      unfold Line.shift
      split_ifs
      · exact ⟨tncr, tnpr⟩
      · rw [Channel.reload_of_last (by exact tncr)]
        exact ⟨tncr, tnpr⟩
      · rw [Channel.reload_of_last (by exact tncr)]
        exact ⟨tncr, tnpr⟩
    exact .counting (by simpa using low) kept.1 kept.2 ((Line.shift_conserves low).trans sent)
  | loaded low sent => exact .loaded (by simpa using low) ((Line.shift_conserves low).trans sent)

/-- Nothing of the frame is missing once the channel is idle. -/
theorem done {line : Line α} (loading : Loading first m second n [] line)
    (idle : line.channel.Idle) : line.nSync = false ∧ line.current = frame first m second n := by
  cases loading with
  | loaded low sent =>
    rw [Channel.pending_of_idle idle, List.append_nil] at sent
    exact ⟨low, sent⟩

/-- What has been sent begins the frame. -/
theorem sent_prefix {rest : List (Stmt α)} {line : Line α}
    (loading : Loading first m second n rest line) :
    line.current <+: frame first m second n := by
  cases loading with
  | fresh clear => rw [clear.empty]; exact List.nil_prefix
  | pointed clear tpr => rw [clear.empty]; exact List.nil_prefix
  | bothPointed clear tpr tnpr => rw [clear.empty]; exact List.nil_prefix
  | lowered low empty idle tpr tnpr => rw [empty]; exact List.nil_prefix
  | counting low tncr tnpr sent =>
    have begins : line.current <+: block first m := ⟨_, sent⟩
    exact begins.trans (List.prefix_append _ _)
  | loaded low sent => exact ⟨_, sent⟩

/-- It does not wait. -/
theorem ne_waitTxEmpty {rest : List (Stmt α)} {statement : Stmt α} {line : Line α}
    (loading : Loading first m second n (statement :: rest) line) : statement ≠ .waitTxEmpty := by
  cases loading <;> simp

/-- None of its statements ends an interval. -/
theorem closed_exec {rest : List (Stmt α)} {statement : Stmt α} {line : Line α}
    (loading : Loading first m second n (statement :: rest) line) :
    (line.exec statement).closed = line.closed := by
  cases loading <;> rfl

end Loading

end M1k.Library.Transmit
