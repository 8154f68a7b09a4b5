import Mathlib.Data.List.Count
import M1k.Dac.Writers

/-! # When the DAC's frames are kept apart

`write_ad5663` takes no care of the sample interrupt: cut before it has loaded both counters, it
goes on with the pointers the interrupt has left, and it finds `N_SYNC` low where a sample
interrupt has run since the last call.  Away from these, each low interval is one frame. -/

namespace M1k.Dac

open Library.Runs Library.Transmit

/-- A sample interrupt comes only when `write_ad5663` has loaded both counters, or is not running;
    whoever raises `N_SYNC` finds USART0 idle; and `set_mode` writes to the DAC only while `N_SYNC`
    is high. -/
def Steady (s : State) : Event → Prop
  | .tc2 => s.handler = [] → s.writer.length ≤ 2
  | .handler => s.handler.head? = some (.sync true) → s.line.channel.Idle
  | .setMode chan m =>
    s.handler = [] ∧ s.writer = [] ∧ (setMode chan m).isSome → s.line.nSync = true
  | .writer => s.handler = [] ∧ s.writer = [.sync true] → s.line.channel.Idle
  | .shift => True
  | .assign _ => True

instance (s : State) (event : Event) : Decidable (Steady s event) := by
  cases event <;> unfold Steady <;> infer_instance

/-! ## The phases of a run -/

/-- What is left of `write_ad5663` once both counters are loaded. -/
inductive Tail : List (Stmt Object) → Prop
  | returned : Tail []
  | raising : Tail [.sync true]
  | waiting : Tail [.waitTxEmpty, .sync true]

/-- The writers have sent their frames, in this order; the last may still be sending. -/
inductive Settled (s : State) : List Writer → Prop
  | clear {done} (clear : s.line.Clear) (closed : s.line.closed = done.map Writer.frame) :
    Settled s done
  | sending {done last} (closed : s.line.closed = done.map Writer.frame)
      (loading : Loading last.command 1 last.data 2 [] s.line)
      (unfinished : ∀ call, s.Finished call → last ≠ .write call) :
    Settled s (done ++ [last])

/-- Which writer has the line, and how far it has come. -/
inductive Phase (s : State) : Prop
  | settled (handler : s.handler = []) (tail : Tail s.writer) (settled : Settled s s.begun)
  | writing {done call rest} (handler : s.handler = [])
      (writer : s.writer = rest ++ [.waitTxEmpty, .sync true]) (more : rest ≠ [])
      (newest : s.calls.length = call + 1) (begun : s.begun = done ++ [.write call])
      (closed : s.line.closed = done.map Writer.frame)
      (loading : Loading (.conf call) 1 (.data call) 2 rest s.line)
  | entering {done smp}
      (handler : s.handler = .sync true :: load (slotOf smp).command 1 (slotOf smp).data 2)
      (tail : Tail s.writer) (begun : s.begun = done ++ [slotOf smp]) (settled : Settled s done)
  | serving {done smp rest} (handler : s.handler = rest) (more : rest ≠ [])
      (tail : Tail s.writer) (begun : s.begun = done ++ [slotOf smp])
      (closed : s.line.closed = done.map Writer.frame)
      (loading : Loading (slotOf smp).command 1 (slotOf smp).data 2 rest s.line)

theorem slotOf_ne_write (smp : Sampler) (call : Nat) : slotOf smp ≠ .write call := by
  unfold slotOf
  cases smp.currentChan <;> exact Writer.noConfusion

/-- Only the line and the finished calls matter. -/
theorem Settled.transfer {s s' : State} {done : List Writer} (settled : Settled s done)
    (line : s'.line = s.line) (finished : ∀ call, s'.Finished call → s.Finished call) :
    Settled s' done := by
  cases settled with
  | clear clear closed => exact .clear (line ▸ clear) (line ▸ closed)
  | sending closed loading unfinished =>
    exact .sending (line ▸ closed) (line ▸ loading) fun call now => unfinished call (finished call now)

/-- While `N_SYNC` is high none of them is sending. -/
theorem Settled.high {s : State} {done : List Writer} (settled : Settled s done)
    (high : s.line.nSync = true) :
    s.line.Clear ∧ s.line.closed = done.map Writer.frame := by
  cases settled with
  | clear clear closed => exact ⟨clear, closed⟩
  | sending closed loading unfinished =>
    cases loading with
    | loaded low sent => exact absurd (high.symm.trans low) Bool.noConfusion

/-- Raising `N_SYNC` ends the interval of the last writer. -/
theorem Settled.raise {s : State} {done : List Writer} (settled : Settled s done)
    (idle : s.line.channel.Idle) :
    (s.line.sync true).Clear ∧ (s.line.sync true).closed = done.map Writer.frame := by
  cases settled with
  | clear clear closed =>
    rw [Line.sync_high_of_high clear.high]
    exact ⟨clear, closed⟩
  | @sending done last closed loading unfinished =>
    obtain ⟨low, sent⟩ := loading.done idle
    rw [Line.sync_high low]
    refine ⟨⟨rfl, idle, rfl⟩, ?_⟩
    show s.line.closed ++ [s.line.current] = (done ++ [last]).map Writer.frame
    rw [closed, sent, List.map_append]
    rfl

/-! ## One event -/

theorem phase_tc2 {s : State} (phase : Phase s) (steady : Steady s .tc2) : Phase (step s .tc2) := by
  by_cases free : s.handler = []
  · have entered : step s .tc2 =
        { s with
          smp := tc2Handler s.smp
          handler := tc2Statements s.smp
          begun := s.begun ++ [slotOf s.smp] } := by
      simp [step, free]
    rw [entered]
    cases phase with
    | settled handler tail settled =>
      exact .entering (tc2Statements_eq s.smp) tail rfl (settled.transfer rfl fun _ now => now)
    | @writing done call rest handler writer more newest begun closed loading =>
      have short := steady free
      rw [writer, List.length_append] at short
      exact absurd (List.length_eq_zero_iff.mp (Nat.le_zero.mp (Nat.le_of_add_le_add_right short))) more
    | entering handler tail begun settled => exact absurd (handler.symm.trans free) (by simp)
    | serving handler more tail begun closed loading => exact absurd (handler.symm.trans free) more
  · have same : step s .tc2 = s := by simp [step, free]
    rw [same]
    exact phase

theorem phase_handler {s : State} (phase : Phase s) (steady : Steady s .handler) :
    Phase (step s .handler) := by
  have same (free : s.handler = []) : step s .handler = s := by simp only [step, free]
  cases phase with
  | settled handler tail settled =>
    rw [same handler]
    exact .settled handler tail settled
  | writing handler writer more newest begun closed loading =>
    rw [same handler]
    exact .writing handler writer more newest begun closed loading
  | @entering done smp handler tail begun settled =>
    have idle : s.line.channel.Idle := steady (by rw [handler]; rfl)
    -- `N_SYNC` goes high, and closes the frame before
    have raised : step s .handler =
        { s with
          line := s.line.sync true
          handler := load (slotOf smp).command 1 (slotOf smp).data 2 } := by
      simp only [step, handler]
      rfl
    rw [raised]
    obtain ⟨clear, closed⟩ := settled.raise idle
    exact .serving rfl (List.cons_ne_nil _ _) tail begun closed (.fresh clear)
  | @serving done smp rest handler more tail begun closed loading =>
    cases rest with
    | nil => exact absurd rfl more
    | cons statement rest =>
      have executed : step s .handler =
          { s with line := s.line.exec statement, handler := rest } := by
        simp only [step, handler]
      rw [executed]
      have next := loading.exec
      have closed' := loading.closed_exec.trans closed
      cases rest with
      | nil =>
        -- the last statement: the interrupt returns while its frame is being sent
        have sending : Settled { s with line := s.line.exec statement, handler := [] } s.begun := by
          rw [begun]
          exact .sending closed' next fun call _ => slotOf_ne_write smp call
        exact .settled rfl tail sending
      | cons after rest => exact .serving rfl (List.cons_ne_nil _ _) tail begun closed' next

theorem phase_setMode {s : State} {chan m : UInt32} (phase : Phase s)
    (steady : Steady s (.setMode chan m)) : Phase (step s (.setMode chan m)) := by
  cases writes : setMode chan m with
  | none =>
    have same : step s (.setMode chan m) = s := by simp [step, writes]
    rw [same]
    exact phase
  | some arguments =>
    by_cases free : s.handler = [] ∧ s.writer = []
    · have called : step s (.setMode chan m) =
          { s with
            writer := writeAd5663 s.calls.length
            calls := s.calls ++ [arguments]
            begun := s.begun ++ [.write s.calls.length] } := by
        simp [step, free, writes]
      rw [called]
      -- no handler and no writer is at work, so that the line is high or must be
      have high : s.line.nSync = true := steady ⟨free.1, free.2, by rw [writes]; rfl⟩
      cases phase with
      | settled handler tail settled =>
        obtain ⟨clear, closed⟩ := settled.high high
        exact .writing handler (writeAd5663_eq _) (List.cons_ne_nil _ _) (by simp) rfl closed
          (.fresh clear)
      | writing handler writer more newest begun closed loading =>
        exact absurd (writer.symm.trans free.2) (by simp)
      | entering handler tail begun settled => exact absurd (handler.symm.trans free.1) (by simp)
      | serving handler more tail begun closed loading =>
        exact absurd (handler.symm.trans free.1) more
    · have same : step s (.setMode chan m) = s := by simp only [step, if_neg free]
      rw [same]
      exact phase

theorem phase_writer {s : State} (phase : Phase s) (steady : Steady s .writer) :
    Phase (step s .writer) := by
  cases phase with
  | settled handler tail settled =>
    generalize remaining : s.writer = writer at tail
    cases tail with
    | returned =>
      have same : step s .writer = s := by simp [step, handler, remaining]
      rw [same]
      exact .settled handler (remaining ▸ .returned) settled
    | raising =>
      have raised : step s .writer = { s with line := s.line.sync true, writer := [] } := by
        simp only [step, handler, remaining, if_true]
        rfl
      rw [raised]
      obtain ⟨clear, closed⟩ := settled.raise (steady ⟨handler, remaining⟩)
      exact .settled handler .returned (.clear clear closed)
    -- `write_ad5663` waits for the last byte of its frame
    | waiting =>
      by_cases idle : s.line.channel.Idle
      · have passed : step s .writer = { s with writer := [.sync true] } := by
          simp [step, handler, remaining, idle]
        rw [passed]
        have kept : Settled { s with writer := [.sync true] } s.begun := by
          refine settled.transfer rfl fun call finished => ?_
          exact finished.imp id fun last => absurd last.2 (List.cons_ne_nil _ _)
        exact .settled handler .raising kept
      · have same : step s .writer = s := by simp [step, handler, remaining, idle]
        rw [same]
        exact .settled handler (remaining ▸ .waiting) settled
  | @writing done call rest handler writer more newest begun closed loading =>
    cases rest with
    | nil => exact absurd rfl more
    | cons statement rest =>
      have executed : step s .writer =
          { s with
            line := s.line.exec statement
            writer := rest ++ [.waitTxEmpty, .sync true] } := by
        have noWait := loading.ne_waitTxEmpty
        cases statement <;> first | exact absurd rfl noWait | simp [step, handler, writer]
      rw [executed]
      have next := loading.exec
      have closed' := loading.closed_exec.trans closed
      cases rest with
      | nil =>
        -- both counters are loaded, and the frame is being sent
        have sending : Settled
            { s with line := s.line.exec statement, writer := [.waitTxEmpty, .sync true] } s.begun := by
          rw [begun]
          have sends : Loading (Writer.write call).command 1 (Writer.write call).data 2 []
              (s.line.exec statement) := next
          refine .sending closed' sends fun other finished same => ?_
          cases same
          rcases finished with older | ⟨-, returned⟩
          · exact absurd (newest ▸ older) (Nat.lt_irrefl _)
          · cases returned
        exact .settled handler .waiting sending
      | cons after rest =>
        exact .writing handler rfl (List.cons_ne_nil _ _) newest begun closed' next
  | entering handler tail begun settled =>
    have same : step s .writer = s := by simp [step, handler]
    rw [same]
    exact .entering handler tail begun settled
  | serving handler more tail begun closed loading =>
    have same : step s .writer = s := by simp [step, handler, more]
    rw [same]
    exact .serving handler more tail begun closed loading

theorem Settled.shift {s : State} {done : List Writer} (settled : Settled s done) :
    Settled { s with line := s.line.shift } done := by
  cases settled with
  | clear clear closed =>
    rw [clear.shift]
    exact .clear clear closed
  | sending closed loading unfinished =>
    exact .sending ((Line.closed_shift _).trans closed) loading.shift unfinished

theorem phase_shift {s : State} (phase : Phase s) : Phase (step s .shift) := by
  show Phase { s with line := s.line.shift }
  cases phase with
  | settled handler tail settled => exact .settled handler tail settled.shift
  | writing handler writer more newest begun closed loading =>
    exact .writing handler writer more newest begun ((Line.closed_shift _).trans closed) loading.shift
  | entering handler tail begun settled => exact .entering handler tail begun settled.shift
  | serving handler more tail begun closed loading =>
    exact .serving handler more tail begun ((Line.closed_shift _).trans closed) loading.shift

theorem phase_assign {s : State} {smp : Sampler} (phase : Phase s) :
    Phase (step s (.assign smp)) := by
  by_cases free : s.handler = []
  · have assigned : step s (.assign smp) = { s with smp := smp } := by simp [step, free]
    rw [assigned]
    cases phase with
    | settled handler tail settled =>
      exact .settled handler tail (settled.transfer rfl fun _ now => now)
    | writing handler writer more newest begun closed loading =>
      exact .writing handler writer more newest begun closed loading
    | entering handler tail begun settled =>
      exact .entering handler tail begun (settled.transfer rfl fun _ now => now)
    | serving handler more tail begun closed loading =>
      exact .serving handler more tail begun closed loading
  · have same : step s (.assign smp) = s := by simp [step, free]
    rw [same]
    exact phase

theorem phase_step {s : State} {event : Event} (phase : Phase s) (steady : Steady s event) :
    Phase (step s event) := by
  cases event with
  | tc2 => exact phase_tc2 phase steady
  | handler => exact phase_handler phase steady
  | setMode chan m => exact phase_setMode phase steady
  | writer => exact phase_writer phase steady
  | shift => exact phase_shift phase
  | assign smp => exact phase_assign phase

theorem Fresh.phase {s : State} (fresh : Fresh s) : Phase s := by
  apply Phase.settled fresh.handler
  · rw [fresh.writer]
    exact .returned
  · apply Settled.clear fresh.clear
    rw [fresh.closed, fresh.begun]
    rfl

/-! ## Each call is one writer -/

/-- The calls of `write_ad5663` are numbered in the order in which they began. -/
def Numbered (s : State) : Prop :=
  ∀ call, s.begun.count (.write call) = if call < s.calls.length then 1 else 0

theorem numbered_step {s : State} {event : Event} (numbered : Numbered s) :
    Numbered (step s event) := by
  cases event with
  | tc2 =>
    simp only [step]
    split_ifs
    · intro call
      show (s.begun ++ [slotOf s.smp]).count (.write call) = if call < s.calls.length then 1 else 0
      have other : [slotOf s.smp].count (.write call) = 0 :=
        List.count_eq_zero_of_not_mem fun member =>
          slotOf_ne_write _ _ (List.mem_singleton.mp member).symm
      rw [List.count_append, numbered call, other, Nat.add_zero]
    · exact numbered
  | handler =>
    simp only [step]
    split <;> exact numbered
  | setMode chan m =>
    simp only [step]
    split_ifs
    · split
      · exact numbered
      · intro call
        show (s.begun ++ [Writer.write s.calls.length]).count (Writer.write call) =
          if call < (s.calls ++ [_]).length then 1 else 0
        rw [List.count_append, numbered call, List.count_singleton, List.length_append]
        simp only [List.length_singleton, beq_iff_eq, Writer.write.injEq]
        split_ifs <;> omega
    · exact numbered
  | writer =>
    simp only [step]
    by_cases free : s.handler = []
    · rw [if_pos free]
      split
      · exact numbered
      · by_cases idle : s.line.channel.Idle
        · rw [if_pos idle]
          exact numbered
        · rw [if_neg idle]
          exact numbered
      · exact numbered
    · rw [if_neg free]
      exact numbered
  | shift => exact numbered
  | assign smp =>
    simp only [step]
    split_ifs <;> exact numbered

theorem Fresh.numbered {s : State} (fresh : Fresh s) : Numbered s := by
  intro call
  rw [fresh.begun, fresh.calls]
  rfl

/-! ## What has been sent -/

/-- Some of the writers have sent their frames, in order; none of the others has returned, and one
    of them has sent what has been sent since `N_SYNC` fell. -/
structure Sent (s : State) (done others : List Writer) : Prop where
  begun : s.begun = done ++ others
  closed : s.line.closed = done.map Writer.frame
  current : s.line.nSync = false → ∃ writer ∈ others, s.line.current <+: writer.frame
  unfinished : ∀ call, s.Finished call → Writer.write call ∉ others

theorem Settled.sent {s : State} {done others : List Writer} (settled : Settled s done)
    (begun : s.begun = done ++ others) (unwritten : ∀ call, Writer.write call ∉ others) :
    ∃ done others, Sent s done others := by
  cases settled with
  | clear clear closed =>
    refine ⟨_, others, begun, closed, fun low => ?_, fun call _ => unwritten call⟩
    exact absurd (clear.high.symm.trans low) Bool.noConfusion
  | @sending done last closed loading unfinished =>
    refine ⟨done, last :: others, by rw [begun, List.append_assoc]; rfl, closed,
      fun _ => ⟨last, List.mem_cons_self, loading.sent_prefix⟩, fun call finished member => ?_⟩
    rcases List.mem_cons.mp member with isLast | later
    · exact unfinished call finished isLast.symm
    · exact unwritten call later

theorem Phase.sent {s : State} (phase : Phase s) : ∃ done others, Sent s done others := by
  cases phase with
  | settled handler tail settled =>
    exact settled.sent (List.append_nil _).symm fun call => List.not_mem_nil
  | @writing done call rest handler writer more newest begun closed loading =>
    refine ⟨done, _, begun, closed,
      fun _ => ⟨_, List.mem_singleton_self _, loading.sent_prefix⟩, fun other finished member => ?_⟩
    cases List.mem_singleton.mp member
    rcases finished with older | ⟨-, returned⟩
    · exact absurd (newest ▸ older) (Nat.lt_irrefl _)
    · exact absurd (writer.symm.trans returned) (by simp)
  | @entering done smp handler tail begun settled =>
    exact settled.sent begun fun call member =>
      slotOf_ne_write smp call (List.mem_singleton.mp member).symm
  | @serving done smp rest handler more tail begun closed loading =>
    exact ⟨done, _, begun, closed,
      fun _ => ⟨_, List.mem_singleton_self _, loading.sent_prefix⟩,
      fun call _ member => slotOf_ne_write smp call (List.mem_singleton.mp member).symm⟩

theorem Sent.unmixed {s : State} {done others : List Writer} (sent : Sent s done others)
    (numbered : Numbered s) : Unmixed s := by
  have counts (call : Nat) :
      s.line.closed.count (Writer.write call).frame = done.count (.write call) := by
    rw [sent.closed, List.count_map_of_injective _ _ Writer.frame_injective]
  have all (call : Nat) :
      done.count (.write call) + others.count (.write call) =
        if call < s.calls.length then 1 else 0 := by
    rw [← List.count_append, ← sent.begun]
    exact numbered call
  refine ⟨fun interval member => ?_, fun low => ?_, fun call finished => ?_, fun call => ?_⟩
  · rw [sent.closed] at member
    obtain ⟨writer, among, same⟩ := List.mem_map.mp member
    rw [sent.begun]
    exact ⟨writer, List.mem_append_left _ among, same.symm⟩
  · obtain ⟨writer, among, begins⟩ := sent.current low
    rw [sent.begun]
    exact ⟨writer, List.mem_append_right _ among, begins⟩
  · have exists' : call < s.calls.length := by
      rcases finished with older | ⟨last, -⟩ <;> omega
    rw [counts, ← Nat.add_zero (done.count _),
      ← List.count_eq_zero_of_not_mem (sent.unfinished call finished), all, if_pos exists']
  · rw [counts]
    have total := all call
    split_ifs at total <;> omega

/-- In a run whose events are all steady, the frames are not mixed at any moment. -/
theorem dac_frames_unmixed {s : State} {events : List Event} (fresh : Fresh s)
    (steady : Throughout step Steady s events) : Always step Unmixed s events := by
  have phases : Always step (fun s => Phase s ∧ Numbered s) s events := by
    refine always_of_step (C := Steady) ?_ ⟨fresh.phase, fresh.numbered⟩ steady
    intro s event both meets
    exact ⟨phase_step both.1 meets, numbered_step both.2⟩
  refine phases.mono fun s both => ?_
  obtain ⟨done, others, sent⟩ := both.1.sent
  exact sent.unmixed both.2

/-- After initialisation: USART0 idle, `N_SYNC` high. -/
def booted : State where
  smp := {}
  line := { channel := { tpr := (.ram .null, 0), tnpr := (.ram .null, 0) } }

theorem booted_fresh : Fresh booted := ⟨⟨rfl, ⟨rfl, rfl⟩, rfl⟩, rfl, rfl, rfl, rfl, rfl⟩

/-- A sample interrupt, uncut, and its three bytes. -/
def tick : List Event := .tc2 :: List.replicate 6 .handler ++ [.shift, .shift, .shift]

/-- Channel A is disabled, a sample interrupt cuts the last delay of `write_ad5663`, and channel B
    goes on. -/
theorem dac_frames_unmixed_disable :
    Always step Unmixed booted
      (.setMode 0 0 :: List.replicate 5 .writer ++ [.shift, .shift, .shift, .writer] ++ tick ++
        [.writer] ++ tick) :=
  dac_frames_unmixed booted_fresh (by decide +kernel)

/-- A sample interrupt between the last two register writes of `write_ad5663` raises `N_SYNC` after
    the command byte alone. -/
theorem dac_frames_mixed :
    ¬ Always step Unmixed booted
      (.setMode 0 0 :: List.replicate 4 .writer ++ [.shift, .tc2, .handler]) := by
  intro unmixed
  obtain ⟨writer, -, same⟩ := unmixed.last.frames [(.conf 0, 0)] (by decide +kernel)
  exact absurd (congrArg List.length same) (by simp [Writer.frame])

end M1k.Dac
