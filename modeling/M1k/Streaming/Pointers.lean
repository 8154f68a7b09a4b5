import M1k.Streaming.Session

/-! # The pointers of the sample interrupt

The sample interrupt cuts everything, the start branch of request 0xC5 between any two of its
statements included.  Whatever it finds half reset, the slot counters are bytes, and the packet
indices are 0 or 1, because nothing is done to them but to clear, to copy and to toggle them.  So
its DMA channels only ever move words of the two frames of a buffer: in `packets_in` these are the
first 1024 words of a row, and in `packets_out` all 512. -/

namespace M1k

open Library.Runs Schedule

/-- The packet indices are 0 or 1. -/
structure Sampler.Indexed (s : Sampler) : Prop where
  packetIndexIn : s.packetIndexIn.toNat < 2
  packetIndexOut : s.packetIndexOut.toNat < 2
  packetIndexSendIn : s.packetIndexSendIn.toNat < 2
  packetIndexSendOut : s.packetIndexSendOut.toNat < 2

/-- The two bytes that each ADC channel receives go to a word of an input frame, and the two that
    the DAC channel sends are a word of an output frame. -/
structure Tick.InFrames (tick : Tick) : Prop where
  usart1 : ∃ conf packet word, tick.usart1.Converts conf packet word ∧ packet < 2 ∧ word < 1024
  usart2 : ∃ conf packet word, tick.usart2.Converts conf packet word ∧ packet < 2 ∧ word < 1024
  usart0 : ∃ command packet word, tick.usart0.Loads command packet word ∧ packet < 2 ∧ word < 512

/-! ## One interrupt -/

theorem toggle_lt {index : UInt32} (bound : index.toNat < 2) : (index ^^^ 1).toNat < 2 := by
  rw [toggle_packet rfl bound]
  exact Nat.mod_lt _ Nat.two_pos

theorem indexed_tc2Handler {s : Sampler} (indexed : s.Indexed) : (tc2Handler s).Indexed := by
  cases chan : s.currentChan with
  | A =>
    rw [tc2Handler_A chan]
    exact { indexed with }
  | B =>
    rw [tc2Handler_B chan]
    constructor
    · rw [switchSlotOffsetOut_packetIndexIn]
      split_ifs
      · exact toggle_lt indexed.packetIndexIn
      · exact indexed.packetIndexIn
    · rw [switchSlotOffsetOut_packetIndexOut]
      split_ifs
      · exact toggle_lt indexed.packetIndexOut
      · exact indexed.packetIndexOut
    · rw [switchSlotOffsetOut_packetIndexSendIn]
      split_ifs
      · exact indexed.packetIndexIn
      · exact indexed.packetIndexSendIn
    · rw [switchSlotOffsetOut_packetIndexSendOut]
      split_ifs
      · exact toggle_lt indexed.packetIndexOut
      · exact indexed.packetIndexSendOut

/-- A slot of four words ends within the frame, whatever byte the counter is. -/
theorem inFrames_tick {s : Stream} (indexed : s.smp.Indexed) : (tick s).InFrames := by
  have slotIn := s.smp.slotOffsetIn.toNat_lt
  have slotOut := s.smp.slotOffsetOut.toNat_lt
  cases chan : s.smp.currentChan with
  | A =>
    simp only [tick, tc2Handler_A chan]
    exact {
      usart1 := ⟨_, _, _, Pdc.convert_converts _ _ _ _, indexed.packetIndexIn, by omega⟩
      usart2 := ⟨_, _, _, Pdc.convert_converts _ _ _ _, indexed.packetIndexIn, by omega⟩
      usart0 := ⟨_, _, _, Pdc.load_loads _ _ _ _, indexed.packetIndexOut, by omega⟩ }
  | B =>
    simp only [tick, tc2Handler_B chan]
    exact {
      usart1 := by
        rw [switchSlotOffsetOut_usart1]
        exact ⟨_, _, _, Pdc.convert_converts _ _ _ _, indexed.packetIndexIn, by omega⟩
      usart2 := by
        rw [switchSlotOffsetOut_usart2]
        exact ⟨_, _, _, Pdc.convert_converts _ _ _ _, indexed.packetIndexIn, by omega⟩
      usart0 := by
        rw [switchSlotOffsetOut_usart0]
        exact ⟨_, _, _, Pdc.load_loads _ _ _ _, indexed.packetIndexOut, by omega⟩ }

/-! ## The start branch in single statements -/

/-- The streaming machine in the middle of a 0xC5 request. -/
structure Cut where
  stream : Stream := {}
  /-- The statements of the start branch that are still to come. -/
  branch : List (Stream → Stream) := []

inductive CutEvent where
  /-- The sample interrupt, which may be pending still when the timer has been stopped. -/
  | tc2
  | request (wValue wIndex : UInt16)
  /-- The next statement of the start branch -/
  | statement
  /-- Any other event.  It waits for the end of the branch. -/
  | other (event : Event)

namespace Cut

def tc2 (c : Cut) : Cut :=
  { c with stream := { c.stream with
      smp := tc2Handler c.stream.smp
      trace := c.stream.trace ++ [.interrupt (tick c.stream)] } }

def request (wValue wIndex : UInt16) (c : Cut) : Cut :=
  if wValue < 1 then { c with stream := tcStop (c.stream.observe [.request wValue wIndex]) }
  else
    { stream := c.stream.observe [.request wValue wIndex], branch := startStatements wValue wIndex }

def statement (c : Cut) : Cut :=
  match c.branch with
  | [] => c
  | next :: branch => { stream := next c.stream, branch := branch }

def step (c : Cut) : CutEvent → Cut
  | .tc2 => c.tc2
  | .request wValue wIndex => if c.branch.isEmpty then c.request wValue wIndex else c
  | .statement => c.statement
  | .other event => if c.branch.isEmpty then { c with stream := M1k.step c.stream event } else c

/-- Statements with no interrupt between them are the branch as a whole. -/
theorem run_statements (s : Stream) (branch : List (Stream → Stream)) :
    run step ⟨s, branch⟩ (List.replicate branch.length .statement) =
      ⟨branch.foldl (fun s statement => statement s) s, []⟩ := by
  induction branch generalizing s with
  | nil => rfl
  | cons next branch inductionHypothesis => exact inductionHypothesis (next s)

/-- A start request that no interrupt cuts is the request as a single event. -/
theorem run_uncut {wValue : UInt16} (start : 1 ≤ wValue) (wIndex : UInt16) (s : Stream) :
    run step ⟨s, []⟩ (.request wValue wIndex ::
        List.replicate (startStatements wValue wIndex).length .statement) =
      ⟨M1k.step s (.request wValue wIndex), []⟩ := by
  have notStop : ¬ wValue < 1 := UInt16.not_lt.mpr start
  have begun : step ⟨s, []⟩ (.request wValue wIndex) =
      ⟨s.observe [.request wValue wIndex], startStatements wValue wIndex⟩ := by
    simp [step, request, notStop]
  rw [run_cons, begun, run_statements]
  simp [M1k.step, configureSampling, notStop]

end Cut

/-! ## Every run -/

structure InBounds (s : Stream) : Prop where
  indexed : s.smp.Indexed
  inFrames : ∀ tick ∈ ticks s.trace, tick.InFrames

/-- A step that programs no channel. -/
theorem InBounds.still {s s' : Stream} (inBounds : InBounds s) (indexed : s'.smp.Indexed)
    (same : ticks s'.trace = ticks s.trace) : InBounds s' :=
  ⟨indexed, by rw [same]; exact inBounds.inFrames⟩

/-- An observation that is no interrupt. -/
theorem InBounds.observe {s : Stream} (inBounds : InBounds s) {obs : List Obs}
    (noTick : ticks obs = []) : InBounds (s.observe obs) := by
  refine inBounds.still inBounds.indexed ?_
  rw [Stream.observe, ticks_append, noTick, List.append_nil]

theorem inBounds_tc2 {s : Stream} (inBounds : InBounds s) :
    InBounds { s with smp := tc2Handler s.smp, trace := s.trace ++ [.interrupt (tick s)] } where
  indexed := indexed_tc2Handler inBounds.indexed
  inFrames := by
    intro t member
    rw [ticks_append, List.mem_append] at member
    rcases member with earlier | now
    · exact inBounds.inFrames t earlier
    · rw [List.mem_singleton.mp now]
      exact inFrames_tick inBounds.indexed

theorem InBounds.background {s s' : Stream} (inBounds : InBounds s) (background : Background s s') :
    InBounds s' := by
  obtain ⟨obs, trace, data⟩ := background.trace
  apply inBounds.still
  · rw [background.smp]
    exact inBounds.indexed
  · rw [trace, ticks_append, ticks_of_data data, List.append_nil]

theorem inBounds_bulkRun {s : Stream} (inBounds : InBounds s) (id : EpId) (buf : Ptr) (bufSize : Nat)
    (callback : Callback) : InBounds (udiVendorBulkRun id buf bufSize callback s) := by
  have called : InBounds ((s.observe [.epRun id buf bufSize
      (uddEpRun id.isIn false buf bufSize (some callback) (s.ep id)).1])) := inBounds.observe rfl
  exact (called.background (background_setEp id _ _)).background (background_callBack _ _)

/-- Each statement of the start branch clears packet indices, or leaves them as they are. -/
theorem inBounds_startStatements (wValue wIndex : UInt16) :
    ∀ statement ∈ startStatements wValue wIndex, ∀ s, InBounds s → InBounds (statement s) := by
  have aborts (id : EpId) (dirIn : Bool) : ∀ s, InBounds s → InBounds (onEp id (uddEpAbort dirIn) s) :=
    fun s inBounds => inBounds.background (background_onEp id _ s)
  simp only [startStatements, List.forall_mem_cons]
  refine ⟨fun s inBounds => inBounds.still { inBounds.indexed with } rfl, aborts .bulkIn true,
    aborts .bulkOut false, fun s inBounds => inBounds.still { inBounds.indexed with } rfl,
    fun s inBounds => inBounds.still { inBounds.indexed with } rfl,
    fun s inBounds => inBounds.still { inBounds.indexed with } rfl,
    fun s inBounds => inBounds.still { inBounds.indexed with } rfl,
    fun s inBounds => inBounds.still { inBounds.indexed with } rfl,
    fun s inBounds => inBounds.still { inBounds.indexed with } rfl,
    -- the four indices
    fun s inBounds => inBounds.still { inBounds.indexed with packetIndexIn := Nat.two_pos } rfl,
    fun s inBounds => inBounds.still { inBounds.indexed with packetIndexOut := Nat.two_pos } rfl,
    fun s inBounds => inBounds.still { inBounds.indexed with packetIndexSendOut := Nat.two_pos } rfl,
    fun s inBounds => inBounds.still { inBounds.indexed with packetIndexSendIn := Nat.two_pos } rfl,
    -- the timer, the flags and the first OUT transfer
    fun s inBounds => inBounds.still { inBounds.indexed with } rfl,
    fun s inBounds => inBounds.still { inBounds.indexed with } rfl,
    fun s inBounds => inBounds.still { inBounds.indexed with } rfl,
    fun s inBounds => inBounds.still { inBounds.indexed with } rfl,
    fun s inBounds => inBounds.still { inBounds.indexed with } rfl,
    fun s inBounds => inBounds.still { inBounds.indexed with } rfl,
    fun s inBounds => inBounds.still { inBounds.indexed with } rfl,
    fun s inBounds => inBounds_bulkRun inBounds .bulkOut _ 1024 _, by simp⟩

/-- One event of the uncut machine -/
theorem inBounds_step {s : Stream} (inBounds : InBounds s) (event : Event) :
    InBounds (step s event) := by
  by_cases isTc2 : event = .tc2
  · rw [isTc2, step, tc2Interrupt]
    split_ifs
    · exact inBounds
    · exact inBounds_tc2 inBounds
  -- the main loop clears the flags, and moves no index
  by_cases isLoop : event = .loop
  · obtain ⟨⟨sendIn, sendOut, smp⟩, same⟩ := loop_sampler s
    rw [isLoop]
    refine inBounds.still ?_ same
    rw [step, smp]
    exact { inBounds.indexed with }
  by_cases isRequest : event.IsRequest
  · cases event with
    | request wValue wIndex =>
      -- the start branch is its statements, one after the other
      have asked : InBounds (s.observe [.request wValue wIndex]) := inBounds.observe rfl
      rw [step, configureSampling]
      split_ifs
      · exact asked.still { asked.indexed with } rfl
      · apply List.foldlRecOn
        · exact asked
        · exact fun s inBounds statement member =>
            inBounds_startStatements wValue wIndex statement member s inBounds
    | _ => exact absurd isRequest id
  · exact inBounds.background (background_step s isTc2 isLoop isRequest)

namespace Cut

/-- Every statement that is still to come keeps the bounds. -/
structure Kept (c : Cut) : Prop where
  inBounds : InBounds c.stream
  branch : ∀ statement ∈ c.branch, ∀ s, InBounds s → InBounds (statement s)

theorem kept_step {c : Cut} (kept : Kept c) (event : CutEvent) : Kept (c.step event) := by
  cases event with
  | tc2 => exact ⟨inBounds_tc2 kept.inBounds, kept.branch⟩
  | request wValue wIndex =>
    have asked : InBounds (c.stream.observe [.request wValue wIndex]) := kept.inBounds.observe rfl
    simp only [step, request]
    split_ifs
    · exact ⟨asked.still { asked.indexed with } rfl, kept.branch⟩
    · exact ⟨asked, inBounds_startStatements wValue wIndex⟩
    · exact kept
  | statement =>
    simp only [step, statement]
    -- the next statement is taken off the branch; those behind it are kept
    cases branch : c.branch with
    | nil => exact kept
    | cons next rest =>
      have keeps := kept.branch
      rw [branch, List.forall_mem_cons] at keeps
      exact ⟨keeps.1 _ kept.inBounds, keeps.2⟩
  | other event =>
    simp only [step]
    split_ifs
    · exact ⟨inBounds_step kept.inBounds event, kept.branch⟩
    · exact kept

/-- Whatever sequence of interrupts, requests and other events, and however the interrupts cut the
    requests, all pointers that an interrupt has programmed stand in a frame. -/
theorem pointers_in_bounds (events : List CutEvent) :
    Always step (fun c => InBounds c.stream) {} events := by
  have boot : InBounds {} :=
    ⟨⟨Nat.two_pos, Nat.two_pos, Nat.two_pos, Nat.two_pos⟩, by simp [ticks]⟩
  have always : Always step Kept {} events :=
    always_of_events (C := fun _ => True) (fun _ event kept _ => kept_step kept event)
      ⟨boot, by simp⟩ fun _ _ => trivial
  exact always.mono fun _ kept => kept.inBounds

end Cut

end M1k
