import M1k.Streaming.Session

/-! # A start request cut by sample interrupts

The start branch of request 0xC5 runs in the USB interrupt, which the sample interrupt cuts; a
start does not stop the timer, so that interrupts of the earlier session may come between its
assignments.  `startWatched` runs the branch with any number of them before each statement.

An interrupt of channel B moves both slot counters by the same amount, so their distance is
settled once both have been assigned; what an interrupt may still spoil before that is the
distance, and `not_a_new_transfer`. -/

namespace M1k

open Library.Runs

/-! ## Watching a start -/

/-- The interrupt rewinds the slot counters by four. -/
def rewinds (s : Sampler) : Bool :=
  s.currentChan == .B && s.slotOffsetOut + 1 == 4 && s.notANewTransfer == 4

/-- A run under observation: the interrupts of channel B since `slot_offset_out` was last assigned,
    and the rewinds among them. -/
structure Watch where
  stream : Stream
  pulses : Nat := 0
  rewinds : Nat := 0

namespace Watch

def tc2 (w : Watch) : Watch :=
  if w.stream.tc.running = false then w
  else
    { stream := tc2Interrupt w.stream
      pulses := w.pulses + if w.stream.smp.currentChan = .B then 1 else 0
      rewinds := w.rewinds + if M1k.rewinds w.stream.smp then 1 else 0 }

def step (w : Watch) : Event → Watch
  | .tc2 => w.tc2
  | event => { w with stream := M1k.step w.stream event }

/-- The statements, with `gaps i` interrupts between the i-th and the next. -/
def block (gaps : Nat → Nat) : Nat → List (Stream → Stream) → Watch → Watch
  | _, [], w => w
  | _, [statement], w => { w with stream := statement w.stream }
  | i, statement :: next :: statements, w =>
    block gaps (i + 1) (next :: statements) (tc2^[gaps i] { w with stream := statement w.stream })

end Watch

/-- The start branch, cut by interrupts.  The counts begin with the ninth statement, the assignment
    of `slot_offset_out`. -/
def startWatched (gaps : Nat → Nat) (wValue wIndex : UInt16) (s : Stream) : Watch :=
  let reset := Watch.block gaps 0 ((startStatements wValue wIndex).take 9)
    { stream := s.observe [.request wValue wIndex] }
  Watch.block gaps 9 ((startStatements wValue wIndex).drop 9)
    (Watch.tc2^[gaps 8] { stream := reset.stream })

/-- Without interrupts this is the request as a single event. -/
theorem startWatched_uncut {wValue : UInt16} (start : 1 ≤ wValue) (wIndex : UInt16) (s : Stream) :
    (startWatched (fun _ => 0) wValue wIndex s).stream = configureSampling wValue wIndex s := by
  have notStop : ¬ wValue < 1 := UInt16.not_lt.mpr start
  simp only [configureSampling, notStop, if_false]
  rfl

/-- The slot counters are in step, move with channel B only, and are rewound once, at the end of
    the fourth slot. -/
structure Resynchronised (w : Watch) : Prop where
  aligned : w.stream.smp.slotOffsetIn = w.stream.smp.slotOffsetOut + 254
  moves : ∀ event, ¬ event.IsRequest →
    (step w.stream event).smp.slotOffsetIn ≠ w.stream.smp.slotOffsetIn ∨
      (step w.stream event).smp.slotOffsetOut ≠ w.stream.smp.slotOffsetOut →
    event = .tc2 ∧ w.stream.smp.currentChan = .B
  rewound : w.rewinds = if 4 ≤ w.pulses then 1 else 0

/-! ## Which interrupts do no harm -/

/-- The interrupts of channel B among the next `n`. -/
def pulsesOf : Chan → Nat → Nat
  | .A, n => n / 2
  | .B, n => (n + 1) / 2

/-- The interrupts of channel B until `slot_offset_out` is 4. -/
def pulsesTo4 (slotOffsetOut : UInt8) : Nat := (3 - slotOffsetOut).toNat + 1

/-- The interrupts of channel B before `slot_offset_in` is assigned. -/
def pulsesToIn (gaps : Nat → Nat) (chan : Chan) : Nat :=
  pulsesOf chan (gaps 0 + gaps 1 + gaps 2) + (gaps 3 + gaps 4 + gaps 5 + gaps 6) / 2

/-- The interrupts of channel B before `slot_offset_out` is assigned. -/
def pulsesToOut (gaps : Nat → Nat) (chan : Chan) : Nat :=
  pulsesOf chan (gaps 0 + gaps 1 + gaps 2) + (gaps 3 + gaps 4 + gaps 5 + gaps 6 + gaps 7) / 2

/-- The timer is stopped; or the interrupts do not take `slot_offset_out` to 4 before it is
    assigned, and none of channel B comes between the assignments of the two counters. -/
def Undisturbed (gaps : Nat → Nat) (s : Stream) : Prop :=
  s.tc.running = false ∨
    pulsesToOut gaps s.smp.currentChan < pulsesTo4 s.smp.slotOffsetOut ∧
      pulsesToOut gaps s.smp.currentChan = pulsesToIn gaps s.smp.currentChan

instance (gaps : Nat → Nat) (s : Stream) : Decidable (Undisturbed gaps s) :=
  inferInstanceAs (Decidable (_ ∨ _))

/-! ## The slot counters under interrupts -/

/-- `current_chan`, `slot_offset_in`, `slot_offset_out` and `not_a_new_transfer` -/
abbrev Slots := Chan × UInt8 × UInt8 × UInt8

/-- The variables that the slots are counted with. -/
def Sampler.slots (s : Sampler) : Slots :=
  (s.currentChan, s.slotOffsetIn, s.slotOffsetOut, s.notANewTransfer)

/-- One interrupt, for those variables. -/
def nextSlots : Slots → Slots
  | (.A, slotIn, slotOut, rewind) => (.B, slotIn, slotOut, rewind)
  | (.B, slotIn, slotOut, rewind) =>
    if slotOut + 1 = 4 then (.A, slotIn + 1 - rewind, slotOut + 1 - rewind, 0)
    else (.A, slotIn + 1, slotOut + 1, rewind)

theorem slots_tc2Handler (s : Sampler) : (tc2Handler s).slots = nextSlots s.slots := by
  cases chan : s.currentChan with
  | A => simp [tc2Handler, tc2HandlerA, Sampler.slots, nextSlots, chan, Chan.toggle]
  | B =>
    simp only [tc2Handler_B chan, Sampler.slots, switchSlotOffsetOut_currentChan,
      switchSlotOffsetOut_slotOffsetIn, switchSlotOffsetOut_slotOffsetOut,
      switchSlotOffsetOut_notANewTransfer, tc2HandlerB, chan, nextSlots, Chan.toggle]
    split_ifs <;> rfl

/-- After `p` interrupts of channel B, counted from slot `first` on with the rewind still to come. -/
structure Counting (first : UInt8) (p : Nat) (x : Slots) : Prop where
  rewind : x.2.2.2 = if p < pulsesTo4 first then 4 else 0
  slotOut : p < pulsesTo4 first → x.2.2.1 = first + UInt8.ofNat p

theorem pulsesTo4_pos (first : UInt8) : 0 < pulsesTo4 first := Nat.succ_pos _

theorem counting_start (chan : Chan) (slotIn first : UInt8) : Counting first 0 (chan, slotIn, first, 4) where
  rewind := by rw [if_pos (pulsesTo4_pos first)]
  slotOut _ := by simp

/-- The slot is 4 when `pulsesTo4` have been counted, and not before. -/
theorem next_is_4_iff {first : UInt8} {p : Nat} (before : p < pulsesTo4 first) :
    first + UInt8.ofNat p + 1 = 4 ↔ p + 1 = pulsesTo4 first := by
  have bound := first.toNat_lt
  unfold pulsesTo4 at before ⊢
  rw [UInt8.toNat_sub] at before ⊢
  rw [← UInt8.toNat_inj, UInt8.toNat_add, UInt8.toNat_add, UInt8.toNat_ofNat']
  show (_ + 1) % 256 = 4 ↔ _
  have three : (3 : UInt8).toNat = 3 := rfl
  rw [three] at before ⊢
  omega

theorem counting_next {first : UInt8} {p : Nat} {x : Slots}
    (counting : Counting first p x) :
    Counting first (p + if x.1 = .B then 1 else 0) (nextSlots x) := by
  obtain ⟨chan, slotIn, slotOut, rewind⟩ := x
  have value : rewind = if p < pulsesTo4 first then 4 else 0 := counting.rewind
  cases chan with
  | A =>
    rw [if_neg (by simp), Nat.add_zero]
    exact ⟨counting.rewind, counting.slotOut⟩
  | B =>
    rw [if_pos rfl, nextSlots]
    -- the rewind is left until the slot reaches 4, and spent from then on
    by_cases before : p < pulsesTo4 first
    · have slot : slotOut = first + UInt8.ofNat p := counting.slotOut before
      rw [if_pos before] at value
      rw [slot]
      by_cases reached : p + 1 = pulsesTo4 first
      · rw [if_pos ((next_is_4_iff before).mpr reached)]
        exact ⟨(if_neg (by omega)).symm, fun more => absurd more (by omega)⟩
      · rw [if_neg (mt (next_is_4_iff before).mp reached)]
        refine ⟨value.trans (if_pos (by omega)).symm, fun _ => ?_⟩
        show first + UInt8.ofNat p + 1 = first + UInt8.ofNat (p + 1)
        rw [UInt8.ofNat_add, UInt8.add_assoc]
        rfl
    · rw [if_neg before] at value
      rw [value]
      split_ifs
      · exact ⟨(if_neg (by omega)).symm, fun more => absurd more (by omega)⟩
      · exact ⟨(if_neg (by omega)).symm, fun more => absurd more (by omega)⟩

theorem pulsesOf_succ (x : Slots) (n : Nat) :
    pulsesOf x.1 (n + 1) = (if x.1 = .B then 1 else 0) + pulsesOf (nextSlots x).1 n := by
  obtain ⟨chan, slotIn, slotOut, rewind⟩ := x
  cases chan with
  | A =>
    rw [if_neg (by simp), Nat.zero_add]
    rfl
  | B =>
    have next : (nextSlots (.B, slotIn, slotOut, rewind)).1 = .A := by
      rw [nextSlots]
      split_ifs <;> rfl
    rw [next, if_pos rfl]
    show (n + 1 + 1) / 2 = 1 + n / 2
    omega

theorem counting_iterate {first : UInt8} {p : Nat} {x : Slots}
    (counting : Counting first p x) (n : Nat) :
    Counting first (p + pulsesOf x.1 n) (nextSlots^[n] x) := by
  induction n generalizing p x with
  | zero =>
    have none : pulsesOf x.1 0 = 0 := by cases x.1 <;> rfl
    rw [none]
    exact counting
  | succ n ih =>
    rw [Function.iterate_succ_apply, pulsesOf_succ, ← Nat.add_assoc]
    exact ih (counting_next counting)

/-- Interrupts keep the distance of the two counters. -/
theorem distance_iterate (n : Nat) (x : Slots) :
    (nextSlots^[n] x).2.1 - (nextSlots^[n] x).2.2.1 = x.2.1 - x.2.2.1 := by
  induction n generalizing x with
  | zero => rfl
  | succ n ih =>
    rw [Function.iterate_succ_apply, ih]
    obtain ⟨chan, slotIn, slotOut, rewind⟩ := x
    cases chan with
    | A => rfl
    | B =>
      rw [nextSlots]
      split_ifs <;> grind

theorem pulsesOf_add (m n : Nat) (x : Slots) :
    pulsesOf x.1 (m + n) = pulsesOf x.1 m + pulsesOf (nextSlots^[m] x).1 n := by
  induction m generalizing x with
  | zero =>
    have none : pulsesOf x.1 0 = 0 := by cases x.1 <;> rfl
    rw [Nat.zero_add, none, Nat.zero_add]
    rfl
  | succ m ih =>
    rw [Nat.add_right_comm, pulsesOf_succ, ih, pulsesOf_succ, Function.iterate_succ_apply,
      Nat.add_assoc]

/-! ## The statements up to the ninth -/

/-- The slot counters after the first nine statements, with the timer running. -/
def slotsReset (gaps : Nat → Nat) (chan : Chan) (slotIn slotOut : UInt8) :
    Slots :=
  let x := nextSlots^[gaps 0 + gaps 1 + gaps 2] (chan, slotIn, slotOut, 4)
  let x := nextSlots^[gaps 3 + gaps 4 + gaps 5 + gaps 6] (.A, x.2)
  let x := nextSlots^[gaps 7] (x.1, 254, x.2.2)
  (x.1, x.2.1, 0, x.2.2.2)

/-- The rewind is left for the session unless an interrupt has taken the earlier session's counter
    to slot 4; then the distance is off by the interrupts of channel B between the two assignments. -/
theorem slotsReset_spec (gaps : Nat → Nat) (chan : Chan) (slotIn slotOut : UInt8) :
    (slotsReset gaps chan slotIn slotOut).2.2.1 = 0 ∧
      (slotsReset gaps chan slotIn slotOut).2.2.2 =
        (if pulsesToOut gaps chan < pulsesTo4 slotOut then 4 else 0) ∧
      (pulsesToOut gaps chan < pulsesTo4 slotOut →
        (slotsReset gaps chan slotIn slotOut).2.1 =
          254 + UInt8.ofNat (pulsesToOut gaps chan - pulsesToIn gaps chan)) := by
  have early := counting_iterate (counting_start chan slotIn slotOut) (gaps 0 + gaps 1 + gaps 2)
  rw [Nat.zero_add] at early
  generalize reached : nextSlots^[gaps 0 + gaps 1 + gaps 2] (chan, slotIn, slotOut, 4) = x at early
  have again : Counting slotOut (pulsesOf chan (gaps 0 + gaps 1 + gaps 2)) (.A, x.2) :=
    ⟨early.rewind, early.slotOut⟩
  -- up to the assignment of `slot_offset_in`
  have toIn := counting_iterate again (gaps 3 + gaps 4 + gaps 5 + gaps 6)
  have sum := pulsesOf_add (gaps 3 + gaps 4 + gaps 5 + gaps 6) (gaps 7) (.A, x.2)
  generalize later : nextSlots^[gaps 3 + gaps 4 + gaps 5 + gaps 6] (.A, x.2) = y at toIn sum
  have assigned : Counting slotOut (pulsesToIn gaps chan) (y.1, 254, y.2.2) :=
    ⟨toIn.rewind, toIn.slotOut⟩
  -- from there to the assignment of `slot_offset_out`
  have toOut := counting_iterate assigned (gaps 7)
  have distance := distance_iterate (gaps 7) (y.1, 254, y.2.2)
  have count : pulsesToIn gaps chan + pulsesOf y.1 (gaps 7) = pulsesToOut gaps chan := by
    have total : (gaps 3 + gaps 4 + gaps 5 + gaps 6 + gaps 7) / 2 =
        (gaps 3 + gaps 4 + gaps 5 + gaps 6) / 2 + pulsesOf y.1 (gaps 7) := sum
    simp only [pulsesToIn, pulsesToOut]
    omega
  rw [count] at toOut
  have result : slotsReset gaps chan slotIn slotOut =
      ((nextSlots^[gaps 7] (y.1, 254, y.2.2)).1, (nextSlots^[gaps 7] (y.1, 254, y.2.2)).2.1, 0,
        (nextSlots^[gaps 7] (y.1, 254, y.2.2)).2.2.2) := by
    simp only [slotsReset, reached, later]
  rw [result]
  refine ⟨rfl, toOut.rewind, fun kept => ?_⟩
  have here := toOut.slotOut kept
  have before : y.2.2.1 = slotOut + UInt8.ofNat (pulsesToIn gaps chan) := assigned.slotOut (by omega)
  -- the interrupts between the two assignments set the counters apart
  have split : UInt8.ofNat (pulsesToOut gaps chan) = UInt8.ofNat (pulsesToIn gaps chan) +
      UInt8.ofNat (pulsesToOut gaps chan - pulsesToIn gaps chan) := by
    rw [← UInt8.ofNat_add]
    congr 1
    omega
  simp only at distance
  rw [here, before, split] at distance
  grind

/-! ## Statements and slots -/

/-- What a statement does to the slot variables; it leaves the timer as it is. -/
structure Acts (f : Stream → Stream) (g : Slots → Slots) : Prop where
  slots : ∀ s, (f s).smp.slots = g s.smp.slots
  running : ∀ s, (f s).tc.running = s.tc.running

/-- `n` interrupts, when the timer runs -/
def advance (running : Bool) (n : Nat) (x : Slots) : Slots := if running then nextSlots^[n] x else x

theorem advance_add (running : Bool) (m n : Nat) (x : Slots) :
    advance running n (advance running m x) = advance running (m + n) x := by
  cases running with
  | false => rfl
  | true => exact (Function.iterate_add_apply nextSlots n m x).symm.trans (by rw [Nat.add_comm]; rfl)

/-- `Watch.block`, for the slot variables -/
def blockSlots (running : Bool) (gaps : Nat → Nat) : Nat → List (Slots → Slots) → Slots → Slots
  | _, [], x => x
  | _, [g], x => g x
  | i, g :: next :: gs, x =>
    blockSlots running gaps (i + 1) (next :: gs) (advance running (gaps i) (g x))

theorem tc2_iterate (n : Nat) (w : Watch) :
    (Watch.tc2^[n] w).stream.smp.slots = advance w.stream.tc.running n w.stream.smp.slots ∧
      (Watch.tc2^[n] w).stream.tc = w.stream.tc := by
  cases running : w.stream.tc.running with
  | false =>
    have still : Watch.tc2 w = w := by rw [Watch.tc2, if_pos running]
    rw [Function.iterate_fixed still]
    exact ⟨rfl, rfl⟩
  | true =>
    induction n generalizing w with
    | zero => exact ⟨rfl, rfl⟩
    | succ n ih =>
      have goes : ¬ w.stream.tc.running = false := by simp [running]
      have next : w.tc2.stream.smp = tc2Handler w.stream.smp ∧ w.tc2.stream.tc = w.stream.tc := by
        rw [Watch.tc2, if_neg goes]
        simp only [tc2Interrupt, if_neg goes, and_self]
      obtain ⟨slots, timer⟩ := ih w.tc2 (by rw [next.2, running])
      rw [Function.iterate_succ_apply, slots, timer, next.1, next.2, slots_tc2Handler]
      exact ⟨rfl, rfl⟩

theorem slots_block (gaps : Nat → Nat) {fs : List (Stream → Stream)} {gs : List (Slots → Slots)}
    (acts : List.Forall₂ Acts fs gs) (i : Nat) (w : Watch) :
    (Watch.block gaps i fs w).stream.smp.slots =
      blockSlots w.stream.tc.running gaps i gs w.stream.smp.slots := by
  induction acts generalizing i w with
  | nil => rfl
  | @cons f g fs gs first rest ih =>
    cases rest with
    | nil => exact first.slots _
    | @cons f' g' fs gs second rest =>
      obtain ⟨slots, timer⟩ := tc2_iterate (gaps i) { w with stream := f w.stream }
      rw [Watch.block, blockSlots, ih, slots, timer]
      show blockSlots (f w.stream).tc.running gaps (i + 1) (g' :: gs)
        (advance (f w.stream).tc.running (gaps i) (f w.stream).smp.slots) = _
      rw [first.slots, first.running]

theorem running_block (gaps : Nat → Nat) {fs : List (Stream → Stream)}
    (keep : ∀ f ∈ fs, ∀ s, (f s).tc.running = s.tc.running) (i : Nat) (w : Watch) :
    (Watch.block gaps i fs w).stream.tc.running = w.stream.tc.running := by
  induction fs generalizing i w with
  | nil => rfl
  | cons f fs ih =>
    have first : (f w.stream).tc.running = w.stream.tc.running := keep f (by simp) w.stream
    cases fs with
    | nil => exact first
    | cons f' fs =>
      have timer := (tc2_iterate (gaps i) { w with stream := f w.stream }).2
      rw [Watch.block, ih (fun g member => keep g (by simp [member])), timer, first]

/-- What the first nine statements do to the slot variables -/
def resetSlots : List (Slots → Slots) :=
  [ fun x => (x.1, x.2.1, x.2.2.1, 4), fun x => x, fun x => x, fun x => (.A, x.2), fun x => x,
    fun x => x, fun x => x, fun x => (x.1, 254, x.2.2), fun x => (x.1, x.2.1, 0, x.2.2.2) ]

theorem acts_onEp (id : EpId) (f : Endpoint → Endpoint × Option Completion) :
    Acts (onEp id f) (fun x => x) := by
  constructor <;> intro s <;> cases id <;> simp only [onEp_bulkIn, onEp_bulkOut, callBack_eq]

theorem acts_reset (wValue wIndex : UInt16) :
    List.Forall₂ Acts ((startStatements wValue wIndex).take 9) resetSlots := by
  apply List.Forall₂.cons
  · exact ⟨fun _ => rfl, fun _ => rfl⟩
  apply List.Forall₂.cons (acts_onEp .bulkIn _)
  apply List.Forall₂.cons (acts_onEp .bulkOut _)
  -- the assignments of `current_chan` and what follows it
  repeat' apply List.Forall₂.cons
  all_goals first | exact ⟨fun _ => rfl, fun _ => rfl⟩ | exact .nil

/-- The other statements do nothing to the slot variables. -/
theorem acts_rest (wValue wIndex : UInt16) :
    ∀ f ∈ (startStatements wValue wIndex).drop 9, Acts f fun x => x := by
  simp only [startStatements, List.drop_succ_cons, List.drop_zero, List.forall_mem_cons]
  refine ⟨⟨fun _ => rfl, fun _ => rfl⟩, ⟨fun _ => rfl, fun _ => rfl⟩, ⟨fun _ => rfl, fun _ => rfl⟩,
    ⟨fun _ => rfl, fun _ => rfl⟩, ⟨fun _ => rfl, fun _ => rfl⟩, ⟨fun _ => rfl, fun _ => rfl⟩,
    ⟨fun _ => rfl, fun _ => rfl⟩, ⟨fun _ => rfl, fun _ => rfl⟩, ⟨fun _ => rfl, fun _ => rfl⟩,
    ⟨fun _ => rfl, fun _ => rfl⟩, ⟨fun _ => rfl, fun _ => rfl⟩, ?_, by simp⟩
  constructor <;> intro s <;> simp only [udiVendorBulkRun_bulkOut, callBack_eq]

/-- The slot variables when both counters have been assigned. -/
theorem slots_reset (gaps : Nat → Nat) (wValue wIndex : UInt16) (s : Stream) :
    (Watch.block gaps 0 ((startStatements wValue wIndex).take 9)
        { stream := s.observe [.request wValue wIndex] }).stream.smp.slots =
      (if s.tc.running then
        slotsReset gaps s.smp.currentChan s.smp.slotOffsetIn s.smp.slotOffsetOut
      else (.A, 254, 0, 4)) := by
  rw [slots_block gaps (acts_reset wValue wIndex)]
  show blockSlots s.tc.running gaps 0 resetSlots s.smp.slots = _
  cases running : s.tc.running with
  | false => rfl
  | true =>
    simp only [resetSlots, blockSlots, advance_add]
    rfl

/-! ## From the ninth statement on -/

/-- What is watched of a session: the slot variables, and the two counts. -/
abbrev Record := Slots × Nat × Nat

def Watch.record (w : Watch) : Record := (w.stream.smp.slots, w.pulses, w.rewinds)

/-- One interrupt, for the record -/
def nextRecord (r : Record) : Record :=
  (nextSlots r.1, r.2.1 + (if r.1.1 = .B then 1 else 0),
    r.2.2 + if r.1.1 == .B && r.1.2.2.1 + 1 == 4 && r.1.2.2.2 == 4 then 1 else 0)

theorem record_tc2 {w : Watch} (running : w.stream.tc.running = true) :
    w.tc2.record = nextRecord w.record ∧ w.tc2.stream.tc = w.stream.tc := by
  have goes : ¬ w.stream.tc.running = false := by simp [running]
  rw [Watch.tc2, if_neg goes]
  simp only [tc2Interrupt, if_neg goes, Watch.record, slots_tc2Handler]
  exact ⟨rfl, trivial⟩

theorem record_iterate (n : Nat) {w : Watch} (running : w.stream.tc.running = true) :
    (Watch.tc2^[n] w).record = nextRecord^[n] w.record ∧ (Watch.tc2^[n] w).stream.tc = w.stream.tc := by
  induction n generalizing w with
  | zero => exact ⟨rfl, rfl⟩
  | succ n ih =>
    obtain ⟨record, timer⟩ := record_tc2 running
    have later := ih (w := w.tc2) (by rw [timer, running])
    rw [Function.iterate_succ_apply, Function.iterate_succ_apply, later.1, later.2, record, timer]
    exact ⟨rfl, rfl⟩

theorem pulses_iterate (n : Nat) (r : Record) :
    (nextRecord^[n] r).2.1 = r.2.1 + pulsesOf r.1.1 n := by
  induction n generalizing r with
  | zero =>
    have none : pulsesOf r.1.1 0 = 0 := by cases r.1.1 <;> rfl
    rw [none]
    rfl
  | succ n ih =>
    rw [Function.iterate_succ_apply, ih, pulsesOf_succ, ← Nat.add_assoc]
    rfl

/-- Only the sample interrupt moves the slot variables. -/
theorem step_slots (s : Stream) {event : Event} (notTc2 : event ≠ .tc2)
    (notRequest : ¬ event.IsRequest) : (step s event).smp.slots = s.smp.slots := by
  by_cases isLoop : event = .loop
  · obtain ⟨⟨sendIn, sendOut, smp⟩, -⟩ := loop_sampler s
    rw [isLoop]
    show (mainLoop s).smp.slots = s.smp.slots
    rw [smp]
    rfl
  · rw [(background_step s notTc2 isLoop notRequest).smp]

/-- They move with channel B only. -/
theorem moves_with_B (s : Stream) (event : Event) (notRequest : ¬ event.IsRequest)
    (moved : (step s event).smp.slotOffsetIn ≠ s.smp.slotOffsetIn ∨
      (step s event).smp.slotOffsetOut ≠ s.smp.slotOffsetOut) :
    event = .tc2 ∧ s.smp.currentChan = .B := by
  by_cases isTc2 : event = .tc2
  · refine ⟨isTc2, ?_⟩
    rw [isTc2] at moved
    cases chan : s.smp.currentChan with
    | B => rfl
    | A =>
      simp only [step, tc2Interrupt, tc2Handler_A chan] at moved
      split_ifs at moved <;> simp [tc2HandlerA] at moved
  · have same := step_slots s isTc2 notRequest
    simp only [Sampler.slots, Prod.mk.injEq] at same
    simp [same] at moved

section Invariant

variable {P : Record → Prop} (keeps : ∀ r, P r → P (nextRecord r))
include keeps

/-! What an interrupt keeps of the record is kept by the rest of the start branch, and for as long
as no further request comes. -/

theorem keeps_tc2 {w : Watch} (holds : P w.record) : P w.tc2.record := by
  cases running : w.stream.tc.running with
  | false =>
    rw [Watch.tc2, if_pos running]
    exact holds
  | true =>
    rw [(record_tc2 running).1]
    exact keeps _ holds

theorem keeps_iterate (n : Nat) {w : Watch} (holds : P w.record) : P (Watch.tc2^[n] w).record := by
  induction n generalizing w with
  | zero => exact holds
  | succ n ih =>
    rw [Function.iterate_succ_apply]
    exact ih (keeps_tc2 keeps holds)

theorem keeps_block (gaps : Nat → Nat) {fs : List (Stream → Stream)}
    (acts : ∀ f ∈ fs, Acts f fun x => x) (i : Nat) {w : Watch} (holds : P w.record) :
    P (Watch.block gaps i fs w).record := by
  induction fs generalizing i w with
  | nil => exact holds
  | cons f fs ih =>
    have stated : P ({ w with stream := f w.stream } : Watch).record := by
      have same := (acts f (by simp)).slots w.stream
      simp only [Watch.record, same]
      exact holds
    cases fs with
    | nil => exact stated
    | cons f' fs =>
      rw [Watch.block]
      exact ih (fun g member => acts g (by simp [member])) (i + 1) (keeps_iterate keeps _ stated)

theorem keeps_start (gaps : Nat → Nat) (wValue wIndex : UInt16) (s : Stream)
    (holds : P (if s.tc.running then
        slotsReset gaps s.smp.currentChan s.smp.slotOffsetIn s.smp.slotOffsetOut
      else (.A, 254, 0, 4), 0, 0)) : P (startWatched gaps wValue wIndex s).record := by
  rw [← slots_reset gaps wValue wIndex] at holds
  exact keeps_block keeps gaps (acts_rest wValue wIndex) 9 (keeps_iterate keeps _ holds)

theorem keeps_step {w : Watch} (holds : P w.record) {event : Event}
    (notRequest : ¬ event.IsRequest) : P (w.step event).record := by
  by_cases isTc2 : event = .tc2
  · rw [isTc2]
    exact keeps_tc2 keeps holds
  · have other : w.step event = { w with stream := step w.stream event } := by
      cases event <;> first | rfl | contradiction
    rw [other]
    simp only [Watch.record, step_slots w.stream isTc2 notRequest]
    exact holds

theorem keeps_run {w : Watch} (holds : P w.record) {events : List Event}
    (notRequest : ∀ event ∈ events, ¬ event.IsRequest) : P (run Watch.step w events).record := by
  have always := always_of_events (P := fun w : Watch => P w.record)
    (C := fun event : Event => ¬ event.IsRequest)
    (fun _ _ holds notRequest => keeps_step keeps holds notRequest) holds notRequest
  exact always.last

end Invariant

/-! ## The session -/

/-- Interrupts keep the distance of the counters. -/
theorem distance_next (offset : UInt8) (r : Record) (apart : r.1.2.1 = r.1.2.2.1 + offset) :
    (nextRecord r).1.2.1 = (nextRecord r).1.2.2.1 + offset := by
  have distance : (nextSlots r.1).2.1 - (nextSlots r.1).2.2.1 = r.1.2.1 - r.1.2.2.1 :=
    distance_iterate 1 r.1
  rw [apart] at distance
  show (nextSlots r.1).2.1 = (nextSlots r.1).2.2.1 + offset
  grind

/-- The invariant of a session that has been started undisturbed. -/
structure InStep (r : Record) : Prop where
  aligned : r.1.2.1 = r.1.2.2.1 + 254
  counting : Counting 0 r.2.1 r.1
  rewound : r.2.2 = if 4 ≤ r.2.1 then 1 else 0

theorem inStep_next (r : Record) (inStep : InStep r) : InStep (nextRecord r) where
  aligned := distance_next 254 r inStep.aligned
  counting := counting_next inStep.counting
  rewound := by
    obtain ⟨⟨chan, slotIn, slotOut, rewind⟩, p, n⟩ := r
    have count : n = if 4 ≤ p then 1 else 0 := inStep.rewound
    have left : rewind = if p < 4 then 4 else 0 := inStep.counting.rewind
    cases chan with
    | A => simpa [nextRecord] using count
    | B =>
      show (n + if (Chan.B == .B && slotOut + 1 == 4 && rewind == 4) = true then 1 else 0) =
        if 4 ≤ p + 1 then 1 else 0
      -- the fourth interrupt of channel B is the one that rewinds
      by_cases before : p < 4
      · have slot : slotOut = 0 + UInt8.ofNat p := inStep.counting.slotOut before
        have four : slotOut + 1 = 4 ↔ 4 ≤ p + 1 := by
          rw [slot, next_is_4_iff before]
          have slots : pulsesTo4 0 = 4 := rfl
          omega
        rw [if_pos before] at left
        rw [if_neg (by omega)] at count
        simp [count, left, four]
      · rw [if_neg before] at left
        rw [if_pos (by omega)] at count
        have later : 4 ≤ p + 1 := by omega
        simp [count, left, later]

/-- Without the rewind to come, none is performed. -/
theorem spent_next (r : Record) (spent : r.1.2.2.2 = 0 ∧ r.2.2 = 0) :
    (nextRecord r).1.2.2.2 = 0 ∧ (nextRecord r).2.2 = 0 := by
  obtain ⟨⟨chan, slotIn, slotOut, rewind⟩, p, n⟩ := r
  obtain ⟨left, count⟩ : rewind = 0 ∧ n = 0 := spent
  rw [left, count]
  cases chan with
  | A => exact ⟨rfl, rfl⟩
  | B =>
    simp only [nextRecord, nextSlots]
    split_ifs <;> simp_all

/-- The start branch does not touch the timer. -/
theorem running_start (gaps : Nat → Nat) (wValue wIndex : UInt16) (s : Stream) :
    (startWatched gaps wValue wIndex s).stream.tc.running = s.tc.running := by
  have statements : ∀ f ∈ startStatements wValue wIndex, ∀ s, (f s).tc.running = s.tc.running := by
    simp [startStatements, onEp_bulkIn, onEp_bulkOut, udiVendorBulkRun_bulkOut, callBack_eq]
  rw [startWatched, running_block gaps fun f member => statements f (List.mem_of_mem_drop member),
    (tc2_iterate _ _).2, running_block gaps fun f member => statements f (List.mem_of_mem_take member)]
  rfl

/-- Interrupts alone, as events. -/
theorem run_watch_tc2 (n : Nat) (w : Watch) :
    run Watch.step w (List.replicate n .tc2) = Watch.tc2^[n] w := by
  induction n generalizing w with
  | zero => rfl
  | succ n ih => exact ih w.tc2

/-- Until the next request, a start leaves the streams in step exactly when it was undisturbed. -/
theorem start_resynchronises_iff (wValue wIndex : UInt16) (gaps : Nat → Nat) (s : Stream) :
    (∀ events, (∀ event ∈ events, ¬ Event.IsRequest event) →
        Resynchronised (run Watch.step (startWatched gaps wValue wIndex s) events)) ↔
      Undisturbed gaps s := by
  obtain ⟨first, rewind, distance⟩ := slotsReset_spec gaps s.smp.currentChan s.smp.slotOffsetIn
    s.smp.slotOffsetOut
  constructor
  · intro always
    by_contra disturbed
    rw [Undisturbed, not_or, Bool.not_eq_false] at disturbed
    obtain ⟨running, disturbed⟩ := disturbed
    by_cases left : pulsesToOut gaps s.smp.currentChan < pulsesTo4 s.smp.slotOffsetOut
    · -- the rewind is left, but the counters are apart
      have between : pulsesToIn gaps s.smp.currentChan ≤ pulsesToOut gaps s.smp.currentChan := by
        simp only [pulsesToIn, pulsesToOut]
        omega
      have apart : pulsesToOut gaps s.smp.currentChan ≠ pulsesToIn gaps s.smp.currentChan :=
        fun same => disturbed ⟨left, same⟩
      have few : pulsesTo4 s.smp.slotOffsetOut ≤ 256 := by
        have bound := (3 - s.smp.slotOffsetOut).toNat_lt
        unfold pulsesTo4
        omega
      have kept := keeps_start (distance_next
        (254 + UInt8.ofNat (pulsesToOut gaps s.smp.currentChan - pulsesToIn gaps s.smp.currentChan)))
        gaps wValue wIndex s (by rw [if_pos running, distance left, first]; simp)
      have aligned := (always [] (by simp)).aligned
      have same : UInt8.ofNat (pulsesToOut gaps s.smp.currentChan -
          pulsesToIn gaps s.smp.currentChan) = 0 := by
        have kept : (startWatched gaps wValue wIndex s).stream.smp.slotOffsetIn =
            (startWatched gaps wValue wIndex s).stream.smp.slotOffsetOut + _ := kept
        rw [run_nil, kept] at aligned
        clear always distance rewind
        grind
      rw [← UInt8.toNat_inj, UInt8.toNat_ofNat'] at same
      have zero : (0 : UInt8).toNat = 0 := rfl
      omega
    · -- the rewind has been spent on the counters of the earlier session
      rw [if_neg left] at rewind
      have spent := keeps_start (P := fun r => r.1.2.2.2 = 0 ∧ r.2.2 = 0) spent_next gaps wValue wIndex s
        (by rw [if_pos running]; exact ⟨rewind, rfl⟩)
      have goes := (running_start gaps wValue wIndex s).trans running
      have eight := keeps_iterate (P := fun r => r.1.2.2.2 = 0 ∧ r.2.2 = 0) spent_next 8 spent
      have rewound := (always (List.replicate 8 .tc2) (notRequest_tc2 8)).rewound
      have count : (Watch.tc2^[8] (startWatched gaps wValue wIndex s)).record.2.1 = _ :=
        (congrArg (fun r : Record => r.2.1) (record_iterate 8 goes).1).trans (pulses_iterate 8 _)
      have four (chan : Chan) : pulsesOf chan 8 = 4 := by cases chan <;> rfl
      have none : (Watch.tc2^[8] (startWatched gaps wValue wIndex s)).rewinds = 0 := eight.2
      rw [four] at count
      have enough : 4 ≤ (Watch.tc2^[8] (startWatched gaps wValue wIndex s)).pulses :=
        (Nat.le_add_left 4 _).trans_eq count.symm
      rw [run_watch_tc2, none, if_pos enough] at rewound
      cases rewound
  · intro undisturbed events notRequest
    -- undisturbed: the counters start as far apart as with the timer stopped
    have start : InStep (if s.tc.running then
        slotsReset gaps s.smp.currentChan s.smp.slotOffsetIn s.smp.slotOffsetOut
      else (.A, 254, 0, 4), 0, 0) := by
      cases running : s.tc.running with
      | false => exact ⟨rfl, counting_start _ _ _, rfl⟩
      | true =>
        obtain ⟨left, same⟩ := undisturbed.resolve_left (by simp [running])
        rw [if_pos left] at rewind
        have input := distance left
        rw [same, Nat.sub_self] at input
        rw [if_pos rfl]
        constructor
        · rw [input, first]
          rfl
        · exact ⟨rewind, fun _ => first⟩
        · rfl
    have now := keeps_run inStep_next (keeps_start inStep_next gaps wValue wIndex s start) notRequest
    exact ⟨now.aligned, fun event other moved => moves_with_B _ event other moved, now.rewound⟩

/-- A session whose timer runs, `n` interrupts after its start. -/
def ticking (n : Nat) : Stream :=
  run step {} (bringUp ++ [.request 1000 0, .outDone, .sof 5] ++ List.replicate n .tc2)

/-- One interrupt after the first assignment of a further start: it spends the rewind.  Or two, on
    both sides of the assignment of `slot_offset_in`: the counters end up one apart. -/
theorem start_out_of_step :
    ¬ Resynchronised (run Watch.step (startWatched (fun i => if i = 0 then 1 else 0) 1000 0 (ticking 7))
        (List.replicate 8 .tc2)) ∧
      ¬ Resynchronised (startWatched (fun i => if i = 6 ∨ i = 7 then 1 else 0) 1000 0 (ticking 9)) := by
  have counts : (run Watch.step (startWatched (fun i => if i = 0 then 1 else 0) 1000 0 (ticking 7))
      (List.replicate 8 .tc2)).pulses = 4 ∧
      (run Watch.step (startWatched (fun i => if i = 0 then 1 else 0) 1000 0 (ticking 7))
        (List.replicate 8 .tc2)).rewinds = 0 := by
    decide +kernel
  constructor
  · intro inStep
    have rewound := inStep.rewound
    rw [counts.1, counts.2] at rewound
    cases rewound
  · intro inStep
    exact absurd inStep.aligned (by decide +kernel)

end M1k
