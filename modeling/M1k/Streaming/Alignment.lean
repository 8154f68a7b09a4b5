import M1k.Streaming.Session

/-! # Alignment of the two streams

The ticks of a session numbered the way the host counts samples: after eight ticks of warm-up,
pair `k` plays slot `k` of the output stream, and measures the response to slot `k - 2`. -/

namespace M1k

open Library.Runs Schedule

/-! ## The schedule by pairs -/

/-- The input of pair `k` stands where the output of pair `k - 2` stood. -/
theorem inputOf {t k : Nat} (later : 2 ≤ k) (at_t : t = 8 + 2 * k ∨ t = 8 + 2 * k + 1) :
    packetIn t = (k - 2) / 256 % 2 ∧ slotIn t * 4 = 4 * ((k - 2) % 256) := by
  constructor
  · simp only [packetIn, pair]; split_ifs <;> omega
  · simp only [slotIn, slotOut, pair]; split_ifs <;> omega

section Pairs

variable {t : Nat} {tick : Tick} (onTime : OnTime t tick)
include onTime

theorem OnTime.warmUp (early : t < 8) :
    tick.usart0.Loads (if t % 2 = 0 then .da else .db) 0 t ∧
      tick.sendIn = none ∧ tick.sendOut = none := by
  have loads := onTime.loads
  have packet : packetOut t = 0 := by simp [packetOut, early]
  have word : slotOut t * 2 + t % 2 = t := by simp only [slotOut, early, if_true]; omega
  rw [packet, word] at loads
  have notEnd : ¬ endsFrame t := fun ends => absurd ends.1 (by omega)
  have notAsk : ¬ asksFrame t := fun asks => absurd asks.1 (by omega)
  have sendIn := onTime.sendIn
  have sendOut := onTime.sendOut
  rw [if_neg notEnd, Option.map_eq_none_iff] at sendIn
  rw [if_neg notAsk, Option.map_eq_none_iff] at sendOut
  exact ⟨loads, sendIn, sendOut⟩

theorem OnTime.plays {k c : Nat} (bound : c < 2) (at_t : t = 8 + 2 * k + c) :
    tick.usart0.Loads (if c = 0 then .da else .db) (k / 256 % 2) (2 * (k % 256) + c) := by
  have loads := onTime.loads
  have parity : t % 2 = c := by omega
  have packet : packetOut t = k / 256 % 2 := by simp only [packetOut, pair]; split_ifs <;> omega
  have word : slotOut t * 2 + c = 2 * (k % 256) + c := by
    simp only [slotOut, pair]; split_ifs <;> omega
  rwa [parity, packet, word] at loads

theorem OnTime.measuresA {k : Nat} (later : 2 ≤ k) (at_t : t = 8 + 2 * k) :
    tick.usart1.Converts .v1AdcConf ((k - 2) / 256 % 2) (4 * ((k - 2) % 256) + 0) ∧
      tick.usart2.Converts .v2AdcConf ((k - 2) / 256 % 2) (4 * ((k - 2) % 256) + 1) := by
  have converts := onTime.convertsA (by omega)
  obtain ⟨packet, word⟩ := inputOf later (.inl at_t)
  rwa [packet, word] at converts

theorem OnTime.measuresB {k : Nat} (later : 2 ≤ k) (at_t : t = 8 + 2 * k + 1) :
    tick.usart1.Converts .i1AdcConf ((k - 2) / 256 % 2) (4 * ((k - 2) % 256) + 3) ∧
      tick.usart2.Converts .i2AdcConf ((k - 2) / 256 % 2) (4 * ((k - 2) % 256) + 2) := by
  have converts := onTime.convertsB (by omega)
  obtain ⟨packet, word⟩ := inputOf later (.inr at_t)
  rwa [packet, word] at converts

theorem OnTime.handsOver {k j : Nat} (at_t : t = 8 + 2 * k + 1) (ends : k = 256 * (j + 1) - 1) :
    tick.sendIn.map UInt32.toNat = some (j % 2) := by
  have isEnd : endsFrame t := ⟨by omega, by omega⟩
  have frame : framesIn t = j := by simp only [framesIn]; omega
  rw [onTime.sendIn, if_pos isEnd, frame]

theorem OnTime.keepsInput {k : Nat} (at_t : t = 8 + 2 * k ∨ t = 8 + 2 * k + 1)
    (other : ∀ j, t = 8 + 2 * k + 1 → k ≠ 256 * (j + 1) - 1) : tick.sendIn = none := by
  have notEnd : ¬ endsFrame t := fun ends => by
    have phase := ends.2
    exact other (k / 256) (by omega) (by omega)
  have sendIn := onTime.sendIn
  rwa [if_neg notEnd, Option.map_eq_none_iff] at sendIn

theorem OnTime.asks {k j : Nat} (at_t : t = 8 + 2 * k + 1) (asked : k = 256 * j + 126) :
    tick.sendOut.map UInt32.toNat = some ((j + 1) % 2) := by
  have isAsk : asksFrame t := ⟨by omega, by omega⟩
  have frame : framesOut t = j := by simp only [framesOut]; omega
  rw [onTime.sendOut, if_pos isAsk, frame]

theorem OnTime.keepsOutput {k : Nat} (at_t : t = 8 + 2 * k ∨ t = 8 + 2 * k + 1)
    (other : ∀ j, t = 8 + 2 * k + 1 → k ≠ 256 * j + 126) : tick.sendOut = none := by
  have notAsk : ¬ asksFrame t := fun asks => by
    have phase := asks.2
    exact other (k / 256) (by omega) (by omega)
  have sendOut := onTime.sendOut
  rwa [if_neg notAsk, Option.map_eq_none_iff] at sendOut

end Pairs

/-! ## Whole runs -/

/-- The ticks of a session are aligned: after the warm-up, pair `k` plays slot `k` of the output
    stream, measures the response to slot `k - 2` into the place where that slot stood, hands over
    an input frame at the end of every 256 pairs and asks for an output frame after slot 126. -/
structure Aligned (ticks : List Tick) : Prop where
  warmUp : ∀ (t : Nat) (tick : Tick), t < 8 → ticks[t]? = some tick →
    tick.usart0.Loads (if t % 2 = 0 then .da else .db) 0 t ∧ tick.sendIn = none ∧ tick.sendOut = none
  plays : ∀ (k c : Nat) (tick : Tick), c < 2 → ticks[8 + 2 * k + c]? = some tick →
    tick.usart0.Loads (if c = 0 then .da else .db) (k / 256 % 2) (2 * (k % 256) + c)
  measuresA : ∀ (k : Nat) (tick : Tick), 2 ≤ k → ticks[8 + 2 * k]? = some tick →
    tick.usart1.Converts .v1AdcConf ((k - 2) / 256 % 2) (4 * ((k - 2) % 256) + 0) ∧
      tick.usart2.Converts .v2AdcConf ((k - 2) / 256 % 2) (4 * ((k - 2) % 256) + 1)
  measuresB : ∀ (k : Nat) (tick : Tick), 2 ≤ k → ticks[8 + 2 * k + 1]? = some tick →
    tick.usart1.Converts .i1AdcConf ((k - 2) / 256 % 2) (4 * ((k - 2) % 256) + 3) ∧
      tick.usart2.Converts .i2AdcConf ((k - 2) / 256 % 2) (4 * ((k - 2) % 256) + 2)
  raisesA : ∀ (k : Nat) (tick : Tick), ticks[8 + 2 * k]? = some tick →
    tick.sendIn = none ∧ tick.sendOut = none
  handsOver : ∀ (k j : Nat) (tick : Tick), ticks[8 + 2 * k + 1]? = some tick →
    k = 256 * (j + 1) - 1 → tick.sendIn.map UInt32.toNat = some (j % 2)
  keepsInput : ∀ (k : Nat) (tick : Tick), ticks[8 + 2 * k + 1]? = some tick →
    (∀ j, k ≠ 256 * (j + 1) - 1) → tick.sendIn = none
  asks : ∀ (k j : Nat) (tick : Tick), ticks[8 + 2 * k + 1]? = some tick →
    k = 256 * j + 126 → tick.sendOut.map UInt32.toNat = some ((j + 1) % 2)
  keepsOutput : ∀ (k : Nat) (tick : Tick), ticks[8 + 2 * k + 1]? = some tick →
    (∀ j, k ≠ 256 * j + 126) → tick.sendOut = none

/-- Every session is aligned, whatever state its start request finds and whatever else happens. -/
theorem stream_alignment {wValue : UInt16} (start : 1 ≤ wValue) (wIndex : UInt16) (s : Stream)
    {events : List Event} (noRequest : ∀ event ∈ events, ¬ event.IsRequest) :
    Aligned (ticks (run step (startSession wValue wIndex s) events).trace) := by
  have onTime := (inSession_run start wIndex s noRequest).last.onTime
  exact {
    warmUp := fun t tick early found => (onTime t tick found).warmUp early
    plays := fun k c tick bound found => (onTime _ tick found).plays bound rfl
    measuresA := fun k tick later found => (onTime _ tick found).measuresA later rfl
    measuresB := fun k tick later found => (onTime _ tick found).measuresB later rfl
    raisesA := fun k tick found =>
      ⟨(onTime _ tick found).keepsInput (.inl rfl) fun j odd => absurd odd (by omega),
        (onTime _ tick found).keepsOutput (.inl rfl) fun j odd => absurd odd (by omega)⟩
    handsOver := fun k j tick found => (onTime _ tick found).handsOver rfl
    keepsInput := fun k tick found other =>
      (onTime _ tick found).keepsInput (.inr rfl) fun j _ => other j
    asks := fun k j tick found => (onTime _ tick found).asks rfl
    keepsOutput := fun k tick found other =>
      (onTime _ tick found).keepsOutput (.inr rfl) fun j _ => other j }

/-- The warm-up, the pairs of frame 0 and its hand-over -/
theorem stream_alignment_after_bringUp :
    (ticks (run step (startSession 1000 0 (run step {} bringUp)) firstFrame).trace).length = 520 ∧
      Aligned (ticks (run step (startSession 1000 0 (run step {} bringUp)) firstFrame).trace) := by
  have streams : ∀ event ∈ firstFrame, event.Streams := by decide +kernel
  exact ⟨by decide +kernel,
    stream_alignment (by decide) 0 _ fun event member => (streams event member).notRequest⟩

/-! ## What is handed over -/

/-- The tick starts a conversion whose result goes to `&packets_in[packet][word]`. -/
def Tick.Receives (tick : Tick) (packet word : Nat) : Prop :=
  tick.usart1.rpr = .packetsIn packet word ∨ tick.usart2.rpr = .packetsIn packet word

/-- Whenever `send_in` is raised for a frame, all the words of its packet have been programmed for
    that frame, and no tick before the next raising programs the packet again. -/
def CaptureComplete (ticks : List Tick) : Prop :=
  ∀ t tick index, ticks[t]? = some tick → tick.sendIn = some index →
    (∀ word, word < 1024 → ∃ u earlier, u ≤ t ∧ ticks[u]? = some earlier ∧
      frameIn u = some (framesRaised (ticks.take t)) ∧
      earlier.Receives index.toNat word) ∧
    ∀ u later, t < u → ticks[u]? = some later →
      (∀ v between, t < v → v ≤ u → ticks[v]? = some between → between.sendIn = none) →
      ∀ word, ¬ later.Receives index.toNat word

theorem OnTime.receives {t : Nat} {tick : Tick} (onTime : OnTime t tick) {packet word : Nat}
    (receives : tick.Receives packet word) : packet = packetIn t ∧ word / 4 = slotIn t := by
  rcases Nat.mod_two_eq_zero_or_one t with even | odd
  · obtain ⟨⟨-, -, first, -⟩, ⟨-, -, second, -⟩⟩ := onTime.convertsA even
    rcases receives with one | two
    · obtain ⟨rfl, rfl⟩ := Ptr.packetsIn.inj (one.symm.trans first)
      exact ⟨rfl, by omega⟩
    · obtain ⟨rfl, rfl⟩ := Ptr.packetsIn.inj (two.symm.trans second)
      exact ⟨rfl, by omega⟩
  · obtain ⟨⟨-, -, first, -⟩, ⟨-, -, second, -⟩⟩ := onTime.convertsB odd
    rcases receives with one | two
    · obtain ⟨rfl, rfl⟩ := Ptr.packetsIn.inj (one.symm.trans first)
      exact ⟨rfl, by omega⟩
    · obtain ⟨rfl, rfl⟩ := Ptr.packetsIn.inj (two.symm.trans second)
      exact ⟨rfl, by omega⟩

/-- The first hand-over comes two pairs before the last two slots of its frame are measured. -/
theorem capture_incomplete {ticks : List Tick}
    (onTime : ∀ t tick, ticks[t]? = some tick → OnTime t tick) (long : 520 ≤ ticks.length) :
    ¬ CaptureComplete ticks := by
  intro complete
  have bound : 519 < ticks.length := by omega
  have found : ticks[519]? = some ticks[519] := List.getElem?_eq_getElem bound
  have raised := (onTime 519 _ found).handsOver (j := 0) (k := 255) rfl rfl
  obtain ⟨index, sendIn, -⟩ := Option.map_eq_some_iff.mp raised
  have none_before : framesRaised (ticks.take 519) = 0 := by
    rw [framesRaised_eq, List.length_take, Nat.min_eq_left (by omega)]
    · rfl
    · intro t tick at_t
      rw [List.getElem?_take] at at_t
      split_ifs at at_t
      exact onTime t tick at_t
  -- word 1016 is the first of slot 254, which frame 0 measures in pair 256
  obtain ⟨u, earlier, atMost, at_u, frame, receives⟩ :=
    (complete 519 _ index found sendIn).1 1016 (by decide)
  obtain ⟨-, slot⟩ := (onTime u _ at_u).receives receives
  rw [none_before] at frame
  simp only [frameIn, pair] at frame
  simp only [slotIn, slotOut, pair] at slot
  split_ifs at frame slot <;> simp at frame <;> omega

/-- A session hands over only complete frames exactly as long as it hands over none. -/
theorem capture_complete_iff {wValue : UInt16} (start : 1 ≤ wValue) (wIndex : UInt16) (s : Stream)
    {events : List Event} (noRequest : ∀ event ∈ events, ¬ event.IsRequest) :
    let ticks := ticks (run step (startSession wValue wIndex s) events).trace
    CaptureComplete ticks ↔ ticks.length < 520 := by
  intro ticks
  have onTime := (inSession_run start wIndex s noRequest).last.onTime
  constructor
  · intro complete
    by_contra long
    exact capture_incomplete onTime (Nat.le_of_not_lt long) complete
  · intro short t tick index found raised
    have bound := (List.getElem?_eq_some_iff.mp found).1
    have notEnd : ¬ endsFrame t := by simp only [endsFrame]; omega
    have sendIn := (onTime t tick found).sendIn
    rw [if_neg notEnd, raised] at sendIn
    simp at sendIn

theorem capture_complete_of_two_ticks :
    CaptureComplete (ticks (run step (startSession 1000 0 (run step {} bringUp))
      [.outDone, .sof 5, .tc2, .tc2]).trace) :=
  (capture_complete_iff (by decide) 0 _ (by simp [Event.IsRequest])).mpr (by decide)

/-- 520 interrupts: the first frame is handed over, its last two slots unmeasured. -/
theorem first_capture_incomplete :
    ¬ CaptureComplete (ticks (run step (startSession 1000 0 (run step {} bringUp))
      ([.outDone, .sof 5] ++ List.replicate 520 .tc2)).trace) := by
  have noRequest : ∀ event ∈ [Event.outDone, .sof 5] ++ List.replicate 520 .tc2,
      ¬ event.IsRequest := by
    intro event member
    rcases List.mem_append.mp member with first | tick
    · simp only [List.mem_cons, List.not_mem_nil, or_false] at first
      rcases first with rfl | rfl <;> exact id
    · rw [List.eq_of_mem_replicate tick]; exact id
  refine capture_incomplete (inSession_run (by decide) 0 _ noRequest).last.onTime ?_
  rw [run_append]
  have running : (run step (startSession 1000 0 (run step {} bringUp))
      [.outDone, .sof 5]).tc.running = true := by decide
  obtain ⟨obs, reached, length⟩ := run_tc2 running 520
  rw [reached, ticks_append, List.length_append, length]
  omega

end M1k
