import M1k.Sampling.Schedule
import M1k.Streaming.Wiring

/-! # A session seen from outside

A session begins with a start request and goes on while no other 0xC5 request arrives.
Whatever the other agents do meanwhile, the interrupts of the session are those of the
schedule: its `t`-th tick is a function of `t` and of what `packets_out` holds. -/

namespace M1k

open Library.Runs Schedule

def Event.IsRequest : Event → Prop
  | .request .. => True
  | _ => False

/-- The events of the main loop, the sample interrupt and the data of the two endpoints. -/
def Event.Streams : Event → Prop
  | .tc2 | .loop | .sof _ | .outByte _ | .outDone | .outEndTr | .inDone => True
  | _ => False

instance : DecidablePred Event.Streams
  | .tc2 | .loop | .sof _ | .outByte _ | .outDone | .outEndTr | .inDone =>
    inferInstanceAs (Decidable True)
  | .request .. | .inBanks _ | .busReset _ | .setAddress _ | .setConfiguration .. | .setInterface ..
  | .setFeature .. | .clearFeature .. => inferInstanceAs (Decidable False)

theorem Event.Streams.notRequest {event : Event} (streams : event.Streams) : ¬ event.IsRequest := by
  cases event with
  | request wValue wIndex => exact absurd streams id
  | _ => exact id

/-- A start request, with everything observed from it on. -/
def startSession (wValue wIndex : UInt16) (s : Stream) : Stream :=
  configureSampling wValue wIndex { s with trace := [] }

/-- A session up to the end of its first frame: `send_in` is raised, the main loop hands the frame
    over, and the host takes it. -/
def firstFrame : List Event :=
  [.outDone, .sof 5] ++ List.replicate 520 .tc2 ++ List.replicate 5 .loop ++ [.inDone]

/-! ## What a trace says -/

def Obs.tick? : Obs → Option Tick
  | .interrupt tick => some tick
  | _ => none

def ticks (trace : List Obs) : List Tick := trace.filterMap Obs.tick?

@[simp] theorem ticks_append (first second : List Obs) :
    ticks (first ++ second) = ticks first ++ ticks second := List.filterMap_append

/-- Observations of the data and the calls on the endpoints. -/
def Obs.OfData : Obs → Prop
  | .outByte _ | .completed _ => True
  | _ => False

theorem ticks_of_data {obs : List Obs} (data : ∀ o ∈ obs, o.OfData) : ticks obs = [] := by
  simp only [ticks, List.filterMap_eq_nil_iff]
  intro o member
  have ofData := data o member
  cases o <;> simp_all [Obs.OfData, Obs.tick?]

theorem callObs_ofData (completion : Option Completion) : ∀ o ∈ callObs completion, o.OfData := by
  cases completion <;> simp [callObs, Obs.OfData]

@[simp] theorem ticks_callObs (completion : Option Completion) : ticks (callObs completion) = [] :=
  ticks_of_data (callObs_ofData completion)

/-! ## Events in the background -/

/-- From `s` to `s'` neither the sampler nor the main loop has moved. -/
structure Background (s s' : Stream) : Prop where
  smp : s'.smp = s.smp
  pc : s'.pc = s.pc
  trace : ∃ obs, s'.trace = s.trace ++ obs ∧ ∀ o ∈ obs, o.OfData

theorem Background.refl (s : Stream) : Background s s := ⟨rfl, rfl, [], by simp, by simp⟩

theorem Background.trans {s s' s'' : Stream} (first : Background s s') (second : Background s' s'') :
    Background s s'' := by
  obtain ⟨before, beforeTrace, beforeData⟩ := first.trace
  obtain ⟨after, afterTrace, afterData⟩ := second.trace
  refine ⟨second.smp.trans first.smp, second.pc.trans first.pc, before ++ after, ?_, ?_⟩
  · rw [afterTrace, beforeTrace, List.append_assoc]
  · intro o member
    rcases List.mem_append.mp member with early | late
    · exact beforeData o early
    · exact afterData o late

theorem background_callBack (completion : Option Completion) (s : Stream) :
    Background s (callBack completion s) := by
  rw [callBack_eq]
  exact ⟨rfl, rfl, _, rfl, callObs_ofData _⟩

theorem background_setEp (id : EpId) (ep : Endpoint) (s : Stream) : Background s (s.setEp id ep) := by
  cases id <;> exact { Background.refl s with }

theorem background_onEp (id : EpId) (f : Endpoint → Endpoint × Option Completion) (s : Stream) :
    Background s (onEp id f s) :=
  (background_setEp id _ s).trans (background_callBack _ _)

theorem background_disable (ifaceNum : Nat) (s : Stream) :
    Background s (udcIfaceDisable ifaceNum s).2 := by
  simp only [udcIfaceDisable]
  split_ifs
  · exact Background.refl s
  · exact Background.refl s
  · refine ((background_onEp .bulkIn uddEpFree s).trans (background_onEp .bulkOut uddEpFree _)).trans ?_
    exact { Background.refl _ with }
  · exact Background.refl s

theorem background_realloc (id : EpId) (s : Stream) : Background s (uddEpReallocOn id s).2 :=
  (background_setEp id _ s).trans (background_callBack _ _)

theorem background_alloc (id : EpId) (s : Stream) : Background s (uddEpAlloc id s).2 := by
  cases id with
  | bulkIn =>
    simp only [uddEpAlloc]
    split_ifs
    · exact Background.refl s
    · exact (background_setEp .bulkIn _ s).trans (background_realloc .bulkIn _)
    · exact ((background_setEp .bulkIn _ s).trans (background_realloc .bulkIn _)).trans
        (background_realloc .bulkOut _)
  | bulkOut =>
    simp only [uddEpAlloc]
    split_ifs
    · exact Background.refl s
    · exact (background_setEp .bulkOut _ s).trans (background_realloc .bulkOut _)

theorem background_vendorEnable (settingNum : Nat) (s : Stream) :
    Background s (udiVendorEnable settingNum s).2 := by
  simp only [udiVendorEnable]
  split_ifs <;> exact { Background.refl s with }

theorem background_enable (ifaceNum settingNum : Nat) (s : Stream) :
    Background s (udcIfaceEnable ifaceNum settingNum s).2 := by
  simp only [udcIfaceEnable]
  split_ifs
  · exact Background.refl s
  · exact background_alloc _ s
  · exact (background_alloc _ s).trans (background_alloc _ _)
  · exact ((background_alloc _ s).trans (background_alloc _ _)).trans (background_vendorEnable _ _)
  · exact background_vendorEnable _ s

theorem background_reset (s : Stream) : Background s (udcReset s) := by
  simp only [udcReset]
  split_ifs
  · exact (background_disable 0 s).trans { Background.refl _ with }
  · exact { Background.refl s with }

/-- Every event but the interrupt, the main loop and a request is in the background. -/
theorem background_step (s : Stream) {event : Event} (notTc2 : event ≠ .tc2)
    (notLoop : event ≠ .loop) (notRequest : ¬ event.IsRequest) : Background s (step s event) := by
  cases event with
  | tc2 => exact absurd rfl notTc2
  | loop => exact absurd rfl notLoop
  | request wValue wIndex => exact absurd trivial notRequest
  | sof fnum =>
    simp only [step, mainSofAction]
    split_ifs <;> exact { Background.refl s with }
  | outByte value =>
    -- a byte is observed only where it lands in a packet
    simp only [step, dmaOutByte]
    split_ifs with moves
    · cases s.epOut.job.buf with
      | packetsOut packet word => exact ⟨rfl, rfl, _, rfl, by simp [Obs.OfData]⟩
      | _ => exact Background.refl s
    · exact Background.refl s
  | outDone => exact background_onEp _ _ s
  | outEndTr =>
    simp only [step, outEndTr]
    split_ifs
    · exact { Background.refl s with }
    · exact Background.refl s
  | inDone => exact background_onEp _ _ s
  | inBanks banks =>
    have counted : Background s { s with epIn := { s.epIn with busyBanks := banks } } :=
      { Background.refl s with }
    simp only [step, inBanks]
    split_ifs
    · exact counted.trans (background_onEp _ _ _)
    · exact counted
  | busReset highSpeed =>
    -- both jobs are ended before the interface goes down
    have killed := (background_onEp .bulkIn (uddEpFinishJob true) s).trans
      (background_onEp .bulkOut (uddEpFinishJob true) _)
    exact (killed.trans (background_reset _)).trans { Background.refl _ with }
  | setAddress wValue => exact { Background.refl s with }
  | setConfiguration wValue wLength =>
    -- a configuration is left before another is entered
    have reset : Background s { udcReset s with udcNumConfiguration := (wValue &&& 0xFF).toNat } :=
      (background_reset s).trans { Background.refl _ with }
    simp only [step, udcReqStdDevSetConfiguration]
    split_ifs
    · exact Background.refl s
    · exact Background.refl s
    · exact Background.refl s
    · exact reset
    · exact reset.trans (background_enable 0 0 _)
  | setInterface wValue wIndex wLength =>
    simp only [step, udcReqStdIfaceSetSetting]
    split_ifs
    · exact Background.refl s
    · exact Background.refl s
    · exact background_disable _ s
    · exact (background_disable _ s).trans (background_enable _ _ _)
  | setFeature wValue wIndex wLength =>
    simp only [step, udcReqStdEpSetFeature]
    split_ifs
    · exact Background.refl s
    · cases EpId.ofAddress wIndex with
      | none => exact Background.refl s
      | some id => exact (background_onEp id _ s).trans (background_setEp id _ _)
  | clearFeature wValue wIndex wLength junk =>
    simp only [step, udcReqStdEpClearFeature]
    split_ifs
    · exact Background.refl s
    · cases EpId.ofAddress wIndex with
      | none => exact Background.refl s
      | some id => exact background_onEp id _ s

/-- The main loop moves nothing of the sampler but the two flags, which it clears. -/
theorem loop_sampler (s : Stream) :
    (∃ sendIn sendOut, (mainLoop s).smp = { s.smp with sendIn := sendIn, sendOut := sendOut }) ∧
      ticks (mainLoop s).trace = ticks s.trace := by
  simp only [mainLoop]
  cases s.pc with
  | runIn index =>
    simp only [udiVendorBulkRun_bulkIn, callBack_eq]
    exact ⟨⟨_, _, rfl⟩, by rw [ticks_append, ticks_append, ticks_callObs, List.append_nil]; simp [ticks, Obs.tick?]⟩
  | runOut index =>
    simp only [udiVendorBulkRun_bulkOut, callBack_eq]
    exact ⟨⟨_, _, rfl⟩, by rw [ticks_append, ticks_append, ticks_callObs, List.append_nil]; simp [ticks, Obs.tick?]⟩
  | readIndexIn => exact ⟨⟨_, _, rfl⟩, by simp [ticks, Obs.tick?]⟩
  | _ => exact ⟨⟨_, _, rfl⟩, rfl⟩

/-! ## The ticks of a session -/

/-- Tick `t` of the schedule. -/
structure OnTime (t : Nat) (tick : Tick) : Prop where
  loads : tick.usart0.Loads (if t % 2 = 0 then .da else .db) (packetOut t) (slotOut t * 2 + t % 2)
  convertsA : t % 2 = 0 → tick.usart1.Converts .v1AdcConf (packetIn t) (slotIn t * 4 + 0) ∧
    tick.usart2.Converts .v2AdcConf (packetIn t) (slotIn t * 4 + 1)
  convertsB : t % 2 = 1 → tick.usart1.Converts .i1AdcConf (packetIn t) (slotIn t * 4 + 3) ∧
    tick.usart2.Converts .i2AdcConf (packetIn t) (slotIn t * 4 + 2)
  sendIn : tick.sendIn.map UInt32.toNat = if endsFrame t then some (framesIn t % 2) else none
  sendOut : tick.sendOut.map UInt32.toNat =
    if asksFrame t then some ((framesOut t + 1) % 2) else none

/-- The session has followed the schedule so far. -/
structure InSession (s : Stream) : Prop where
  follows : Follows (ticks s.trace).length s.smp
  onTime : ∀ t tick, (ticks s.trace)[t]? = some tick → OnTime t tick

theorem tick_sendIn_isSome (s : Stream) : (tick s).sendIn.isSome = raisesSendIn s.smp := by
  simp only [tick]
  split_ifs with raises <;> simp [raises]

theorem tick_sendOut_isSome (s : Stream) : (tick s).sendOut.isSome = raisesSendOut s.smp := by
  simp only [tick]
  split_ifs with raises <;> simp [raises]

theorem follows_restart (s : Sampler) : Follows 0 s.restart := by
  constructor <;> rfl

theorem onTime_tick {t : Nat} {s : Stream} (follows : Follows t s.smp) : OnTime t (tick s) where
  loads := loads_of_follows follows
  convertsA even := converts_A follows even
  convertsB odd := converts_B follows odd
  sendIn := by
    have after := (follows_succ follows).packetIndexSendIn
    simp only [tick]
    -- the index that is named is the one that the interrupt has just assigned
    by_cases ends : endsFrame t
    · rw [if_pos ((raisesSendIn_iff_endsFrame follows).mpr ends), if_pos ends, Option.map_some, after,
        framesIn_succ, if_pos ends]
      rfl
    · rw [if_neg (mt (raisesSendIn_iff_endsFrame follows).mp ends), if_neg ends, Option.map_none]
  sendOut := by
    have after := (follows_succ follows).packetIndexSendOut
    simp only [tick]
    by_cases asks : asksFrame t
    · rw [if_pos ((raisesSendOut_iff_asksFrame follows).mpr asks), if_pos asks, Option.map_some, after,
        framesOut_succ, if_pos asks]
    · rw [if_neg (mt (raisesSendOut_iff_asksFrame follows).mp asks), if_neg asks, Option.map_none]

theorem InSession.background {s s' : Stream} (inSession : InSession s) (background : Background s s') :
    InSession s' := by
  obtain ⟨obs, trace, data⟩ := background.trace
  have same : ticks s'.trace = ticks s.trace := by
    rw [trace, ticks_append, ticks_of_data data, List.append_nil]
  constructor
  · rw [same, background.smp]; exact inSession.follows
  · rw [same]; exact inSession.onTime

theorem inSession_step {s : Stream} (inSession : InSession s) {event : Event}
    (notRequest : ¬ event.IsRequest) : InSession (step s event) := by
  by_cases isTc2 : event = .tc2
  · rw [isTc2]
    simp only [step, tc2Interrupt]
    split_ifs with stopped
    · exact inSession
    · have grown : ticks (s.trace ++ [.interrupt (tick s)]) = ticks s.trace ++ [tick s] := by
        rw [ticks_append]; rfl
      refine ⟨?_, ?_⟩
      · rw [grown, List.length_append]
        exact follows_succ inSession.follows
      · rw [grown]
        intro t found at_t
        rw [List.getElem?_append] at at_t
        split_ifs at at_t with earlier
        · exact inSession.onTime t found at_t
        · obtain ⟨bound, value⟩ := List.getElem?_eq_some_iff.mp at_t
          simp only [List.length_singleton] at bound
          have now : t = (ticks s.trace).length := by omega
          rw [List.getElem_singleton] at value
          rw [now, ← value]
          exact onTime_tick inSession.follows
  · by_cases isLoop : event = .loop
    · rw [isLoop]
      obtain ⟨⟨sendIn, sendOut, smp⟩, same⟩ := loop_sampler s
      constructor
      · simp only [step, same, smp]
        exact { inSession.follows with }
      · simp only [step, same]
        exact inSession.onTime
    · exact inSession.background (background_step s isTc2 isLoop notRequest)

theorem startSession_trace {wValue : UInt16} (start : 1 ≤ wValue) (wIndex : UInt16) (s : Stream) :
    (startSession wValue wIndex s).trace =
      [.request wValue wIndex] ++ callObs (uddEpAbort true s.epIn).2 ++
        callObs (uddEpAbort false s.epOut).2 ++
        [.epRun .bulkOut (.packetsOut 0 0) 1024 (firstRun s.epOut).1] ++
        callObs (firstRun s.epOut).2.2 := by
  rw [startSession, configureSampling_start start]
  rfl

/-- The trace of a start request has no interrupt in it. -/
theorem ticks_startSession {wValue : UInt16} (start : 1 ≤ wValue) (wIndex : UInt16) (s : Stream) :
    ticks (startSession wValue wIndex s).trace = [] := by
  rw [startSession_trace start]
  simp only [ticks_append, ticks_callObs]
  rfl

theorem inSession_start {wValue : UInt16} (start : 1 ≤ wValue) (wIndex : UInt16) (s : Stream) :
    InSession (startSession wValue wIndex s) := by
  constructor
  · rw [ticks_startSession start, startSession, configureSampling_start start]
    exact follows_restart s.smp
  · rw [ticks_startSession start]
    simp

theorem wired_startSession {s : Stream} (wired : Wired s) (wValue wIndex : UInt16) :
    Wired (startSession wValue wIndex s) := by
  have forgotten : Wired { s with trace := [] } := { wired with }
  exact wired_request forgotten wValue wIndex

/-- Every run of a session follows the schedule, whatever state the request finds. -/
theorem inSession_run {wValue : UInt16} (start : 1 ≤ wValue) (wIndex : UInt16) (s : Stream)
    {events : List Event} (noRequest : ∀ event ∈ events, ¬ event.IsRequest) :
    Always step InSession (startSession wValue wIndex s) events :=
  always_of_events (fun _ _ kept notRequest => inSession_step kept notRequest)
    (inSession_start start wIndex s) noRequest

/-- A session goes on while no request arrives. -/
theorem inSession_after {s : Stream} (inSession : InSession s) (events : List Event)
    (noRequest : ∀ event ∈ events, ¬ event.IsRequest) : InSession (run step s events) := by
  have always : Always step InSession s events :=
    always_of_events (fun _ _ kept notRequest => inSession_step kept notRequest) inSession noRequest
  exact always.last

/-- An event other than the interrupt adds no tick. -/
theorem ticks_step (s : Stream) {event : Event} (notRequest : ¬ event.IsRequest)
    (notTc2 : event ≠ .tc2) : ticks (step s event).trace = ticks s.trace := by
  by_cases isLoop : event = .loop
  · rw [isLoop]; exact (loop_sampler s).2
  · obtain ⟨obs, trace, data⟩ := (background_step s notTc2 isLoop notRequest).trace
    rw [trace, ticks_append, ticks_of_data data, List.append_nil]

theorem ticks_le_count (s : Stream) {events : List Event}
    (noRequest : ∀ event ∈ events, ¬ event.IsRequest) :
    (ticks (run step s events).trace).length ≤ (ticks s.trace).length + events.count .tc2 := by
  induction events generalizing s with
  | nil => exact Nat.le_refl _
  | cons event events inductionHypothesis =>
    have later := inductionHypothesis (step s event) fun e member => noRequest e (by simp [member])
    rw [run_cons]
    by_cases isTc2 : event = .tc2
    · have grown : (ticks (step s event).trace).length ≤ (ticks s.trace).length + 1 := by
        rw [isTc2]
        simp only [step, tc2Interrupt]
        split_ifs
        · omega
        · simp [ticks, Obs.tick?]
      rw [isTc2, List.count_cons_self]
      rw [isTc2] at grown later
      omega
    · rw [List.count_cons_of_ne (by simpa using isTc2)]
      rw [ticks_step s (noRequest event (by simp)) isTc2] at later
      exact later

/-- Interrupts that raise `send_in` -/
def framesRaised (ticks : List Tick) : Nat := ticks.countP fun tick => tick.sendIn.isSome

/-- Interrupts that raise `send_out` -/
def framesAsked (ticks : List Tick) : Nat := ticks.countP fun tick => tick.sendOut.isSome

theorem framesRaised_append (first second : List Tick) :
    framesRaised (first ++ second) = framesRaised first + framesRaised second := List.countP_append

theorem framesAsked_append (first second : List Tick) :
    framesAsked (first ++ second) = framesAsked first + framesAsked second := List.countP_append

/-- What a prefix of the ticks says is what the schedule says at its end. -/
theorem onTime_induction {motive : List Tick → Prop} (nil : motive [])
    (concat : ∀ ticks tick, OnTime ticks.length tick → motive ticks → motive (ticks ++ [tick]))
    {ticks : List Tick} (onTime : ∀ t tick, ticks[t]? = some tick → OnTime t tick) :
    motive ticks := by
  induction ticks using List.reverseRecOn with
  | nil => exact nil
  | append_singleton ticks tick inductionHypothesis =>
    apply concat ticks tick (onTime _ _ (by simp))
    apply inductionHypothesis
    intro t found at_t
    apply onTime t found
    have bound := (List.getElem?_eq_some_iff.mp at_t).1
    rw [List.getElem?_append_left bound, at_t]

theorem framesRaised_eq {ticks : List Tick}
    (onTime : ∀ t tick, ticks[t]? = some tick → OnTime t tick) :
    framesRaised ticks = framesIn ticks.length := by
  refine onTime_induction (motive := fun ticks => framesRaised ticks = framesIn ticks.length) rfl
    ?_ onTime
  intro ticks tick now counted
  have raises : tick.sendIn.isSome = true ↔ endsFrame ticks.length := by
    rw [← Option.isSome_map (f := UInt32.toNat), now.sendIn]
    split_ifs <;> simp [*]
  rw [framesRaised_append, counted, List.length_append, List.length_singleton, framesIn_succ,
    framesRaised, List.countP_singleton]
  simp only [raises]

theorem framesAsked_eq {ticks : List Tick}
    (onTime : ∀ t tick, ticks[t]? = some tick → OnTime t tick) :
    framesAsked ticks = framesOut ticks.length := by
  refine onTime_induction (motive := fun ticks => framesAsked ticks = framesOut ticks.length) rfl
    ?_ onTime
  intro ticks tick now counted
  have asks : tick.sendOut.isSome = true ↔ asksFrame ticks.length := by
    rw [← Option.isSome_map (f := UInt32.toNat), now.sendOut]
    split_ifs <;> simp [*]
  rw [framesAsked_append, counted, List.length_append, List.length_singleton, framesOut_succ,
    framesAsked, List.countP_singleton]
  simp only [asks]

/-! ## Interrupts with nothing between them -/

theorem notRequest_tc2 (n : Nat) : ∀ event ∈ List.replicate n Event.tc2, ¬ event.IsRequest := by
  intro event member
  rw [List.eq_of_mem_replicate member]
  exact id

/-- While the timer runs, interrupts move the sampler and add their ticks, and nothing else. -/
theorem run_tc2 {s : Stream} (running : s.tc.running = true) (n : Nat) :
    ∃ obs, run step s (List.replicate n .tc2) =
      { s with smp := tc2Handler^[n] s.smp, trace := s.trace ++ obs } ∧
      (ticks obs).length = n := by
  induction n with
  | zero => exact ⟨[], by simp, rfl⟩
  | succ n inductionHypothesis =>
    obtain ⟨obs, reached, length⟩ := inductionHypothesis
    rw [List.replicate_succ', run_concat, reached, Function.iterate_succ_apply']
    refine ⟨obs ++ [.interrupt (tick { s with smp := tc2Handler^[n] s.smp })], ?_, ?_⟩
    · simp [step, tc2Interrupt, running, tick, Stream.fetch]
    · rw [ticks_append, List.length_append, length]
      rfl

/-- `send_in` is set once a frame has ended. -/
theorem sendIn_iterate {t n : Nat} {s : Sampler} (follows : Follows t s)
    (ended : framesIn t < framesIn (t + n)) : (tc2Handler^[n] s).sendIn = true := by
  induction n with
  | zero => exact absurd ended (Nat.lt_irrefl _)
  | succ n inductionHypothesis =>
    rw [Function.iterate_succ_apply', tc2Handler_sendIn, Bool.or_eq_true]
    by_cases earlier : framesIn t < framesIn (t + n)
    · exact .inl (inductionHypothesis earlier)
    · right
      rw [raisesSendIn_iff_endsFrame (follows_iterate_from follows n)]
      have last := framesIn_succ (t + n)
      by_contra notEnd
      rw [if_neg notEnd] at last
      rw [← Nat.add_assoc] at ended
      omega

/-- `send_out` is set once a frame has been asked for. -/
theorem sendOut_iterate {t n : Nat} {s : Sampler} (follows : Follows t s)
    (asked : framesOut t < framesOut (t + n)) : (tc2Handler^[n] s).sendOut = true := by
  induction n with
  | zero => exact absurd asked (Nat.lt_irrefl _)
  | succ n inductionHypothesis =>
    rw [Function.iterate_succ_apply', tc2Handler_sendOut, Bool.or_eq_true]
    by_cases earlier : framesOut t < framesOut (t + n)
    · exact .inl (inductionHypothesis earlier)
    · right
      rw [raisesSendOut_iff_asksFrame (follows_iterate_from follows n)]
      have last := framesOut_succ (t + n)
      by_contra notAsk
      rw [if_neg notAsk] at last
      rw [← Nat.add_assoc] at asked
      omega

end M1k
