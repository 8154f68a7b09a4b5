import M1k.Streaming.Directions

/-! # The packets of the host

The bytes of an OUT transfer land in the packet that is not being played, and the driver reports
how many have come in: a packet shorter than the endpoint's ends the transfer, with a part of the
buffer as it was. -/

namespace M1k

open Library Library.Runs Schedule

/-! ## What the host has sent -/

def payloadStep (payloads : List (List UInt8)) : Obs → List (List UInt8)
  | .epRun ep _ _ accepted => if ep = .bulkOut ∧ accepted = true then payloads ++ [[]] else payloads
  | .outByte value => payloads.modify (payloads.length - 1) (· ++ [value])
  | .request .. | .interrupt _ | .indexInRead | .completed _ => payloads

/-- The bytes received in each OUT transfer of a trace. -/
def payloads (trace : List Obs) : List (List UInt8) := trace.foldl payloadStep []

theorem payloads_concat (trace : List Obs) (o : Obs) :
    payloads (trace ++ [o]) = payloadStep (payloads trace) o := by
  simp [payloads]

theorem payloads_callObs (trace : List Obs) (completion : Option Completion) :
    payloads (trace ++ callObs completion) = payloads trace := by
  cases completion with
  | none => simp
  | some c => exact payloads_concat trace (.completed c)

/-- The packets and the endpoint hold what has been received: the driver has reported the length of
    each transfer it has ended, the last two stand in the packet buffers, each from the start of its
    own, and the channel is as far as the bytes are. -/
structure Filled (s : Stream) : Prop where
  count : (payloads s.trace).length = delivered .bulkOut s.trace + s.epOut.job.busy.toNat
  reported : ∀ (i : Nat) (payload : List UInt8), i < delivered .bulkOut s.trace →
    (payloads s.trace)[i]? = some payload → ∃ c : Completion, .completed c ∈ s.trace ∧
      c.status = .ok ∧ c.callback.ep = .bulkOut ∧ c.nbTransfered = payload.length
  memory : ∀ (i : Nat) (payload : List UInt8), (payloads s.trace)[i]? = some payload →
    (payloads s.trace).length ≤ i + 2 →
    ∀ (b : Nat) (value : UInt8), payload[b]? = some value → s.packetsOut (i % 2) b = value
  target : s.epOut.job.busy = true →
    s.epOut.job.buf = .packetsOut (delivered .bulkOut s.trace % 2) 0 ∧
      s.epOut.job.bufCnt = 1024 ∧ s.epOut.job.bufLoad = 1024 ∧ s.epOut.dmaCount ≤ 1024
  counter : s.epOut.job.busy = true → ∀ payload : List UInt8,
    (payloads s.trace)[delivered .bulkOut s.trace]? = some payload → payload.length = s.epOut.dmaCount
  channel : s.epOut.job.busy = false → s.epOut.dmaOn = false

/-- From `s` to `s'` what has been received stays received. -/
structure Fills (s s' : Stream) : Prop where
  filled : Filled s'
  delivered : delivered .bulkOut s.trace ≤ delivered .bulkOut s'.trace
  stable : ∀ i < M1k.delivered .bulkOut s.trace, (payloads s'.trace)[i]? = (payloads s.trace)[i]?

/-- A step that leaves the packets, the transfers and the channel alone. -/
theorem fills_still {s s' : Stream} (filled : Filled s) (prefixed : s.trace <+: s'.trace)
    (payloads : payloads s'.trace = payloads s.trace)
    (delivered : delivered .bulkOut s'.trace = delivered .bulkOut s.trace)
    (packetsOut : s'.packetsOut = s.packetsOut) (job : s'.epOut.job = s.epOut.job)
    (dmaOn : s'.epOut.dmaOn = s.epOut.dmaOn) (dmaCount : s'.epOut.dmaCount = s.epOut.dmaCount) :
    Fills s s' where
  filled := {
    count := by rw [payloads, delivered, job]; exact filled.count
    reported := by
      rw [payloads, delivered]
      intro i payload early found
      obtain ⟨c, member, report⟩ := filled.reported i payload early found
      exact ⟨c, prefixed.subset member, report⟩
    memory := by rw [payloads, packetsOut]; exact filled.memory
    target := by rw [delivered, job, dmaCount]; exact filled.target
    counter := by rw [payloads, delivered, job, dmaCount]; exact filled.counter
    channel := by rw [job, dmaOn]; exact filled.channel }
  delivered := by rw [delivered]
  stable := by rw [payloads]; exact fun _ _ => rfl

/-- A byte arrives: it is the next of the transfer under way, and goes where that one belongs. -/
theorem fills_outByte {s : Stream} (filled : Filled s) (value : UInt8) :
    Fills s (dmaOutByte value s) := by
  simp only [dmaOutByte]
  split_ifs with moves
  · simp only [Bool.and_eq_true, decide_eq_true_eq] at moves
    obtain ⟨⟨on, -⟩, room⟩ := moves
    -- the channel is on for a transfer only
    have busy : s.epOut.job.busy = true := by
      cases busy : s.epOut.job.busy with
      | true => rfl
      | false => rw [filled.channel busy] at on; simp at on
    obtain ⟨buf, bufCnt, bufLoad, -⟩ := filled.target busy
    have count : (payloads s.trace).length = delivered .bulkOut s.trace + 1 := by
      rw [filled.count, busy]; rfl
    have counter := filled.counter busy
    have grown : payloads (s.trace ++ [.outByte value]) =
        (payloads s.trace).modify (delivered .bulkOut s.trace) (· ++ [value]) := by
      rw [payloads_concat, payloadStep, count]; rfl
    have same : delivered .bulkOut (s.trace ++ [.outByte value]) = delivered .bulkOut s.trace := by
      rw [delivered_append]; rfl
    have earlier (i : Nat) (other : i ≠ delivered .bulkOut s.trace) :
        (payloads (s.trace ++ [.outByte value]))[i]? = (payloads s.trace)[i]? := by
      rw [grown, List.getElem?_modify_ne _ _ other.symm]
    -- the byte is the next of the last payload
    have last (payload : List UInt8)
        (found : (payloads (s.trace ++ [.outByte value]))[delivered .bulkOut s.trace]? = some payload) :
        ∃ before, (payloads s.trace)[delivered .bulkOut s.trace]? = some before ∧
          before.length = s.epOut.dmaCount ∧ payload = before ++ [value] := by
      rw [grown, List.getElem?_modify_eq] at found
      obtain ⟨before, at_d, appended⟩ := Option.map_eq_some_iff.mp found
      exact ⟨before, at_d, counter before at_d, appended.symm⟩
    simp only [buf]
    refine ⟨?_, same.ge, fun i early => earlier i (by omega)⟩
    exact {
      count := by rw [grown, same, List.length_modify, count, busy]; rfl
      reported := by
        intro i payload early found
        rw [same] at early
        rw [earlier i (by omega)] at found
        obtain ⟨c, member, report⟩ := filled.reported i payload early found
        exact ⟨c, List.mem_append_left _ member, report⟩
      memory := by
        intro i payload found recent b byte at_b
        rw [grown, List.length_modify] at recent
        by_cases isLast : i = delivered .bulkOut s.trace
        · rw [isLast] at found recent ⊢
          obtain ⟨before, at_d, length, appended⟩ := last payload found
          rw [appended, List.getElem?_append] at at_b
          simp only [bufCnt, bufLoad, true_and]
          split_ifs at at_b with old
          · rw [if_neg (by omega)]
            exact filled.memory _ before at_d recent b byte at_b
          · obtain ⟨bound, isValue⟩ := List.getElem?_eq_some_iff.mp at_b
            simp only [List.length_singleton] at bound
            rw [if_pos (by omega), ← isValue, List.getElem_singleton]
        · -- the transfer before the last stands in the other packet
          rw [earlier i isLast] at found
          have bound := (List.getElem?_eq_some_iff.mp found).1
          show (if i % 2 = delivered .bulkOut s.trace % 2 ∧ _ then value else _) = byte
          rw [if_neg (by omega)]
          exact filled.memory i payload found recent b byte at_b
      target := by rw [same]; exact fun _ => ⟨buf, bufCnt, bufLoad, Nat.succ_le_of_lt (bufLoad ▸ room)⟩
      counter := by
        intro _ payload found
        rw [same] at found
        obtain ⟨before, -, length, appended⟩ := last payload found
        rw [appended, List.length_append, length]
        rfl
      channel := fun idle => absurd idle (by simp [busy]) }
  · exact fills_still filled (List.prefix_refl _) rfl rfl rfl rfl rfl rfl

/-- The channel stops, and the driver reports the bytes that have come in. -/
theorem fills_outDone {s : Stream} (wired : Wired s) (filled : Filled s) :
    Fills s (step s .outDone) := by
  simp only [step, onEp_bulkOut, callBack_eq]
  by_cases on : (s.epOut.dmaOn && s.epOut.enabled) = true
  · have dmaOn : s.epOut.dmaOn = true := by simp only [Bool.and_eq_true] at on; exact on.1
    have busy : s.epOut.job.busy = true := by
      cases busy : s.epOut.job.busy with
      | true => rfl
      | false => rw [filled.channel busy] at dmaOn; simp at dmaOn
    obtain ⟨callback, registered, owns⟩ := wired.soundOut.owned busy
    obtain ⟨buf, bufCnt, bufLoad, atMost⟩ := filled.target busy
    have result : dmaOutDone s.epOut = ({ s.epOut with
        dmaOn := false
        job := { s.epOut.job with busy := false, bufCnt := s.epOut.moved, bufSize := s.epOut.moved } },
        some ⟨callback, .ok, s.epOut.moved⟩) := by
      rw [dmaOutDone, if_pos on, uddEpDmaInterrupt_sound wired.soundOut false dmaOn, if_pos busy,
        registered]
      rfl
    rw [result]
    -- the driver counts back from the end of the buffer to where the channel stopped
    have moved : s.epOut.moved = s.epOut.dmaCount := by
      rw [Endpoint.moved, bufCnt, bufLoad]
      omega
    have count : (payloads s.trace).length = delivered .bulkOut s.trace + 1 := by
      rw [filled.count, busy]; rfl
    have same (completion : Option Completion) :
        payloads (s.trace ++ callObs completion) = payloads s.trace := payloads_callObs _ _
    have one : delivered .bulkOut (s.trace ++ callObs (some ⟨callback, .ok, s.epOut.moved⟩)) =
        delivered .bulkOut s.trace + 1 := by
      rw [delivered_append, delivered_callObs]
      simp [clears, owns.ep]
    refine ⟨?_, by rw [one]; omega, fun i _ => by rw [same]⟩
    exact {
      count := by rw [same, one]; exact count
      reported := by
        intro i payload early found
        rw [one] at early
        rw [same] at found
        -- the transfer that ends now is the last; the others were reported before
        by_cases isLast : i = delivered .bulkOut s.trace
        · rw [isLast] at found
          refine ⟨⟨callback, .ok, s.epOut.moved⟩, by simp [callObs], rfl, owns.ep, ?_⟩
          rw [filled.counter busy payload found]
          exact moved
        · obtain ⟨c, member, report⟩ := filled.reported i payload (by omega) found
          exact ⟨c, List.mem_append_left _ member, report⟩
      memory := by rw [same]; exact filled.memory
      target := by simp
      counter := by simp
      channel := by simp }
  · have result : dmaOutDone s.epOut = (s.epOut, none) := if_neg on
    rw [result]
    exact fills_still filled (List.prefix_append _ _) (payloads_callObs _ _) (by simp) rfl rfl rfl rfl

/-- What a transfer begun with nothing under way changes in the record: an empty payload is added,
    and what is recent stays in the packets. -/
theorem Filled.begun {s s' : Stream} (filled : Filled s) (idle : s.epOut.job.busy = false)
    (packetsOut : s'.packetsOut = s.packetsOut)
    (grown : payloads s'.trace = payloads s.trace ++ [[]]) :
    (∀ i < delivered .bulkOut s.trace, (payloads s'.trace)[i]? = (payloads s.trace)[i]?) ∧
      (payloads s'.trace)[delivered .bulkOut s.trace]? = some [] ∧
      (payloads s'.trace).length = delivered .bulkOut s.trace + 1 ∧
      ∀ (i : Nat) (payload : List UInt8), (payloads s'.trace)[i]? = some payload →
        (payloads s'.trace).length ≤ i + 2 →
        ∀ (b : Nat) (value : UInt8), payload[b]? = some value → s'.packetsOut (i % 2) b = value := by
  have count : (payloads s.trace).length = delivered .bulkOut s.trace := by
    rw [filled.count, idle]; rfl
  have earlier (i : Nat) (early : i < delivered .bulkOut s.trace) :
      (payloads s'.trace)[i]? = (payloads s.trace)[i]? := by
    rw [grown, List.getElem?_append_left (by omega)]
  have last : (payloads s'.trace)[delivered .bulkOut s.trace]? = some [] := by
    rw [grown, ← count, List.getElem?_concat_length]
  have longer : (payloads s'.trace).length = delivered .bulkOut s.trace + 1 := by
    rw [grown, List.length_append, count]; rfl
  refine ⟨earlier, last, longer, ?_⟩
  intro i payload found recent b value at_b
  rw [packetsOut]
  by_cases early : i < delivered .bulkOut s.trace
  · rw [earlier i early] at found
    exact filled.memory i payload found (by omega) b value at_b
  · have bound := (List.getElem?_eq_some_iff.mp found).1
    have isLast : i = delivered .bulkOut s.trace := by omega
    rw [isLast, last] at found
    rw [← Option.some.inj found] at at_b
    simp at at_b

/-- The bytes of a new transfer go to the packet of the transfer before the last. -/
theorem fills_moving {s : Stream} (filled : Filled s) (idle : s.epOut.job.busy = false)
    (callback : Callback) {s' : Stream}
    (epOut : s'.epOut = s.epOut.moving (.packetsOut (delivered .bulkOut s.trace % 2) 0) 1024 callback)
    (packetsOut : s'.packetsOut = s.packetsOut) {buf : Ptr} {bufSize : Nat}
    (trace : s'.trace = s.trace ++ [.epRun .bulkOut buf bufSize true]) : Fills s s' := by
  have grown : payloads s'.trace = payloads s.trace ++ [[]] := by
    rw [trace, payloads_concat]; rfl
  have same : delivered .bulkOut s'.trace = delivered .bulkOut s.trace := by
    rw [trace, delivered_append]; rfl
  obtain ⟨earlier, last, longer, memory⟩ := filled.begun idle packetsOut grown
  refine ⟨?_, same.ge, earlier⟩
  exact {
    count := by rw [longer, same, epOut]; rfl
    reported := by
      intro i payload early found
      rw [same] at early
      rw [earlier i early] at found
      obtain ⟨c, member, report⟩ := filled.reported i payload early found
      exact ⟨c, by rw [trace]; exact List.mem_append_left _ member, report⟩
    memory := memory
    target := by rw [same, epOut]; exact fun _ => ⟨rfl, rfl, rfl, Nat.zero_le _⟩
    counter := by
      intro _ payload found
      rw [same, last] at found
      rw [← Option.some.inj found, epOut]
      rfl
    channel := by rw [epOut]; exact fun idle => absurd idle (by simp [Endpoint.moving]) }

/-- A new transfer that a waiting packet ends at once has brought nothing. -/
theorem fills_ended {s : Stream} (filled : Filled s) (idle : s.epOut.job.busy = false)
    {callback : Callback} (owner : callback.ep = .bulkOut) {s' : Stream} {ended : Ptr}
    (epOut : s'.epOut = s.epOut.ended ended callback) (packetsOut : s'.packetsOut = s.packetsOut)
    {buf : Ptr} {bufSize : Nat}
    (trace : s'.trace =
      s.trace ++ [.epRun .bulkOut buf bufSize true] ++ callObs (some ⟨callback, .ok, 0⟩)) :
    Fills s s' := by
  have grown : payloads s'.trace = payloads s.trace ++ [[]] := by
    rw [trace, payloads_callObs, payloads_concat]; rfl
  have one : delivered .bulkOut s'.trace = delivered .bulkOut s.trace + 1 := by
    rw [trace, delivered_append, delivered_append, delivered_callObs]
    simp [clears, owner]
  obtain ⟨earlier, last, longer, memory⟩ := filled.begun idle packetsOut grown
  refine ⟨?_, by rw [one]; omega, earlier⟩
  exact {
    count := by rw [longer, one, epOut]; rfl
    reported := by
      intro i payload early found
      rw [one] at early
      by_cases isLast : i = delivered .bulkOut s.trace
      · rw [isLast, last] at found
        rw [← Option.some.inj found]
        exact ⟨⟨callback, .ok, 0⟩, by simp [trace, callObs], rfl, owner, rfl⟩
      · rw [earlier i (by omega)] at found
        obtain ⟨c, member, report⟩ := filled.reported i payload (by omega) found
        exact ⟨c, by simp [trace, member], report⟩
    memory := memory
    target := by rw [epOut]; exact fun busy => absurd busy (by simp [Endpoint.ended])
    counter := by rw [epOut]; exact fun busy => absurd busy (by simp [Endpoint.ended])
    channel := by rw [epOut]; exact fun _ => filled.channel idle }

theorem fills_runOut {s : Stream} (filled : Filled s) {index : UInt32}
    (pc : s.pc = .runOut index) (next : index.toNat = delivered .bulkOut s.trace % 2) :
    Fills s (step s .loop) := by
  simp only [step, mainLoop, pc, udiVendorBulkRun_bulkOut]
  obtain ⟨-, run⟩ | ⟨-, idle, -, run⟩ | ⟨-, idle, -, run⟩ :=
    uddEpRun_cases false (.packetsOut index.toNat 0) .mainVendorBulkOutReceived s.epOut
      (by decide : 0 < 1024) (by decide)
  · rw [run]
    exact fills_still filled (List.prefix_append _ _) (payloads_concat _ _) (by simp [callBack]) rfl rfl rfl rfl
  · rw [run]
    exact fills_moving filled idle .mainVendorBulkOutReceived (by rw [← next]; rfl) rfl rfl
  · rw [run]
    exact fills_ended filled idle rfl rfl rfl (callBack_trace _ _)

theorem fills_loop {s : Stream} (wired : Wired s) (filled : Filled s)
    (next : ∀ index, s.pc = .runOut index → index.toNat = delivered .bulkOut s.trace % 2) :
    Fills s (step s .loop) := by
  cases pc : s.pc with
  | runOut index => exact fills_runOut filled pc (next index pc)
  | runIn index =>
    simp only [step, mainLoop, pc, udiVendorBulkRun_bulkIn]
    obtain ⟨-, run⟩ | ⟨-, -, -, run⟩ | ⟨-, -, ended, -⟩ :=
      uddEpRun_cases true (.packetsIn index.toNat 0) .mainVendorBulkInReceived s.epIn
        (by decide : 0 < 2048) (by decide)
    · rw [run]
      exact fills_still filled (List.prefix_append _ _) (payloads_concat _ _) (by simp [callBack]) rfl rfl rfl rfl
    · rw [run]
      exact fills_still filled (List.prefix_append _ _) (payloads_concat _ _) (by simp [callBack]) rfl rfl rfl rfl
    · rw [wired.endTrStIn] at ended; simp at ended
  | readIndexIn =>
    simp only [step, mainLoop, pc]
    exact fills_still filled (List.prefix_append _ _) (payloads_concat _ _) (by simp) rfl rfl rfl rfl
  | _ =>
    simp only [step, mainLoop, pc]
    exact fills_still filled (List.prefix_refl _) rfl rfl rfl rfl rfl rfl

theorem fills_step {s : Stream} (wired : Wired s) (filled : Filled s) {event : Event}
    (streams : event.Streams)
    (next : ∀ index, s.pc = .runOut index → index.toNat = delivered .bulkOut s.trace % 2) :
    Fills s (step s event) := by
  cases event with
  | loop => exact fills_loop wired filled next
  | outByte value => exact fills_outByte filled value
  | outDone => exact fills_outDone wired filled
  | tc2 =>
    simp only [step, tc2Interrupt]
    split_ifs
    · exact fills_still filled (List.prefix_refl _) rfl rfl rfl rfl rfl rfl
    · exact fills_still filled (List.prefix_append _ _) (payloads_concat _ _) (by simp) rfl rfl rfl rfl
  | sof fnum =>
    simp only [step, mainSofAction]
    split_ifs
    · exact fills_still filled (List.prefix_refl _) rfl rfl rfl rfl rfl rfl
    · exact fills_still filled (List.prefix_refl _) rfl rfl rfl rfl rfl rfl
  | inDone =>
    have other : clears .bulkOut (dmaInDone s.epIn).2 = false :=
      clears_other (by simp) fun c called => ((ending_inDone wired.soundIn).call c called).2.2
    simp only [step, onEp_bulkIn, callBack_eq]
    exact fills_still filled (List.prefix_append _ _) (payloads_callObs _ _)
      (by simp [delivered_callObs, other]) rfl rfl rfl rfl
  | outEndTr =>
    simp only [step, outEndTr]
    split_ifs
    · exact fills_still filled (List.prefix_refl _) rfl rfl rfl rfl rfl rfl
    · exact fills_still filled (List.prefix_refl _) rfl rfl rfl rfl rfl rfl
  | _ => exact absurd streams id

/-- A session begins with one transfer, that has brought nothing, or with none. -/
theorem payloads_startSession {wValue : UInt16} (start : 1 ≤ wValue) (wIndex : UInt16) (s : Stream) :
    payloads (startSession wValue wIndex s).trace =
      if (firstRun s.epOut).1 = true then [[]] else [] := by
  rw [startSession_trace start, payloads_callObs, payloads_concat, payloads_callObs, payloads_callObs]
  simp [payloads, payloadStep]

/-- A session begins with the first transfer under way, refused, or ended by a packet that waited. -/
theorem filled_start {wValue : UInt16} (start : 1 ≤ wValue) (wIndex : UInt16) (s : Stream) :
    Filled (startSession wValue wIndex s) := by
  have none := payloads_startSession start wIndex s
  have empty (i : Nat) (payload : List UInt8)
      (found : (payloads (startSession wValue wIndex s).trace)[i]? = some payload) : payload = [] := by
    have member := List.mem_of_getElem? found
    rw [none] at member
    split_ifs at member
    · exact List.mem_singleton.mp member
    · exact absurd member List.not_mem_nil
  have memory (i : Nat) (payload : List UInt8)
      (found : (payloads (startSession wValue wIndex s).trace)[i]? = some payload)
      (_ : (payloads (startSession wValue wIndex s).trace).length ≤ i + 2) (b : Nat) (value : UInt8)
      (at_b : payload[b]? = some value) :
      (startSession wValue wIndex s).packetsOut (i % 2) b = value := by
    rw [empty i payload found] at at_b
    simp at at_b
  have delivered := delivered_startSession start wIndex (s := s) .bulkOut
  have epOut : (startSession wValue wIndex s).epOut = (firstRun s.epOut).2.1 := by
    rw [startSession, configureSampling_start start]
  rcases firstRun_cases s.epOut with run | run | run
  · -- refused
    rw [run] at none delivered epOut
    rw [uddEpAbort_fst] at epOut
    constructor <;> simp [none, delivered, epOut]
  · rw [run] at none delivered epOut
    have noneYet : M1k.delivered .bulkOut (startSession wValue wIndex s).trace = 0 := delivered
    exact {
      count := by rw [none, noneYet, epOut]; rfl
      reported := fun i payload early => absurd early (by omega)
      memory := memory
      target := by rw [noneYet, epOut]; exact fun _ => ⟨rfl, rfl, rfl, Nat.zero_le _⟩
      counter := fun _ payload found => by rw [empty _ payload found, epOut]; rfl
      channel := by rw [epOut]; exact fun idle => absurd idle (by simp [Endpoint.moving]) }
  · rw [run] at none delivered epOut
    have one : M1k.delivered .bulkOut (startSession wValue wIndex s).trace = 1 := delivered
    exact {
      count := by rw [none, one, epOut]; rfl
      reported := by
        intro i payload _ found
        rw [empty i payload found]
        refine ⟨⟨.mainVendorBulkOutReceivedFirst, .ok, 0⟩, ?_, rfl, rfl, rfl⟩
        rw [startSession_trace start, run]
        simp [callObs]
      memory := memory
      target := by rw [epOut]; exact fun busy => absurd busy (by simp [Endpoint.ended])
      counter := by rw [epOut]; exact fun busy => absurd busy (by simp [Endpoint.ended])
      channel := by rw [epOut]; exact fun _ => by simp [Endpoint.ended, uddEpAbort_fst] }

end M1k
