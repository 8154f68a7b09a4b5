import M1k.Streaming.OutBanks

/-! # What an earlier session leaves in the banks

A start request aborts the OUT job and stops its channel, but the banks keep the packets that the
host has had acknowledged: the first transfer of the session begins with them.  With the banks empty,
and a host that waits for the request to be acknowledged, a session moves and plays only what
the host has sent since. -/

namespace M1k

open Library.Runs

namespace Link

/-- No further request, and no packet before the start request is acknowledged. -/
def HostWaits (l : Link) : LinkEvent → Prop
  | .hostOut _ => l.acknowledged = true
  | .stream event => ¬ event.IsRequest
  | .acknowledge | .dmaByte | .dmaEnd | .dmaFull => True

instance (l : Link) : DecidablePred (HostWaits l)
  | .hostOut _ => inferInstanceAs (Decidable (_ = true))
  | .stream (.request ..) => inferInstanceAs (Decidable (¬ True))
  | .stream .tc2 | .stream .loop | .stream (.sof _) | .stream (.outByte _) | .stream .outDone
  | .stream .outEndTr | .stream .inDone | .stream (.inBanks _) | .stream (.busReset _)
  | .stream (.setAddress _) | .stream (.setConfiguration ..) | .stream (.setInterface ..)
  | .stream (.setFeature ..) | .stream (.clearFeature ..) => inferInstanceAs (Decidable (¬ False))
  | .acknowledge | .dmaByte | .dmaEnd | .dmaFull => inferInstanceAs (Decidable True)

/-- The OUT transfers of the session have brought only what the host has sent since the request was
    acknowledged, in this order. -/
def TransfersIsolated (l : Link) : Prop :=
  List.Sublist (payloads l.stream.trace).flatten l.sent

/-- The words played in the session are of what the host has sent since. -/
def WordsIsolated (l : Link) : Prop :=
  ∀ (t : Nat) (tick : Tick), (ticks l.stream.trace)[t]? = some tick →
    List.Sublist [tick.dac.1, tick.dac.2] l.sent

/-- The host is in time: each packet arrives before the frame it feeds, each word before its
    interrupt. -/
def InTime (l : Link) (event : LinkEvent) : Prop :=
  ∀ inner ∈ l.seen event, TimelyOut l.stream inner ∧ Fed l.stream inner

instance (l : Link) (event : LinkEvent) : Decidable (InTime l event) := by
  unfold InTime
  infer_instance

/-- What has been moved and what is in the banks has been sent since. -/
def Conserved (l : Link) : Prop :=
  List.Sublist ((payloads l.stream.trace).flatten ++ l.held) l.sent

theorem Conserved.transfersIsolated {l : Link} (conserved : Conserved l) : TransfersIsolated l :=
  (List.sublist_append_left _ _).trans conserved

/-- The bytes of the channel come out of the banks. -/
theorem seen_byte {l : Link} {event : LinkEvent} {value : UInt8}
    (isSeen : .outByte value ∈ l.seen event) : event = .dmaByte := by
  cases event with
  | hostOut packet => simp [seen] at isSeen
  | acknowledge => simp [seen] at isSeen
  | dmaByte => rfl
  | dmaEnd =>
    rw [seen] at isSeen
    split_ifs at isSeen <;> simp at isSeen
  | dmaFull =>
    rw [seen] at isSeen
    split_ifs at isSeen <;> simp at isSeen
  | stream event =>
    rw [seen] at isSeen
    split_ifs at isSeen with channel
    · simp at isSeen
    · rw [Option.mem_some_iff.mp isSeen] at channel
      exact absurd rfl channel

theorem HostWaits.notRequest {l : Link} {event : LinkEvent} (waits : HostWaits l event) {inner : Event}
    (isSeen : inner ∈ l.seen event) : ¬ inner.IsRequest := by
  cases event with
  | hostOut packet => simp [seen] at isSeen
  | acknowledge => simp [seen] at isSeen
  | dmaByte =>
    obtain ⟨value, -, rfl⟩ := Option.map_eq_some_iff.mp isSeen
    exact id
  | dmaEnd =>
    rw [seen] at isSeen
    split_ifs at isSeen
    · rw [← Option.mem_some_iff.mp isSeen]
      exact id
    · rw [← Option.mem_some_iff.mp isSeen]
      exact id
    · simp at isSeen
  | dmaFull =>
    rw [seen] at isSeen
    split_ifs at isSeen
    · rw [← Option.mem_some_iff.mp isSeen]
      exact id
    · simp at isSeen
  | stream event =>
    rw [seen] at isSeen
    split_ifs at isSeen
    · simp at isSeen
    · rw [← Option.mem_some_iff.mp isSeen]
      exact waits

/-- The streaming machine takes a step that moves no byte out of the banks. -/
theorem Conserved.other {l : Link} (conserved : Conserved l) (wired : Wired l.stream)
    {event : LinkEvent} (waits : HostWaits l event)
    (notByte : ∀ value, .outByte value ∉ l.seen event)
    (held : List.Sublist (l.step event).held l.held) (sent : (l.step event).sent = l.sent) :
    Conserved (l.step event) := by
  have same : (payloads (l.step event).stream.trace).flatten = (payloads l.stream.trace).flatten := by
    rcases stream_step l event with still | ⟨inner, isSeen, moved⟩
    · rw [still]
    · obtain ⟨obs, trace, notBytes⟩ := trace_step wired (waits.notRequest isSeen)
        fun value isByte => notByte value (isByte ▸ isSeen)
      rw [moved, trace, flatten_payloads_append _ notBytes]
  rw [Conserved, same, sent]
  exact (held.append_left _).trans conserved

/-- A packet goes into the banks. -/
theorem conserved_hostOut {l : Link} (conserved : Conserved l) (packet : List UInt8)
    (waits : l.acknowledged = true) : Conserved (l.step (.hostOut packet)) := by
  have still : (l.step (.hostOut packet)).stream = l.stream := rfl
  by_cases accepted : l.accepts packet = true
  · have grown : (l.step (.hostOut packet)).held = l.held ++ packet := by
      simp [step, held, banksAfter, accepted]
    have sent : (l.step (.hostOut packet)).sent = l.sent ++ packet := by
      simp [step, sentAfter, accepted, waits]
    rw [Conserved, still, grown, sent, ← List.append_assoc]
    exact conserved.append (List.Sublist.refl packet)
  · have same : (l.step (.hostOut packet)).held = l.held := by
      simp [step, held, banksAfter, accepted]
    have sent : (l.step (.hostOut packet)).sent = l.sent := by simp [step, sentAfter, accepted]
    rw [Conserved, still, same, sent]
    exact conserved

/-- The next byte is the first that the banks hold, if the first of them holds any. -/
theorem held_of_nextByte {l : Link} {value : UInt8} (next : l.nextByte = some value) :
    l.held = value :: (l.step .dmaByte).held := by
  have present : l.nextByte.isSome = true := by rw [next]; rfl
  rw [held, held, show (l.step .dmaByte).banks = l.banksAfter .dmaByte from rfl, banksAfter,
    if_pos present]
  rw [nextByte] at next
  split_ifs at next
  match banks : l.banks with
  | [] => simp [banks] at next
  | ⟨[], short⟩ :: rest => simp [banks] at next
  | ⟨first :: bytes, short⟩ :: rest =>
    have isValue : first = value := by simpa [banks] using next
    rw [isValue]
    rfl

/-- A byte goes from the banks to the transfer under way. -/
theorem conserved_dmaByte {l : Link} (wired : Wired l.stream) (conserved : Conserved l) :
    Conserved (l.step .dmaByte) := by
  cases next : l.nextByte with
  | none =>
    have waits : HostWaits l .dmaByte := trivial
    apply conserved.other wired waits
    · simp [seen, next]
    · simp [held, step, banksAfter, next]
    · rfl
  | some value =>
    have moved : (l.step .dmaByte).stream = dmaOutByte value l.stream := by
      simp [step, seen, next, M1k.step]
    -- the byte goes to the last payload, or nowhere
    have brought : List.Sublist (payloads (dmaOutByte value l.stream).trace).flatten
        ((payloads l.stream.trace).flatten ++ [value]) := by
      simp only [dmaOutByte]
      split_ifs
      · cases l.stream.epOut.job.buf with
        | packetsOut packet word => exact flatten_payloads_byte _ value
        | _ => exact List.sublist_append_left _ _
      · exact List.sublist_append_left _ _
    have kept : List.Sublist (((payloads l.stream.trace).flatten ++ [value]) ++ (l.step .dmaByte).held)
        l.sent := by
      rw [List.append_assoc, List.singleton_append, ← held_of_nextByte next]
      exact conserved
    rw [Conserved, moved]
    exact (brought.append_right _).trans kept

theorem conserved_step {l : Link} (wired : Wired l.stream) (conserved : Conserved l)
    {event : LinkEvent} (waits : HostWaits l event) : Conserved (l.step event) := by
  have noByte (other : event ≠ .dmaByte) : ∀ value, .outByte value ∉ l.seen event :=
    fun value isSeen => other (seen_byte isSeen)
  cases event with
  | hostOut packet => exact conserved_hostOut conserved packet waits
  | acknowledge => exact conserved
  | dmaByte => exact conserved_dmaByte wired conserved
  | dmaEnd =>
    refine conserved.other wired waits (noByte (by simp)) ?_ rfl
    show List.Sublist ((l.banksAfter .dmaEnd).flatMap Bank.bytes) (l.banks.flatMap Bank.bytes)
    rw [banksAfter]
    split_ifs
    · -- the first bank is given back, with what is left in it
      cases l.banks with
      | nil => exact List.Sublist.refl _
      | cons bank banks => exact List.sublist_append_right _ _
    · exact List.Sublist.refl _
  | dmaFull => exact conserved.other wired waits (noByte (by simp)) (List.Sublist.refl _) rfl
  | stream event =>
    refine conserved.other wired waits (noByte (by simp)) ?_ rfl
    show List.Sublist ((l.banksAfter (.stream event)).flatMap Bank.bytes) (l.banks.flatMap Bank.bytes)
    rw [banksAfter]
    split_ifs
    · exact List.nil_sublist _
    · exact List.Sublist.refl _

/-! ## Words -/

/-- Two bytes side by side. -/
theorem pair_sublist {bytes : List UInt8} {b : Nat} {low high : UInt8}
    (at_b : bytes[b]? = some low) (next : bytes[b + 1]? = some high) :
    List.Sublist [low, high] bytes := by
  obtain ⟨bound, isLow⟩ := List.getElem?_eq_some_iff.mp at_b
  obtain ⟨inside, isHigh⟩ := List.getElem?_eq_some_iff.mp next
  have rest : bytes.drop b = low :: high :: bytes.drop (b + 2) := by
    rw [List.drop_eq_getElem_cons bound, List.drop_eq_getElem_cons inside, isLow, isHigh]
  have begins : List.Sublist [low, high] (bytes.drop b) := by
    rw [rest]
    exact List.sublist_append_left [low, high] _
  exact begins.trans (List.drop_sublist b bytes)

/-- A word that is played as it was sent is of what the transfers have brought. -/
theorem TransfersIsolated.words {l : Link} (isolated : TransfersIsolated l)
    (played : AllPlayed l.stream) : WordsIsolated l := by
  intro t tick found
  obtain ⟨-, payload, at_t, low, high⟩ := played t tick found
  have word := pair_sublist low high
  have whole : List.Sublist payload (payloads l.stream.trace).flatten :=
    List.sublist_flatten_of_mem (List.mem_of_getElem? at_t)
  exact (word.trans whole).trans isolated

/-- A step of a host that is in time. -/
theorem played_step {l : Link} (feeding : Feeding l.stream) (played : AllPlayed l.stream)
    {event : LinkEvent} (inTime : InTime l event) :
    Feeding (l.step event).stream ∧ AllPlayed (l.step event).stream := by
  rcases stream_step l event with same | ⟨inner, isSeen, moved⟩
  · rw [same]
    exact ⟨feeding, played⟩
  · obtain ⟨timely, fed⟩ := inTime inner isSeen
    rw [moved]
    exact ⟨(feeding_step feeding timely).1, (allPlayed_step feeding played timely).mpr fed⟩

/-- A session begins with nothing brought. -/
theorem conserved_start {wValue : UInt16} (start : 1 ≤ wValue) (wIndex : UInt16) {l : Link}
    (empty : l.held = []) : Conserved (l.startSession wValue wIndex) := by
  have nothing : (payloads (M1k.startSession wValue wIndex l.stream).trace).flatten = [] := by
    rw [payloads_startSession start]
    split_ifs <;> rfl
  have held : (l.startSession wValue wIndex).held = [] := empty
  show List.Sublist ((payloads (M1k.startSession wValue wIndex l.stream).trace).flatten ++ _) []
  rw [nothing, held]
  exact List.Sublist.refl []

/-- With nothing in the banks when the start request is handled and a host that waits until it is
    acknowledged, the transfers bring only what the host has sent since.  So do the words, if they
    arrive in time and the request finds neither the timer armed nor a hand-over of the main loop
    under way. -/
theorem out_isolated {wValue : UInt16} (start : 1 ≤ wValue) (wIndex : UInt16)
    (history : List LinkEvent) (empty : (run step {} history).held = []) {events : List LinkEvent}
    (waits : Throughout step HostWaits ((run step {} history).startSession wValue wIndex) events) :
    Always step TransfersIsolated ((run step {} history).startSession wValue wIndex) events ∧
      ((run step {} history).stream.tc.running = false →
        (run step {} history).stream.startTimer = false →
        (run step {} history).stream.pc.Stage .bulkOut .rest →
        Throughout step InTime ((run step {} history).startSession wValue wIndex) events →
          Always step WordsIsolated ((run step {} history).startSession wValue wIndex) events) := by
  have wired : Wired (run step {} history).stream :=
    always_stream (P := Wired) (l := {}) (fun _ event wired => wired_step wired event) wired_boot
      history
  have conserved : Always step (fun l => Wired l.stream ∧ Conserved l)
      ((run step {} history).startSession wValue wIndex) events := by
    refine always_of_step ?_ ⟨wired_startSession wired _ _, conserved_start start wIndex empty⟩ waits
    intro l event both waits
    exact ⟨always_stream (P := Wired) (fun _ event wired => wired_step wired event) both.1 [event],
      conserved_step both.1 both.2 waits⟩
  refine ⟨conserved.mono fun l both => both.2.transfersIsolated,
    fun stopped unarmed outside inTime => ?_⟩
  have played : Always step (fun l => Feeding l.stream ∧ AllPlayed l.stream)
      ((run step {} history).startSession wValue wIndex) events := by
    refine always_of_step (C := InTime) ?_ ⟨?_, ?_⟩ inTime
    · exact fun l event both now => played_step both.1 both.2 now
    · exact feeding_start start wIndex wired stopped unarmed outside
    · intro t tick found
      have quiet := ticks_startSession start wIndex (run step {} history).stream
      rw [show (ticks ((run step {} history).startSession wValue wIndex).stream.trace) = [] from quiet]
        at found
      simp at found
  intro done isPrefix
  exact (conserved done isPrefix).2.transfersIsolated.words (played done isPrefix).2

/-- The host brings the device up at high speed. -/
def linkUp : List LinkEvent := .stream (.busReset true) :: bringUp.map .stream

/-- A first packet of one word, and the interrupt that plays it. -/
def oneWord : List LinkEvent :=
  [.acknowledge, .hostOut [7, 9], .dmaByte, .dmaByte, .dmaEnd, .stream (.sof 5), .stream .tc2]

theorem out_isolated_one_word :
    Always step TransfersIsolated ((run step {} linkUp).startSession 1000 0) oneWord ∧
      Always step WordsIsolated ((run step {} linkUp).startSession 1000 0) oneWord := by
  have waits : Throughout step HostWaits ((run step {} linkUp).startSession 1000 0) oneWord := by
    decide +kernel
  have both := out_isolated (by decide) 0 linkUp (by decide +kernel) waits
  exact ⟨both.1, both.2 (by decide +kernel) (by decide +kernel) rfl (by decide +kernel)⟩

/-- Where a byte is left in the first bank, the first that the channel moves is not of the session. -/
theorem leftover_taken {wValue : UInt16} (start : 1 ≤ wValue) (wIndex : UInt16) {l : Link}
    (ready : l.stream.epOut.ready = true) (noZlp : l.stream.epOut.endTrSt = false) {value : UInt8}
    {bytes : List UInt8} {short : Bool} {banks : List Bank}
    (left : l.banks = ⟨value :: bytes, short⟩ :: banks) :
    payloads ((l.startSession wValue wIndex).step .dmaByte).stream.trace = [[value]] ∧
      ¬ TransfersIsolated ((l.startSession wValue wIndex).step .dmaByte) := by
  -- the endpoint takes the first transfer of the session
  have runs : firstRun l.stream.epOut = (true, (uddEpAbort false l.stream.epOut).1.moving
      (.packetsOut 0 0) 1024 .mainVendorBulkOutReceivedFirst, none) := by
    rcases uddEpRun_cases false (.packetsOut 0 0) .mainVendorBulkOutReceivedFirst
      (uddEpAbort false l.stream.epOut).1 (by decide : 0 < 1024) (by decide) with
      ⟨refuses, -⟩ | ⟨-, -, -, run⟩ | ⟨-, -, ended, -⟩
    · rw [uddEpAbort_fst] at refuses
      rcases refuses with notReady | busy
      · exact absurd (ready.symm.trans notReady) (by simp)
      · simp at busy
    · exact run
    · rw [uddEpAbort_fst] at ended
      exact absurd (noZlp.symm.trans ended) (by simp)
  have enabled : l.stream.epOut.enabled = true := by
    simp only [Endpoint.ready, Bool.and_eq_true] at ready
    exact ready.1.1
  have epOut : (l.startSession wValue wIndex).stream.epOut = (uddEpAbort false l.stream.epOut).1.moving
      (.packetsOut 0 0) 1024 .mainVendorBulkOutReceivedFirst := by
    rw [Link.startSession, M1k.startSession, configureSampling_start start]
    exact congrArg (·.2.1) runs
  have brought : payloads (l.startSession wValue wIndex).stream.trace = [[]] := by
    rw [Link.startSession, payloads_startSession start, runs, if_pos rfl]
  have moved : ((l.startSession wValue wIndex).step .dmaByte).stream =
      dmaOutByte value (l.startSession wValue wIndex).stream := by
    have held : (l.startSession wValue wIndex).banks = ⟨value :: bytes, short⟩ :: banks := left
    have moves : (l.startSession wValue wIndex).moves = true := by
      simp [Link.moves, epOut, Endpoint.moving, uddEpAbort_fst, enabled]
    simp [step, seen, nextByte, held, moves, M1k.step]
  have first : payloads ((l.startSession wValue wIndex).step .dmaByte).stream.trace = [[value]] := by
    rw [moved, dmaOutByte, epOut, if_pos (by simp [Endpoint.moving, uddEpAbort_fst, enabled])]
    show payloads ((l.startSession wValue wIndex).stream.trace ++ [.outByte value]) = [[value]]
    rw [payloads_concat, brought]
    rfl
  refine ⟨first, fun isolated => ?_⟩
  rw [TransfersIsolated, first] at isolated
  exact absurd (List.sublist_nil.mp isolated) (by simp)

/-- A session whose first transfer is empty, and which is stopped with a packet in the banks. -/
def stoppedWithPacket : List LinkEvent :=
  linkUp ++ [.stream (.request 1000 0), .acknowledge, .hostOut [], .dmaEnd, .stream (.sof 5),
    .hostOut [7, 9], .stream (.request 0 0), .acknowledge]

/-- The channel takes a word out of the first bank, and an interrupt plays it. -/
def noWord : List LinkEvent :=
  [.acknowledge, .dmaByte, .dmaByte, .dmaEnd, .stream (.sof 5), .stream .tc2]

/-- The next session plays the packet, though its host has sent nothing. -/
theorem leftover_played :
    (run step ((run step {} stoppedWithPacket).startSession 1000 0) noWord).sent = [] ∧
      (ticks (run step ((run step {} stoppedWithPacket).startSession 1000 0)
        noWord).stream.trace).map Tick.dac = [(7, 9)] ∧
      ¬ Always step TransfersIsolated ((run step {} stoppedWithPacket).startSession 1000 0) noWord := by
  refine ⟨by decide +kernel, by decide +kernel, fun isolated => ?_⟩
  have nothing := isolated.last
  rw [TransfersIsolated] at nothing
  exact absurd nothing (by decide +kernel)

end Link

end M1k
