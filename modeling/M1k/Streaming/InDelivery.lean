import M1k.Streaming.Alignment
import M1k.Streaming.Directions

/-! # Delivery of the captured frames

A host that takes each frame before the next is raised gets every frame once and in order,
and no frame is torn: while it is under way, nothing of another frame is measured into its
packet. -/

namespace M1k

open Library Library.Runs Schedule

/-- The event belongs to streaming, and if it raises a frame, the host has taken all earlier ones. -/
def TimelyIn (s : Stream) (event : Event) : Prop :=
  event.Streams ∧ (event = .tc2 → s.tc.running = true → raisesSendIn s.smp = true →
    framesRaised (ticks s.trace) ≤ delivered .bulkIn s.trace)

instance (s : Stream) : DecidablePred (TimelyIn s) := fun _ => inferInstanceAs (Decidable (_ ∧ _))

/-- The driver takes one transfer for each frame raised, in order; at most the last is missing.
    While frame `j` is under way, the conversions that write its packet belong to frame `j`. -/
structure DeliversIn (s : Stream) : Prop where
  inOrder : transfers .bulkIn s.trace = (List.range (transfers .bulkIn s.trace).length).map (buffer .bulkIn)
  keepsUp : (transfers .bulkIn s.trace).length ≤ framesRaised (ticks s.trace) ∧
    framesRaised (ticks s.trace) ≤ (transfers .bulkIn s.trace).length + 1
  untorn : s.epIn.job.busy = true → ∀ (t : Nat) (tick : Tick) (word : Nat),
    (ticks s.trace).length = t + 1 → (ticks s.trace)[t]? = some tick →
    tick.Receives (((transfers .bulkIn s.trace).length - 1) % 2) word →
    frameIn t = some ((transfers .bulkIn s.trace).length - 1)

/-- Between the raising of frame `j` and the next, only frame `j` is measured into its packet. -/
theorem frameIn_of_packetIn {t j : Nat} (raised : framesIn (t + 1) = j + 1)
    (packet : packetIn t = j % 2) : frameIn t = some j := by
  simp only [framesIn] at raised
  simp only [packetIn, pair] at packet
  have late : ¬ t < 12 := by omega
  simp only [frameIn, pair, late, if_false, Option.some.injEq]
  split_ifs at packet <;> omega

theorem deliversIn_of_hands {s : Stream} {box : Mailbox} (inSession : InSession s)
    (inOrder : box.InOrder) (hands : Hands .bulkIn s box) : DeliversIn s := by
  have length : (transfers .bulkIn s.trace).length = box.sent.length := by
    rw [hands.sent, List.length_map]
  have posted : framesRaised (ticks s.trace) = box.posted := hands.posted
  constructor
  · rw [length, hands.sent, ← inOrder.sent_eq_range]
  · rw [length, posted]
    exact inOrder.sent_keeps_up
  · intro busy t tick word last found receives
    obtain ⟨sent, one, -, -⟩ := inOrder.underWay_last (hands.underWay.symm.trans busy)
    have raised := framesRaised_eq inSession.onTime
    rw [posted, last] at raised
    have packet := ((inSession.onTime t tick found).receives receives).1
    rw [length] at packet ⊢
    exact frameIn_of_packetIn (by omega) packet.symm

/-- In a session whose host is in time, the captured frames are delivered once and in order. -/
theorem in_delivery {wValue : UInt16} (start : 1 ≤ wValue) (wIndex : UInt16) (history : List Event)
    (outside : (run step {} history).pc.Stage .bulkIn .rest) {events : List Event}
    (timely : Throughout step TimelyIn (startSession wValue wIndex (run step {} history)) events) :
    Always step DeliversIn (startSession wValue wIndex (run step {} history)) events := by
  have invariant : Always step
      (fun s => Wired s ∧ InSession s ∧ ∃ box, Mailbox.InOrder box ∧ Hands .bulkIn s box)
      (startSession wValue wIndex (run step {} history)) events := by
    refine always_of_step ?_ ?_ timely
    · intro s event ⟨wired, inSession, box, inOrder, hands⟩ timely
      obtain ⟨box', moves, hands'⟩ :=
        hands_step wired inSession hands timely.1 timely.2 (fun isOut => absurd isOut (by simp))
      exact ⟨wired_step wired event, inSession_step inSession timely.1.notRequest, box',
        inOrder.moves moves, hands'⟩
    · exact ⟨wired_startSession (wired_run wired_boot history).last _ _,
        inSession_start start wIndex _, _, .idle 0, hands_start_bulkIn start wIndex outside⟩
  exact invariant.mono fun s ⟨_, inSession, box, inOrder, hands⟩ =>
    deliversIn_of_hands inSession inOrder hands

/-- One frame is raised, handed over and taken. -/
theorem in_delivery_first_frame :
    Always step DeliversIn (startSession 1000 0 (run step {} bringUp)) firstFrame :=
  in_delivery (by decide) 0 bringUp rfl (by decide +kernel)

end M1k
