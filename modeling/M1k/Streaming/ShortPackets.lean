import M1k.Streaming.OutDelivery

/-! # Short packets

The driver ends an OUT transfer at the first packet shorter than the endpoint's and reports how much
it has brought.  The callbacks take no notice: the buffer is played to its end, with what an earlier
transfer has left in the rest of it. -/

namespace M1k

open Library.Runs Schedule

/-- In a session whose host is in time, whatever the lengths of its packets, the words of each frame
    come out of the transfer of that frame exactly if each has arrived when its interrupt comes. -/
theorem words_received_iff {wValue : UInt16} (start : 1 ≤ wValue) (wIndex : UInt16)
    (history : List Event) (stopped : (run step {} history).tc.running = false)
    (unarmed : (run step {} history).startTimer = false)
    (outside : (run step {} history).pc.Stage .bulkOut .rest) {events : List Event}
    (timely : Throughout step TimelyOut (startSession wValue wIndex (run step {} history)) events) :
    Always step AllPlayed (startSession wValue wIndex (run step {} history)) events ↔
      Throughout step Fed (startSession wValue wIndex (run step {} history)) events := by
  have wired : Wired (run step {} history) := (wired_run wired_boot history).last
  have feeding := feeding_start start wIndex wired stopped unarmed outside
  exact allPlayed_iff_fed feeding (ticks_startSession start wIndex _) timely

/-- Two whole packets, played past the end of the first frame. -/
theorem words_received_two_packets :
    Always step AllPlayed (startSession 1000 0 (run step {} bringUp))
      (twoPackets ++ List.replicate 260 .tc2) :=
  (words_received_iff (by decide) 0 bringUp (by decide) (by decide) rfl timely_twoPackets).mpr
    (fed_of_whole (feeding_start (by decide) 0 (wired_run wired_boot bringUp).last (by decide) (by decide) rfl)
      whole_twoPackets timely_twoPackets)

/-- A session whose first packet is one word, stopped after it has begun to play. -/
def oneWordSession : List Event :=
  bringUp ++ [.request 1000 0, .outByte 7, .outByte 9, .outDone, .sof 5, .request 0 0]

/-- The next session begins with a packet of no bytes, and plays the word of the session before. -/
theorem stale_word_played :
    Throughout step TimelyOut (startSession 1000 0 (run step {} oneWordSession))
        [.outDone, .sof 5, .tc2] ∧
      (ticks (run step (startSession 1000 0 (run step {} oneWordSession))
        [.outDone, .sof 5, .tc2]).trace).map Tick.dac = [(7, 9)] ∧
      ¬ Always step AllPlayed (startSession 1000 0 (run step {} oneWordSession))
        [.outDone, .sof 5, .tc2] := by
  refine ⟨by decide +kernel, by decide +kernel, fun all => ?_⟩
  have one : 0 < (ticks (run step (startSession 1000 0 (run step {} oneWordSession))
      [.outDone, .sof 5, .tc2]).trace).length := by decide +kernel
  obtain ⟨-, payload, received, low, -⟩ := all.last 0 _ (List.getElem?_eq_getElem one)
  have nothing : payload = [] := by
    have found : some [] = some payload := received
    exact (Option.some.inj found).symm
  rw [nothing] at low
  simp at low

end M1k
