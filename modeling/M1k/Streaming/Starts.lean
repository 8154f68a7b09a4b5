import M1k.Streaming.Session
import M1k.Streaming.TimerSession

/-! # What starts sampling

The sampling requests of a run are those that its trace shows, and the timer is only ever armed once
one of them has been a start. -/

namespace M1k

open Library.Runs

/-! ## The requests of a trace -/

def Obs.request? : Obs → Option (UInt16 × UInt16)
  | .request wValue wIndex => some (wValue, wIndex)
  | _ => none

/-- The values of the sampling requests of a trace -/
def sampled (trace : List Obs) : List (UInt16 × UInt16) := trace.filterMap Obs.request?

theorem sampled_append (first second : List Obs) :
    sampled (first ++ second) = sampled first ++ sampled second := List.filterMap_append

theorem sampled_callObs (completion : Option Completion) : sampled (callObs completion) = [] := by
  cases completion with
  | none => rfl
  | some completion => rfl

def Event.request? : Event → Option (UInt16 × UInt16)
  | .request wValue wIndex => some (wValue, wIndex)
  | _ => none

theorem sampled_loop (s : Stream) : sampled (mainLoop s).trace = sampled s.trace := by
  simp only [mainLoop]
  cases s.pc with
  | readIndexIn => simp [sampled, Obs.request?]
  | runIn index =>
    simp only [udiVendorBulkRun_bulkIn, callBack_eq, sampled_append, sampled_callObs, List.append_nil]
    exact List.append_nil _
  | runOut index =>
    simp only [udiVendorBulkRun_bulkOut, callBack_eq, sampled_append, sampled_callObs, List.append_nil]
    exact List.append_nil _
  | _ => rfl

theorem sampled_configure (wValue wIndex : UInt16) (s : Stream) :
    sampled (configureSampling wValue wIndex s).trace = sampled s.trace ++ [(wValue, wIndex)] := by
  by_cases stop : wValue < 1
  · rw [configureSampling_stop stop]
    exact sampled_append _ _
  · rw [configureSampling_start (UInt16.not_lt.mp stop)]
    simp only [sampled_append, sampled_callObs, List.append_nil]
    rfl

/-- Only a sampling request is observed as one. -/
theorem step_sampled (s : Stream) (event : Event) :
    sampled (step s event).trace = sampled s.trace ++ event.request?.toList := by
  by_cases isRequest : event.IsRequest
  · cases event with
    | request wValue wIndex => exact sampled_configure wValue wIndex s
    | _ => exact absurd isRequest id
  · have none : event.request? = none := by
      cases event with
      | request wValue wIndex => exact absurd trivial isRequest
      | _ => rfl
    rw [none, Option.toList_none, List.append_nil]
    by_cases isTc2 : event = .tc2
    · rw [isTc2, step, tc2Interrupt]
      split_ifs
      · rfl
      · rw [sampled_append]
        exact List.append_nil _
    · by_cases isLoop : event = .loop
      · rw [isLoop]
        exact sampled_loop s
      · obtain ⟨obs, trace, ofData⟩ := (background_step s isTc2 isLoop isRequest).trace
        have silent : sampled obs = [] := by
          rw [sampled, List.filterMap_eq_nil_iff]
          intro o member
          have data := ofData o member
          cases o with
          | request wValue wIndex => exact absurd data id
          | _ => rfl
        rw [trace, sampled_append, silent, List.append_nil]

theorem run_sampled (s : Stream) (events : List Event) :
    sampled (run step s events).trace = sampled s.trace ++ events.filterMap Event.request? := by
  induction events generalizing s with
  | nil => simp
  | cons event events inductionHypothesis =>
    rw [run_cons, inductionHypothesis, step_sampled, List.append_assoc]
    cases request : event.request? with
    | none => simp [request]
    | some r => simp [request]

/-! ## The timer -/

/-- The last request of a trace is one of its requests. -/
theorem session_sampled {trace : List Obs} {wValue : UInt16} {since : List Obs}
    (last : session trace = some (wValue, since)) : ∃ wIndex, (wValue, wIndex) ∈ sampled trace := by
  induction trace using List.reverseRecOn generalizing since with
  | nil => cases last
  | append_singleton trace o inductionHypothesis =>
    rw [session, List.foldl_append] at last
    rw [sampled_append]
    cases o with
    | request wValue' wIndex =>
      cases last
      exact ⟨wIndex, List.mem_append_right _ List.mem_cons_self⟩
    | _ =>
      obtain ⟨⟨value, earlier⟩, found, same⟩ := Option.map_eq_some_iff.mp last
      cases same
      obtain ⟨wIndex, member⟩ := inductionHypothesis found
      exact ⟨wIndex, List.mem_append_left _ member⟩

/-- The timer runs, waits for its frame, or waits for the first OUT transfer. -/
def Stream.Armed (s : Stream) : Prop :=
  s.tc.running = true ∨ s.startTimer = true ∨ s.epOut.FirstPending

/-- A start request has come. -/
def Started (trace : List Obs) : Prop := ∃ request ∈ sampled trace, 1 ≤ request.1

/-- Only a start request arms the timer. -/
theorem started_step {s : Stream} (wired : Wired s) (armed : s.Armed → Started s.trace)
    (event : Event) : (step s event).Armed → Started (step s event).trace := by
  by_cases started : Started s.trace
  · obtain ⟨request, member, start⟩ := started
    intro _
    refine ⟨request, ?_, start⟩
    rw [step_sampled]
    exact List.mem_append_left _ member
  · -- nothing is armed yet, so that what is armed now belongs to a session
    have still : ¬ s.Armed := fun now => started (armed now)
    have idle : s.tc.running = false := by
      cases running : s.tc.running with
      | false => rfl
      | true => exact absurd (.inl running) still
    have unset : s.startTimer = false := by
      cases startTimer : s.startTimer with
      | false => rfl
      | true => exact absurd (.inr (.inl startTimer)) still
    have unasked : ¬ s.epOut.FirstPending := fun first => still (.inr (.inr first))
    have inv : TimerInv s :=
      ⟨fun now => absurd (now.elim .inl fun start => .inr (.inl start)) still,
        fun first => absurd first unasked⟩
    have meets : MeetsTimer s event := by
      cases event with
      | request wValue wIndex =>
        refine ⟨unset, ?_⟩
        split_ifs
        · exact idle
        · exact unasked
      | _ => trivial
    have after := timer_step wired inv meets
    intro now
    have asked : Asked (step s event).trace := by
      obtain running | startTimer | first := now
      · obtain ⟨wValue, since, last, start, -⟩ := after.live (.inl running)
        exact ⟨wValue, since, last, start⟩
      · obtain ⟨wValue, since, last, start, -⟩ := after.live (.inr startTimer)
        exact ⟨wValue, since, last, start⟩
      · exact after.asked first
    obtain ⟨wValue, since, last, start⟩ := asked
    obtain ⟨wIndex, member⟩ := session_sampled last
    exact ⟨(wValue, wIndex), member, start⟩

end M1k
