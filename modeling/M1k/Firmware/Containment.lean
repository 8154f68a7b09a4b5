import M1k.Control.Containment
import M1k.Firmware.Refinement

/-! # Events that the model can follow

A write beyond its array lands in other variables or on the stack; a test mode takes the port over; and
a halt of an endpoint that has no job is written beside `udd_ep_job`.  What the chip does then is no
part of the model: the machine of this module goes on with whatever `beyond` says.  It is the firmware
as long as every request keeps to what it is for. -/

namespace M1k

open Library Library.Runs
open Control (CtrlStatus SetupReq)

variable {σ : Type*}

namespace Control.SetupReq

/-- SET_FEATURE(TEST_MODE), for a mode that `udc_req_std_dev_set_feature` knows -/
def entersTestMode (r : SetupReq) : Bool :=
  !r.isIn && r.setupType == 0 && r.recipient == 0 && r.bRequest == 3 && r.wLength == 0 &&
    r.wValue == 2 && r.wIndex &&& 0xFF == 0 && decide (1 ≤ (r.wIndex >>> 8).toNat) &&
    decide ((r.wIndex >>> 8).toNat ≤ 4)

/-- SET_FEATURE or CLEAR_FEATURE(ENDPOINT_HALT) of an endpoint without an entry in `udd_ep_job`.  Above
    the highest number `udd_ep_clear_halt` refuses before it looks there. -/
def haltsOther (r : SetupReq) : Bool :=
  !r.isIn && r.setupType == 0 && r.recipient == 2 && r.wLength == 0 && r.wValue == 0 &&
    (EpId.ofAddress r.wIndex).isNone &&
    (r.bRequest == 3 || r.bRequest == 1 && r.wIndex &&& 0x0F == 0)

/-- The request keeps to the arrays, the modes and the endpoints that it is for. -/
def keeps (r : SetupReq) : Bool := decide r.Contained && !r.entersTestMode && !r.haltsOther

end Control.SetupReq

namespace Firmware

variable (efc : Control.Efc σ) (beyond : Firmware σ → Event → Firmware σ)

/-- The request that the event brings, if any, keeps to what it is for. -/
def Event.keeps : Event → Bool
  | .control status _ => (setupOf status).all fun packet => packet.req.keeps
  | .busReset _ | .peripheral _ | .tick _ | .powerCycle _ => true

/-- The model says what the event does. -/
def foresees (f : Firmware σ) : Event → Bool
  | .control status answers =>
    !f.hears ||
      (Control.written efc (informedStatus status answers (validAddress status f.ctrl f.stream))
        f.ctrl).all Control.fits &&
      (setupOf status).all fun packet =>
        !(packet.req.entersTestMode && f.stream.highSpeed) && !packet.req.haltsOther
  | .busReset _ | .peripheral _ | .tick _ | .powerCycle _ => true

/-- One event of the chip: `step`, as far as the model goes -/
def stepOr (f : Firmware σ) (event : Event) : Firmware σ :=
  if foresees efc f event then step efc f event else beyond f event

/-- What a write beyond its array may do: `reset` is one of the variables in the RAM. -/
def overrun (f : Firmware σ) (_ : Event) : Firmware σ := { f with reset := true }

/-! ## Requests that keep to what they are for -/

theorem contained_of_keeps {status : CtrlStatus} {answers : Answers} (s : Stream)
    (keeps : Event.keeps (.control status answers) = true) :
    (informedStatus status answers s).Contained := by
  intro packet setup whole
  obtain ⟨asked, found, rfl⟩ := Option.map_eq_some_iff.mp setup
  have kept : setupOf status = some asked := by
    have byteCount : asked.byteCount = 8 := whole
    simp [setupOf, found, byteCount]
  rw [Event.keeps, kept] at keeps
  simp only [Option.all_some, SetupReq.keeps, Bool.and_eq_true, decide_eq_true_eq] at keeps
  exact keeps.1.1

/-- The room for the data stage lasts, and the event is foreseen. -/
theorem step_room {f : Firmware σ} (room : Control.Room f.ctrl) {event : Event}
    (keeps : event.keeps = true) :
    Control.Room (step efc f event).ctrl ∧ foresees efc f event = true := by
  rw [step_ctrl]
  have restarted (powerUp : PowerUp) : Control.Room
      (Control.step efc f.ctrl (.reboot powerUp.pinHigh)) :=
    Control.room_of_state (fun data => Control.EpState.noConfusion data)
  cases event with
  | control status answers =>
    obtain ⟨next, fits⟩ := room.interrupt efc
      (contained_of_keeps (validAddress status f.ctrl f.stream) keeps)
    constructor
    · rw [controlEvents]
      split_ifs
      · exact next
      · exact room
    · have others : ((setupOf status).all fun packet =>
          !(packet.req.entersTestMode && f.stream.highSpeed) && !packet.req.haltsOther) = true := by
        rw [Event.keeps] at keeps
        cases setup : setupOf status with
        | none => rfl
        | some packet =>
          rw [setup] at keeps
          simp only [Option.all_some, SetupReq.keeps, Bool.and_eq_true, Bool.not_eq_true'] at keeps
          simp [keeps.1.2, keeps.2]
      rw [foresees, fits, others, Bool.and_self, Bool.or_true]
  | busReset highSpeed =>
    refine ⟨?_, rfl⟩
    rw [controlEvents]
    split_ifs
    · exact Control.room_of_state (fun data => Control.EpState.noConfusion data)
    · exact room
  | peripheral event => exact ⟨room, rfl⟩
  | tick powerUp =>
    refine ⟨?_, rfl⟩
    rw [controlEvents]
    split_ifs
    · exact restarted powerUp
    · exact room
  | powerCycle powerUp =>
    refine ⟨?_, rfl⟩
    rw [controlEvents]
    split_ifs
    · exact restarted powerUp
    · exact room

/-- Along requests that keep to what they are for, the chip is the firmware, whatever would happen
    beyond. -/
theorem stepOr_agrees (powerUp : PowerUp) (chip : σ) {events : List Event}
    (keeps : ∀ event ∈ events, event.keeps = true) :
    Throughout (step efc) (fun f event => stepOr efc beyond f event = step efc f event)
      (boot efc powerUp chip) events := by
  have start : Control.Room (boot efc powerUp chip).ctrl := Control.room_boot efc powerUp.pinHigh chip
  have rooms : Always (step efc) (fun f => Control.Room f.ctrl) (boot efc powerUp chip) events :=
    always_of_events (fun _ _ room kept => (step_room efc room kept).1) start keeps
  intro done event isPrefix
  have room := rooms done ((List.prefix_append done [event]).trans isPrefix)
  have foreseen := (step_room efc room (keeps event (isPrefix.subset (by simp)))).2
  rw [stepOr, foreseen, if_pos rfl]

/-! ## The parts -/

end Firmware

end M1k
