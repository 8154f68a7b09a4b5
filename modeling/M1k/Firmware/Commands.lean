import M1k.Control.Stages
import M1k.Firmware.Containment
import M1k.Streaming.Starts

/-! # What requests have the firmware do

Every command belongs to one vendor request.  What the commands since power-up have asked for is
what the switches of the channels show, and what the sampling timer does. -/

namespace M1k

open Library Library.Runs
open Board (Disturbs switchPins)
open Control (CtrlStatus SetupPacket SetupReq Handling Command Core Device)

variable {σ : Type*}

/-- The vendor requests that give a command -/
def Control.Command.codes : Command → List Nat
  | .pioSetOutput .. => [0x03, 0x50, 0x51]
  | .pioSetInput .. => [0x91]
  | .twiMasterRead .. => [0x17]
  | .v1AdcConf _ => [0x20]
  | .i1AdcConf _ => [0x21]
  | .v2AdcConf _ => [0x22]
  | .i2AdcConf _ => [0x23]
  | .da _ => [0x24]
  | .db _ => [0x25]
  | .setMode .. => [0x53]
  | .writeAd5122 .. => [0x59]
  | .flashClearGpnvm _ | .reset => [0xBB]
  | .configHardware => [0xCC]
  | .sampling .. => [0xC5]

/-- What a sampling command asks for -/
def Control.Command.request? : Command → Option (UInt16 × UInt16)
  | .sampling wValue wIndex => some (wValue, wIndex)
  | _ => none

namespace Control

/-- The commands that handling a request has added are those of its code. -/
def Adds (h h' : Handling) : Prop :=
  ∃ added, h'.commands = h.commands ++ added ∧
    ∀ command ∈ added, h.ctrlreq.req.isVendor = true ∧ h.ctrlreq.req.bRequest.toNat ∈ command.codes

theorem adds_nothing {h h' : Handling} (same : h'.commands = h.commands) : Adds h h' :=
  ⟨[], by rw [same, List.append_nil], by simp⟩

@[simp] theorem answer_commands (h : Handling) (ptr : Pointer) (size : Nat) :
    (h.answer ptr size).commands = h.commands := by
  unfold Handling.answer
  split_ifs
  · rfl
  · rfl

theorem mainSetupHandle_adds {inputs : Inputs} {h h' : Handling}
    (accepted : mainSetupHandle inputs h = some h') : Adds h h' := by
  cases vendor : h.ctrlreq.req.isVendor with
  | false =>
    simp only [mainSetupHandle, vendor, Bool.false_eq_true, if_false] at accepted
    rw [← Option.some.inj accepted]
    exact adds_nothing (answer_commands _ _ _)
  | true =>
    have adds {added : List Command} (commands : h'.commands = h.commands ++ added)
        (known : ∀ command ∈ added, h.ctrlreq.req.bRequest.toNat ∈ command.codes) : Adds h h' :=
      ⟨added, commands, fun command member => ⟨vendor, known command member⟩⟩
    simp only [mainSetupHandle, vendor, if_true] at accepted
    split at accepted
    case h_23 _ code =>
      split_ifs at accepted
      rw [← Option.some.inj accepted]
      exact adds_nothing (answer_commands _ _ _)
    all_goals
      injection accepted with accepted
    case h_1 =>
      rw [← accepted]
      split_ifs
      all_goals exact adds_nothing (answer_commands _ _ _)
    case h_4 _ code =>
      rw [← accepted, setLeds]
      split_ifs
      · exact ⟨_, rfl, by simp [Command.codes, vendor, code]⟩
      · exact ⟨_, rfl, by simp [Command.codes, vendor, code]⟩
    case h_7 =>
      rw [← accepted]
      exact adds_nothing (answer_commands _ _ _)
    all_goals
      rename_i code
      rw [← accepted]
      first
      | exact adds_nothing rfl
      | exact ⟨_, answer_commands _ _ _, by simp [Command.codes, vendor, code]⟩
      | exact adds_nothing (answer_commands _ _ _)

theorem descriptor_commands {h h' : Handling} (accepted : descriptor h = some h') :
    h'.commands = h.commands := by
  simp only [descriptor] at accepted
  split at accepted
  · cases accepted; rfl
  · split_ifs at accepted; cases accepted; rfl
  · cases accepted; rfl
  · split_ifs at accepted; cases accepted; rfl
  · unfold udcReqStdDevGetStrDesc at accepted
    split at accepted
    · cases accepted; rfl
    · cases accepted; rfl
    · cases accepted; rfl
    · cases accepted; rfl
    · unfold msftStringHandle at accepted
      split_ifs at accepted
      cases accepted; rfl
  · cases accepted

/-- The core gives no commands. -/
theorem udcReqstd_commands {core : Core} {h h' : Handling} (accepted : udcReqstd core h = some h') :
    h'.commands = h.commands := by
  have reply {size : Nat} (accepted : replyOf size h = some h') : h'.commands = h.commands := by
    unfold replyOf at accepted
    split_ifs at accepted
    cases accepted; rfl
  unfold udcReqstd at accepted
  split_ifs at accepted
  · unfold udcReqstdIn at accepted
    split_ifs at accepted
    · split at accepted
      · exact reply accepted
      · obtain ⟨found, foundDescriptor, clipped⟩ := Option.map_eq_some_iff.mp accepted
        rw [← descriptor_commands foundDescriptor, ← clipped]
        split_ifs
        · rfl
        · rfl
      · exact reply accepted
      · cases accepted
    · split at accepted
      · unfold udcReqStdIfaceGetSetting at accepted
        split_ifs at accepted
        cases accepted; rfl
      · cases accepted
    · split at accepted
      · exact reply accepted
      · cases accepted
  · unfold udcReqstdOut udcReqStdDevSetFeature udcReqStdDevSetConfiguration
      udcReqStdIfaceSetSetting at accepted
    split_ifs at accepted <;> split at accepted <;> try split_ifs at accepted
    all_goals cases accepted <;> rfl

theorem udcDecode_adds {inputs : Inputs} {h h' : Handling} (accepted : udcDecode inputs h = some h') :
    Adds h h' := by
  unfold udcDecode at accepted
  simp only [udcDecodeOther_eq] at accepted
  split_ifs at accepted
  · split at accepted
    · rename_i found core
      rw [← Option.some.inj accepted]
      exact adds_nothing (udcReqstd_commands core)
    · exact mainSetupHandle_adds accepted
  · exact mainSetupHandle_adds accepted

end Control

namespace Firmware

variable (efc : Control.Efc σ)

/-- Every command is one of a vendor request that has the code for it. -/
theorem taken_codes {status : CtrlStatus} {answers : Answers} {f : Firmware σ} {command : Command}
    (member : command ∈ taken efc status answers f) :
    ∃ packet, setupOf status = some packet ∧ packet.req.isVendor = true ∧
      packet.req.bRequest.toNat ∈ command.codes := by
  rw [taken] at member
  cases setup : setupOf status with
  | none =>
    rw [setup] at member
    cases member
  | some packet =>
    rw [setup] at member
    refine ⟨packet, rfl, ?_⟩
    simp only [decoded, Control.udcProcessSetup] at member
    split at member
    · rename_i h accepted
      obtain ⟨added, commands, known⟩ := Control.udcDecode_adds accepted
      rw [commands] at member
      exact known command (by simpa [Handling.clear] using member)
    · cases member

/-! ## The switches of the channels -/

/-- What the switches show after commands -/
structure SwitchesFollow (f : Firmware σ) : Prop where
  modes : f.lines.modes = f.issued.foldl Board.modeAfter fun _ => .disabled
  shows : ∀ chan, (∀ command ∈ f.issued, Disturbs chan command = false) → f.lines.Shows chan

theorem switches_boot (letter stack : UInt8) (before : Board.Pin → Board.PinState) :
    (Board.Lines.boot letter stack before).modes = (fun _ => .disabled) ∧
      ∀ chan, (Board.Lines.boot letter stack before).Shows chan :=
  ⟨funext fun chan => Board.boot_modes letter stack before chan,
    fun chan => Board.boot_shows letter stack before chan⟩

/-- Commands keep what the switches show. -/
theorem performed_follow (stack : UInt8) (commands : List Command) (lines : Board.Lines) :
    let after := commands.foldl
      (fun lines command => lines.perform (Board.accesses stack command)) lines
    after.modes = commands.foldl Board.modeAfter lines.modes ∧
      ∀ chan, lines.Shows chan → (∀ command ∈ commands, Disturbs chan command = false) →
        after.Shows chan := by
  induction commands generalizing lines with
  | nil => exact ⟨rfl, fun chan shows _ => shows⟩
  | cons command commands inductionHypothesis =>
    obtain ⟨modes, keep⟩ := inductionHypothesis (lines.perform (Board.accesses stack command))
    refine ⟨?_, ?_⟩
    · rw [List.foldl_cons, modes, Board.command_modes]
      rfl
    · intro chan shows undisturbed
      have now := Board.command_shows shows stack (undisturbed command List.mem_cons_self)
      exact keep chan now fun later member => undisturbed later (List.mem_cons_of_mem _ member)

theorem Stepped.follow {f f' : Firmware σ} {event : Event} (stepped : Stepped efc f event f')
    (follow : f.rom = false → SwitchesFollow f) (running : f'.rom = false) : SwitchesFollow f' := by
  cases stepped with
  | nothing => exact follow running
  | control status answers hears =>
    have performs := control_performs efc status answers f
    obtain ⟨modes, shows⟩ := follow (performs.rom ▸ running)
    obtain ⟨modes', keep⟩ := performed_follow answers.stack (taken efc status answers f) f.lines
    refine ⟨?_, ?_⟩
    · rw [performs.lines, performs.issued, modes', List.foldl_append, modes]
    · intro chan undisturbed
      rw [performs.issued] at undisturbed
      rw [performs.lines]
      have before := shows chan fun command member =>
        undisturbed command (List.mem_append_left _ member)
      exact keep chan before fun command member =>
        undisturbed command (List.mem_append_right _ member)
  | busReset highSpeed hears => exact { follow running with }
  | peripheral event moves => exact { follow running with }
  | count powerUp running left => exact { follow running with }
  | startOver resets flash =>
    rename_i powerUp
    obtain ⟨modes, shows⟩ := switches_boot (if powerUp.pinHigh then 68 else 70) powerUp.stack
      powerUp.pins
    exact ⟨modes, fun chan _ => shows chan⟩
  | enterRom resets flash => cases running

theorem addressEvents_request (status : CtrlStatus) (d : Device σ) :
    (addressEvents status d).filterMap M1k.Event.request? = [] := by
  rw [addressEvents]
  split_ifs
  · rfl
  · rfl

theorem standardEvents_request (req : SetupReq) (junk : Status) (s : Stream) :
    (standardEvents req junk s).filterMap M1k.Event.request? = [] := by
  have testMode : (testModeEvents req s).filterMap M1k.Event.request? = [] := by
    rw [testModeEvents]
    split_ifs
    · rfl
    · rfl
  rw [standardEvents]
  split_ifs
  · rfl
  · split
    · exact testMode
    · rfl
    · rfl
  · split
    · rfl
    · rfl
  · split
    · rfl
    · rfl
    · rfl
  · rfl

theorem requestEvents_request (commands : List Command) :
    (requestEvents commands).filterMap M1k.Event.request? = commands.filterMap Command.request? := by
  rw [requestEvents, List.filterMap_filterMap]
  apply List.filterMap_congr
  intro command _
  cases command with
  | sampling wValue wIndex => rfl
  | _ => rfl

/-- The sampler has been asked what was commanded, and is armed only if that was a start. -/
structure SamplerFollows (f : Firmware σ) : Prop where
  coherent : Coherent f.stream
  sampled : M1k.sampled f.stream.trace = f.issued.filterMap Command.request?
  started : f.stream.Armed → Started f.stream.trace

theorem started_run {s : Stream} (wired : Wired s) (armed : s.Armed → Started s.trace)
    (events : List M1k.Event) :
    (run M1k.step s events).Armed → Started (run M1k.step s events).trace :=
  (always_of_events (P := fun s => Wired s ∧ (s.Armed → Started s.trace)) (C := fun _ => True)
    (fun _ event inv _ => ⟨wired_step inv.1 event, started_step inv.1 inv.2 event⟩)
    ⟨wired, armed⟩ fun _ _ => trivial).last.2

/-- The streams after events, with the commands that had the sampling requests among them -/
theorem SamplerFollows.run {f f' : Firmware σ} (follows : SamplerFollows f) {events : List M1k.Event}
    {commands : List Command} (stream : f'.stream = Runs.run M1k.step f.stream events)
    (issued : f'.issued = f.issued ++ commands)
    (asked : events.filterMap M1k.Event.request? = commands.filterMap Command.request?) :
    SamplerFollows f' where
  coherent := by
    rw [stream]
    exact refines_deviceState.invariant_run follows.coherent events
  sampled := by rw [stream, issued, run_sampled, follows.sampled, asked, List.filterMap_append]
  started := by
    rw [stream]
    exact started_run follows.coherent.wired follows.started events

/-- One event that asks nothing of the sampler -/
theorem SamplerFollows.event {f f' : Firmware σ} (follows : SamplerFollows f) {event : M1k.Event}
    (stream : f'.stream = M1k.step f.stream event) (issued : f'.issued = f.issued)
    (unasked : event.request? = none) : SamplerFollows f' := by
  have one : f'.stream = Runs.run M1k.step f.stream [event] := stream
  have none : f'.issued = f.issued ++ [] := by rw [issued, List.append_nil]
  exact follows.run one none (by simp [unasked])

theorem samplerFollows_boot {f : Firmware σ} (stream : f.stream = {}) (issued : f.issued = []) :
    SamplerFollows f where
  coherent := by rw [stream]; exact coherent_boot
  sampled := by rw [stream, issued]; rfl
  started := by
    rw [stream]
    intro armed
    exact absurd armed (by simp [Stream.Armed, Endpoint.FirstPending])

theorem Stepped.samplerFollows {f f' : Firmware σ} {event : Event} (stepped : Stepped efc f event f')
    (follows : SamplerFollows f) : SamplerFollows f' := by
  cases stepped with
  | nothing => exact follows
  | control status answers hears =>
    have performs := control_performs efc status answers f
    have stream := control_stream efc follows.coherent status answers
    rw [run_restartable_some] at stream
    apply follows.run stream performs.issued
    rw [List.filterMap_append, addressEvents_request, decodingEvents, taken, List.nil_append]
    cases setupOf status with
    | none => rfl
    | some packet => rw [List.filterMap_append, standardEvents_request, requestEvents_request, List.nil_append]
  | busReset highSpeed hears =>
    have stream : uddReset highSpeed f.stream = M1k.step f.stream (.busReset highSpeed) := rfl
    exact follows.event stream rfl rfl
  | peripheral event moves =>
    have unasked : event.request? = none := by
      cases event with
      | request wValue wIndex => simp [Firmware.moves, isPeripheral] at moves
      | _ => rfl
    exact follows.event rfl rfl unasked
  | count powerUp running left => exact { follows with }
  | startOver resets flash => exact samplerFollows_boot rfl rfl
  | enterRom resets flash => exact { follows with }

end Firmware

end M1k
