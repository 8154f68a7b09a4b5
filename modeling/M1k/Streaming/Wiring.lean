import M1k.Streaming.Effects

/-! # The endpoints stay wired to the configuration

`Wired` ties the two endpoints to the configuration the host has chosen: only setting 1 of a
configured device has them enabled, and a registered job is one that can end.  It holds of the
device after power-up and every event keeps it.  `Quiet` says how little the requests of the
host touch: at most they end a job with an abort. -/

namespace M1k

structure Wired (s : Stream) : Prop where
  setting : s.udiVendorAlternateSetting < 2
  enabledIn : s.epIn.enabled = true → s.udcNumConfiguration ≠ 0 ∧ s.udiVendorAlternateSetting = 1
  enabledOut : s.epOut.enabled = true → s.udcNumConfiguration ≠ 0 ∧ s.udiVendorAlternateSetting = 1
  soundIn : s.epIn.Sound .bulkIn
  soundOut : s.epOut.Sound .bulkOut
  endTrStIn : s.epIn.endTrSt = false

theorem wired_boot : Wired {} where
  setting := by decide
  enabledIn := by simp
  enabledOut := by simp
  soundIn := .of_idle rfl rfl
  soundOut := .of_idle rfl rfl
  endTrStIn := rfl

/-! ## Requests of the host leave the session alone -/

/-- From `s` to `s'` nothing of the session has changed but that jobs may have been aborted. -/
structure Quiet (s s' : Stream) : Prop where
  smp : s'.smp = s.smp
  tc : s'.tc = s.tc
  startTimer : s'.startTimer = s.startTimer
  sentOut : s'.sentOut = s.sentOut
  pc : s'.pc = s.pc
  sendingIn : s'.sendingIn = true → s.sendingIn = true
  sendingOut : s'.sendingOut = s.sendingOut
  job : ∀ id, (s'.ep id).job.busy = true → (s'.ep id).job = (s.ep id).job
  trace : ∃ aborted : List Completion, (∀ c ∈ aborted, c.status = .abort) ∧
    s'.trace = s.trace ++ aborted.map .completed

theorem Quiet.refl (s : Stream) : Quiet s s where
  smp := rfl
  tc := rfl
  startTimer := rfl
  sentOut := rfl
  pc := rfl
  sendingIn sending := sending
  sendingOut := rfl
  job _ _ := rfl
  trace := ⟨[], by simp, by simp⟩

theorem Quiet.trans {s s' s'' : Stream} (first : Quiet s s') (second : Quiet s' s'') :
    Quiet s s'' where
  smp := second.smp.trans first.smp
  tc := second.tc.trans first.tc
  startTimer := second.startTimer.trans first.startTimer
  sentOut := second.sentOut.trans first.sentOut
  pc := second.pc.trans first.pc
  sendingIn sending := first.sendingIn (second.sendingIn sending)
  sendingOut := second.sendingOut.trans first.sendingOut
  job id busy := by
    have kept := second.job id busy
    rw [kept] at busy ⊢
    exact first.job id busy
  trace := by
    obtain ⟨before, beforeAborts, beforeTrace⟩ := first.trace
    obtain ⟨after, afterAborts, afterTrace⟩ := second.trace
    refine ⟨before ++ after, ?_, ?_⟩
    · simp only [List.mem_append]
      rintro c (member | member)
      · exact beforeAborts c member
      · exact afterAborts c member
    · rw [afterTrace, beforeTrace, List.map_append, List.append_assoc]

/-- A driver function that ends a job, if at all, with an abort. -/
structure Aborting (f : Endpoint → Endpoint × Option Completion) (ep : Endpoint) : Prop where
  call : ∀ c, (f ep).2 = some c → c.status = .abort
  job : (f ep).1.job.busy = true → (f ep).1.job = ep.job

theorem Aborting.silent {f : Endpoint → Endpoint × Option Completion} {ep : Endpoint}
    (aborting : Aborting f ep) :
    clearsIn (f ep).2 = false ∧ clearsOut (f ep).2 = false ∧ completesFirst (f ep).2 = false := by
  cases called : (f ep).2 with
  | none => simp
  | some c => simp [clearsIn, clearsOut, completesFirst, aborting.call c called]

theorem quiet_onEp {f : Endpoint → Endpoint × Option Completion} (id : EpId) (s : Stream)
    (aborting : Aborting f (s.ep id)) : Quiet s (onEp id f s) := by
  obtain ⟨silentIn, silentOut, silentFirst⟩ := aborting.silent
  have trace : ∃ aborted : List Completion, (∀ c ∈ aborted, c.status = .abort) ∧
      s.trace ++ callObs (f (s.ep id)).2 = s.trace ++ aborted.map .completed := by
    refine ⟨(f (s.ep id)).2.toList, ?_, rfl⟩
    intro c member
    exact aborting.call c (by simpa using member)
  rw [onEp, callBack_eq, silentIn, silentOut, silentFirst]
  cases id with
  | bulkIn =>
    refine ⟨rfl, rfl, by simp [Stream.setEp], by simp [Stream.setEp], rfl, by simp [Stream.setEp],
      by simp [Stream.setEp], ?_, trace⟩
    rintro (_ | _) busy
    · exact aborting.job busy
    · rfl
  | bulkOut =>
    refine ⟨rfl, rfl, by simp [Stream.setEp], by simp [Stream.setEp], rfl, by simp [Stream.setEp],
      by simp [Stream.setEp], ?_, trace⟩
    rintro (_ | _) busy
    · rfl
    · exact aborting.job busy

theorem aborting_finishJob (ep : Endpoint) : Aborting (uddEpFinishJob true) ep where
  call _ called := uddEpFinishJob_aborts called
  job busy := by simp at busy

theorem aborting_abort (dirIn : Bool) (ep : Endpoint) : Aborting (uddEpAbort dirIn) ep where
  call _ called := uddEpFinishJob_aborts called
  job busy := by simp [uddEpAbort] at busy

theorem aborting_free (ep : Endpoint) : Aborting uddEpFree ep where
  call _ called := uddEpFinishJob_aborts called
  job busy := by simp [uddEpFree] at busy

/-! ## The configuration taken down and put up -/

/-- Both endpoints are disabled and have no job. -/
structure Down (s : Stream) : Prop where
  disabledIn : s.epIn.enabled = false
  disabledOut : s.epOut.enabled = false
  idleIn : s.epIn.job.busy = false
  idleOut : s.epOut.job.busy = false

theorem Wired.down_of_disabled {s : Stream} (wired : Wired s) (disabledIn : s.epIn.enabled = false)
    (disabledOut : s.epOut.enabled = false) : Down s where
  disabledIn := disabledIn
  disabledOut := disabledOut
  idleIn := by
    cases busy : s.epIn.job.busy with
    | false => rfl
    | true => simpa [Endpoint.ready, disabledIn] using wired.soundIn.ready busy
  idleOut := by
    cases busy : s.epOut.job.busy with
    | false => rfl
    | true => simpa [Endpoint.ready, disabledOut] using wired.soundOut.ready busy

/-- What the enabled interface loses when its setting is disabled. -/
def shut (s : Stream) : Stream :=
  mainVendorDisable (onEp .bulkOut uddEpFree (onEp .bulkIn uddEpFree s))

theorem shut_eq (s : Stream) :
    shut s = { s with
      epIn := (uddEpFree s.epIn).1
      epOut := (uddEpFree s.epOut).1
      mainBVendorEnable := false
      trace := s.trace ++ (callObs (uddEpFree s.epIn).2 ++ callObs (uddEpFree s.epOut).2) } := by
  simp [shut, mainVendorDisable, onEp, callBack_eq, Stream.ep, Stream.setEp, uddEpFree]

theorem quiet_shut (s : Stream) : Quiet s (shut s) := by
  have freedIn : Quiet s (onEp .bulkIn uddEpFree s) := quiet_onEp _ _ (aborting_free _)
  refine (freedIn.trans (quiet_onEp .bulkOut _ (aborting_free _))).trans ?_
  exact { Quiet.refl _ with }

theorem Wired.shut {s : Stream} (wired : Wired s) : Wired (shut s) := by
  rw [shut_eq]
  exact {
    setting := wired.setting
    enabledIn := by simp
    enabledOut := by simp
    soundIn := uddEpFree_sound wired.soundIn
    soundOut := uddEpFree_sound wired.soundOut
    endTrStIn := by simpa [uddEpFree, uddEpFinishJob_fst] using wired.endTrStIn }

theorem down_shut (s : Stream) : Down (shut s) := by
  rw [shut_eq]
  constructor <;> simp

/-- Disabling the interface of a configured device: setting 0 has nothing to lose. -/
theorem udcIfaceDisable_eq {s : Stream} (wired : Wired s) (configured : s.udcNumConfiguration ≠ 0) :
    udcIfaceDisable 0 s = (true, if s.udiVendorAlternateSetting = 1 then shut s else s) := by
  have first : udcUpdateIfaceDesc 0 0 s = true := by simp [udcUpdateIfaceDesc, configured]
  have current : udcUpdateIfaceDesc 0 s.udiVendorAlternateSetting s = true := by
    simp [udcUpdateIfaceDesc, configured, wired.setting]
  by_cases setting : s.udiVendorAlternateSetting = 1
  · have second : udcUpdateIfaceDesc 0 1 s = true := by rw [← setting]; exact current
    simp [udcIfaceDisable, first, second, setting, shut]
  · simp [udcIfaceDisable, first, current, setting]

theorem udcIfaceDisable_other {ifaceNum : Nat} (other : ifaceNum ≠ 0) (s : Stream) :
    udcIfaceDisable ifaceNum s = (false, s) := by
  have none : udcUpdateIfaceDesc ifaceNum 0 s = false := by
    simp [udcUpdateIfaceDesc]; omega
  simp [udcIfaceDisable, none]

/-- The device with its current setting disabled. -/
structure TakenDown (s s' : Stream) : Prop where
  quiet : Quiet s s'
  wired : Wired s'
  down : Down s'
  sendingIn : s'.sendingIn = s.sendingIn
  setting : s'.udiVendorAlternateSetting = s.udiVendorAlternateSetting

theorem takenDown_disable {s : Stream} (wired : Wired s) (configured : s.udcNumConfiguration ≠ 0) :
    TakenDown s (udcIfaceDisable 0 s).2 ∧
      (udcIfaceDisable 0 s).2.udcNumConfiguration = s.udcNumConfiguration := by
  rw [udcIfaceDisable_eq wired configured]
  split_ifs with setting
  · refine ⟨⟨quiet_shut s, wired.shut, down_shut s, ?_, ?_⟩, ?_⟩ <;> simp only [shut_eq]
  · -- setting 0 has no endpoints, and none is enabled outside setting 1
    have disabledIn : s.epIn.enabled = false := by
      cases enabled : s.epIn.enabled with
      | false => rfl
      | true => exact absurd (wired.enabledIn enabled).2 setting
    have disabledOut : s.epOut.enabled = false := by
      cases enabled : s.epOut.enabled with
      | false => rfl
      | true => exact absurd (wired.enabledOut enabled).2 setting
    exact ⟨⟨Quiet.refl s, wired, wired.down_of_disabled disabledIn disabledOut, rfl, rfl⟩, rfl⟩

/-- Changing the number of the configuration of a device that is down. -/
theorem TakenDown.configure {s s' : Stream} (taken : TakenDown s s') (configuration : Nat) :
    TakenDown s { s' with udcNumConfiguration := configuration } where
  quiet := taken.quiet.trans { Quiet.refl s' with }
  wired := { taken.wired with
    enabledIn := by simp [taken.down.disabledIn]
    enabledOut := by simp [taken.down.disabledOut] }
  down := { taken.down with }
  sendingIn := taken.sendingIn
  setting := taken.setting

theorem takenDown_reset {s : Stream} (wired : Wired s) : TakenDown s (udcReset s) := by
  by_cases configured : s.udcNumConfiguration = 0
  · have disabledIn : s.epIn.enabled = false := by
      cases enabled : s.epIn.enabled with
      | false => rfl
      | true => exact absurd configured (wired.enabledIn enabled).1
    have disabledOut : s.epOut.enabled = false := by
      cases enabled : s.epOut.enabled with
      | false => rfl
      | true => exact absurd configured (wired.enabledOut enabled).1
    have still : TakenDown s s :=
      ⟨Quiet.refl s, wired, wired.down_of_disabled disabledIn disabledOut, rfl, rfl⟩
    simpa [udcReset, configured] using still.configure 0
  · simpa [udcReset, configured] using (takenDown_disable wired configured).1.configure 0

/-- A setting other than 1 has no endpoints to allocate. -/
theorem udcIfaceEnable_other {settingNum : Nat} (other : settingNum ≠ 1) {s : Stream}
    (configured : s.udcNumConfiguration ≠ 0) :
    (udcIfaceEnable 0 settingNum s).2 =
      if settingNum = 0 then { s with udiVendorAlternateSetting := 0 } else s := by
  by_cases zero : settingNum = 0
  · simp [udcIfaceEnable, udcUpdateIfaceDesc, configured, udiVendorEnable, zero]
  · have none : udcUpdateIfaceDesc 0 settingNum s = false := by
      simp [udcUpdateIfaceDesc, configured]; omega
    simp [udcIfaceEnable, none, zero]

/-- Setting 1 of a device that is down: both endpoints come up empty, and the callback of the
    application clears `sending_in`. -/
theorem udcIfaceEnable_one {s : Stream} (down : Down s) (configured : s.udcNumConfiguration ≠ 0) :
    (udcIfaceEnable 0 1 s).2 = { s with
      epIn := { s.epIn with enabled := true, size := s.bulkSize, busyBanks := 0 }
      epOut := { s.epOut with enabled := true, size := s.bulkSize, busyBanks := 0 }
      udiVendorAlternateSetting := 1
      mainBVendorEnable := true
      sendingIn := false } := by
  simp [udcIfaceEnable, udcUpdateIfaceDesc, configured, uddEpAlloc, uddEpReallocOn, uddEpRealloc,
    Stream.ep, Stream.setEp, down.disabledIn, down.disabledOut, down.idleIn, down.idleOut, callBack,
    udiVendorEnable, mainVendorEnable, mainVendorBulkInReceived, Stream.bulkSize]

/-- What choosing a setting of a configured device that is down leaves. -/
theorem enable_quiet {s : Stream} (wired : Wired s) (down : Down s)
    (configured : s.udcNumConfiguration ≠ 0) (settingNum : Nat) :
    Quiet s (udcIfaceEnable 0 settingNum s).2 ∧ Wired (udcIfaceEnable 0 settingNum s).2 := by
  by_cases one : settingNum = 1
  · rw [one, udcIfaceEnable_one down configured]
    refine ⟨{ Quiet.refl s with sendingIn := by simp, job := ?_ }, ?_⟩
    · rintro (_ | _) _ <;> rfl
    · exact {
        setting := Nat.one_lt_two
        enabledIn := fun _ => ⟨configured, rfl⟩
        enabledOut := fun _ => ⟨configured, rfl⟩
        soundIn := .of_idle down.idleIn wired.soundIn.noZlp
        soundOut := .of_idle down.idleOut wired.soundOut.noZlp
        endTrStIn := wired.endTrStIn }
  · rw [udcIfaceEnable_other one configured]
    split_ifs
    · refine ⟨{ Quiet.refl s with }, { wired with
        setting := Nat.two_pos, enabledIn := by simp [down.disabledIn],
        enabledOut := by simp [down.disabledOut] }⟩
    · exact ⟨Quiet.refl s, wired⟩

/-! ## One event keeps the wiring -/

theorem Wired.onEp {s : Stream} (wired : Wired s) (id : EpId)
    {f : Endpoint → Endpoint × Option Completion} (sound : (f (s.ep id)).1.Sound id)
    (enabled : (f (s.ep id)).1.enabled = true → (s.ep id).enabled = true)
    (endTrSt : (f (s.ep id)).1.endTrSt = (s.ep id).endTrSt) : Wired (onEp id f s) := by
  rw [M1k.onEp, callBack_eq]
  cases id with
  | bulkIn =>
    exact { wired with
      enabledIn := fun on => wired.enabledIn (enabled on)
      soundIn := sound
      endTrStIn := endTrSt.trans wired.endTrStIn }
  | bulkOut =>
    exact { wired with
      enabledOut := fun on => wired.enabledOut (enabled on)
      soundOut := sound }

theorem Wired.sound {s : Stream} (wired : Wired s) : ∀ id, (s.ep id).Sound id
  | .bulkIn => wired.soundIn
  | .bulkOut => wired.soundOut

theorem Wired.abort {s : Stream} (wired : Wired s) (id : EpId) (dirIn : Bool) :
    Wired (M1k.onEp id (uddEpAbort dirIn) s) := by
  have noZlp := (wired.sound id).noZlp
  refine wired.onEp id (.of_idle ?_ ?_) ?_ ?_ <;> rw [uddEpAbort_fst]
  · exact noZlp
  · exact fun on => on

theorem dmaOutDone_keeps {id : EpId} {ep : Endpoint} (sound : ep.Sound id) :
    (dmaOutDone ep).1.Sound id ∧ (dmaOutDone ep).1.enabled = ep.enabled ∧
      (dmaOutDone ep).1.endTrSt = ep.endTrSt := by
  simp only [dmaOutDone]
  split_ifs with on
  · obtain ⟨idle, noZlp, enabled, endTrSt⟩ :=
      uddEpDmaInterrupt_keeps sound false (by simp only [Bool.and_eq_true] at on; exact on.1)
    exact ⟨.of_idle idle noZlp, enabled, endTrSt⟩
  · exact ⟨sound, rfl, rfl⟩

theorem dmaInDone_keeps {id : EpId} {ep : Endpoint} (sound : ep.Sound id) :
    (dmaInDone ep).1.Sound id ∧ (dmaInDone ep).1.enabled = ep.enabled ∧
      (dmaInDone ep).1.endTrSt = ep.endTrSt := by
  simp only [dmaInDone]
  split_ifs with on
  · have full : Endpoint.Sound id { ep with dmaCount := ep.job.bufLoad } := { sound with }
    obtain ⟨idle, noZlp, enabled, endTrSt⟩ :=
      uddEpDmaInterrupt_keeps full true (by simp only [Bool.and_eq_true] at on; exact on.1)
    exact ⟨.of_idle idle noZlp, enabled, endTrSt⟩
  · exact ⟨sound, rfl, rfl⟩

/-- The events that belong to the host's management of the device, not to streaming. -/
def Event.Manages : Event → Prop
  | .inBanks _ | .busReset _ | .setAddress _ | .setConfiguration .. | .setInterface ..
  | .setFeature .. | .clearFeature .. => True
  | _ => False

theorem Wired.kill {s : Stream} (wired : Wired s) (id : EpId) :
    Wired (M1k.onEp id (uddEpFinishJob true) s) := by
  have noZlp := (wired.sound id).noZlp
  refine wired.onEp id (.of_idle (uddEpFinishJob_busy _ _) ?_) ?_ ?_ <;> rw [uddEpFinishJob_fst]
  · exact noZlp
  · exact fun on => on

theorem manage_busReset {s : Stream} (wired : Wired s) (highSpeed : Bool) :
    Quiet s (uddReset highSpeed s) ∧ Wired (uddReset highSpeed s) := by
  have killIn : Quiet s (onEp .bulkIn (uddEpFinishJob true) s) :=
    quiet_onEp _ _ (aborting_finishJob _)
  have killOut := killIn.trans (quiet_onEp .bulkOut _ (aborting_finishJob _))
  have reset := takenDown_reset ((wired.kill .bulkIn).kill .bulkOut)
  exact ⟨(killOut.trans reset.quiet).trans { Quiet.refl _ with }, { reset.wired with }⟩

theorem manage_setConfiguration {s : Stream} (wired : Wired s) (wValue wLength : UInt16) :
    Quiet s (udcReqStdDevSetConfiguration wValue wLength s).2 ∧
      Wired (udcReqStdDevSetConfiguration wValue wLength s).2 := by
  simp only [udcReqStdDevSetConfiguration]
  have reset := (takenDown_reset wired).configure (wValue &&& 0xFF).toNat
  split_ifs with length address number empty
  · exact ⟨Quiet.refl s, wired⟩
  · exact ⟨Quiet.refl s, wired⟩
  · exact ⟨Quiet.refl s, wired⟩
  · exact ⟨reset.quiet, reset.wired⟩
  · obtain ⟨quiet, kept⟩ := enable_quiet reset.wired reset.down empty 0
    exact ⟨reset.quiet.trans quiet, kept⟩

theorem manage_setInterface {s : Stream} (wired : Wired s) (wValue wIndex wLength : UInt16) :
    Quiet s (udcReqStdIfaceSetSetting wValue wIndex wLength s).2 ∧
      Wired (udcReqStdIfaceSetSetting wValue wIndex wLength s).2 := by
  simp only [udcReqStdIfaceSetSetting]
  split_ifs with length configured disabled
  · exact ⟨Quiet.refl s, wired⟩
  · exact ⟨Quiet.refl s, wired⟩
  · by_cases iface : (wIndex &&& 0xFF).toNat = 0
    · rw [iface, udcIfaceDisable_eq wired configured] at disabled
      simp at disabled
    · rw [udcIfaceDisable_other iface]
      exact ⟨Quiet.refl s, wired⟩
  · by_cases iface : (wIndex &&& 0xFF).toNat = 0
    · obtain ⟨taken, number⟩ := takenDown_disable wired configured
      rw [iface]
      obtain ⟨quiet, kept⟩ :=
        enable_quiet taken.wired taken.down (number ▸ configured) (wValue &&& 0xFF).toNat
      exact ⟨taken.quiet.trans quiet, kept⟩
    · rw [udcIfaceDisable_other iface] at disabled
      simp at disabled

theorem manage_setFeature {s : Stream} (wired : Wired s) (wValue wIndex wLength : UInt16) :
    Quiet s (udcReqStdEpSetFeature wValue wIndex wLength s) ∧
      Wired (udcReqStdEpSetFeature wValue wIndex wLength s) := by
  simp only [udcReqStdEpSetFeature]
  split_ifs with refused
  · exact ⟨Quiet.refl s, wired⟩
  · cases EpId.ofAddress wIndex with
    | none => exact ⟨Quiet.refl s, wired⟩
    | some id =>
      have quiet : Quiet s (onEp id (uddEpAbort (addressIsIn wIndex)) s) :=
        quiet_onEp _ _ (aborting_abort _ _)
      -- the abort leaves no job, so that the halt is set at once or asked for
      have kept := wired.abort id (addressIsIn wIndex)
      have idle : ((onEp id (uddEpAbort (addressIsIn wIndex)) s).ep id).job.busy = false := by
        rw [onEp, callBack_eq]
        cases id <;> simp [Stream.ep, Stream.setEp, uddEpAbort]
      obtain ⟨busy, noZlp, enabled, endTrSt⟩ := uddEpSetHalt_job (addressIsIn wIndex) idle
      refine ⟨quiet.trans ?_, ?_⟩
      · cases id with
        | bulkIn =>
          refine { Quiet.refl _ with job := ?_ }
          rintro (_ | _) running
          · exact absurd (busy.symm.trans running) Bool.false_ne_true
          · rfl
        | bulkOut =>
          refine { Quiet.refl _ with job := ?_ }
          rintro (_ | _) running
          · rfl
          · exact absurd (busy.symm.trans running) Bool.false_ne_true
      · cases id with
        | bulkIn =>
          exact { kept with
            enabledIn := fun on => kept.enabledIn (enabled ▸ on)
            soundIn := .of_idle busy (noZlp.trans kept.soundIn.noZlp)
            endTrStIn := endTrSt.trans kept.endTrStIn }
        | bulkOut =>
          exact { kept with
            enabledOut := fun on => kept.enabledOut (enabled ▸ on)
            soundOut := .of_idle busy (noZlp.trans kept.soundOut.noZlp) }

/-- A running job does not stand on a halted endpoint. -/
theorem Endpoint.Sound.unhalted {id : EpId} {ep : Endpoint} (sound : ep.Sound id)
    (busy : ep.job.busy = true) :
    { ep.job with stallRequested := false } = ep.job ∧ ep.stall = false := by
  have ready := sound.ready busy
  simp only [Endpoint.ready, Bool.and_eq_true, Bool.not_eq_true'] at ready
  exact ⟨by rw [← ready.2], ready.1.2⟩

theorem manage_clearFeature {s : Stream} (wired : Wired s) (wValue wIndex wLength : UInt16)
    (junk : Status) :
    Quiet s (udcReqStdEpClearFeature wValue wIndex wLength junk s) ∧
      Wired (udcReqStdEpClearFeature wValue wIndex wLength junk s) := by
  simp only [udcReqStdEpClearFeature]
  split_ifs with refused
  · exact ⟨Quiet.refl s, wired⟩
  · cases EpId.ofAddress wIndex with
    | none => exact ⟨Quiet.refl s, wired⟩
    | some id =>
      have sound := wired.sound id
      have cleared := uddEpClearHalt_sound sound junk
      refine ⟨quiet_onEp id s ⟨?_, ?_⟩, wired.onEp id ?_ ?_ ?_⟩ <;> simp only [cleared]
      · simp
      · exact fun busy => (sound.unhalted busy).1
      · exact { sound with
          ready := fun busy => by
            have ready := sound.ready busy
            simp only [Endpoint.ready, Bool.and_eq_true] at ready ⊢
            simp [ready.1.1] }
      · exact fun on => on

theorem manage_inBanks {s : Stream} (wired : Wired s) (banks : Nat) :
    Quiet s (inBanks banks s) ∧ Wired (inBanks banks s) := by
  have quiet : Quiet s { s with epIn := { s.epIn with busyBanks := banks } } := by
    refine { Quiet.refl s with job := ?_ }
    rintro (_ | _) _ <;> rfl
  have kept : Wired { s with epIn := { s.epIn with busyBanks := banks } } :=
    { wired with soundIn := { wired.soundIn with } }
  simp only [inBanks]
  split_ifs with empty
  · have bank := uddEpBankInterrupt_sound kept.soundIn
    refine ⟨quiet.trans (quiet_onEp .bulkIn _ ⟨?_, ?_⟩), kept.onEp .bulkIn ?_ ?_ ?_⟩ <;>
      simp only [Stream.ep] at bank ⊢ <;> rw [bank] <;> split_ifs with requested
    · simp
    · simp
    · intro busy
      exact absurd busy (by simp [wired.soundIn.idle_of_stallRequested requested])
    · simp
    · exact .of_idle (wired.soundIn.idle_of_stallRequested requested) wired.soundIn.noZlp
    · exact kept.soundIn
    all_goals simp
  · exact ⟨quiet, kept⟩

/-- The host's management ends jobs at most, and only with an abort. -/
theorem manage_step {s : Stream} (wired : Wired s) {event : Event} (manages : event.Manages) :
    Quiet s (step s event) ∧ Wired (step s event) := by
  cases event with
  | inBanks banks => exact manage_inBanks wired banks
  | busReset highSpeed => exact manage_busReset wired highSpeed
  | setAddress wValue => exact ⟨{ Quiet.refl s with }, { wired with }⟩
  | setConfiguration wValue wLength => exact manage_setConfiguration wired wValue wLength
  | setInterface wValue wIndex wLength => exact manage_setInterface wired wValue wIndex wLength
  | setFeature wValue wIndex wLength => exact manage_setFeature wired wValue wIndex wLength
  | clearFeature wValue wIndex wLength junk =>
    exact manage_clearFeature wired wValue wIndex wLength junk
  | _ => exact absurd manages id

theorem Wired.callBack {s : Stream} (wired : Wired s) (completion : Option Completion) :
    Wired (M1k.callBack completion s) := by
  rw [callBack_eq]
  exact { wired with }

theorem wired_runIn {s : Stream} (wired : Wired s) (buf : Ptr) :
    Wired (udiVendorBulkRun .bulkIn buf 2048 .mainVendorBulkInReceived s) := by
  rw [udiVendorBulkRun_bulkIn]
  obtain ⟨sound, enabled, endTrSt⟩ := uddEpRun_sound wired.soundIn true buf
    (rfl : EpId.bulkIn.Owns .mainVendorBulkInReceived) (by decide : 0 < 2048) (by decide)
  refine Wired.callBack ?_ _
  exact {
    setting := wired.setting
    enabledIn := fun on => wired.enabledIn (enabled ▸ on)
    enabledOut := wired.enabledOut
    soundIn := sound
    soundOut := wired.soundOut
    endTrStIn := endTrSt wired.endTrStIn }

theorem wired_runOut {s : Stream} (wired : Wired s) (buf : Ptr) {callback : Callback}
    (owns : EpId.bulkOut.Owns callback) :
    Wired (udiVendorBulkRun .bulkOut buf 1024 callback s) := by
  rw [udiVendorBulkRun_bulkOut]
  obtain ⟨sound, enabled, -⟩ := uddEpRun_sound wired.soundOut false buf owns
    (by decide : 0 < 1024) (by decide)
  refine Wired.callBack ?_ _
  exact {
    setting := wired.setting
    enabledIn := wired.enabledIn
    enabledOut := fun on => wired.enabledOut (enabled ▸ on)
    soundIn := wired.soundIn
    soundOut := sound
    endTrStIn := wired.endTrStIn }

theorem wired_request {s : Stream} (wired : Wired s) (wValue wIndex : UInt16) :
    Wired (configureSampling wValue wIndex s) := by
  by_cases stop : wValue < 1
  · rw [configureSampling_stop stop]
    exact { wired with }
  · have start : 1 ≤ wValue := UInt16.not_lt.mp stop
    have aborted : Wired (onEp .bulkOut (uddEpAbort false) (onEp .bulkIn (uddEpAbort true) s)) :=
      (wired.abort .bulkIn true).abort .bulkOut false
    have started := wired_runOut aborted (.packetsOut 0 0)
      (.inr rfl : EpId.bulkOut.Owns .mainVendorBulkOutReceivedFirst)
    rw [udiVendorBulkRun_bulkOut, callBack_eq, onEp_bulkOut, callBack_eq, onEp_bulkIn, callBack_eq]
      at started
    rw [configureSampling_start start]
    exact { started with }

/-- Every event keeps the wiring. -/
theorem wired_step {s : Stream} (wired : Wired s) (event : Event) : Wired (step s event) := by
  cases event with
  | tc2 =>
    simp only [step, tc2Interrupt]
    split_ifs
    · exact wired
    · exact { wired with }
  | loop =>
    simp only [step, mainLoop]
    cases s.pc with
    | runIn index =>
      -- the run calls ask no more of the endpoints than that they are sound
      have moved : Wired { s with pc := .testOut } := { wired with }
      exact wired_runIn moved _
    | runOut index =>
      have moved : Wired { s with pc := .watchdog } := { wired with }
      exact wired_runOut moved _ (.inl rfl)
    | _ => exact { wired with }
  | sof fnum =>
    simp only [step, mainSofAction]
    split_ifs <;> exact { wired with }
  | request wValue wIndex => exact wired_request wired wValue wIndex
  | outByte value =>
    simp only [step, dmaOutByte]
    split_ifs with moves
    · cases s.epOut.job.buf with
      | packetsOut packet word => exact { wired with soundOut := { wired.soundOut with } }
      | _ => exact wired
    · exact wired
  | outDone =>
    obtain ⟨sound, enabled, endTrSt⟩ := dmaOutDone_keeps wired.soundOut
    exact wired.onEp .bulkOut sound (fun on => enabled ▸ on) endTrSt
  | outEndTr =>
    simp only [step, outEndTr]
    split_ifs
    · exact { wired with soundOut := { wired.soundOut with } }
    · exact wired
  | inDone =>
    obtain ⟨sound, enabled, endTrSt⟩ := dmaInDone_keeps wired.soundIn
    exact wired.onEp .bulkIn sound (fun on => enabled ▸ on) endTrSt
  | _ => exact (manage_step wired (by trivial)).2

/-- The wiring holds at every moment of every run of the device. -/
theorem wired_run {s : Stream} (wired : Wired s) (events : List Event) :
    Library.Runs.Always step Wired s events :=
  Library.Runs.always_of_events (C := fun _ => True) (fun _ event kept _ => wired_step kept event)
    wired (fun _ _ => trivial)

end M1k
