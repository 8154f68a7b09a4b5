import M1k.Firmware.Commands
import M1k.Library.Countdown

/-! # The watchdog and the boot loader

The main loop restarts the watchdog at the end of each of its passes.  Request 0xBB makes it stop, so
that the watchdog resets the chip, which then starts the boot loader in its ROM. -/

namespace M1k

open Library Library.Runs
open Control (CtrlStatus SetupPacket Command)

variable {σ : Type*}

/-! ## The passes of the main loop -/

/-- The statements of the main loop before the last one of a pass -/
def MainPc.left : MainPc → Nat
  | .testIn => 10
  | .clearSendIn => 9
  | .setSendingIn => 8
  | .readIndexIn => 7
  | .runIn _ => 6
  | .testOut => 5
  | .clearSendOut => 4
  | .setSendingOut => 3
  | .readIndexOut => 2
  | .runOut _ => 1
  | .watchdog => 0

theorem MainPc.left_le (pc : MainPc) : pc.left ≤ 10 := by
  cases pc with
  | _ => simp [MainPc.left]

/-- The main loop waits for nothing. -/
theorem mainLoop_left {s : Stream} (inside : s.pc ≠ .watchdog) : (mainLoop s).pc.left < s.pc.left := by
  cases pc : s.pc with
  | watchdog => exact absurd pc inside
  | testIn =>
    simp only [mainLoop, pc]
    split_ifs
    · simp [MainPc.left]
    · simp [MainPc.left]
  | testOut =>
    simp only [mainLoop, pc]
    split_ifs
    · simp [MainPc.left]
    · simp [MainPc.left]
  | runIn index => simp [mainLoop, pc, udiVendorBulkRun_bulkIn, callBack_eq, MainPc.left]
  | runOut index => simp [mainLoop, pc, udiVendorBulkRun_bulkOut, callBack_eq, MainPc.left]
  | _ => simp [mainLoop, pc, MainPc.left]

/-- Only the main loop moves its own place. -/
theorem step_pc (s : Stream) {event : Event} (other : event ≠ .loop) : (step s event).pc = s.pc := by
  by_cases isTc2 : event = .tc2
  · rw [isTc2, step, tc2Interrupt]
    split_ifs
    · rfl
    · rfl
  · by_cases isRequest : event.IsRequest
    · cases event with
      | request wValue wIndex =>
        rw [step]
        by_cases stop : wValue < 1
        · rw [configureSampling_stop stop]
        · rw [configureSampling_start (UInt16.not_lt.mp stop)]
      | _ => exact absurd isRequest id
    · exact (background_step s isTc2 other isRequest).pc

theorem run_pc {events : List Event} (others : ∀ event ∈ events, event ≠ .loop) (s : Stream) :
    (run step s events).pc = s.pc := by
  induction events generalizing s with
  | nil => rfl
  | cons event events inductionHypothesis =>
    rw [run_cons, inductionHypothesis fun later member => others later (List.mem_cons_of_mem _ member),
      step_pc s (others event List.mem_cons_self)]

namespace Firmware

variable (efc : Control.Efc σ)

/-! ## The watchdog -/

/-- The watchdog resets the chip. -/
def Expires (f : Firmware σ) : Event → Prop
  | .tick _ => f.rom = false ∧ f.wdt = 0
  | .control .. | .busReset _ | .peripheral _ | .powerCycle _ => False

/-- What an event is to the watchdog: the boot loader does not use it. -/
def beats (f : Firmware σ) : Event → List Beat
  | .tick _ => if f.rom then [] else [.tick]
  | .peripheral event => if f.moves event && f.endsPass event && !f.reset then [.reload] else []
  | .powerCycle _ => [.reload]
  | .control .. | .busReset _ => []

/-- The counter; a chip that starts has loaded it. -/
def left (f : Firmware σ) : Nat := if f.rom then 50 else f.wdt

theorem left_restart (powerUp : PowerUp) (f : Firmware σ) : (restart efc powerUp f).left = 50 := by
  by_cases flash : f.gpnvm1 = true
  · rw [restart, if_pos flash]
    rfl
  · rw [restart, if_neg flash]
    rfl

theorem step_left (f : Firmware σ) (event : Event) :
    (step efc f event).left = run (countdown 50) f.left (beats f event) := by
  cases event with
  | control status answers =>
    rw [step]
    by_cases hears : f.hears = true
    · have performs := control_performs efc status answers f
      rw [if_pos hears, left, performs.rom, performs.wdt]
      rfl
    · rw [if_neg hears]
      rfl
  | busReset highSpeed =>
    rw [step]
    split_ifs
    · rfl
    · rfl
  | peripheral event =>
    rw [step, beats]
    by_cases moves : f.moves event = true
    · have running : f.rom = false := by
        simp only [Firmware.moves, Bool.and_eq_true, Bool.not_eq_true'] at moves
        exact moves.1.1
      cases fed : f.endsPass event && !f.reset with
      | true => simp [left, moves, fed, running, countdown]
      | false => simp [left, moves, fed, running]
    · simp [moves]
  | tick powerUp =>
    by_cases rom : f.rom = true
    · simp [step, beats, rom]
    · have running : f.rom = false := by simpa using rom
      by_cases empty : f.wdt = 0
      · have expired : step efc f (.tick powerUp) = restart efc powerUp f := by
          simp [step, running, empty]
        rw [expired, left_restart]
        simp [beats, left, running, empty, countdown]
      · simp [step, beats, left, running, empty, countdown]
  | powerCycle powerUp =>
    rw [step, left_restart]
    rfl

theorem refines_countdown :
    Refines (step efc) (countdown 50) (fun _ => True) Firmware.left beats where
  keeps _ _ _ := trivial
  agrees f event _ := step_left efc f event

/-- The packet of the interrupt is request 0xBB. -/
def AsksBootLoader (status : CtrlStatus) : Prop :=
  ∃ packet, setupOf status = some packet ∧ packet.req.isVendor = true ∧
    packet.req.bRequest.toNat = 0xBB

def Event.AsksBootLoader : Event → Prop
  | .control status _ => Firmware.AsksBootLoader status
  | .busReset _ | .peripheral _ | .tick _ | .powerCycle _ => False

def Event.isTick : Event → Bool
  | .tick _ => true
  | .control .. | .busReset _ | .peripheral _ | .powerCycle _ => false

def Event.isLoop : Event → Bool
  | .peripheral event => event == .loop
  | .control .. | .busReset _ | .tick _ | .powerCycle _ => false

def tickCount (events : List Event) : Nat := events.countP Event.isTick

def loopCount (events : List Event) : Nat := events.countP Event.isLoop

theorem tickCount_concat (events : List Event) (event : Event) :
    tickCount (events ++ [event]) = tickCount events + if event.isTick then 1 else 0 := by
  rw [tickCount, List.countP_append, List.countP_singleton]
  rfl

theorem loopCount_concat (events : List Event) (event : Event) :
    loopCount (events ++ [event]) = loopCount events + if event.isLoop then 1 else 0 := by
  rw [loopCount, List.countP_append, List.countP_singleton]
  rfl

/-- Only request 0xBB asks for a reset, or clears the bit. -/
theorem taken_asks {status : CtrlStatus} {answers : Answers} {f : Firmware σ} {command : Command}
    (member : command ∈ taken efc status answers f) (code : command.codes = [0xBB]) :
    AsksBootLoader status := by
  obtain ⟨packet, setup, vendor, known⟩ := taken_codes efc member
  rw [code] at known
  exact ⟨packet, setup, vendor, List.mem_singleton.mp known⟩

theorem taken_reset {status : CtrlStatus} {answers : Answers} {f : Firmware σ}
    (other : ¬ AsksBootLoader status) : (taken efc status answers f).contains .reset = false := by
  cases asks : (taken efc status answers f).contains .reset with
  | false => rfl
  | true => exact absurd (taken_asks efc (List.contains_iff_mem.mp asks) rfl) other

theorem taken_clears {status : CtrlStatus} {answers : Answers} {f : Firmware σ}
    (clears : (taken efc status answers f).any (clears answers) = true) :
    AsksBootLoader status ∧ answers.cleared = true := by
  obtain ⟨command, member, isClear⟩ := List.any_eq_true.mp clears
  cases command with
  | flashClearGpnvm bit =>
    exact ⟨taken_asks efc member rfl, (Bool.and_eq_true_iff.mp isClear).2⟩
  | _ => cases isClear

/-- `done` ends in the events since the last pass of the main loop has ended. -/
structure Fed (f : Firmware σ) (done : List Event) : Prop where
  coherent : Coherent f.stream
  unasked : f.reset = false
  flash : f.gpnvm1 = true
  running : f.rom = false
  since : ∃ part, part <:+ done ∧ f.wdt + tickCount part = 50 ∧
    f.stream.pc.left + loopCount part ≤ 10

theorem Fed.fresh {f : Firmware σ} (coherent : Coherent f.stream) (unasked : f.reset = false)
    (flash : f.gpnvm1 = true) (running : f.rom = false) (full : f.wdt = 50)
    (pc : f.stream.pc = .testIn) (done : List Event) : Fed f done :=
  ⟨coherent, unasked, flash, running, [], List.nil_suffix, by rw [full]; rfl, by rw [pc]; decide⟩

/-- An event that is neither a tick nor a statement of the main loop -/
theorem Fed.still {f f' : Firmware σ} {done : List Event} (fed : Fed f done)
    (coherent : Coherent f'.stream) (unasked : f'.reset = false) (flash : f'.gpnvm1 = true) (running : f'.rom = false) (wdt : f'.wdt = f.wdt)
    (pc : f'.stream.pc = f.stream.pc) {event : Event} (isTick : event.isTick = false)
    (isLoop : event.isLoop = false) : Fed f' (done ++ [event]) := by
  obtain ⟨part, isSuffix, ticks, loops⟩ := fed.since
  refine ⟨coherent, unasked, flash, running, part ++ [event],
    List.suffix_append_self_iff.mpr isSuffix, ?_, ?_⟩
  · rw [tickCount_concat, isTick, wdt]
    exact ticks
  · rw [loopCount_concat, isLoop, pc]
    exact loops

/-- A tick that finds the counter empty comes too late. -/
theorem Fed.late {f : Firmware σ} {done : List Event} (fed : Fed f done) (empty : f.wdt = 0)
    (powerUp : PowerUp) :
    ∃ part, part <:+ done ++ [.tick powerUp] ∧ 50 < tickCount part ∧ loopCount part ≤ 10 := by
  obtain ⟨part, isSuffix, ticks, loops⟩ := fed.since
  refine ⟨part ++ [.tick powerUp], (List.suffix_append_self_iff).mpr isSuffix, ?_, ?_⟩
  · rw [tickCount_concat, Event.isTick, if_pos rfl]
    omega
  · rw [loopCount_concat, Event.isLoop, if_neg Bool.false_ne_true]
    omega

/-- Runs without request 0xBB, in which no 51 ticks come with fewer than eleven statements of the
    main loop among them -/
structure InTime (events : List Event) : Prop where
  unasked : ∀ event ∈ events, ¬ event.AsksBootLoader
  often : ∀ part, part <:+: events → 50 < tickCount part → 10 < loopCount part

theorem InTime.earlier {events done : List Event} (inTime : InTime events) (isPrefix : done <+: events) :
    InTime done where
  unasked event member := inTime.unasked event (isPrefix.subset member)
  often part inside := inTime.often part (inside.trans isPrefix.isInfix)

/-- While `main` runs, so does its loop, heard by a host or not. -/
theorem moves_loop {f : Firmware σ} (running : f.rom = false) : f.moves .loop = true := by
  rw [moves, running]
  cases f.detached <;> rfl

theorem control_pc {f : Firmware σ} (coherent : Coherent f.stream) (status : CtrlStatus)
    (answers : Answers) : (control efc status answers f).stream.pc = f.stream.pc := by
  rw [control_stream efc coherent, run_restartable_some]
  apply run_pc
  intro event member isLoop
  have host := requested_host efc member
  rw [isLoop] at host
  cases host

theorem step_fed {f : Firmware σ} {done : List Event} (event : Event)
    (inTime : InTime (done ++ [event])) (fed : Fed f done) : Fed (step efc f event) (done ++ [event]) := by
  have coherent : Coherent (step efc f event).stream :=
    (refines_stream efc).keeps f event fed.coherent
  have stepped := step_stepped efc f event
  generalize step efc f event = f' at coherent stepped
  cases stepped with
  | nothing ignored =>
    -- `main` runs, so that neither a tick nor the main loop is ignored
    have isTick : event.isTick = false := by
      cases event with
      | tick powerUp => rw [ignores, fed.running] at ignored; cases ignored
      | _ => rfl
    have isLoop : event.isLoop = false := by
      cases event with
      | peripheral event =>
        refine decide_eq_false ?_
        rintro rfl
        rw [ignores, moves_loop fed.running] at ignored
        cases ignored
      | _ => rfl
    exact fed.still coherent fed.unasked fed.flash fed.running rfl rfl isTick isLoop
  | control status answers hears =>
    have performs := control_performs efc status answers f
    have other : ¬ AsksBootLoader status := inTime.unasked (.control status answers) (by simp)
    have unasked : (control efc status answers f).reset = false := by
      rw [performs.reset, fed.unasked, taken_reset efc other]
      rfl
    have flash : (control efc status answers f).gpnvm1 = true := by
      rw [performs.gpnvm1, fed.flash, Bool.true_and, Bool.not_eq_true']
      exact Bool.eq_false_of_not_eq_true fun clears => other (taken_clears efc clears).1
    exact fed.still coherent unasked flash (performs.rom.trans fed.running) performs.wdt
      (control_pc efc fed.coherent status answers) rfl rfl
  | busReset highSpeed hears =>
    have pc : (M1k.step f.stream (.busReset highSpeed)).pc = f.stream.pc := step_pc _ (by simp)
    exact fed.still coherent fed.unasked fed.flash fed.running rfl pc rfl rfl
  | peripheral event moves =>
    by_cases isLoop : event = .loop
    · subst isLoop
      by_cases last : f.stream.pc = .watchdog
      · -- the pass ends, and the watchdog is restarted
        have ends : f.endsPass .loop = true := by simp [endsPass, last]
        refine .fresh coherent fed.unasked fed.flash fed.running ?_ ?_ _
        · simp [ends, fed.unasked]
        · simp [M1k.step, mainLoop, last]
      · have ends : f.endsPass .loop = false := by simp [endsPass, last]
        obtain ⟨part, isSuffix, ticks, loops⟩ := fed.since
        have fewer := mainLoop_left last
        refine ⟨coherent, fed.unasked, fed.flash, fed.running, part ++ [.peripheral .loop],
          List.suffix_append_self_iff.mpr isSuffix, ?_, ?_⟩
        · rw [tickCount_concat]
          simp only [ends, Bool.false_and, Bool.false_eq_true, if_false]
          exact ticks
        · rw [loopCount_concat]
          show (mainLoop f.stream).pc.left + (_ + 1) ≤ 10
          omega
    · have pc : (M1k.step f.stream event).pc = f.stream.pc := step_pc _ isLoop
      have ends : f.endsPass event = false := by simp [endsPass, isLoop]
      exact fed.still coherent fed.unasked fed.flash fed.running (by simp [ends]) pc rfl
        (by simpa [Event.isLoop] using isLoop)
  | count powerUp running left =>
    obtain ⟨part, isSuffix, ticks, loops⟩ := fed.since
    refine ⟨coherent, fed.unasked, fed.flash, fed.running, part ++ [.tick powerUp],
      List.suffix_append_self_iff.mpr isSuffix, ?_, ?_⟩
    · rw [tickCount_concat, Event.isTick, if_pos rfl]
      show f.wdt - 1 + _ = 50
      omega
    · rw [loopCount_concat, Event.isLoop, if_neg Bool.false_ne_true]
      exact loops
  | startOver resets flash => exact .fresh coherent rfl rfl rfl rfl rfl _
  | enterRom resets flash =>
    rw [fed.flash] at flash
    cases flash

theorem run_fed (powerUp : PowerUp) (chip : σ) {done : List Event} (inTime : InTime done) :
    Fed (run (step efc) (boot efc powerUp chip) done) done := by
  induction done using List.reverseRecOn with
  | nil => exact .fresh coherent_boot rfl rfl rfl rfl rfl _
  | append_singleton done event inductionHypothesis =>
    rw [run_concat]
    exact step_fed efc event inTime (inductionHypothesis (inTime.earlier (List.prefix_append _ _)))

/-- What is never undone while the power is on -/
structure Lasting (f : Firmware σ) : Prop where
  wanted : f.reset = f.issued.contains .reset
  period : f.wdt ≤ 50
  rom : f.rom = true → f.gpnvm1 = false

theorem Stepped.lasting {f f' : Firmware σ} {event : Event} (stepped : Stepped efc f event f')
    (lasting : Lasting f) : Lasting f' := by
  cases stepped with
  | nothing => exact lasting
  | control status answers hears =>
    have performs := control_performs efc status answers f
    refine ⟨?_, performs.wdt ▸ lasting.period, fun rom => ?_⟩
    · rw [performs.reset, performs.issued, lasting.wanted, List.contains_append]
    · rw [performs.gpnvm1, lasting.rom (performs.rom ▸ rom), Bool.false_and]
  | busReset highSpeed hears => exact { lasting with }
  | peripheral event moves =>
    refine ⟨lasting.wanted, ?_, lasting.rom⟩
    show (if _ then 50 else f.wdt) ≤ 50
    split_ifs
    · exact le_rfl
    · exact lasting.period
  | count powerUp running left => exact ⟨lasting.wanted, (Nat.sub_le _ _).trans lasting.period, lasting.rom⟩
  | startOver resets flash => exact ⟨rfl, le_rfl, nofun⟩
  | enterRom resets flash => exact ⟨lasting.wanted, lasting.period, fun _ => flash⟩

theorem run_lasting (powerUp : PowerUp) (chip : σ) (events : List Event) :
    Lasting (run (step efc) (boot efc powerUp chip) events) :=
  (always_stepped (fun _ _ _ stepped => stepped.lasting efc) ⟨rfl, le_rfl, by simp [boot]⟩ events).last

/-- Nothing but request 0xBB clears the bit. -/
theorem Stepped.cleared {f f' : Firmware σ} {event : Event} (stepped : Stepped efc f event f')
    (flash : f.gpnvm1 = true) (cleared : f'.gpnvm1 = false) :
    ∃ status answers, event = .control status answers ∧ AsksBootLoader status ∧
      answers.cleared = true := by
  cases stepped with
  | control status answers hears =>
    have performs := control_performs efc status answers f
    rw [performs.gpnvm1, flash, Bool.true_and, Bool.not_eq_false'] at cleared
    exact ⟨status, answers, rfl, taken_clears efc cleared⟩
  | startOver resets flash => cases cleared
  | enterRom resets boot => rw [flash] at boot; cases boot
  | _ => rw [flash] at cleared; cases cleared

theorem run_cleared {events : List Event} {f : Firmware σ} (flash : f.gpnvm1 = true)
    (cleared : (run (step efc) f events).gpnvm1 = false) :
    ∃ status answers, .control status answers ∈ events ∧ AsksBootLoader status ∧
      answers.cleared = true := by
  induction events generalizing f with
  | nil =>
    rw [run_nil, flash] at cleared
    cases cleared
  | cons event events inductionHypothesis =>
    cases now : (step efc f event).gpnvm1 with
    | true =>
      obtain ⟨status, answers, member, asks⟩ := inductionHypothesis now cleared
      exact ⟨status, answers, List.mem_cons_of_mem _ member, asks⟩
    | false =>
      obtain ⟨status, answers, rfl, asks⟩ := (step_stepped efc f event).cleared efc flash now
      exact ⟨status, answers, List.mem_cons_self, asks⟩

def Event.isPowerCycle : Event → Bool
  | .powerCycle _ => true
  | .control .. | .busReset _ | .peripheral _ | .tick _ => false

/-- The way into the boot loader -/
structure Leaving (f : Firmware σ) : Prop where
  coherent : Coherent f.stream
  wanted : f.reset = true
  flash : f.gpnvm1 = false
  running : f.rom = false

/-- Until the watchdog finds its counter empty, nothing but its ticks matters to it, and the main loop
    comes closer to the statement that detaches the device. -/
theorem step_leaving {f : Firmware σ} (leaving : Leaving f) {event : Event}
    (powered : event.isPowerCycle = false) :
    (event.isTick = true ∧ f.wdt = 0 ∧ (step efc f event).rom = true) ∨
      (Leaving (step efc f event) ∧
        (step efc f event).wdt + (if event.isTick then 1 else 0) = f.wdt ∧
        (f.detached = true → (step efc f event).detached = true) ∧
        ((step efc f event).detached = true ∨
          (step efc f event).stream.pc.left + (if event.isLoop then 1 else 0) ≤ f.stream.pc.left)) := by
  have coherent : Coherent (step efc f event).stream :=
    (refines_stream efc).keeps f event leaving.coherent
  have stepped := step_stepped efc f event
  generalize step efc f event = f' at coherent stepped
  cases stepped with
  | nothing ignored =>
    right
    cases event with
    | tick powerUp => rw [ignores, leaving.running] at ignored; cases ignored
    | peripheral event =>
      have isLoop : event ≠ .loop := by
        rintro rfl
        rw [ignores, moves_loop leaving.running] at ignored
        cases ignored
      exact ⟨leaving, rfl, id, .inr (by simp [Event.isLoop, isLoop])⟩
    | powerCycle powerUp => cases powered
    | _ => exact ⟨leaving, rfl, id, .inr le_rfl⟩
  | control status answers hears =>
    have performs := control_performs efc status answers f
    refine .inr ⟨⟨coherent, ?_, ?_, performs.rom.trans leaving.running⟩, performs.wdt, ?_, .inr ?_⟩
    · rw [performs.reset, leaving.wanted, Bool.true_or]
    · rw [performs.gpnvm1, leaving.flash, Bool.false_and]
    · rw [performs.detached]
      exact id
    · rw [control_pc efc leaving.coherent]
      exact le_rfl
  | busReset highSpeed hears =>
    have pc : (M1k.step f.stream (.busReset highSpeed)).pc = f.stream.pc := step_pc _ (by simp)
    exact .inr ⟨{ leaving with coherent := coherent }, rfl, id, .inr (le_of_eq (congrArg MainPc.left pc))⟩
  | peripheral event moves =>
    have kept : (if f.endsPass event && !f.reset then 50 else f.wdt) = f.wdt := by
      simp [leaving.wanted]
    refine .inr ⟨{ leaving with coherent := coherent }, kept, fun already => by simp [already], ?_⟩
    by_cases isLoop : event = .loop
    · subst isLoop
      by_cases last : f.stream.pc = .watchdog
      · left
        simp [endsPass, last, leaving.wanted]
      · right
        exact mainLoop_left last
    · right
      have pc : (M1k.step f.stream event).pc = f.stream.pc := step_pc _ isLoop
      simp [Event.isLoop, isLoop, pc]
  | count powerUp running left =>
    have counted : f.wdt - 1 + 1 = f.wdt := Nat.sub_add_cancel (Nat.pos_of_ne_zero left)
    exact .inr ⟨{ leaving with coherent := coherent }, counted, id, .inr le_rfl⟩
  | startOver resets flash => rw [leaving.flash] at flash; cases flash
  | enterRom resets flash =>
    left
    cases event with
    | tick powerUp =>
      rw [Firmware.resets] at resets
      split_ifs at resets with expires
      exact ⟨rfl, expires.2, rfl⟩
    | powerCycle powerUp => cases powered
    | _ => cases resets

theorem run_rom {f : Firmware σ} (rom : f.rom = true) {events : List Event}
    (powered : ∀ event ∈ events, event.isPowerCycle = false) :
    (run (step efc) f events).rom = true := by
  induction events generalizing f with
  | nil => exact rom
  | cons event events inductionHypothesis =>
    have same : step efc f event = f := by
      cases event with
      | powerCycle powerUp => cases powered (.powerCycle powerUp) List.mem_cons_self
      | _ => simp [step, hears, moves, rom]
    rw [run_cons, same]
    exact inductionHypothesis rom fun later member => powered later (List.mem_cons_of_mem _ member)

theorem run_leaving {f : Firmware σ} (leaving : Leaving f) {events : List Event}
    (powered : ∀ event ∈ events, event.isPowerCycle = false) :
    (f.wdt < tickCount events → (run (step efc) f events).rom = true) ∧
      (tickCount events ≤ f.wdt → (run (step efc) f events).rom = false ∧
        ((run (step efc) f events).detached = true ∨
          (f.detached = false ∧ loopCount events ≤ f.stream.pc.left))) := by
  induction events generalizing f with
  | nil =>
    refine ⟨fun late => absurd late (Nat.not_lt_zero _), fun _ => ⟨leaving.running, ?_⟩⟩
    cases detached : f.detached with
    | true => exact .inl detached
    | false => exact .inr ⟨rfl, Nat.zero_le _⟩
  | cons event events inductionHypothesis =>
    have now := powered event List.mem_cons_self
    have later : ∀ event ∈ events, event.isPowerCycle = false := fun event member =>
      powered event (List.mem_cons_of_mem _ member)
    have ticks : tickCount (event :: events) = tickCount events + if event.isTick then 1 else 0 :=
      List.countP_cons
    have loops : loopCount (event :: events) = loopCount events + if event.isLoop then 1 else 0 :=
      List.countP_cons
    rw [run_cons, ticks, loops]
    obtain ⟨isTick, empty, rom⟩ | ⟨leaving', wdt, kept, moved⟩ := step_leaving efc leaving now
    · rw [isTick, if_pos rfl, empty]
      exact ⟨fun _ => run_rom efc rom later, fun early => absurd early (by omega)⟩
    · obtain ⟨late, early⟩ := inductionHypothesis leaving' later
      refine ⟨fun more => late (by omega), fun within => ?_⟩
      obtain ⟨running, detached | ⟨attached, few⟩⟩ := early (by omega)
      · exact ⟨running, .inl detached⟩
      · refine ⟨running, .inr ⟨?_, ?_⟩⟩
        · cases detached : f.detached with
          | false => rfl
          | true => rw [kept detached] at attached; cases attached
        · obtain detached | closer := moved
          · rw [detached] at attached
            cases attached
          · omega

/-- Request 0xBB -/
def bootLoaderRequest : List Event :=
  [.control { setup := some { req := ⟨0x40, 0xBB, 0, 0, 0⟩ } } {}]

end Firmware

end M1k
