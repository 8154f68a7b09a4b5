import M1k.Board.Requests

/-! # The mode of a channel and its pins

Three pins of port B switch a channel: its mode, its sense loop and its output.  `main` sets them up,
and `set_mode` keeps them with the variable that holds the mode, as long as no request for a pin by
its number is about one of them. -/

namespace M1k.Board

open Control (Command)

/-! ## Power-up -/

/-- The types of `pio_configure` that leave a pin with its PIO controller -/
inductive PioType where
  | input
  | output0
  | output1
  deriving DecidableEq

/-- `pio_configure`; bit 2 of the attributes is `PIO_OPENDRAIN`. -/
def pioConfigure (port : Nat) (type : PioType) (mask attributes : UInt32) : List Access :=
  match type with
  | .input => pioSetInput port mask attributes
  | .output0 => pioSetOutput port mask false (attributes &&& 4 != 0) (attributes &&& 1 != 0)
  | .output1 => pioSetOutput port mask true (attributes &&& 4 != 0) (attributes &&& 1 != 0)

/-- `get_hwversion` -/
def getHwversion : List Access :=
  pioSetInput 1 (Control.pin 21) 1 ++ pioSetInput 1 (Control.pin 22) 1 ++
    pioSetInput 1 (Control.pin 23) 1 ++ pioGetPinValue 53

/-- The LEDs in `init_hardware` -/
def initLeds (letter : UInt8) : List Access :=
  if letter = 68 then
    pioSetOutput 1 (Control.pin 15) true false false ++
      pioSetOutput 0 (Control.pin 29) false false false ++
      pioSetOutput 0 (Control.pin 28) true false false
  else
    pioSetOutput 0 (Control.pin 1) true false false ++
      pioSetOutput 0 (Control.pin 2) true false false ++
      pioSetOutput 0 (Control.pin 0) false false false

/-- `init_hardware`, for the pins that stay with their PIO controllers.  `letter` is `hwversion[0]`. -/
def initHardware (letter : UInt8) : List Access :=
  pioConfigure 0 .input 0x0F 0 ++ pioConfigure 0 .input 0xF0 0 ++ initLeds letter ++
    pioConfigure 1 .output1 (Control.pin 17) 0 ++
    pioConfigure 0 .output1 (Control.pin 15) 0 ++
    pioConfigure 0 .output1 nSync 0 ++
    pioConfigure 1 .output1 (Control.pin 19) 0 ++ pioConfigure 1 .output1 (Control.pin 20) 0 ++
    pioConfigure 1 .output1 (Control.pin 0) 0 ++ pioConfigure 1 .output1 (Control.pin 5) 0 ++
    pioConfigure 1 .output1 (Control.pin 1) 0 ++ pioConfigure 1 .output1 (Control.pin 6) 0 ++
    pioConfigure 1 .output0 (Control.pin 2) 0 ++ pioConfigure 1 .output0 (Control.pin 7) 0 ++
    pioConfigure 1 .output1 (Control.pin 3) 0 ++ pioConfigure 1 .output1 (Control.pin 8) 0 ++
    writeAd5663 0xFF 0xFFFF

/-- What `main` does to the board before its loop; `stack` is never read, as both channels are
    known. -/
def mainSetup (letter stack : UInt8) : List Access :=
  getHwversion ++ initHardware letter ++
    writeAd5663 0 (Dac.swap16 Dac.defDataI0Dac) ++ writeAd5663 1 (Dac.swap16 Dac.defDataI0Dac) ++
    writeAd5122 stack 0 0x30 0x40 ++ writeAd5122 stack 1 0x30 0x40

/-! ## The board -/

/-- The pins, and the variables `ma` and `mb`.  Of port A, the lines that a conversion or a sample
    moves are not followed. -/
structure Lines where
  pins : Pin → PinState
  modes : Chan → ChanMode

/-- The modes after an access -/
def Access.assign (modes : Chan → ChanMode) : Access → Chan → ChanMode
  | .mode chan m => fun c => if c = chan then m else modes c
  | .pio .. | .pinRead .. | .dac .. | .i2c .. => modes

def Lines.perform (lines : Lines) (accesses : List Access) : Lines where
  pins := performAll accesses lines.pins
  modes := accesses.foldl Access.assign lines.modes

/-- The board once `main` has set it up, whatever the pins were -/
def Lines.boot (letter stack : UInt8) (before : Pin → PinState) : Lines :=
  Lines.perform ⟨before, fun _ => .disabled⟩ (mainSetup letter stack)

/-! ## What the pins show -/

/-- The levels of the pins of a channel in a mode: a low output pin connects the output. -/
def ChanMode.levels : ChanMode → List Bool
  | .disabled => [true, false, true]
  | .svmi => [false, false, false]
  | .simv => [true, false, false]

/-- The pins of a channel are driven, and have the levels of its mode. -/
def Lines.Shows (lines : Lines) (chan : Chan) : Prop :=
  ((switchPins chan).map fun p => (lines.pins p).level) = (lines.modes chan).levels ∧
    ∀ p ∈ switchPins chan, (lines.pins p).pio = true ∧ (lines.pins p).output = true

/-- The mask of the command has the pin. -/
def Selects (p : Pin) : Command → Bool
  | .pioSetOutput portB mask _ | .pioSetInput portB mask =>
    p.port == portOf portB && mask.toNat.testBit p.bit
  | _ => false

/-- The command configures one of the pins of a channel by its number. -/
def Disturbs (chan : Chan) (command : Command) : Bool := (switchPins chan).any (Selects · command)

/-! ## The writes that reach a pin -/

/-- The register that an access writes for a pin -/
def Access.reaches (p : Pin) : Access → Option PioRegister
  | .pio port register mask =>
    if p.port = port ∧ mask.toNat.testBit p.bit = true then some register else none
  | .pinRead .. | .mode .. | .dac .. | .i2c .. => none

/-- A pin sees the writes that reach it, in their order, and nothing else. -/
theorem performAll_reaching (accesses : List Access) (pins : Pin → PinState) (p : Pin) :
    performAll accesses pins p =
      (accesses.filterMap (Access.reaches p)).foldl (fun state register => register.write state)
        (pins p) := by
  induction accesses generalizing pins with
  | nil => rfl
  | cons access accesses inductionHypothesis =>
    have later := inductionHypothesis (access.perform pins)
    rw [performAll, List.foldl_cons]
    refine later.trans ?_
    cases access with
    | pio port register mask =>
      by_cases reached : p.port = port ∧ mask.toNat.testBit p.bit = true
      · have now : (Access.pio port register mask).perform pins p = register.write (pins p) :=
          if_pos reached
        have reaches : Access.reaches p (.pio port register mask) = some register := if_pos reached
        rw [now, List.filterMap_cons_some reaches, List.foldl_cons]
      · have now : (Access.pio port register mask).perform pins p = pins p := if_neg reached
        have misses : Access.reaches p (.pio port register mask) = none := if_neg reached
        rw [now, List.filterMap_cons_none misses]
    | pinRead port bit => rfl
    | mode chan m => rfl
    | dac conf data => rfl
    | i2c chip register value => rfl

theorem Lines.perform_unreached {accesses : List Access} {p : Pin}
    (unreached : accesses.filterMap (Access.reaches p) = []) (lines : Lines) :
    (lines.perform accesses).pins p = lines.pins p := by
  show performAll accesses lines.pins p = _
  rw [performAll_reaching, unreached]
  rfl

/-- Accesses without an assignment leave the modes. -/
theorem Lines.perform_modes {accesses : List Access}
    (silent : ∀ access ∈ accesses, ∀ chan m, access ≠ .mode chan m) (lines : Lines) :
    (lines.perform accesses).modes = lines.modes := by
  show accesses.foldl Access.assign lines.modes = lines.modes
  induction accesses with
  | nil => rfl
  | cons access accesses inductionHypothesis =>
    have now : access.assign lines.modes = lines.modes := by
      cases access with
      | mode chan m => exact absurd rfl (silent _ List.mem_cons_self chan m)
      | pio port register mask => rfl
      | pinRead port bit => rfl
      | dac conf data => rfl
      | i2c chip register value => rfl
    rw [List.foldl_cons, now]
    exact inductionHypothesis fun other member => silent other (List.mem_cons_of_mem _ member)

/-- Where no access reaches the pins of a channel or assigns its mode, they still show it. -/
theorem Lines.Shows.kept {lines : Lines} {chan : Chan} {accesses : List Access}
    (shows : lines.Shows chan)
    (unreached : ∀ p ∈ switchPins chan, accesses.filterMap (Access.reaches p) = [])
    (mode : (lines.perform accesses).modes chan = lines.modes chan) :
    (lines.perform accesses).Shows chan := by
  have same (p : Pin) (member : p ∈ switchPins chan) :
      (lines.perform accesses).pins p = lines.pins p := Lines.perform_unreached (unreached p member) lines
  constructor
  · rw [mode, ← shows.1]
    exact List.map_congr_left fun p member => by rw [same p member]
  · intro p member
    rw [same p member]
    exact shows.2 p member

/-! ## Power-up -/

/-- There are two kinds of board. -/
theorem mainSetup_kinds (letter stack : UInt8) :
    ∃ kind : UInt8, (kind = 68 ∨ kind = 70) ∧ mainSetup letter stack = mainSetup kind stack := by
  by_cases red : letter = 68
  · exact ⟨letter, .inl red, rfl⟩
  · have leds : initLeds letter = initLeds 70 := by rw [initLeds, if_neg red]; rfl
    refine ⟨70, .inr rfl, ?_⟩
    rw [mainSetup, initHardware, leds]
    rfl

/-- On both, the pins of a channel become outputs, at the levels of a disabled channel. -/
theorem mainSetup_reaches (letter stack : UInt8) (chan : Chan) :
    ((switchPins chan).map fun p => (mainSetup letter stack).filterMap (Access.reaches p)) =
      ChanMode.disabled.levels.map outputRegisters := by
  obtain ⟨kind, kinds, same⟩ := mainSetup_kinds letter stack
  rw [same]
  -- the potentiometers are not on the pins
  have potentiometers (p : Pin) : (writeAd5122 stack 0 0x30 0x40 ++
      writeAd5122 stack 1 0x30 0x40).filterMap (Access.reaches p) = [] := rfl
  have rest (p : Pin) : (mainSetup kind stack).filterMap (Access.reaches p) =
      (getHwversion ++ initHardware kind ++ writeAd5663 0 (Dac.swap16 Dac.defDataI0Dac) ++
        writeAd5663 1 (Dac.swap16 Dac.defDataI0Dac)).filterMap (Access.reaches p) := by
    rw [mainSetup, List.append_assoc, List.filterMap_append, potentiometers, List.append_nil]
  simp only [rest]
  obtain rfl | rfl := kinds
  · cases chan with
    | A => decide +kernel
    | B => decide +kernel
  · cases chan with
    | A => decide +kernel
    | B => decide +kernel

theorem boot_modes (letter stack : UInt8) (before : Pin → PinState) (chan : Chan) :
    (Lines.boot letter stack before).modes chan = .disabled := by
  obtain ⟨kind, kinds, same⟩ := mainSetup_kinds letter stack
  rw [Lines.boot, same]
  obtain rfl | rfl := kinds
  · rfl
  · rfl

/-- Where the same kind of writes reaches each pin of a channel, for its level in a mode, the channel
    shows the mode. -/
theorem Lines.perform_writes {accesses : List Access} (lines : Lines) {writes : Bool → List PioRegister}
    {pins : List Pin} {levels : List Bool}
    (reached : (pins.map fun p => accesses.filterMap (Access.reaches p)) = levels.map writes)
    (sets : ∀ p ∈ pins, ∀ level,
      let after := (writes level).foldl (fun state register => register.write state) (lines.pins p)
      after.level = level ∧ after.pio = true ∧ after.output = true) :
    (pins.map fun p => ((lines.perform accesses).pins p).level) = levels ∧
      ∀ p ∈ pins, ((lines.perform accesses).pins p).pio = true ∧
        ((lines.perform accesses).pins p).output = true := by
  induction pins generalizing levels with
  | nil =>
    cases levels with
    | nil => simp
    | cons level levels => cases reached
  | cons p pins inductionHypothesis =>
    cases levels with
    | nil => cases reached
    | cons level levels =>
      simp only [List.map_cons, List.cons.injEq] at reached ⊢
      obtain ⟨areLevels, allDriven⟩ := inductionHypothesis reached.2 fun other member =>
        sets other (List.mem_cons_of_mem _ member)
      obtain ⟨isLevel, driven⟩ := sets p List.mem_cons_self level
      have after : (lines.perform accesses).pins p =
          (writes level).foldl (fun state register => register.write state) (lines.pins p) := by
        rw [← reached.1]
        exact performAll_reaching accesses lines.pins p
      rw [← after] at isLevel driven
      exact ⟨⟨isLevel, areLevels⟩, List.forall_mem_cons.mpr ⟨driven, allDriven⟩⟩

theorem boot_shows (letter stack : UInt8) (before : Pin → PinState) (chan : Chan) :
    (Lines.boot letter stack before).Shows chan := by
  obtain ⟨levels, driven⟩ := Lines.perform_writes ⟨before, fun _ => .disabled⟩
    (mainSetup_reaches letter stack chan) fun p _ level => by
      cases level with
      | false => exact ⟨rfl, rfl, rfl⟩
      | true => exact ⟨rfl, rfl, rfl⟩
  refine ⟨?_, driven⟩
  rw [boot_modes]
  exact levels

/-! ## Commands -/

/-- What `set_mode` writes for a pin: it stays an input or an output. -/
def levelRegisters (level : Bool) : List PioRegister := [if level then .sodr else .codr]

/-- The case of `set_mode` for a channel -/
def switchesOf : Chan → Switches
  | .A => switchesA
  | .B => switchesB

theorem namedMode_none {n : Nat} (unnamed : namedMode n = none) : 3 ≤ n := by
  by_contra small
  obtain ⟨mode, isMode⟩ := namedMode_some (Nat.not_le.mp small)
  rw [unnamed] at isMode
  cases isMode

theorem namedMode_value {m : UInt32} {mode : ChanMode} (named : namedMode m.toNat = some mode) :
    (m = 0 ∧ mode = .disabled) ∨ (m = 1 ∧ mode = .svmi) ∨ (m = 2 ∧ mode = .simv) := by
  unfold namedMode at named
  split at named
  case h_1 value =>
    cases named
    exact .inl ⟨UInt32.toNat_inj.mp value, rfl⟩
  case h_2 value =>
    cases named
    exact .inr (.inl ⟨UInt32.toNat_inj.mp value, rfl⟩)
  case h_3 value =>
    cases named
    exact .inr (.inr ⟨UInt32.toNat_inj.mp value, rfl⟩)
  case h_4 => cases named

/-- A case of `set_mode` writes the levels of the mode to the pins of its channel, assigns it, and
    leaves the other channel alone. -/
theorem setChannelMode_writes (chan : Chan) {m : UInt32} {mode : ChanMode}
    (named : namedMode m.toNat = some mode) :
    ((switchPins chan).map fun p => (setChannelMode (switchesOf chan) m).filterMap (Access.reaches p)) =
        mode.levels.map levelRegisters ∧
      (∀ other, other ≠ chan → ∀ p ∈ switchPins other,
        (setChannelMode (switchesOf chan) m).filterMap (Access.reaches p) = []) ∧
      ∀ modes c, (setChannelMode (switchesOf chan) m).foldl Access.assign modes c =
        if c = chan then mode else modes c := by
  have others : (∀ other, other ≠ chan → ∀ p ∈ switchPins other,
      (setChannelMode (switchesOf chan) m).filterMap (Access.reaches p) = []) := by
    intro other different
    cases other with
    | A =>
      cases chan with
      | A => exact absurd rfl different
      | B => obtain ⟨rfl, -⟩ | ⟨rfl, -⟩ | ⟨rfl, -⟩ := namedMode_value named <;> decide +kernel
    | B =>
      cases chan with
      | A => obtain ⟨rfl, -⟩ | ⟨rfl, -⟩ | ⟨rfl, -⟩ := namedMode_value named <;> decide +kernel
      | B => exact absurd rfl different
  refine ⟨?_, others, ?_⟩
  · cases chan with
    | A => obtain ⟨rfl, rfl⟩ | ⟨rfl, rfl⟩ | ⟨rfl, rfl⟩ := namedMode_value named <;> decide +kernel
    | B => obtain ⟨rfl, rfl⟩ | ⟨rfl, rfl⟩ | ⟨rfl, rfl⟩ := namedMode_value named <;> decide +kernel
  · intro modes c
    cases chan with
    | A => obtain ⟨rfl, rfl⟩ | ⟨rfl, rfl⟩ | ⟨rfl, rfl⟩ := namedMode_value named <;> rfl
    | B => obtain ⟨rfl, rfl⟩ | ⟨rfl, rfl⟩ | ⟨rfl, rfl⟩ := namedMode_value named <;> rfl

theorem setChannelMode_shows {lines : Lines} {chan : Chan} (shows : lines.Shows chan)
    (switched : Chan) (m : UInt32) :
    (lines.perform (setChannelMode (switchesOf switched) m)).Shows chan := by
  cases named : namedMode m.toNat with
  | none =>
    rw [setChannelMode_other _ (namedMode_none named)]
    exact shows
  | some mode =>
    obtain ⟨writes, others, assigns⟩ := setChannelMode_writes switched named
    by_cases same : chan = switched
    · subst same
      have sets : ∀ p ∈ switchPins chan, ∀ level,
          let after := (levelRegisters level).foldl (fun state register => register.write state)
            (lines.pins p)
          after.level = level ∧ after.pio = true ∧ after.output = true := by
        intro p member level
        obtain ⟨pio, output⟩ := shows.2 p member
        cases level with
        | false => exact ⟨rfl, pio, output⟩
        | true => exact ⟨rfl, pio, output⟩
      obtain ⟨levels, driven⟩ := lines.perform_writes writes sets
      have assigned := assigns lines.modes chan
      rw [if_pos rfl] at assigned
      exact ⟨levels.trans (congrArg ChanMode.levels assigned).symm, driven⟩
    · have assigned := assigns lines.modes chan
      rw [if_neg same] at assigned
      exact shows.kept (others chan same) assigned

/-- Writes with a mask that does not have a pin do not reach it. -/
theorem registers_unreached {p : Pin} {port : Nat} {mask : UInt32}
    (misses : (p.port == port && mask.toNat.testBit p.bit) = false) (registers : List PioRegister) :
    (registers.map fun register => Access.pio port register mask).filterMap (Access.reaches p) = [] := by
  have missed : ¬ (p.port = port ∧ mask.toNat.testBit p.bit = true) := by
    rintro ⟨samePort, inMask⟩
    rw [inMask, Bool.and_true, beq_eq_false_iff_ne] at misses
    exact misses samePort
  rw [List.filterMap_eq_nil_iff]
  intro access member
  obtain ⟨register, -, rfl⟩ := List.mem_map.mp member
  exact if_neg missed

/-- Writes to registers assign no mode. -/
theorem registers_modes (port : Nat) (mask : UInt32) (registers : List PioRegister) (lines : Lines) :
    (lines.perform (registers.map fun register => Access.pio port register mask)).modes =
      lines.modes := by
  apply Lines.perform_modes
  intro access member chan m same
  obtain ⟨register, -, isPio⟩ := List.mem_map.mp member
  rw [same] at isPio
  cases isPio

/-- The modes once a command has been done -/
def modeAfter (modes : Chan → ChanMode) : Command → Chan → ChanMode
  | .setMode chan m => fun c =>
    if namedChan chan.toNat = some c then (namedMode m.toNat).getD (modes c) else modes c
  | _ => modes

theorem setChannelMode_modes (lines : Lines) (chan : Chan) (m : UInt32) (c : Chan) :
    (lines.perform (setChannelMode (switchesOf chan) m)).modes c =
      if chan = c then (namedMode m.toNat).getD (lines.modes c) else lines.modes c := by
  cases named : namedMode m.toNat with
  | none =>
    rw [setChannelMode_other _ (namedMode_none named), Option.getD_none, ite_self]
    rfl
  | some mode =>
    obtain ⟨-, -, assigns⟩ := setChannelMode_writes chan named
    rw [Option.getD_some]
    have assigned : (lines.perform (setChannelMode (switchesOf chan) m)).modes c =
        if c = chan then mode else lines.modes c := assigns lines.modes c
    rw [assigned]
    exact if_congr eq_comm rfl rfl

theorem command_modes (lines : Lines) (stack : UInt8) (command : Command) :
    (lines.perform (accesses stack command)).modes = modeAfter lines.modes command := by
  cases command with
  | pioSetOutput portB mask high => rw [accesses, pioSetOutput_eq, registers_modes]; rfl
  | pioSetInput portB mask => rw [accesses, pioSetInput_eq, registers_modes]; rfl
  | setMode chan m =>
    funext c
    have value : m.toUInt32.toNat = m.toNat := UInt16.toNat_toUInt32 m
    have number : chan.toUInt32.toNat = chan.toNat := UInt16.toNat_toUInt32 chan
    rw [accesses, setMode, number, modeAfter, ← value]
    obtain first | second | ⟨n, other⟩ :
        chan.toNat = 0 ∨ chan.toNat = 1 ∨ ∃ n, chan.toNat = n + 2 := by
      by_cases two : 2 ≤ chan.toNat
      · exact .inr (.inr ⟨chan.toNat - 2, (Nat.sub_add_cancel two).symm⟩)
      · omega
    · rw [first, show namedChan 0 = some .A from rfl]
      simp only [Option.some_inj]
      exact setChannelMode_modes lines .A m.toUInt32 c
    · rw [second, show namedChan 1 = some .B from rfl]
      simp only [Option.some_inj]
      exact setChannelMode_modes lines .B m.toUInt32 c
    · rw [other]
      rfl
  | writeAd5122 ch r1 r2 => rfl
  | _ => rfl

/-- Whatever a request commands, a channel goes on showing its mode unless the command configures one
    of its pins by number. -/
theorem command_shows {lines : Lines} {chan : Chan} (shows : lines.Shows chan) (stack : UInt8)
    {command : Command} (undisturbed : Disturbs chan command = false) :
    (lines.perform (accesses stack command)).Shows chan := by
  have unselected : ∀ p ∈ switchPins chan, Selects p command = false := by
    intro p member
    exact Bool.eq_false_of_not_eq_true fun selects =>
      Bool.eq_false_iff.mp undisturbed (List.any_eq_true.mpr ⟨p, member, selects⟩)
  cases command with
  | pioSetOutput portB mask high =>
    rw [accesses, pioSetOutput_eq]
    exact shows.kept (fun p member => registers_unreached (unselected p member) _)
      (by rw [registers_modes])
  | pioSetInput portB mask =>
    rw [accesses, pioSetInput_eq]
    exact shows.kept (fun p member => registers_unreached (unselected p member) _)
      (by rw [registers_modes])
  | setMode switched m =>
    rw [accesses, setMode]
    split
    · exact setChannelMode_shows shows .A _
    · exact setChannelMode_shows shows .B _
    · exact shows
  | writeAd5122 ch r1 r2 => exact shows.kept (fun p _ => rfl) rfl
  | twiMasterRead chip length => exact shows
  | v1AdcConf value => exact shows
  | i1AdcConf value => exact shows
  | v2AdcConf value => exact shows
  | i2AdcConf value => exact shows
  | da value => exact shows
  | db value => exact shows
  | flashClearGpnvm bit => exact shows
  | reset => exact shows
  | configHardware => exact shows
  | sampling wValue wIndex => exact shows

end M1k.Board
