import M1k.Control.Stages
import M1k.Control.MemorySafety

/-! # Writes of the table, all or nothing

Requests 0x02 and 0x05 receive their data straight into `flash_table`, and `store_flash_table`
is called at whatever end the request comes to.  As long as no data stage is cut short, a store
takes place only when all the data has come, and a request that is given up before its first
byte leaves the table and its page as they were. -/

namespace M1k.Control

open Library Library.Runs

variable {σ : Type*}

/-! ## What a trace says about the requests -/

/-- The last request of a trace: the table when it came, and the bytes received for it. -/
structure Current where
  req : SetupReq
  table : Table
  received : Nat

def follow (current : Option Current) : Obs → Option Current
  | .setup req table _ => some ⟨req, table, 0⟩
  | .received _ bytes => current.map fun c => { c with received := c.received + bytes.length }
  | .command _ | .sent _ _ | .zlpIn | .stall | .stored => current

def current (trace : List Obs) : Option Current := trace.foldl follow none

@[simp] theorem current_nil : current [] = none := rfl

theorem current_concat (trace : List Obs) (o : Obs) :
    current (trace ++ [o]) = follow (current trace) o := by
  simp [current]

theorem current_commands (trace : List Obs) (commands : List Command) :
    current (trace ++ commands.map .command) = current trace := by
  induction commands generalizing trace with
  | nil => simp
  | cons command commands ih =>
    have split : trace ++ (command :: commands).map Obs.command =
        trace ++ [.command command] ++ commands.map .command := by simp
    rw [split, ih, current_concat, follow]

/-- A store takes place only when all the data of an OUT request has come, and when the next
    request comes after one whose data has not, the table and its page are as before it. -/
structure AllOrNothing (trace : List Obs) : Prop where
  complete : ∀ earlier, earlier ++ [.stored] <+: trace →
    ∃ c, current earlier = some c ∧ c.req.writesTable = true ∧ c.req.isIn = false ∧
      c.received = c.req.wLength.toNat
  kept : ∀ earlier req table page, earlier ++ [.setup req table page] <+: trace →
    ∀ c, current earlier = some c → c.req.writesTable = true →
      c.received < c.req.wLength.toNat → table = c.table ∧ page = c.table

theorem allOrNothing_nil : AllOrNothing [] where
  complete earlier isPrefix := by simp at isPrefix
  kept earlier _ _ _ isPrefix := by simp at isPrefix

theorem allOrNothing_stored {trace : List Obs} (good : AllOrNothing trace) {c : Current}
    (found : current trace = some c) (writes : c.req.writesTable = true) (out : c.req.isIn = false)
    (all : c.received = c.req.wLength.toNat) : AllOrNothing (trace ++ [.stored]) where
  complete earlier isPrefix := by
    cases List.prefix_concat_iff.mp isPrefix with
    | inl whole =>
      rw [(List.append_inj' whole rfl).1]
      exact ⟨c, found, writes, out, all⟩
    | inr before => exact good.complete earlier before
  kept earlier req table page isPrefix := by
    cases List.prefix_concat_iff.mp isPrefix with
    | inl whole => cases (List.append_inj' whole rfl).2
    | inr before => exact good.kept earlier req table page before

theorem allOrNothing_setup {trace : List Obs} (good : AllOrNothing trace) {req : SetupReq}
    {table page : Table} (kept : ∀ c, current trace = some c → c.req.writesTable = true →
      c.received < c.req.wLength.toNat → table = c.table ∧ page = c.table) :
    AllOrNothing (trace ++ [.setup req table page]) where
  complete earlier isPrefix := by
    cases List.prefix_concat_iff.mp isPrefix with
    | inl whole => cases (List.append_inj' whole rfl).2
    | inr before => exact good.complete earlier before
  kept earlier req' table' page' isPrefix := by
    cases List.prefix_concat_iff.mp isPrefix with
    | inl whole =>
      obtain ⟨same, last⟩ := List.append_inj' whole rfl
      cases last
      rw [same]
      exact kept
    | inr before => exact good.kept earlier req' table' page' before

/-- What is neither a store nor a request makes no difference. -/
theorem allOrNothing_other {trace : List Obs} (good : AllOrNothing trace) {o : Obs}
    (noStore : o ≠ .stored) (noSetup : ∀ req table page, o ≠ .setup req table page) :
    AllOrNothing (trace ++ [o]) where
  complete earlier isPrefix := by
    cases List.prefix_concat_iff.mp isPrefix with
    | inl whole => cases (List.append_inj' whole rfl).2; contradiction
    | inr before => exact good.complete earlier before
  kept earlier req table page isPrefix := by
    cases List.prefix_concat_iff.mp isPrefix with
    | inl whole =>
      obtain ⟨-, last⟩ := List.append_inj' whole rfl
      cases last
      exact absurd rfl (noSetup req table page)
    | inr before => exact good.kept earlier req table page before

theorem allOrNothing_commands {trace : List Obs} (good : AllOrNothing trace)
    (commands : List Command) : AllOrNothing (trace ++ commands.map .command) := by
  induction commands generalizing trace with
  | nil => simpa using good
  | cons command commands ih =>
    have split : trace ++ (command :: commands).map Obs.command =
        trace ++ [.command command] ++ commands.map .command := by simp
    rw [split]
    exact ih (allOrNothing_other good (by simp) (by simp))

/-! ## Data stages that are not cut short -/

/-- A write of the table is under way. -/
def Device.Writing (d : Device σ) : Prop := d.ctrlreq.callback = some .storeFlashTable

/-- A request that keeps to its array, and whose direction is the one it is meant for. -/
structure WellMeant (r : SetupReq) (mem : Memory) : Prop where
  inBounds : InBounds r mem
  write : r.writesTable = true → r.isIn = false
  read : r.isVendor = true → r.bRequest = 0x01 → r.isIn = true ∨ r.wLength = 0

/-- The event does not cut a write of the table short: in the data stage come full packets until
    all the data is there, no IN token and no request, and no reset after the first byte; then
    comes the status stage. -/
def Uncut (d : Device σ) : Event → Prop
  | .reboot _ => True
  | .reset => d.Writing → d.ctrlreq.req.wLength = 0 ∨ d.state = .dataOut ∧ d.payloadBufCnt = 0
  | .control status =>
    match status.setup with
    | some packet => ¬ (d.Writing ∧ d.state = .dataOut) ∧ WellMeant packet.req d.mem
    | none =>
      (d.Writing → d.state = .dataOut → match status.out with
        | some packet =>
          packet.length = 64 ∨ d.ctrlreq.req.wLength.toNat ≤ d.payloadBufCnt + packet.length
        | none => status.nakIn = true → status.nakOut = true ∨ status.outNow = true) ∧
      (d.Writing → d.state ≠ .dataOut →
        d.ctrlreq.req.wLength = 0 ∨ status.out = none ∨
          status.inSent = true ∧ d.inSendInterrupt = true)

/-! ## The invariant -/

/-- The data stage of a write. -/
structure Receiving (d : Device σ) (c : Current) : Prop where
  state : d.state = .dataOut
  object : d.ctrlreq.payload.object = .flashTable
  size : d.ctrlreq.payloadSize = c.req.wLength.toNat
  prev : d.prevPayloadBufCnt = 0
  count : d.payloadBufCnt = c.received
  more : c.received < c.req.wLength.toNat

/-- A write of the table under way: its data is coming, or has all come. -/
structure Write (d : Device σ) (c : Current) : Prop where
  current : current d.trace = some c
  req : d.ctrlreq.req = c.req
  writes : c.req.writesTable = true
  out : c.req.isIn = false
  stage : Receiving d c ∨ d.state = .handshakeWaitInZlp ∧ c.received = c.req.wLength.toNat

structure WriteInv (efc : Efc σ) (d : Device σ) : Prop where
  good : AllOrNothing d.trace
  quiet : d.state = .setup ∨ d.state = .dataOut → d.inSendInterrupt = false
  write : d.Writing → ∃ c, Write d c
  other : ¬ d.Writing → d.state = .dataOut →
    (d.ctrlreq.payloadSize = 0 ∨ d.ctrlreq.payload.object ≠ .flashTable) ∧
      d.payloadBufCnt ≤ d.ctrlreq.payloadSize ∧ d.ctrlreq.payloadSize < 65536
  /-- The table and its page agree, except for the data of a write under way. -/
  agree : (∀ c, Write d c → d.Writing → c.received = 0) → d.table = d.page efc
  kept : ∀ c, current d.trace = some c → c.req.writesTable = true →
    c.received < c.req.wLength.toNat → d.page efc = c.table

/-- What holds when no write is under way. -/
structure Settled (efc : Efc σ) (d : Device σ) : Prop where
  good : AllOrNothing d.trace
  callback : ¬ d.Writing
  agree : d.table = d.page efc
  kept : ∀ c, current d.trace = some c → c.req.writesTable = true →
    c.received < c.req.wLength.toNat → d.page efc = c.table

theorem WriteInv.settled {efc : Efc σ} {d : Device σ} (inv : WriteInv efc d)
    (callback : ¬ d.Writing) : Settled efc d where
  good := inv.good
  callback := callback
  agree := inv.agree fun _ _ writing => absurd writing callback
  kept := inv.kept

theorem Settled.inv {efc : Efc σ} {d : Device σ} (settled : Settled efc d)
    (quiet : d.state = .setup ∨ d.state = .dataOut → d.inSendInterrupt = false)
    (other : d.state = .dataOut →
      (d.ctrlreq.payloadSize = 0 ∨ d.ctrlreq.payload.object ≠ .flashTable) ∧
        d.payloadBufCnt ≤ d.ctrlreq.payloadSize ∧ d.ctrlreq.payloadSize < 65536) :
    WriteInv efc d where
  good := settled.good
  quiet := quiet
  write writing := absurd writing settled.callback
  other _ := other
  agree _ := settled.agree
  kept := settled.kept

/-- Something else than a store, a request or data is seen on the bus. -/
theorem Settled.observe {efc : Efc σ} {d : Device σ} (settled : Settled efc d) {o : Obs}
    (noStore : o ≠ .stored) (noSetup : ∀ req table page, o ≠ .setup req table page)
    (sameRequest : follow (current d.trace) o = current d.trace) :
    Settled efc (d.observe [o]) where
  good := allOrNothing_other settled.good noStore noSetup
  callback := settled.callback
  agree := settled.agree
  kept c found := by
    rw [Device.observe, current_concat, sameRequest] at found
    exact settled.kept c found

theorem table_congr {d d' : Device σ} (same : d'.mem .flashTable = d.mem .flashTable) :
    d'.table = d.table :=
  funext fun i => congrFun same i

theorem page_congr (efc : Efc σ) {d d' : Device σ} (same : d'.chip = d.chip) :
    d'.page efc = d.page efc := by
  unfold Device.page; rw [same]

/-- The variables of the endpoint make no difference. -/
theorem Settled.of_eq {efc : Efc σ} {d d' : Device σ} (settled : Settled efc d)
    (trace : d'.trace = d.trace) (callback : ¬ d'.Writing)
    (table : d'.mem .flashTable = d.mem .flashTable) (chip : d'.chip = d.chip) :
    Settled efc d' where
  good := by rw [trace]; exact settled.good
  callback := callback
  agree := by rw [table_congr table, page_congr efc chip]; exact settled.agree
  kept := by rw [trace, page_congr efc chip]; exact settled.kept

/-! ## The end of a request -/

section Steps

variable {efc : Efc σ} {uid : Nat → UInt32} (reliable : efc.Reliable uid) {d : Device σ}

include reliable in
/-- After a store the page holds the table. -/
theorem page_stored (table : Nat → UInt8) (serial : Nat → UInt8) (chip : σ) (i : Fin 256) :
    efc.byte (storeFlashTable efc table serial chip).2 (flashTableBase + i) = table i := by
  have inside := Bytes.put_inside (efc.byte chip) flashTableBase (Bytes.slice table 0 256) i
    (by rw [Bytes.slice_length]; exact i.isLt)
  rw [(reliable.storeFlashTable_spec table serial chip).1, inside, Bytes.slice_getElem, Nat.zero_add]

theorem settled_ctrlInit (settled : Settled efc d) : Settled efc (ctrlInit d) :=
  settled.of_eq rfl (by simp [Device.Writing, ctrlInit]) rfl rfl

include reliable in
/-- The end of a request whose data stage is not under way: a write whose data has come is stored. -/
theorem settled_endofrequest (inv : WriteInv efc d) (ended : ¬ (d.Writing ∧ d.state = .dataOut)) :
    Settled efc (ctrlInit (endofrequest efc d)) := by
  by_cases writing : d.Writing
  · obtain ⟨c, write⟩ := inv.write writing
    have all : c.received = c.req.wLength.toNat := by
      cases write.stage with
      | inl receiving => exact absurd ⟨writing, receiving.state⟩ ended
      | inr received => exact received.2
    rw [endofrequest_store efc writing]
    exact {
      good := allOrNothing_stored inv.good write.current write.writes write.out all
      callback := by simp [Device.Writing, ctrlInit]
      agree := by
        funext i
        simp only [Device.table, Device.page, ctrlInit]
        rw [Function.update_of_ne (by decide), page_stored reliable]
      kept := by
        intro c' found _ short
        simp only [ctrlInit] at found
        rw [current_concat, follow, write.current] at found
        cases found
        omega }
  · rw [endofrequest_other efc writing]
    exact settled_ctrlInit (inv.settled writing)

/-- A write given up before its first byte. -/
theorem settled_drop (inv : WriteInv efc d)
    (nothing : ∀ c, Write d c → d.Writing → c.received = 0) : Settled efc (ctrlInit d) where
  good := inv.good
  callback := by simp [Device.Writing, ctrlInit]
  agree := inv.agree nothing
  kept := inv.kept

theorem received_zero (uncut : d.ctrlreq.req.wLength = 0 ∨ d.state = .dataOut ∧ d.payloadBufCnt = 0)
    {c : Current} (write : Write d c) : c.received = 0 := by
  cases write.stage with
  | inl receiving =>
    cases uncut with
    | inl none =>
      have more := receiving.more
      rw [← write.req, none] at more
      exact absurd more (Nat.not_lt_zero _)
    | inr first => rw [← receiving.count, first.2]
  | inr received =>
    cases uncut with
    | inl none => rw [received.2, ← write.req, none]; rfl
    | inr first => rw [received.1] at first; cases first.1

/-! ## The data stages -/

theorem settled_sendZlpIn (settled : Settled efc d) : Settled efc (sendZlpIn d) := by
  have waiting : Settled efc { d with state := .handshakeWaitInZlp, inSendInterrupt := true } :=
    settled.of_eq rfl settled.callback rfl rfl
  exact waiting.observe (by simp) (by simp) rfl

theorem settled_stallData (settled : Settled efc d) : Settled efc (stallData d) := by
  have stalled : Settled efc { d with state := .stallReq } :=
    settled.of_eq rfl settled.callback rfl rfl
  exact stalled.observe (by simp) (by simp) rfl

theorem settled_sendNext (settled : Settled efc d) (outNow : Bool) (remain : Nat) :
    Settled efc (sendNext outNow remain d) := by
  cases outNow with
  | true =>
    rw [sendNext_aborted]
    exact settled.of_eq rfl settled.callback rfl rfl
  | false =>
    rw [sendNext_sent]
    exact (settled.observe (by simp) (by simp) rfl).of_eq
      (d := d.observe [.sent (d.ctrlreq.payload.add d.payloadBufCnt)
        (d.mem.slice (d.ctrlreq.payload.add d.payloadBufCnt) (min remain 64))])
      rfl settled.callback rfl rfl

/-- A packet of a reply has gone out. -/
theorem settled_inSent (settled : Settled efc d) (noHandshake : d.state ≠ .handshakeWaitInZlp)
    (outNow : Bool) : Settled efc (inSent efc outNow d) := by
  rw [inSent_data efc outNow noHandshake]
  split_ifs
  · exact settled.of_eq rfl settled.callback rfl rfl
  · apply settled_sendNext
    exact settled.of_eq rfl settled.callback rfl rfl
  · apply settled_sendNext
    exact settled.of_eq rfl settled.callback rfl rfl

include reliable in
theorem inv_inSent (inv : WriteInv efc d) (pending : d.inSendInterrupt = true) (outNow : Bool) :
    WriteInv efc (inSent efc outNow d) := by
  have stage : d.state ≠ .setup ∧ d.state ≠ .dataOut := by
    constructor <;> intro at_ <;> simpa [pending] using inv.quiet (by simp [at_])
  by_cases handshake : d.state = .handshakeWaitInZlp
  · -- the status stage of an OUT request has gone out, and the callback follows
    rw [inSent_handshake efc outNow handshake]
    apply Settled.inv (settled_endofrequest reliable inv fun both => stage.2 both.2)
    · exact fun _ => rfl
    · simp [ctrlInit]
  · -- in a data stage no write is under way: a write sends nothing before its status
    have callback : ¬ d.Writing := by
      intro writing
      obtain ⟨c, write⟩ := inv.write writing
      cases write.stage with
      | inl receiving => exact stage.2 receiving.state
      | inr received => exact handshake received.1
    have later : (inSent efc outNow d).state ≠ .setup ∧ (inSent efc outNow d).state ≠ .dataOut := by
      cases inSent_state efc outNow handshake with
      | inl same => rw [same]; exact stage
      | inr ended => rw [ended]; decide
    apply (settled_inSent (inv.settled callback) handshake outNow).inv
    · rintro (at_ | at_)
      · exact absurd at_ later.1
      · exact absurd at_ later.2
    · exact fun at_ => absurd at_ later.2

theorem settled_received (settled : Settled efc d) (dest : Pointer) (bytes : List UInt8) :
    Settled efc (d.observe [.received dest bytes]) where
  good := allOrNothing_other settled.good (by simp) (by simp)
  callback := settled.callback
  agree := settled.agree
  kept c found writes short := by
    rw [Device.observe, current_concat, follow] at found
    obtain ⟨before, at_d, counted⟩ := Option.map_eq_some_iff.mp found
    rw [← counted] at writes short ⊢
    exact settled.kept before at_d writes (Nat.lt_of_le_of_lt (Nat.le_add_right _ _) short)

/-- A packet of a write: the data of full packets adds up to the whole. -/
theorem inv_outReceived_write (inv : WriteInv efc d) {packet : List UInt8} {c : Current}
    (writing : d.Writing) (write : Write d c) (receiving : Receiving d c)
    (uncut : packet.length = 64 ∨ d.ctrlreq.req.wLength.toNat ≤ d.payloadBufCnt + packet.length) :
    WriteInv efc (outReceived efc packet d) := by
  have size := receiving.size
  have count := receiving.count
  have more := receiving.more
  have asked : d.ctrlreq.req.wLength.toNat = c.req.wLength.toNat := by rw [write.req]
  have small : d.ctrlreq.payloadSize < 65536 := by rw [size]; exact UInt16.toNat_lt _
  rw [asked] at uncut
  -- the bytes received so far, with those of this packet
  let next : Current :=
    ⟨c.req, c.table, c.received + min packet.length (d.ctrlreq.payloadSize - d.payloadBufCnt)⟩
  have follows : current (d.copied packet).trace = some next := by
    simp only [Device.copied]
    rw [current_concat, follow, write.current, Option.map_some, List.length_take, Nat.min_comm]
  have good : AllOrNothing (d.copied packet).trace :=
    allOrNothing_other inv.good (by simp) (by simp)
  have kept (c' : Current) (found : some next = some c') (writes : c'.req.writesTable = true)
      (_ : c'.received < c'.req.wLength.toNat) : d.page efc = c'.table := by
    cases found
    exact inv.kept c write.current writes more
  rw [outReceived_data efc receiving.state (by omega) small, outCopied_eq]
  have room : (d.copied packet).payloadBufCnt =
      d.payloadBufCnt + min packet.length (d.ctrlreq.payloadSize - d.payloadBufCnt) := rfl
  have total : next.received = (d.copied packet).payloadBufCnt := by
    change c.received + _ = (d.copied packet).payloadBufCnt
    rw [room, count]
  have first : (d.copied packet).prevPayloadBufCnt = 0 := receiving.prev
  have wanted : (d.copied packet).ctrlreq.req.wLength.toNat = c.req.wLength.toNat := asked
  have ordered : (d.copied packet).ctrlreq.payloadSize = c.req.wLength.toNat := size
  split_ifs with last full
  · -- the last packet: the status stage follows
    have all : next.received = c.req.wLength.toNat := by omega
    have now : current ((d.copied packet).trace ++ [.zlpIn]) = some next := by
      rw [current_concat, follow, follows]
    have later : Write (sendZlpIn { d.copied packet with
        ctrlreq := { (d.copied packet).ctrlreq with payloadSize := (d.copied packet).payloadBufCnt } }) next :=
      ⟨now, write.req, write.writes, write.out, .inr ⟨rfl, all⟩⟩
    exact {
      good := allOrNothing_other good (by simp) (by simp)
      quiet := by simp [sendZlpIn, Device.observe]
      write := fun _ => ⟨next, later⟩
      other := fun callback => absurd writing callback
      agree := fun nothing => by
        have none := nothing next later writing
        omega
      kept := fun c' found => kept c' (now.symm.trans found) }
  · omega
  · -- a full packet, with more to come: nothing has been stored yet
    have less : next.received < c.req.wLength.toNat := by omega
    have later : Write (d.copied packet) next := by
      refine ⟨follows, write.req, write.writes, write.out, .inl ?_⟩
      exact { receiving with
        count := total.symm
        more := less }
    exact {
      good := good
      quiet := fun _ => inv.quiet (.inr receiving.state)
      write := fun _ => ⟨next, later⟩
      other := fun callback => absurd writing callback
      agree := fun nothing => by
        have none := nothing next later writing
        omega
      kept := fun c' found => kept c' (follows.symm.trans found) }

theorem settled_outCopied (settled : Settled efc d) (nbData : Nat) :
    Settled efc (outCopied nbData d) := by
  rw [outCopied_eq]
  split_ifs
  · apply settled_sendZlpIn
    exact settled.of_eq rfl settled.callback rfl rfl
  · exact settled_stallData settled
  · exact settled

/-- Data of another request goes elsewhere. -/
theorem inv_outReceived_other (inv : WriteInv efc d) (callback : ¬ d.Writing)
    (stage : d.state = .dataOut) (packet : List UInt8) : WriteInv efc (outReceived efc packet d) := by
  obtain ⟨elsewhere, counted, small⟩ := inv.other callback stage
  have untouched : (d.copied packet).mem .flashTable = d.mem .flashTable := by
    simp only [Device.copied]
    cases elsewhere with
    | inl empty => rw [empty, Nat.zero_sub, List.take_zero, Memory.put_nil]
    | inr other =>
      apply Memory.put_other
      exact Ne.symm other
  have quiet := inv.quiet (.inr stage)
  -- the table keeps its contents, so that what was settled still is
  have settled : Settled efc (d.copied packet) :=
    (settled_received (inv.settled callback) (d.ctrlreq.payload.add d.payloadBufCnt)
      (packet.take (d.ctrlreq.payloadSize - d.payloadBufCnt))).of_eq rfl callback untouched rfl
  rw [outReceived_data efc stage counted small]
  apply (settled_outCopied settled _).inv
  · rw [outCopied_eq]
    split_ifs
    · simp [sendZlpIn, Device.observe]
    · simp [stallData, Device.observe]
    · exact fun _ => quiet
  · rw [outCopied_eq]
    split_ifs
    · simp [sendZlpIn, Device.observe]
    · simp [stallData, Device.observe]
    · exact fun _ => ⟨elsewhere, by simp only [Device.copied]; omega, small⟩

include reliable in
/-- A packet that comes in another stage ends the request. -/
theorem inv_outReceived_end (inv : WriteInv efc d)
    (stage : d.state ≠ .dataOut) (packet : List UInt8)
    (uncut : d.Writing → d.ctrlreq.req.wLength = 0) : WriteInv efc (outReceived efc packet d) := by
  simp only [outReceived, ne_eq, stage, not_false_eq_true, if_true]
  split_ifs
  · -- the status of an IN request
    exact (settled_endofrequest reliable inv fun both => stage both.2).inv (fun _ => rfl)
      (by simp [ctrlInit])
  · have dropped := settled_drop inv fun c write writing => received_zero (.inl (uncut writing)) write
    exact (dropped.observe (o := .stall) (by simp) (by simp) rfl).inv (fun _ => rfl)
      (by simp [ctrlInit, Device.observe])

theorem write_stall {c : Current} : Write (d.observe [.stall]) c ↔ Write d c := by
  have same : current (d.observe [.stall]).trace = current d.trace := by
    rw [Device.observe, current_concat, follow]
  constructor
  · exact fun write => { write with
      current := same.symm.trans write.current
      stage := write.stage.imp_left fun receiving => { receiving with } }
  · exact fun write => { write with
      current := same.trans write.current
      stage := write.stage.imp_left fun receiving => { receiving with } }

/-- A STALL seen while a request is under way. -/
theorem inv_stall (inv : WriteInv efc d) : WriteInv efc (d.observe [.stall]) where
  good := allOrNothing_other inv.good (by simp) (by simp)
  quiet := inv.quiet
  write writing := by
    obtain ⟨c, write⟩ := inv.write writing
    exact ⟨c, write_stall.mpr write⟩
  other := inv.other
  agree nothing := inv.agree fun c write => nothing c (write_stall.mpr write)
  kept c found := by
    rw [Device.observe, current_concat, follow] at found
    exact inv.kept c found

theorem inv_overflow (inv : WriteInv efc d) (inNow : Bool) : WriteInv efc (overflow inNow d) := by
  unfold overflow
  split_ifs
  · exact inv
  · exact inv_stall inv
  · exact inv

theorem inv_underflow (inv : WriteInv efc d) {outNow : Bool}
    (uncut : d.Writing → d.state = .dataOut → outNow = true) : WriteInv efc (underflow outNow d) := by
  unfold underflow
  split_ifs with out data
  · exact inv
  · have callback : ¬ d.Writing := fun writing => out (uncut writing data)
    exact (settled_sendZlpIn (inv.settled callback)).inv (by simp [sendZlpIn, Device.observe])
      (by simp [sendZlpIn, Device.observe])
  · exact inv_stall inv
  · exact inv

/-! ## The setup stage -/

include reliable in
theorem settled_interruptRequest (inv : WriteInv efc d) (ended : ¬ (d.Writing ∧ d.state = .dataOut)) :
    Settled efc (interruptRequest efc d) ∧ (interruptRequest efc d).inSendInterrupt = false := by
  unfold interruptRequest
  split_ifs with other
  · exact ⟨settled_endofrequest reliable inv ended, rfl⟩
  · have setup : d.state = .setup := by simpa using other
    refine ⟨inv.settled fun writing => ?_, inv.quiet (.inl setup)⟩
    obtain ⟨c, write⟩ := inv.write writing
    cases write.stage with
    | inl receiving => exact absurd (setup.symm.trans receiving.state) (by decide)
    | inr received => exact absurd (setup.symm.trans received.1) (by decide)

theorem current_entered (req : SetupReq) (h : Handling) :
    current (d.entered efc req h).trace = some ⟨req, d.table, 0⟩ := by
  rw [Device.entered, current_commands, current_concat, follow]

theorem allOrNothing_entered (settled : Settled efc d) (req : SetupReq) (h : Handling) :
    AllOrNothing (d.entered efc req h).trace := by
  apply allOrNothing_commands
  apply allOrNothing_setup settled.good
  intro c found writes short
  have page := settled.kept c found writes short
  exact ⟨settled.agree.trans page, page⟩

theorem settled_entered (settled : Settled efc d) {req : SetupReq} {h : Handling}
    (callback : h.ctrlreq.callback ≠ some .storeFlashTable)
    (table : h.mem .flashTable = d.mem .flashTable) : Settled efc (d.entered efc req h) where
  good := allOrNothing_entered settled req h
  callback := callback
  agree := by
    have same : (d.entered efc req h).table = d.table := table_congr table
    rw [same]
    exact settled.agree
  kept c found := by
    rw [current_entered] at found
    cases found
    exact fun _ _ => settled.agree.symm

/-- The first stage of a write. -/
theorem inv_startWrite (settled : Settled efc d) (quiet : d.inSendInterrupt = false) {req : SetupReq}
    (writes : req.writesTable = true) (out : req.isIn = false) (outNow : Bool) :
    WriteInv efc (startStages efc outNow
      (d.entered efc req (writeFlashTable req.tableOffset (d.handling req)))) := by
  have good := allOrNothing_entered settled req (writeFlashTable req.tableOffset (d.handling req))
  have now : current (d.entered efc req (writeFlashTable req.tableOffset (d.handling req))).trace =
      some ⟨req, d.table, 0⟩ := current_entered req _
  have direction : (d.entered efc req
      (writeFlashTable req.tableOffset (d.handling req))).ctrlreq.req.isIn = false := out
  simp only [startStages, direction, Bool.false_eq_true, if_false]
  split_ifs with empty
  · -- nothing to receive: the status stage follows at once
    have none : req.wLength.toNat = 0 := by
      have length : req.wLength = 0 := empty
      rw [length]; rfl
    have status : current (sendZlpIn (d.entered efc req
        (writeFlashTable req.tableOffset (d.handling req)))).trace = some ⟨req, d.table, 0⟩ := by
      rw [sendZlpIn, Device.observe, current_concat, now, follow]
    exact {
      good := allOrNothing_other good (by simp) (by simp)
      quiet := by simp [sendZlpIn, Device.observe]
      write := fun _ => ⟨_, status, rfl, writes, out, .inr ⟨rfl, none.symm⟩⟩
      other := fun callback => absurd rfl callback
      agree := fun _ => settled.agree
      kept := fun c found => by
        rw [status] at found
        cases found
        intro _ short
        simp only at short
        omega }
  · -- the data stage is open, and nothing has been received
    have some : 0 < req.wLength.toNat := by
      have length : req.wLength ≠ 0 := empty
      rw [ne_eq, ← UInt16.toNat_inj] at length
      exact Nat.pos_of_ne_zero length
    exact {
      good := good
      quiet := fun _ => quiet
      write := fun _ => ⟨_, now, rfl, writes, out, .inl ⟨rfl, rfl, rfl, rfl, rfl, some⟩⟩
      other := fun callback => absurd rfl callback
      agree := fun _ => settled.agree
      kept := fun c found => by
        have same := now.symm.trans found
        cases same
        exact fun _ _ => settled.agree.symm }

/-- The first stage of another request. -/
theorem inv_startOther (settled : Settled efc d) (quiet : d.inSendInterrupt = false)
    (elsewhere : d.ctrlreq.req.isIn = false → d.ctrlreq.req.wLength ≠ 0 →
      d.ctrlreq.payloadSize = 0 ∨ d.ctrlreq.payload.object ≠ .flashTable)
    (small : d.ctrlreq.payloadSize < 65536) (outNow : Bool) :
    WriteInv efc (startStages efc outNow d) := by
  unfold startStages
  split_ifs with direction empty
  · -- an IN request: the first packet goes out within the setup stage
    let reading : Device σ := { d with prevPayloadBufCnt := 0, payloadBufCnt := 0, state := .dataIn }
    have stage : reading.state = .dataIn := rfl
    have noHandshake : reading.state ≠ .handshakeWaitInZlp := by simp [stage]
    have read : Settled efc reading := settled.of_eq rfl settled.callback rfl rfl
    have later : (inSent efc outNow reading).state ≠ .setup ∧
        (inSent efc outNow reading).state ≠ .dataOut := by
      cases inSent_state efc outNow noHandshake with
      | inl same => rw [same]; simp [stage]
      | inr ended => rw [ended]; simp
    apply (settled_inSent read noHandshake outNow).inv
    · rintro (at_ | at_)
      · exact absurd at_ later.1
      · exact absurd at_ later.2
    · exact fun at_ => absurd at_ later.2
  · exact (settled_sendZlpIn settled).inv (by simp [sendZlpIn, Device.observe])
      (by simp [sendZlpIn, Device.observe])
  · -- OUT data of a request that is no write goes to another array
    have receiving : Settled efc
        { d with prevPayloadBufCnt := 0, payloadBufCnt := 0, state := .dataOut } :=
      settled.of_eq rfl settled.callback rfl rfl
    apply receiving.inv
    · exact fun _ => quiet
    · exact fun _ => ⟨elsewhere (by simpa using direction) empty, Nat.zero_le _, small⟩

include reliable in
theorem inv_setupReceived (inv : WriteInv efc d) {packet : SetupPacket}
    (uncut : ¬ (d.Writing ∧ d.state = .dataOut)) (meant : WellMeant packet.req d.mem)
    (outNow : Bool) :
    WriteInv efc (setupReceived efc packet outNow d) := by
  obtain ⟨settled, quiet⟩ := settled_interruptRequest reliable inv uncut
  by_cases whole : packet.byteCount = 8
  · cases decoded : udcDecode packet.inputs ((interruptRequest efc d).handling packet.req) with
    | none =>
      rw [setupReceived_refused efc packet outNow whole decoded]
      apply (settled_stallData (settled_entered settled (by simp [Device.handling]) rfl)).inv
      · simp [stallData, Device.observe]
      · simp [stallData, Device.observe]
    | some h =>
      rw [setupReceived_accepted efc packet outNow whole decoded]
      cases udcDecode_cases rfl decoded with
      | inl write =>
        rw [write.2]
        exact inv_startWrite settled quiet write.1 (meant.write write.1) outNow
      | inr other =>
        obtain ⟨-, handled⟩ := other
        have callback : h.ctrlreq.callback ≠ some .storeFlashTable := by
          intro stored
          cases handled.callback stored
        apply inv_startOther (settled_entered settled callback (handled.mem .flashTable rfl)) quiet
        · intro direction data
          have request : h.ctrlreq.req = packet.req := handled.req
          cases handled.payload with
          | inl empty => exact .inl empty
          | inr rest =>
            cases rest with
            | inl other => exact .inr other
            -- a read of the table, which is meant to be an IN request
            | inr table =>
              have read := meant.read table.1 table.2
              simp only [Device.entered, request] at direction data
              rw [direction] at read
              exact absurd read (by simp [data])
        · exact handled.small
  · have stalled : setupReceived efc packet outNow d = stallData (interruptRequest efc d) := by
      simp only [setupReceived, ne_eq, whole, not_false_eq_true, if_true]
    rw [stalled]
    apply (settled_stallData settled).inv
    · simp [stallData, Device.observe]
    · simp [stallData, Device.observe]

include reliable in
/-- Every interrupt of the endpoint that cuts no write short keeps the invariant. -/
theorem inv_control (inv : WriteInv efc d) {status : CtrlStatus} (uncut : Uncut d (.control status)) :
    WriteInv efc (ctrlInterrupt efc status d) := by
  unfold Uncut at uncut
  unfold ctrlInterrupt
  cases setup : status.setup with
  | some packet =>
    simp only [setup] at uncut ⊢
    exact inv_setupReceived reliable inv uncut.1 uncut.2 status.outNow
  | none =>
    simp only [setup] at uncut ⊢
    obtain ⟨data, ended⟩ := uncut
    by_cases sent : (status.inSent && d.inSendInterrupt) = true
    · rw [if_pos sent]
      simp only [Bool.and_eq_true] at sent
      exact inv_inSent reliable inv sent.2 status.outNow
    · rw [if_neg sent]
      -- an OUT packet: its data stage, or the end of the request
      cases packets : status.out with
      | some packet =>
        simp only [packets] at data ended ⊢
        by_cases stage : d.state = .dataOut
        · by_cases writing : d.Writing
          · obtain ⟨c, write⟩ := inv.write writing
            cases write.stage with
            | inl receiving =>
              exact inv_outReceived_write inv writing write receiving (data writing stage)
            | inr received => exact absurd (stage.symm.trans received.1) (by decide)
          · exact inv_outReceived_other inv writing stage packet
        · apply inv_outReceived_end reliable inv stage packet
          intro writing
          have early := ended writing stage
          simp only [Bool.and_eq_true] at sent
          simpa [sent] using early
      | none =>
        simp only [packets] at data ended ⊢
        split_ifs with nakOut nakIn
        · exact inv_overflow inv status.inNow
        · apply inv_underflow inv
          intro writing stage
          simpa [nakOut] using data writing stage nakIn
        · exact inv

include reliable in
theorem settled_boot (pinHigh : Bool) (chip : σ) : Settled efc (boot efc pinHigh chip) where
  good := allOrNothing_nil
  callback := by simp [Device.Writing, boot]
  agree := by
    funext i
    simp only [Device.table, Device.page]
    rw [boot_table, boot_byte reliable]
  kept := by simp [boot]

include reliable in
/-- A reboot loses what has been received, and nothing else. -/
theorem settled_reboot (inv : WriteInv efc d) (pinHigh : Bool) :
    Settled efc { boot efc pinHigh (efc.reset d.chip) with trace := d.trace } := by
  have booted := settled_boot reliable pinHigh (efc.reset d.chip)
  have flash := boot_byte reliable pinHigh (efc.reset d.chip)
  rw [reliable.byte_reset] at flash
  generalize boot efc pinHigh (efc.reset d.chip) = restarted at booted flash
  exact {
    good := inv.good
    callback := booted.callback
    agree := booted.agree
    kept := fun c found writes short => by
      rw [← inv.kept c found writes short]
      funext i
      exact congrFun flash _ }

include reliable in
theorem inv_step (inv : WriteInv efc d) {event : Event} (uncut : Uncut d event) :
    WriteInv efc (step efc d event) := by
  cases event with
  | control status => exact inv_control reliable inv uncut
  | reset =>
    apply (settled_drop inv fun c write writing => received_zero (uncut writing) write).inv
    · exact fun _ => rfl
    · simp [ctrlInit]
  | reboot pinHigh =>
    apply (settled_reboot reliable inv pinHigh).inv
    · exact fun _ => rfl
    · simp [boot]

end Steps

/-! ## Whole runs -/

/-- In a run whose events cut no write of the table short, a store takes place only when all the
    data of an OUT request has come, and a request whose data has not come leaves the table and
    its page as they were. -/
theorem write_all_or_nothing {efc : Efc σ} {uid : Nat → UInt32} (reliable : efc.Reliable uid)
    {pinHigh : Bool} {chip : σ} {events : List Event}
    (uncut : Throughout (step efc) Uncut (boot efc pinHigh chip) events) :
    Always (step efc) (fun d => AllOrNothing d.trace ∧
      ∀ c, current d.trace = some c → c.req.writesTable = true →
        c.received < c.req.wLength.toNat → d.page efc = c.table)
      (boot efc pinHigh chip) events := by
  have start : WriteInv efc (boot efc pinHigh chip) :=
    (settled_boot reliable pinHigh chip).inv (fun _ => rfl) (by simp [boot])
  have always := always_of_step (P := WriteInv efc)
    (fun _ _ inv uncut => inv_step reliable inv uncut) start uncut
  exact always.mono fun d inv => ⟨inv.good, inv.kept⟩

/-- A write of two bytes, and the packet that carries them. -/
theorem write_all_or_nothing_pair :
    Throughout (step (flashChip fun _ => 0)) Uncut
      (boot (flashChip fun _ => 0) true { bytes := fun _ => 0 })
      [.control { setup := some { req := ⟨0x40, 0x02, 0, 4, 2⟩ } }, .control { out := some [7, 9] }] ∧
    Always (step (flashChip fun _ => 0)) (fun d => AllOrNothing d.trace ∧
      ∀ c, current d.trace = some c → c.req.writesTable = true →
        c.received < c.req.wLength.toNat → d.page (flashChip fun _ => 0) = c.table)
      (boot (flashChip fun _ => 0) true { bytes := fun _ => 0 })
      [.control { setup := some { req := ⟨0x40, 0x02, 0, 4, 2⟩ } }, .control { out := some [7, 9] }] := by
  have uncut : Throughout (step (flashChip fun _ => 0)) Uncut
      (boot (flashChip fun _ => 0) true { bytes := fun _ => 0 })
      [.control { setup := some { req := ⟨0x40, 0x02, 0, 4, 2⟩ } },
        .control { out := some [7, 9] }] := by
    rw [throughout_cons, throughout_cons]
    refine ⟨⟨fun both => ?_, ?_, by decide, by decide⟩, ⟨?_, ?_⟩, throughout_nil _ _ _⟩
    · cases both.2
    · simp [InBounds]
    · exact fun _ _ => .inr (show 2 ≤ 2 by decide)
    · exact fun _ other => absurd rfl other
  exact ⟨uncut, write_all_or_nothing (flashChip_reliable _) uncut⟩

/-- An IN token after half of the data ends the data stage, and half of the data is stored. -/
theorem half_stored :
    ¬ AllOrNothing (run (step (flashChip fun _ => 0))
      (boot (flashChip fun _ => 0) true { bytes := fun _ => 0 })
      [.control { setup := some { req := ⟨0x40, 0x02, 0, 0, 128⟩ } },
        .control { out := some (List.replicate 64 1) },
        .control { nakIn := true },
        .control { inSent := true }]).trace := by
  intro good
  obtain ⟨c, found, -, -, all⟩ := good.complete _ (List.prefix_refl _)
  cases found
  exact absurd all (by decide)

end M1k.Control
