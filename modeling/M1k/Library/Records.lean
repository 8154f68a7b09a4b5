import M1k.Library.Bytes

/-! # Records that begin with their length

A format in which every record begins with one byte that counts the bytes of the record, that byte
included, so that a reader which knows nothing of a record can step over it.  `scan` is such a
reader: it looks at one address after the other, up to an end address, until one answers.  Over
records that stand in memory it gives what `search` finds in their list. -/

namespace M1k.Library.Records

open Bytes

variable {β : Type*}

/-- A record behind its length byte, short enough for that byte to count it. -/
structure Record where
  body : List UInt8
  fits : body.length < 255

namespace Record

def size (r : Record) : Nat := r.body.length + 1

def bytes (r : Record) : List UInt8 := UInt8.ofNat r.size :: r.body

@[simp] theorem length_bytes (r : Record) : r.bytes.length = r.size := rfl

theorem size_pos (r : Record) : 0 < r.size := Nat.succ_pos _

theorem toNat_size (r : Record) : (UInt8.ofNat r.size).toNat = r.size := by
  have fits := r.fits
  rw [UInt8.toNat_ofNat', size, Nat.mod_eq_of_lt (by omega)]

end Record

def encode (rs : List Record) : List UInt8 := rs.flatMap Record.bytes

@[simp] theorem encode_nil : encode [] = [] := rfl

@[simp] theorem encode_cons (r : Record) (rs : List Record) : encode (r :: rs) = r.bytes ++ encode rs :=
  rfl

@[simp] theorem encode_append (rs rs' : List Record) : encode (rs ++ rs') = encode rs ++ encode rs' :=
  List.flatMap_append

/-! ## Records in memory -/

/-- The records stand one after the other, from `start` to `stop`. -/
inductive Stands (mem : Nat → UInt8) : Nat → List Record → Nat → Prop
  | nil (start : Nat) : Stands mem start [] start
  | cons {start stop : Nat} {r : Record} {rs : List Record} :
      slice mem start r.size = r.bytes → Stands mem (start + r.size) rs stop →
      Stands mem start (r :: rs) stop

namespace Stands

variable {mem : Nat → UInt8} {start stop : Nat} {r : Record} {rs rs' : List Record}

theorem of_slice (whole : slice mem start (encode rs).length = encode rs) :
    Stands mem start rs (start + (encode rs).length) := by
  induction rs generalizing start with
  | nil => exact .nil start
  | cons r rs ih =>
    rw [encode_cons, List.length_append, Record.length_bytes, slice_add] at whole
    have lengths : (slice mem start r.size).length = r.bytes.length := by simp
    obtain ⟨first, rest⟩ := List.append_inj whole lengths
    rw [encode_cons, List.length_append, Record.length_bytes, ← Nat.add_assoc]
    exact .cons first (ih rest)

theorem stop_eq (stands : Stands mem start rs stop) : stop = start + (encode rs).length := by
  induction stands with
  | nil start => rfl
  | cons first rest ih =>
    rw [ih, encode_cons, List.length_append, Record.length_bytes, Nat.add_assoc]

theorem length_le (stands : Stands mem start rs stop) : start + rs.length ≤ stop := by
  induction stands with
  | nil start => exact le_refl start
  | @cons start stop r rs first rest ih =>
    have positive := r.size_pos
    rw [List.length_cons]
    omega

theorem append_iff : Stands mem start (rs ++ rs') stop ↔
    Stands mem start rs (start + (encode rs).length) ∧
      Stands mem (start + (encode rs).length) rs' stop := by
  induction rs generalizing start with
  | nil => exact ⟨fun stands => ⟨.nil start, stands⟩, fun both => both.2⟩
  | cons r rs ih =>
    rw [encode_cons, List.length_append, Record.length_bytes, ← Nat.add_assoc]
    constructor
    · intro stands
      cases stands with
      | cons first rest =>
        obtain ⟨before, after⟩ := ih.mp rest
        exact ⟨.cons first before, after⟩
    · rintro ⟨before, after⟩
      cases before with
      | cons first rest => exact .cons first (ih.mpr ⟨rest, after⟩)

/-- The length byte of the first record, and the byte `k` behind it. -/
theorem head_length (stands : Stands mem start (r :: rs) stop) : (mem start).toNat = r.size := by
  cases stands with
  | cons first _ =>
    have byte := slice_getElem mem start r.size 0 (by simp [r.size_pos])
    rw [Nat.add_zero] at byte
    rw [← byte]
    simp only [first]
    exact r.toNat_size

theorem head_byte (stands : Stands mem start (r :: rs) stop) (k : Nat) (inside : k < r.body.length) :
    mem (start + 1 + k) = r.body[k] := by
  cases stands with
  | cons first _ =>
    have byte := slice_getElem mem start r.size (k + 1) (by simp [Record.size]; omega)
    rw [show start + 1 + k = start + (k + 1) by omega, ← byte]
    simp only [first]
    rfl

theorem head_lt (stands : Stands mem start (r :: rs) stop) : start < stop := by
  have positive := r.size_pos
  rw [stands.stop_eq, encode_cons, List.length_append, Record.length_bytes]
  omega

theorem tail (stands : Stands mem start (r :: rs) stop) : Stands mem (start + r.size) rs stop := by
  cases stands with
  | cons _ rest => exact rest

end Stands

/-! ## Reading -/

/-- `while (pos < stop) { if (test(pos)) return …; pos += mem[pos]; }`, for `fuel` turns: `none`
    while the loop has not ended, and `some none` when it has come to `stop`. -/
def scan (mem : Nat → UInt8) (stop : Nat) (test : Nat → Option β) : Nat → Nat → Option (Option β)
  | 0, _ => none
  | fuel + 1, pos =>
    if stop ≤ pos then some none
    else match test pos with
      | some answer => some (some answer)
      | none => scan mem stop test fuel (pos + (mem pos).toNat)

/-- What a reader finds in a list of records that stands from `pos` on. -/
def search (look : Nat → Record → Option β) : Nat → List Record → Option β
  | _, [] => none
  | pos, r :: rs =>
    match look pos r with
    | some answer => some answer
    | none => search look (pos + r.size) rs

theorem scan_eq_search {mem : Nat → UInt8} {start stop : Nat} {rs : List Record}
    (stands : Stands mem start rs stop) {test : Nat → Option β} {look : Nat → Record → Option β}
    (agrees : ∀ pos r rest, r ∈ rs → Stands mem pos (r :: rest) stop → test pos = look pos r)
    {fuel : Nat} (enough : rs.length < fuel) :
    scan mem stop test fuel start = some (search look start rs) := by
  induction rs generalizing start fuel with
  | nil =>
    cases stands with
    | nil =>
      cases fuel with
      | zero => cases enough
      | succ fuel => simp [scan, search]
  | cons r rs ih =>
    cases fuel with
    | zero => cases enough
    | succ fuel =>
      have inside : ¬ stop ≤ start := Nat.not_le.mpr stands.head_lt
      rw [scan, if_neg inside, search, agrees start r rs List.mem_cons_self stands]
      cases look start r with
      | some answer => rfl
      | none =>
        rw [stands.head_length]
        exact ih stands.tail (fun pos r rest member => agrees pos r rest (List.mem_cons_of_mem _ member))
          (Nat.lt_of_succ_lt_succ enough)

theorem search_append (look : Nat → Record → Option β) (pos : Nat) (rs rs' : List Record) :
    search look pos (rs ++ rs') =
      (search look pos rs).or (search look (pos + (encode rs).length) rs') := by
  induction rs generalizing pos with
  | nil => rfl
  | cons r rs ih =>
    rw [List.cons_append, search, search, encode_cons, List.length_append, Record.length_bytes,
      ← Nat.add_assoc]
    cases look pos r with
    | some answer => rfl
    | none => exact ih (pos + r.size)

theorem search_none {look : Nat → Record → Option β} {rs : List Record}
    (silent : ∀ pos, ∀ r ∈ rs, look pos r = none) (pos : Nat) : search look pos rs = none := by
  induction rs generalizing pos with
  | nil => rfl
  | cons r rs ih =>
    rw [search, silent pos r List.mem_cons_self]
    exact ih (fun pos r member => silent pos r (List.mem_cons_of_mem _ member)) _

end M1k.Library.Records
