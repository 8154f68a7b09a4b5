import Mathlib.Data.List.Range
import Mathlib.Tactic.Ring
import Mathlib.Logic.Function.Basic
import Mathlib.Tactic.SplitIfs

/-! # Ranges of a memory

A memory is a function from addresses to cells.  `put` is the copy loop `*dest++ = *src++`,
one cell at a time; `slice` is what such a loop reads. -/

namespace M1k.Library.Bytes

variable {α : Type*}

/-- The memory after the cells `xs` have been written from address `start` on. -/
def put (m : Nat → α) (start : Nat) : List α → Nat → α
  | [] => m
  | x :: xs => put (Function.update m start x) (start + 1) xs

/-- The `n` cells from address `start` on. -/
def slice (m : Nat → α) (start : Nat) : Nat → List α
  | 0 => []
  | n + 1 => m start :: slice m (start + 1) n

@[simp] theorem put_nil (m : Nat → α) (start : Nat) : put m start [] = m := rfl

@[simp] theorem slice_zero (m : Nat → α) (start : Nat) : slice m start 0 = [] := rfl

theorem put_append (m : Nat → α) (start : Nat) (xs ys : List α) :
    put m start (xs ++ ys) = put (put m start xs) (start + xs.length) ys := by
  induction xs generalizing m start with
  | nil => rfl
  | cons x xs ih =>
    rw [List.cons_append, put, put, ih, List.length_cons]
    congr 1
    omega

/-- A write leaves alone what lies outside its range. -/
theorem put_outside {m : Nat → α} {start : Nat} {xs : List α} {i : Nat}
    (outside : i < start ∨ start + xs.length ≤ i) : put m start xs i = m i := by
  induction xs generalizing m start with
  | nil => rfl
  | cons x xs ih =>
    rw [List.length_cons] at outside
    rw [put, ih (by omega)]
    exact Function.update_of_ne (by omega) _ _

theorem put_inside (m : Nat → α) (start : Nat) (xs : List α) (k : Nat) (inside : k < xs.length) :
    put m start xs (start + k) = xs[k] := by
  induction xs generalizing m start k with
  | nil => cases inside
  | cons x xs ih =>
    cases k with
    | zero =>
      rw [put, put_outside (by omega)]
      exact Function.update_self _ _ _
    | succ k =>
      have later := ih (Function.update m start x) (start + 1) k (by simpa using inside)
      rw [show start + 1 + k = start + (k + 1) by omega] at later
      exact later

/-- Every cell after a write, by where it lies. -/
theorem put_apply (m : Nat → α) (start : Nat) (xs : List α) (i : Nat) :
    put m start xs i = if inside : start ≤ i ∧ i < start + xs.length then
      xs[i - start] else m i := by
  split_ifs with inside
  · have found := put_inside m start xs (i - start) (by omega)
    rwa [Nat.add_sub_cancel' inside.1] at found
  · exact put_outside (by omega)

@[simp] theorem slice_length (m : Nat → α) (start n : Nat) : (slice m start n).length = n := by
  induction n generalizing start with
  | zero => rfl
  | succ n ih => rw [slice, List.length_cons, ih]

theorem slice_getElem (m : Nat → α) (start n k : Nat) (inside : k < (slice m start n).length) :
    (slice m start n)[k] = m (start + k) := by
  induction n generalizing start k with
  | zero => cases inside
  | succ n ih =>
    cases k with
    | zero => rfl
    | succ k =>
      have later := ih (start + 1) k (by simpa [slice] using inside)
      rw [show start + 1 + k = start + (k + 1) by omega] at later
      exact later

theorem slice_add (m : Nat → α) (start a b : Nat) :
    slice m start (a + b) = slice m start a ++ slice m (start + a) b := by
  induction a generalizing start with
  | zero => rw [Nat.zero_add]; rfl
  | succ a ih =>
    rw [show a + 1 + b = a + b + 1 by omega, slice, slice, ih, List.cons_append]
    rw [show start + 1 + a = start + (a + 1) by omega]

theorem take_slice (m : Nat → α) (start n k : Nat) :
    (slice m start n).take k = slice m start (min k n) := by
  apply List.ext_getElem (by simp)
  intro i inside _
  rw [List.getElem_take, slice_getElem, slice_getElem]

theorem slice_congr {m m' : Nat → α} {start n : Nat}
    (same : ∀ i, start ≤ i → i < start + n → m i = m' i) : slice m start n = slice m' start n := by
  induction n generalizing start with
  | zero => rfl
  | succ n ih =>
    rw [slice, slice, same start (by omega) (by omega)]
    rw [ih fun i low high => same i (by omega) (by omega)]

/-- What has been written is what is read back. -/
theorem slice_put (m : Nat → α) (start : Nat) (xs : List α) :
    slice (put m start xs) start xs.length = xs := by
  apply List.ext_getElem (slice_length _ _ _)
  intro k inside _
  rw [slice_getElem, put_inside _ _ _ k (by simpa using inside)]

/-- Writing back what is there changes nothing. -/
theorem put_slice (m : Nat → α) (start n : Nat) : put m start (slice m start n) = m := by
  funext i
  rw [put_apply]
  split_ifs with inside
  · rw [slice_getElem, Nat.add_sub_cancel' inside.1]
  · rfl

/-- A range written over with what stands there on both sides of `xs`: only `xs` is new. -/
theorem put_between (m : Nat → α) (start before after : Nat) (xs : List α) :
    put m start (slice m start before ++ xs ++ slice m (start + before + xs.length) after) =
      put m (start + before) xs := by
  have untouched : slice m (start + before + xs.length) after =
      slice (put m (start + before) xs) (start + before + xs.length) after := by
    apply slice_congr
    intro i low _
    exact (put_outside (by omega)).symm
  rw [put_append, put_append, put_slice, slice_length, untouched, List.length_append, slice_length]
  rw [show start + (before + xs.length) = start + before + xs.length by omega]
  exact put_slice _ _ _

/-- Two arrays made of blocks, block for block of one length, agree only if all their blocks do. -/
theorem flatMap_range_inj {f g : Nat → List α} (lengths : ∀ i, (f i).length = (g i).length)
    {n : Nat} (same : (List.range n).flatMap f = (List.range n).flatMap g) : ∀ i < n, f i = g i := by
  induction n with
  | zero => exact fun i absurdBound => absurd absurdBound (Nat.not_lt_zero i)
  | succ n inductionHypothesis =>
    simp only [List.range_succ, List.flatMap_append, List.flatMap_singleton] at same
    obtain ⟨earlier, last⟩ := List.append_inj' same (lengths n)
    intro i bound
    rcases Nat.lt_succ_iff_lt_or_eq.mp bound with below | rfl
    · exact inductionHypothesis earlier i below
    · exact last

/-! ## Words -/

/-- The 32-bit word of four bytes, low byte first. -/
def word (b0 b1 b2 b3 : UInt8) : UInt32 :=
  UInt32.ofNat (b0.toNat + 256 * b1.toNat + 65536 * b2.toNat + 16777216 * b3.toNat)

/-- The k-th byte of a word, low byte first. -/
def wordByte (w : UInt32) (k : Nat) : UInt8 := UInt8.ofNat (w.toNat / 256 ^ k)

/-- The words of an array of bytes. -/
def words : List UInt8 → List UInt32
  | b0 :: b1 :: b2 :: b3 :: rest => word b0 b1 b2 b3 :: words rest
  | _ => []

theorem wordByte_word (b0 b1 b2 b3 : UInt8) :
    wordByte (word b0 b1 b2 b3) 0 = b0 ∧ wordByte (word b0 b1 b2 b3) 1 = b1 ∧
      wordByte (word b0 b1 b2 b3) 2 = b2 ∧ wordByte (word b0 b1 b2 b3) 3 = b3 := by
  have h0 := b0.toNat_lt
  have h1 := b1.toNat_lt
  have h2 := b2.toNat_lt
  have h3 := b3.toNat_lt
  refine ⟨?_, ?_, ?_, ?_⟩ <;>
  · apply UInt8.toNat_inj.mp
    simp only [wordByte, word, UInt8.toNat_ofNat', UInt32.toNat_ofNat']
    omega

/-- The four bytes of a word determine it. -/
theorem word_ext {w w' : UInt32} (bytes : ∀ k < 4, wordByte w k = wordByte w' k) : w = w' := by
  have byte (k : Nat) (inWord : k < 4) : w.toNat / 256 ^ k % 256 = w'.toNat / 256 ^ k % 256 := by
    have same := congrArg UInt8.toNat (bytes k inWord)
    simpa only [wordByte, UInt8.toNat_ofNat'] using same
  have byte0 := byte 0 (by decide)
  have byte1 := byte 1 (by decide)
  have byte2 := byte 2 (by decide)
  have byte3 := byte 3 (by decide)
  have small := w.toNat_lt
  have small' := w'.toNat_lt
  apply UInt32.toNat_inj.mp
  omega

theorem words_length {n : Nat} {bytes : List UInt8} (whole : bytes.length = 4 * n) :
    (words bytes).length = n := by
  induction n generalizing bytes with
  | zero => rw [List.length_eq_zero_iff.mp whole]; rfl
  | succ n ih =>
    match bytes, whole with
    | b0 :: b1 :: b2 :: b3 :: rest, whole =>
      simp only [words, List.length_cons] at whole ⊢
      rw [ih (by omega)]

/-- Each byte of an array is a byte of one of its words. -/
theorem words_byte {n : Nat} {bytes : List UInt8} (whole : bytes.length = 4 * n) (i : Nat)
    (inside : i < bytes.length) (found : i / 4 < (words bytes).length) :
    wordByte (words bytes)[i / 4] (i % 4) = bytes[i] := by
  induction n generalizing bytes i with
  | zero => omega
  | succ n ih =>
    match bytes, whole with
    | b0 :: b1 :: b2 :: b3 :: rest, whole =>
      have four := wordByte_word b0 b1 b2 b3
      match i with
      | 0 => exact four.1
      | 1 => exact four.2.1
      | 2 => exact four.2.2.1
      | 3 => exact four.2.2.2
      | i + 4 =>
        have next : (i + 4) / 4 = i / 4 + 1 := by omega
        have byte : (i + 4) % 4 = i % 4 := by omega
        simp only [next, byte, words, List.getElem_cons_succ, List.length_cons] at whole found ⊢
        exact ih (by omega) i (by simpa using inside) (by omega)

end M1k.Library.Bytes
