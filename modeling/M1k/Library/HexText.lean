import Mathlib.Data.List.Induction
import Mathlib.Tactic.IntervalCases
import Mathlib.Tactic.Ring

/-! # Hexadecimal numbers in a text

Digits in either case, the number that a text of digits stands for, and the part of a text before
a separator.  `readHex_toDigits` is the round trip with `Nat.toDigits`. -/

namespace M1k.Library.HexText

/-- The value of a digit -/
def digit? (c : Char) : Option Nat :=
  if '0' ≤ c ∧ c ≤ '9' then some (c.toNat - '0'.toNat)
  else if 'a' ≤ c ∧ c ≤ 'f' then some (c.toNat - 'a'.toNat + 10)
  else if 'A' ≤ c ∧ c ≤ 'F' then some (c.toNat - 'A'.toNat + 10)
  else none

/-- A number read on from `n`, digit by digit. -/
def readHexFrom (n : Nat) : List Char → Option Nat
  | [] => some n
  | c :: text => (digit? c).bind fun digit => readHexFrom (16 * n + digit) text

/-- The number that a text stands for, if all of it is digits. -/
def readHex (text : List Char) : Option Nat := readHexFrom 0 text

/-- What stands before the first `sep`, and what stands behind it. -/
def cut (sep : Char) : List Char → Option (List Char × List Char)
  | [] => none
  | c :: text => if c = sep then some ([], text) else (cut sep text).map fun (a, b) => (c :: a, b)

theorem cut_append {sep : Char} {first : List Char} (absent : sep ∉ first) (second : List Char) :
    cut sep (first ++ sep :: second) = some (first, second) := by
  induction first with
  | nil => simp [cut]
  | cons c first inductionHypothesis =>
    have different : c ≠ sep := fun same => absent (by simp [same])
    have later : sep ∉ first := fun member => absent (List.mem_cons_of_mem c member)
    simp [cut, different, inductionHypothesis later]

theorem readHexFrom_append (n : Nat) (first second : List Char) :
    readHexFrom n (first ++ second) = (readHexFrom n first).bind fun m => readHexFrom m second := by
  induction first generalizing n with
  | nil => rfl
  | cons c first inductionHypothesis =>
    simp only [List.cons_append, readHexFrom]
    cases digit? c with
    | none => rfl
    | some digit => exact inductionHypothesis _

/-- Reading on shifts what has been read by the digits that follow. -/
theorem readHexFrom_eq (n : Nat) (text : List Char) :
    readHexFrom n text = (readHex text).map fun m => 16 ^ text.length * n + m := by
  induction text generalizing n with
  | nil => simp [readHexFrom, readHex]
  | cons c text inductionHypothesis =>
    simp only [readHex, readHexFrom]
    cases digit? c with
    | none => rfl
    | some digit =>
      simp only [Option.bind_some]
      rw [inductionHypothesis (16 * n + digit), inductionHypothesis (16 * 0 + digit), Option.map_map]
      congr 1
      funext m
      simp only [Function.comp, List.length_cons, pow_succ]
      ring

theorem readHex_append {first second : List Char} {m n : Nat} (high : readHex first = some m)
    (low : readHex second = some n) :
    readHex (first ++ second) = some (16 ^ second.length * m + n) := by
  have before : readHexFrom 0 first = some m := high
  rw [readHex, readHexFrom_append, before, Option.bind_some, readHexFrom_eq, low]
  rfl

theorem readHex_replicate_zero (n : Nat) (text : List Char) :
    readHex (List.replicate n '0' ++ text) = readHex text := by
  induction n with
  | zero => rfl
  | succ n inductionHypothesis => exact inductionHypothesis

/-! ## The digits of `Nat.toDigits` -/

theorem digit_digitChar {d : Nat} (small : d < 16) : digit? (Nat.digitChar d) = some d := by
  interval_cases d <;> rfl

theorem digit_toUpper {d : Nat} (small : d < 16) : digit? (Nat.digitChar d).toUpper = some d := by
  interval_cases d <;> rfl

/-- All of a text is digits as `Nat.toDigits` writes them. -/
def Digits (text : List Char) : Prop := ∀ c ∈ text, ∃ d < 16, c = Nat.digitChar d

theorem digits_toDigits (n : Nat) : Digits (Nat.toDigits 16 n) := by
  intro c member
  induction n using Nat.strongRecOn with
  | ind n inductionHypothesis =>
    rw [Nat.toDigits_eq_if (by decide)] at member
    split_ifs at member with small
    · exact ⟨n, small, List.mem_singleton.mp member⟩
    · rcases List.mem_append.mp member with earlier | last
      · exact inductionHypothesis (n / 16) (by omega) earlier
      · exact ⟨n % 16, Nat.mod_lt n (by decide), List.mem_singleton.mp last⟩

theorem readHex_toDigits (n : Nat) : readHex (Nat.toDigits 16 n) = some n := by
  induction n using Nat.strongRecOn with
  | ind n inductionHypothesis =>
    rw [Nat.toDigits_eq_if (by decide)]
    split_ifs with small
    · simp [readHex, readHexFrom, digit_digitChar small]
    · have last : readHex [Nat.digitChar (n % 16)] = some (n % 16) := by
        simp [readHex, readHexFrom, digit_digitChar (Nat.mod_lt n (by decide : 0 < 16))]
      rw [readHex_append (inductionHypothesis (n / 16) (by omega)) last]
      simp only [List.length_singleton, pow_one, Option.some.injEq]
      omega

/-- Case does not matter to a text of digits. -/
theorem readHexFrom_toUpper {text : List Char} (digits : Digits text) (n : Nat) :
    readHexFrom n (text.map Char.toUpper) = readHexFrom n text := by
  induction text generalizing n with
  | nil => rfl
  | cons c text inductionHypothesis =>
    obtain ⟨d, small, rfl⟩ := digits c List.mem_cons_self
    simp only [List.map_cons, readHexFrom, digit_toUpper small, digit_digitChar small, Option.bind_some]
    exact inductionHypothesis (fun c member => digits c (List.mem_cons_of_mem _ member)) _

/-- Zeros in front do not matter. -/
theorem readHex_dropWhile_zero (text : List Char) : readHex (text.dropWhile (· = '0')) = readHex text := by
  induction text with
  | nil => rfl
  | cons c text inductionHypothesis =>
    by_cases zero : c = '0'
    · rw [zero]
      exact inductionHypothesis
    · simp [zero]

theorem digit_lt {c : Char} {digit : Nat} (isDigit : digit? c = some digit) : digit < 16 := by
  simp only [digit?, Char.le_def, UInt32.le_iff_toNat_le] at isDigit
  split_ifs at isDigit with decimal lower upper
  · have value : c.val.toNat - 48 = digit := Option.some.inj isDigit
    have top : c.val.toNat ≤ 57 := decimal.2
    omega
  · have value : c.val.toNat - 97 + 10 = digit := Option.some.inj isDigit
    have top : c.val.toNat ≤ 102 := lower.2
    omega
  · have value : c.val.toNat - 65 + 10 = digit := Option.some.inj isDigit
    have top : c.val.toNat ≤ 70 := upper.2
    omega

/-- A text of `k` digits stands for less than `16 ^ k`. -/
theorem readHex_lt {text : List Char} {n : Nat} (reads : readHex text = some n) :
    n < 16 ^ text.length := by
  induction text using List.reverseRecOn generalizing n with
  | nil =>
    obtain rfl : 0 = n := Option.some.inj reads
    simp
  | append_singleton text c inductionHypothesis =>
    rw [readHex, readHexFrom_append] at reads
    obtain ⟨m, high, low⟩ := Option.bind_eq_some_iff.mp reads
    have bound := inductionHypothesis high
    obtain ⟨digit, isDigit, sum⟩ := Option.bind_eq_some_iff.mp low
    have small := digit_lt isDigit
    obtain rfl : 16 * m + digit = n := Option.some.inj sum
    rw [List.length_append, List.length_singleton, pow_succ]
    omega

end M1k.Library.HexText
