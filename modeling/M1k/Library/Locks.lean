import M1k.Library.Bytes
import M1k.Library.Runs

/-! # Memory in regions that can be locked

The places of a memory belong to regions, and a region may be locked.  A write goes from place to
place and ends before the first that belongs to a locked region. -/

namespace M1k.Library.Locks

open Bytes Runs

variable {α : Type*}

structure Store (α : Type*) where
  bytes : Nat → α
  locked : Nat → Bool

inductive Op (α : Type*) where
  /-- Every region from that of `first` to that of `last` is locked, or unlocked. -/
  | set (lock : Bool) (first last : Nat)
  | write (start : Nat) (values : List α)

section Regions

variable (region : Nat → Nat)

/-- How many of `n` places from `start` on a write gets to -/
def reach (locked : Nat → Bool) : Nat → Nat → Nat
  | _, 0 => 0
  | start, n + 1 => if locked (region start) then 0 else reach locked (start + 1) n + 1

def Store.step (s : Store α) : Op α → Store α
  | .set lock first last =>
    { s with locked := fun r => if region first ≤ r ∧ r ≤ region last then lock else s.locked r }
  | .write start values =>
    { s with bytes := put s.bytes start (values.take (reach region s.locked start values.length)) }

/-- The operation does all that it is asked for. -/
def Store.Completes (s : Store α) : Op α → Prop
  | .set _ _ _ => True
  | .write start values => reach region s.locked start values.length = values.length

/-- The operation unlocks a region. -/
def Op.Unlocks (r : Nat) : Op α → Prop
  | .set lock first last => lock = false ∧ region first ≤ r ∧ r ≤ region last
  | .write _ _ => False

end Regions

variable {region : Nat → Nat} {locked : Nat → Bool} {start : Nat}

theorem reach_le (n : Nat) : reach region locked start n ≤ n := by
  induction n generalizing start with
  | zero => exact Nat.le_refl 0
  | succ n inductionHypothesis =>
    rw [reach]
    split_ifs with stop
    · exact Nat.zero_le _
    · exact Nat.succ_le_succ inductionHypothesis

theorem reach_locked (stop : locked (region start) = true) (n : Nat) :
    reach region locked start n = 0 := by
  cases n with
  | zero => rfl
  | succ n => rw [reach, if_pos stop]

/-- A write gets past places that are open. -/
theorem reach_add {first : Nat} (opened : ∀ k < first, locked (region (start + k)) = false) (n : Nat) :
    reach region locked start (first + n) = first + reach region locked (start + first) n := by
  induction first generalizing start with
  | zero => simp
  | succ first inductionHypothesis =>
    have here : locked (region start) = false := opened 0 (Nat.succ_pos first)
    have later := inductionHypothesis fun k inside => by
      have next := opened (k + 1) (Nat.succ_lt_succ inside)
      rwa [Nat.add_comm k 1, ← Nat.add_assoc] at next
    have places : start + 1 + first = start + (first + 1) := by omega
    rw [Nat.succ_add, reach, here, if_neg Bool.false_ne_true, later, places]
    omega

theorem reach_open {n : Nat} (opened : ∀ k < n, locked (region (start + k)) = false) :
    reach region locked start n = n := by
  rw [← Nat.add_zero n, reach_add opened, reach]

/-- What a write gets to is not locked. -/
theorem open_of_reach {n k : Nat} (inside : k < reach region locked start n) :
    locked (region (start + k)) = false := by
  induction n generalizing start k with
  | zero => cases inside
  | succ n inductionHypothesis =>
    rw [reach] at inside
    cases here : locked (region start) with
    | true =>
      rw [here, if_pos rfl] at inside
      cases inside
    | false =>
      rw [here, if_neg Bool.false_ne_true] at inside
      cases k with
      | zero => exact here
      | succ k =>
        have next := inductionHypothesis (Nat.lt_of_succ_lt_succ inside)
        rwa [Nat.add_assoc, Nat.add_comm 1 k] at next

/-- One operation leaves a locked region locked, and its places as they are, unless it unlocks it. -/
theorem locked_step {s : Store α} {op : Op α} {r : Nat} (isLocked : s.locked r = true)
    (keeps : ¬ op.Unlocks region r) : (s.step region op).locked r = true ∧
      ∀ a, region a = r → (s.step region op).bytes a = s.bytes a := by
  cases op with
  | set lock first last =>
    refine ⟨?_, fun _ _ => rfl⟩
    by_cases inside : region first ≤ r ∧ r ≤ region last
    · cases lock with
      | false => exact absurd ⟨rfl, inside⟩ keeps
      | true => simp [Store.step, inside]
    · simp [Store.step, inside, isLocked]
  | write start values =>
    refine ⟨isLocked, fun a inRegion => put_outside ?_⟩
    by_contra within
    rw [List.length_take, Nat.min_eq_left (reach_le _)] at within
    have inside : a - start < reach region s.locked start values.length := by omega
    have opened := open_of_reach inside
    rw [Nat.add_sub_cancel' (by omega), inRegion, isLocked] at opened
    cases opened

/-- A locked region keeps its places through any operations that do not unlock it. -/
theorem locked_kept {s : Store α} {r : Nat} (isLocked : s.locked r = true) {ops : List (Op α)}
    (keeps : ∀ op ∈ ops, ¬ op.Unlocks region r) :
    (run (Store.step region) s ops).locked r = true ∧
      ∀ a, region a = r → (run (Store.step region) s ops).bytes a = s.bytes a := by
  induction ops generalizing s with
  | nil => exact ⟨isLocked, fun _ _ => rfl⟩
  | cons op ops inductionHypothesis =>
    obtain ⟨still, same⟩ := locked_step isLocked (keeps op List.mem_cons_self)
    obtain ⟨last, kept⟩ := inductionHypothesis still fun op member => keeps op (List.mem_cons_of_mem _ member)
    exact ⟨last, fun a inRegion => (kept a inRegion).trans (same a inRegion)⟩

end M1k.Library.Locks
