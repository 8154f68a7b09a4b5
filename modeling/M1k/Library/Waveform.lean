import Mathlib.Init

/-! # A timer with compare outputs

A counter that counts the ticks of its clock up to a period and starts again.  A compare value sets
an output, and the restart of the counter clears it. -/

namespace M1k.Library.Waveform

/-- The output at a tick. -/
def high (period compare tick : Nat) : Bool := compare ≤ tick % period

/-- The output rises at this tick. -/
def Rises (period compare tick : Nat) : Prop :=
  high period compare tick = true ∧ high period compare (tick - 1) = false

/-- The output rises in every period of the counter. -/
def RisesEveryPeriod (period compare : Nat) : Prop :=
  ∀ k, ∃ tick, period * k ≤ tick ∧ tick < period * (k + 1) ∧ Rises period compare tick

/-- A compare value that the counter reaches, and not with its restart, makes the output rise in
    every period. -/
theorem risesEveryPeriod {period compare : Nat} (positive : 0 < compare) (reached : compare < period) :
    RisesEveryPeriod period compare := by
  intro k
  have count (c : Nat) (inPeriod : c < period) : (period * k + c) % period = c := by
    rw [Nat.mul_add_mod, Nat.mod_eq_of_lt inPeriod]
  refine ⟨period * k + compare, Nat.le_add_right _ _, ?_, ?_, ?_⟩
  · rw [Nat.mul_succ]
    omega
  · simp [high, count compare reached]
  · have before : period * k + compare - 1 = period * k + (compare - 1) := by omega
    have below : ¬ compare ≤ compare - 1 := by omega
    simp [high, before, count (compare - 1) (by omega), below]

/-- A compare value that the counter never reaches leaves the output low. -/
theorem never_rises {period compare : Nat} (some : 0 < period) (beyond : period ≤ compare) (tick : Nat) :
    ¬ Rises period compare tick := by
  intro rises
  have reached : compare ≤ tick % period := by simpa [high] using rises.1
  have small := Nat.mod_lt tick some
  omega

end M1k.Library.Waveform
