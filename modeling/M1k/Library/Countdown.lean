import M1k.Library.Refinement

/-! # Watchdogs

A counter that ticks count down and that a reload sets back.  It expires at the tick that finds it
empty, and then starts over. -/

namespace M1k.Library.Runs

inductive Beat where
  | tick
  | reload
  deriving DecidableEq

def countdown (period left : Nat) : Beat → Nat
  | .tick => if left = 0 then period else left - 1
  | .reload => period

def Expires (left : Nat) (beat : Beat) : Prop := left = 0 ∧ beat = .tick

theorem never_expires_within {period left : Nat} (bound : left ≤ period) (beats : List Beat) :
    Throughout (countdown period) (fun left beat => ¬ Expires left beat) left beats ↔
      ¬ List.replicate (left + 1) Beat.tick <+: beats ∧
        ¬ List.replicate (period + 1) Beat.tick <:+: beats := by
  induction beats generalizing left with
  | nil => simp
  | cons beat beats inductionHypothesis =>
    rw [throughout_cons, List.infix_cons_iff]
    cases beat with
    | reload =>
      have unstarted (n : Nat) : ¬ List.replicate (n + 1) Beat.tick <+: Beat.reload :: beats := by
        simp [List.replicate_succ, List.cons_prefix_cons]
      have alive : ¬ Expires left .reload := fun expires => Beat.noConfusion expires.2
      have later := inductionHypothesis (le_refl period)
      have inner : List.replicate (period + 1) Beat.tick <+: beats →
          List.replicate (period + 1) Beat.tick <:+: beats := List.IsPrefix.isInfix
      have reloaded : countdown period left .reload = period := rfl
      rw [reloaded, later]
      have := unstarted left
      have := unstarted period
      tauto
    | tick =>
      have started (n : Nat) : List.replicate (n + 1) Beat.tick <+: Beat.tick :: beats ↔
          List.replicate n Beat.tick <+: beats := by
        simp [List.replicate_succ, List.cons_prefix_cons]
      rw [started, started]
      cases left with
      | zero =>
        have expired : Expires 0 .tick := ⟨rfl, rfl⟩
        simp [expired]
      | succ left =>
        have alive : ¬ Expires (left + 1) .tick := fun expires => Nat.succ_ne_zero left expires.1
        have counted : countdown period (left + 1) .tick = left := by simp [countdown]
        -- a longer row of ticks has the shorter one at its start
        have shorter (row : List.replicate period Beat.tick <+: beats) :
            List.replicate (left + 1) Beat.tick <+: beats := by
          have start : List.replicate (left + 1) Beat.tick <+: List.replicate period Beat.tick :=
            List.prefix_replicate_iff.mpr ⟨by simpa using bound, by simp⟩
          exact start.trans row
        rw [counted, inductionHypothesis (Nat.le_of_succ_le bound)]
        tauto

/-- A watchdog never expires exactly when no more ticks than its period come in a row. -/
theorem never_expires_iff (period : Nat) (beats : List Beat) :
    Throughout (countdown period) (fun left beat => ¬ Expires left beat) period beats ↔
      ¬ List.replicate (period + 1) Beat.tick <:+: beats := by
  rw [never_expires_within le_rfl]
  exact and_iff_right_of_imp fun apart row => apart row.isInfix

end M1k.Library.Runs
