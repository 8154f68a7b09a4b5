import Mathlib.Data.List.Range

/-! # A mailbox of one slot

An interrupt posts letters and raises a flag.  A loop polls the flag and hands the letter
posted last to a carrier, in single statements that the interrupt may come between.  The
carrier has one letter under way at a time, and may refuse one.  When the carrier has
delivered every letter before the next is posted, every letter is sent once and in order,
however the statements interleave. -/

namespace M1k.Library

/-- The statement of the loop that comes next. -/
inductive Mailbox.Stage where
  | rest
  | clear
  | claim
  | read
  | run (letter : Nat)
  deriving DecidableEq

structure Mailbox where
  /-- Letters posted; the one in the slot is `posted - 1`. -/
  posted : Nat
  flag : Bool
  /-- Set by the loop, cleared on delivery. -/
  busy : Bool
  stage : Mailbox.Stage
  underWay : Bool
  sent : List Nat
  delivered : Nat
  deriving DecidableEq

namespace Mailbox

inductive Action where
  | post
  | loop (accepted : Bool)
  | deliver
  deriving DecidableEq

def step (box : Mailbox) : Action → Mailbox
  | .post => { box with posted := box.posted + 1, flag := true }
  | .loop accepted =>
    match box.stage with
    | .rest => { box with stage := if !box.busy && box.flag then .clear else .rest }
    | .clear => { box with flag := false, stage := .claim }
    | .claim => { box with busy := true, stage := .read }
    | .read => { box with stage := .run (box.posted - 1) }
    | .run letter =>
      if accepted && !box.underWay then
        { box with underWay := true, sent := box.sent ++ [letter], stage := .rest }
      else { box with stage := .rest }
  | .deliver =>
    if box.underWay then
      { box with underWay := false, busy := false, delivered := box.delivered + 1 }
    else box

/-- Letters are posted when all earlier ones have been delivered. -/
def Timely (box : Mailbox) : Action → Prop
  | .post => box.posted ≤ box.delivered
  | .loop _ | .deliver => True

/-- The states of a timely mailbox, by the number `n` of letters delivered. -/
inductive InOrder : Mailbox → Prop where
  | idle (n : Nat) : InOrder ⟨n, false, false, .rest, false, List.range n, n⟩
  | posted (n : Nat) {stage : Stage} (early : stage = .rest ∨ stage = .clear) :
    InOrder ⟨n + 1, true, false, stage, false, List.range n, n⟩
  | cleared (n : Nat) : InOrder ⟨n + 1, false, false, .claim, false, List.range n, n⟩
  | claimed (n : Nat) : InOrder ⟨n + 1, false, true, .read, false, List.range n, n⟩
  | running (n : Nat) : InOrder ⟨n + 1, false, true, .run n, false, List.range n, n⟩
  | underWay (n : Nat) : InOrder ⟨n + 1, false, true, .rest, true, List.range (n + 1), n⟩
  /-- A refused letter is never delivered, so that nothing is posted after it. -/
  | refused (n : Nat) : InOrder ⟨n + 1, false, true, .rest, false, List.range n, n⟩

theorem InOrder.post {box : Mailbox} (inOrder : InOrder box) (timely : box.posted ≤ box.delivered) :
    InOrder (box.step .post) := by
  cases inOrder with
  | idle n => exact .posted n (.inl rfl)
  | posted n early => exact absurd timely (Nat.not_succ_le_self n)
  | cleared n => exact absurd timely (Nat.not_succ_le_self n)
  | claimed n => exact absurd timely (Nat.not_succ_le_self n)
  | running n => exact absurd timely (Nat.not_succ_le_self n)
  | underWay n => exact absurd timely (Nat.not_succ_le_self n)
  | refused n => exact absurd timely (Nat.not_succ_le_self n)

theorem InOrder.loop {box : Mailbox} (inOrder : InOrder box) (accepted : Bool) :
    InOrder (box.step (.loop accepted)) := by
  cases inOrder with
  | idle n => exact .idle n
  | posted n early =>
    rcases early with rfl | rfl
    · exact .posted n (.inr rfl)
    · exact .cleared n
  | cleared n => exact .claimed n
  | claimed n => exact .running n
  | running n =>
    cases accepted with
    | false => exact .refused n
    | true =>
      have last : InOrder ⟨n + 1, false, true, .rest, true, List.range (n + 1), n⟩ := .underWay n
      rw [List.range_succ] at last
      exact last
  | underWay n => exact .underWay n
  | refused n => exact .refused n

theorem InOrder.deliver {box : Mailbox} (inOrder : InOrder box) : InOrder (box.step .deliver) := by
  cases inOrder with
  | underWay n => exact .idle (n + 1)
  | idle n => exact .idle n
  | posted n early => exact .posted n early
  | cleared n => exact .cleared n
  | claimed n => exact .claimed n
  | running n => exact .running n
  | refused n => exact .refused n

theorem InOrder.step {box : Mailbox} (inOrder : InOrder box) {action : Action}
    (timely : Timely box action) : InOrder (box.step action) := by
  cases action with
  | post => exact inOrder.post timely
  | loop accepted => exact inOrder.loop accepted
  | deliver => exact inOrder.deliver

section Facts

variable {box : Mailbox} (inOrder : InOrder box)
include inOrder

/-- Every letter is sent once, and in order. -/
theorem InOrder.sent_eq_range : box.sent = List.range box.sent.length := by
  cases inOrder <;> simp

/-- At most the last letter posted has not been sent. -/
theorem InOrder.sent_keeps_up : box.sent.length ≤ box.posted ∧ box.posted ≤ box.sent.length + 1 := by
  cases inOrder <;> simp

theorem InOrder.sent_length : box.sent.length = box.delivered + box.underWay.toNat := by
  cases inOrder <;> simp

/-- The letter in hand is the next to be delivered, and the carrier is free. -/
theorem InOrder.running_next {letter : Nat} (running : box.stage = .run letter) :
    letter = box.delivered ∧ box.underWay = false := by
  cases inOrder <;> simp_all

/-- What is under way is the letter posted last, and nothing waits behind it. -/
theorem InOrder.underWay_last (underWay : box.underWay = true) :
    box.sent.length = box.posted ∧ box.posted = box.delivered + 1 ∧ box.flag = false ∧
      box.stage = .rest := by
  cases inOrder <;> simp_all

end Facts

/-- One timely step of the mailbox, or none. -/
def Moves (box box' : Mailbox) : Prop :=
  box' = box ∨ ∃ action, Timely box action ∧ box' = box.step action

theorem Moves.refl (box : Mailbox) : box.Moves box := .inl rfl

theorem Moves.of_step {box : Mailbox} {a : Action} (timely : Timely box a) :
    box.Moves (box.step a) := .inr ⟨a, timely, rfl⟩

/-- The rule for a system that a mailbox simulates. -/
theorem InOrder.moves {box box' : Mailbox} (inOrder : InOrder box) (moves : box.Moves box') :
    InOrder box' := by
  rcases moves with rfl | ⟨action, timely, rfl⟩
  · exact inOrder
  · exact inOrder.step timely

end Mailbox

end M1k.Library
