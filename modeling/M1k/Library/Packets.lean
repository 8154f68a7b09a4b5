import Mathlib.Data.List.Infix
import Mathlib.Tactic.SplitIfs

/-! # Transfers in packets

A transfer of any length goes over a bus whose packets have a size at most.  Its packets are full,
but for what is left at the end; a receiver that does not know the length reads up to the first
packet that is not full. -/

namespace M1k.Library.Packets

/-- The packets of a transfer -/
def frame (size length : Nat) : List Nat :=
  List.replicate (length / size) size ++ if length % size = 0 then [] else [length % size]

/-- A transfer in two parts has the packets of both, when the first part ends with a packet. -/
theorem frame_add {size : Nat} (positive : 0 < size) {first : Nat} (whole : size ∣ first) (second : Nat) :
    frame size (first + second) = frame size first ++ frame size second := by
  obtain ⟨k, rfl⟩ := whole
  have packets : (size * k + second) / size = k + second / size := Nat.mul_add_div positive k second
  have rest : (size * k + second) % size = second % size := Nat.mul_add_mod size k second
  have all : size * k / size = k := Nat.mul_div_cancel_left k positive
  simp only [frame, packets, rest, all, Nat.mul_mod_right, if_true, List.append_nil, List.replicate_add,
    List.append_assoc]

/-- What a receiver reads, and the packets that it leaves -/
def receive (size : Nat) : List Nat → Option (Nat × List Nat)
  | [] => none
  | packet :: packets =>
    if packet < size then some (packet, packets)
    else (receive size packets).map fun (length, rest) => (packet + length, rest)

theorem receive_full (size : Nat) (n : Nat) (packets : List Nat) :
    receive size (List.replicate n size ++ packets) =
      (receive size packets).map fun (length, rest) => (n * size + length, rest) := by
  induction n with
  | zero => simp
  | succ n inductionHypothesis =>
    rw [List.replicate_succ, List.cons_append, receive, if_neg (Nat.lt_irrefl size),
      inductionHypothesis, Option.map_map]
    congr 1
    funext ⟨length, rest⟩
    simp only [Function.comp_apply, Prod.mk.injEq, and_true]
    rw [Nat.succ_mul]
    omega

/-- A last packet that is not full, an empty one at the least, shows the receiver the end. -/
theorem receive_frame {size : Nat} (positive : 0 < size) (length : Nat) (rest : List Nat) :
    receive size (frame size length ++ (if length % size = 0 then [0] else []) ++ rest) =
      some (length, rest) := by
  have whole := Nat.div_add_mod' length size
  have short := Nat.mod_lt length positive
  rw [frame, List.append_assoc, List.append_assoc, receive_full]
  split_ifs with exact
  · simp only [List.nil_append, List.cons_append, receive, positive, if_true, Option.map_some]
    rw [show length / size * size + 0 = length by omega]
  · simp only [List.nil_append, List.cons_append, receive, short, if_true, Option.map_some]
    rw [whole]

/-- Without it the receiver goes on waiting. -/
theorem receive_frame_whole {size length : Nat} (whole : length % size = 0) :
    receive size (frame size length) = none := by
  rw [frame, if_pos whole, receive_full, receive]
  rfl

end M1k.Library.Packets
