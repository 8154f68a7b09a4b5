import Mathlib.Data.List.Forall2

/-! # Requests and their answers

A party takes requests and answers them in the order in which they came.  `Settles` follows it
over a stretch of its work: the requests that wait at the start, those that come in, the answers
that go out and the requests that wait at the end.  Stretches compose, so that what is shown of
one step holds of a run: every request is answered once, or is still waiting. -/

namespace M1k.Library.Ledger

variable {α β : Type*} {Answers : α → β → Prop}

/-- The answers of the stretch go to its oldest requests, one each. -/
def Settles (Answers : α → β → Prop) (waiting asked : List α) (answers : List β)
    (left : List α) : Prop :=
  ∃ served, waiting ++ asked = served ++ left ∧ List.Forall₂ Answers served answers

namespace Settles

variable {waiting asked asked' left left' : List α} {answers answers' : List β}

theorem refl (Answers : α → β → Prop) (waiting : List α) : Settles Answers waiting [] [] waiting :=
  ⟨[], by simp, .nil⟩

theorem trans (first : Settles Answers waiting asked answers left)
    (second : Settles Answers left asked' answers' left') :
    Settles Answers waiting (asked ++ asked') (answers ++ answers') left' := by
  obtain ⟨served, balance, answered⟩ := first
  obtain ⟨served', balance', answered'⟩ := second
  refine ⟨served ++ served', ?_, List.rel_append answered answered'⟩
  calc waiting ++ (asked ++ asked') = (waiting ++ asked) ++ asked' := (List.append_assoc ..).symm
    _ = served ++ (left ++ asked') := by rw [balance, List.append_assoc]
    _ = served ++ served' ++ left' := by rw [balance', List.append_assoc]

/-- One request comes in. -/
theorem ask (request : α) : Settles Answers [] [request] [] [request] := ⟨[], rfl, .nil⟩

/-- The one request that waits is answered. -/
theorem answer {request : α} {answer : β} (answers : Answers request answer) :
    Settles Answers [request] [] [answer] [] :=
  ⟨[request], rfl, .cons answers .nil⟩

/-- From nothing waiting, each request is answered or waits. -/
theorem length (settles : Settles Answers [] asked answers left) :
    asked.length = answers.length + left.length := by
  obtain ⟨served, balance, answered⟩ := settles
  rw [List.nil_append] at balance
  rw [balance, List.length_append, answered.length_eq]

/-- From nothing waiting, each answer goes to the request of its own number. -/
theorem inOrder (settles : Settles Answers [] asked answers left) :
    List.Forall₂ Answers (asked.take answers.length) answers := by
  obtain ⟨served, balance, answered⟩ := settles
  rw [List.nil_append] at balance
  rwa [balance, List.take_left' answered.length_eq]

end Settles

end M1k.Library.Ledger
