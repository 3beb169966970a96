import Mathlib.Tactic.TypeStar

/-!
# Loops that run until they leave

The body of a `while True` loop goes on with a next state or leaves with a result. The loop is
run for a number of rounds, so that a loop that never leaves has no result for any number. A
measure that every round lowers bounds the number of rounds, and what the rounds keep holds of
the result (`loop_total`); the result does not depend on the number (`loop_unique`).
-/

namespace Sniff4Hound.WhileLoop

inductive Round (σ ρ : Type*)
  | again (next : σ)
  | leave (result : ρ)

variable {σ ρ : Type*} {body : σ → Round σ ρ} {s next : σ} {m n : Nat} {result other : ρ}

/-- At most `n` rounds; `none` when the loop is still running then. -/
def loop (body : σ → Round σ ρ) : Nat → σ → Option ρ
  | 0, _ => none
  | n + 1, s =>
    match body s with
    | .again next => loop body n next
    | .leave result => some result

theorem loop_again (h : body s = .again next) : loop body (n + 1) s = loop body n next := by
  rw [loop, h]

theorem loop_leave (h : body s = .leave result) : loop body (n + 1) s = some result := by
  rw [loop, h]

theorem loop_more (h : loop body m s = some result) (hn : m ≤ n) :
    loop body n s = some result := by
  induction m generalizing n s with
  | zero => cases h
  | succ m ih =>
    obtain ⟨k, rfl⟩ : ∃ k, n = k + 1 := ⟨n - 1, by omega⟩
    cases hBody : body s with
    | again next =>
      rw [loop_again hBody] at h ⊢
      exact ih h (by omega)
    | leave found =>
      rw [loop_leave hBody] at h ⊢
      exact h

theorem loop_unique (h : loop body m s = some result) (h' : loop body n s = some other) :
    result = other := by
  have hFirst := loop_more h (Nat.le_max_left m n)
  have hSecond := loop_more h' (Nat.le_max_right m n)
  exact Option.some.inj (hFirst.symm.trans hSecond)

theorem loop_stuck (h : body s = .again s) (n : Nat) : loop body n s = none := by
  induction n with
  | zero => rfl
  | succ n ih => rw [loop_again h, ih]

/-- The rule of total correctness: the rounds keep `good` and lower the measure, and a round
that leaves gives a result with `after`. -/
theorem loop_total {after : ρ → Prop} (good : σ → Prop) (measure : σ → Nat)
    (hAgain : ∀ s next, good s → body s = .again next → good next ∧ measure next < measure s)
    (hLeave : ∀ s result, good s → body s = .leave result → after result)
    (hs : good s) (hn : measure s < n) : ∃ result, loop body n s = some result ∧ after result := by
  induction n generalizing s with
  | zero => exact absurd hn (Nat.not_lt_zero _)
  | succ n ih =>
    cases hBody : body s with
    | again next =>
      obtain ⟨hNext, hLower⟩ := hAgain s next hs hBody
      rw [loop_again hBody]
      exact ih hNext (by omega)
    | leave result =>
      exact ⟨result, loop_leave hBody, hLeave s result hs hBody⟩

end Sniff4Hound.WhileLoop
