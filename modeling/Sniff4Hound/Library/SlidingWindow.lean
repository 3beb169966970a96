import Mathlib.Algebra.Order.Group.Defs

/-!
# Sliding windows

A queue of times. `push` appends the present time and drops the front while it is older than
the window; `record` empties the queue when it has reached a threshold. Nothing is assumed of
the times in the queue: what is dropped is older than the window in any case.
-/

namespace SlidingWindow

section Recent

variable {τ : Type*} [LinearOrder τ]

/-- How many of the events are not older than `low`. -/
def recent (low : τ) (events : List τ) : Nat := events.countP fun t => decide (low ≤ t)

theorem recent_le_length (low : τ) (events : List τ) : recent low events ≤ events.length :=
  List.countP_le_length

theorem recent_dropWhile_of {low : τ} {old : τ → Bool} (h : ∀ t, old t = true → t < low)
    (events : List τ) : recent low (events.dropWhile old) = recent low events := by
  induction events with
  | nil => rfl
  | cons t rest ih =>
    by_cases hOld : old t = true
    · have hNot : ¬ low ≤ t := not_le.mpr (h t hOld)
      rw [List.dropWhile_cons_of_pos hOld, ih, recent, recent,
        List.countP_cons_of_neg (by simpa using hNot)]
    · rw [List.dropWhile_cons_of_neg hOld]

theorem recent_dropWhile {cutoff low : τ} (h : cutoff ≤ low) (events : List τ) :
    recent low (events.dropWhile fun t => decide (t < cutoff)) = recent low events :=
  recent_dropWhile_of (fun _ hOld => (of_decide_eq_true hOld).trans_le h) events

theorem recent_snoc {low t : τ} (h : low ≤ t) (events : List τ) :
    recent low (events ++ [t]) = recent low events + 1 := by
  rw [recent, List.countP_append, List.countP_singleton, if_pos (by simpa using h), recent]

end Recent

variable {τ : Type*} [AddCommGroup τ] [LinearOrder τ]

def push (window : τ) (events : List τ) (now : τ) : List τ :=
  (events ++ [now]).dropWhile fun t => decide (t < now - window)

def record (window : τ) (threshold : Nat) (events : List τ) (now : τ) : List τ × Bool :=
  let kept := push window events now
  if threshold ≤ kept.length then ([], true) else (kept, false)

theorem recent_push {window low now : τ} (hWindow : now - window ≤ low) (hNow : low ≤ now)
    (events : List τ) : recent low (push window events now) = recent low events + 1 := by
  rw [push, recent_dropWhile hWindow, recent_snoc hNow]

theorem length_push_le (window : τ) (events : List τ) (now : τ) :
    (push window events now).length ≤ events.length + 1 := by
  have hLength : (push window events now).length ≤ (events ++ [now]).length :=
    (List.dropWhile_sublist _).length_le
  rwa [List.length_append, List.length_singleton] at hLength

theorem recent_record {window low now : τ} {threshold : Nat} (hWindow : now - window ≤ low)
    (hNow : low ≤ now) (events : List τ)
    (hQuiet : (record window threshold events now).2 = false) :
    recent low (record window threshold events now).1 = recent low events + 1 ∧
      (record window threshold events now).1.length < threshold := by
  rw [record] at hQuiet ⊢
  split at hQuiet
  · cases hQuiet
  · rename_i hShort
    rw [if_neg hShort]
    exact ⟨recent_push hWindow hNow events, not_le.mp hShort⟩

theorem length_record_le (window : τ) (threshold : Nat) (events : List τ) (now : τ) :
    (record window threshold events now).1.length ≤ events.length + 1 ∧
      ((record window threshold events now).2 = true → threshold ≤ events.length + 1) := by
  have hLength := length_push_le window events now
  rw [record]
  split
  · rename_i hFull
    exact ⟨Nat.zero_le _, fun _ => hFull.trans hLength⟩
  · exact ⟨hLength, nofun⟩

end SlidingWindow
