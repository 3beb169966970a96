import Mathlib.Data.List.Basic

/-!
# The retained window of a history

Items enter a history one after the other. Some of them are still waiting, the oldest first;
the others have been taken or lost. `Retained` says that only the oldest waiting item ever
leaves, so that what waits is the newest part of the history and what was taken is in order.
-/

namespace RetainedWindow

variable {α : Type*}

/-- The items in front of the waiting ones are those taken, in order, and `lost` others. -/
structure Retained (history taken waiting : List α) (lost : Nat) : Prop where
  split : ∃ front, history = front ++ waiting ∧ taken.Sublist front ∧
    front.length = taken.length + lost

theorem Retained.nil : Retained ([] : List α) [] [] 0 :=
  ⟨[], rfl, List.Sublist.refl [], rfl⟩

variable {history taken waiting : List α} {lost : Nat} {x : α}

variable (h : Retained history taken waiting lost)

include h

theorem Retained.accept (x : α) : Retained (history ++ [x]) taken (waiting ++ [x]) lost := by
  obtain ⟨front, rfl, hTaken, hLength⟩ := h.split
  exact ⟨front, List.append_assoc front waiting [x], hTaken, hLength⟩

omit h in
theorem Retained.take (h : Retained history taken (x :: waiting) lost) :
    Retained history (taken ++ [x]) waiting lost := by
  obtain ⟨front, rfl, hTaken, hLength⟩ := h.split
  refine ⟨front ++ [x], by simp, hTaken.append (List.Sublist.refl [x]), ?_⟩
  simp only [List.length_append, List.length_singleton]
  omega

omit h in
theorem Retained.evict (h : Retained history taken (x :: waiting) lost) :
    Retained history taken waiting (lost + 1) := by
  obtain ⟨front, rfl, hTaken, hLength⟩ := h.split
  refine ⟨front ++ [x], by simp, hTaken.trans (List.sublist_append_left front [x]), ?_⟩
  simp only [List.length_append, List.length_singleton]
  omega

theorem Retained.evict_all : Retained history taken [] (lost + waiting.length) := by
  induction waiting generalizing lost with
  | nil => exact h
  | cons x rest ih =>
    have hRest := ih h.evict
    rwa [Nat.add_right_comm, Nat.add_assoc] at hRest

omit h in
theorem Retained.take_append {rest : List α} (h : Retained history taken (waiting ++ rest) lost) :
    Retained history (taken ++ waiting) rest lost := by
  induction waiting generalizing taken with
  | nil => simpa using h
  | cons x waiting ih =>
    have hRest := ih h.take
    rwa [List.append_assoc] at hRest

theorem Retained.length_eq : history.length = taken.length + lost + waiting.length := by
  obtain ⟨front, rfl, -, hLength⟩ := h.split
  rw [List.length_append, hLength]

theorem Retained.newest : waiting = history.drop (history.length - waiting.length) := by
  obtain ⟨front, rfl, -, -⟩ := h.split
  rw [List.length_append, Nat.add_sub_cancel, List.drop_left]

theorem Retained.taken_sublist :
    taken.Sublist (history.take (history.length - waiting.length)) := by
  obtain ⟨front, rfl, hTaken, -⟩ := h.split
  rwa [List.length_append, Nat.add_sub_cancel, List.take_left]

end RetainedWindow
