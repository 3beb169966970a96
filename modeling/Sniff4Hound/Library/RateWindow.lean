import Mathlib.Algebra.Order.Group.Basic
import Mathlib.Data.List.Pairwise
import Mathlib.Data.List.TakeWhile

/-!
# Rates in sliding windows

A limiter keeps the times of what it allowed and forgets those that are out of the window. What it
has left is enough: the number of times in a window that ends now is the number it keeps
(`count_eq`), and when it allows no more while that many are kept, every window has at most so many,
wherever it ends (`bounded_snoc`).
-/

namespace RateWindow

variable {τ : Type*} [AddCommGroup τ] [LinearOrder τ]

/-- How many of the times lie in the window that ends at `last`, which its first moment is not
part of. -/
def count (window last : τ) (times : List τ) : Nat :=
  times.countP fun t => decide (last - window < t ∧ t ≤ last)

/-- What is kept of the times is a tail that holds all recent ones. -/
structure Kept (window now : τ) (times kept : List τ) : Prop where
  ordered : times.Pairwise (· ≤ ·)
  past : ∀ t ∈ times, t ≤ now
  split : ∃ gone, times = gone ++ kept ∧ ∀ t ∈ gone, t ≤ now - window

variable {window now last : τ} {times kept : List τ}

theorem kept_nil (window now : τ) : Kept window now [] [] :=
  ⟨List.Pairwise.nil, nofun, [], rfl, nofun⟩

variable (h : Kept window now times kept)

include h

theorem Kept.later [IsOrderedAddMonoid τ] {now' : τ} (hClock : now ≤ now') :
    Kept window now' times kept := by
  obtain ⟨gone, hSplit, hGone⟩ := h.split
  refine ⟨h.ordered, fun t ht => (h.past t ht).trans hClock, gone, hSplit, fun t ht => ?_⟩
  exact (hGone t ht).trans (sub_le_sub_right hClock window)

theorem Kept.prune : Kept window now times (kept.dropWhile fun t => decide (t ≤ now - window)) := by
  obtain ⟨gone, hSplit, hGone⟩ := h.split
  refine ⟨h.ordered, h.past, gone ++ kept.takeWhile fun t => decide (t ≤ now - window), ?_, ?_⟩
  · rw [List.append_assoc, List.takeWhile_append_dropWhile, hSplit]
  · intro t ht
    rcases List.mem_append.mp ht with ht | ht
    · exact hGone t ht
    · have hOld := List.mem_takeWhile_imp ht
      exact of_decide_eq_true hOld

theorem Kept.forget (hOld : ∀ t ∈ kept.getLast?, t ≤ now - window) : Kept window now times [] := by
  obtain ⟨gone, hSplit, hGone⟩ := h.split
  refine ⟨h.ordered, h.past, times, (List.append_nil _).symm, fun t ht => ?_⟩
  rw [hSplit] at ht
  rcases List.mem_append.mp ht with ht | ht
  · exact hGone t ht
  · have hOrdered := h.ordered
    rw [hSplit] at hOrdered
    obtain ⟨-, hOrdered, -⟩ := List.pairwise_append.mp hOrdered
    obtain ⟨front, final, rfl⟩ := List.eq_nil_or_concat kept |>.resolve_left
      (List.ne_nil_of_mem ht)
    have hFinal := hOld final (by simp)
    rw [List.concat_eq_append] at ht hOrdered
    rcases List.mem_append.mp ht with ht | ht
    · exact ((List.pairwise_append.mp hOrdered).2.2 t ht final
        (List.mem_singleton.mpr rfl)).trans hFinal
    · rwa [List.mem_singleton.mp ht]

theorem Kept.allow : Kept window now (times ++ [now]) (kept ++ [now]) := by
  obtain ⟨gone, hSplit, hGone⟩ := h.split
  refine ⟨?_, ?_, gone, ?_, hGone⟩
  · refine List.pairwise_append.mpr ⟨h.ordered, List.pairwise_singleton _ _, fun t ht t' ht' => ?_⟩
    rw [List.mem_singleton.mp ht']
    exact h.past t ht
  · intro t ht
    rcases List.mem_append.mp ht with ht | ht
    · exact h.past t ht
    · exact (List.mem_singleton.mp ht).le
  · rw [hSplit, List.append_assoc]

theorem Kept.count_eq :
    count window now times = (kept.dropWhile fun t => decide (t ≤ now - window)).length := by
  obtain ⟨gone, hSplit, hGone⟩ := h.prune.split
  generalize hLeft : (kept.dropWhile fun t => decide (t ≤ now - window)) = left at hSplit ⊢
  have hOrdered := h.ordered
  rw [hSplit] at hOrdered
  obtain ⟨-, hOrdered, -⟩ := List.pairwise_append.mp hOrdered
  have hInside : ∀ t ∈ left, now - window < t := by
    cases hFirst : left with
    | nil => exact nofun
    | cons first rest =>
      have hNew : ¬first ≤ now - window := by
        have hHead := List.head?_dropWhile_not (fun t => decide (t ≤ now - window)) kept
        rw [hLeft, hFirst] at hHead
        simpa using hHead
      rw [hFirst] at hOrdered
      have hRest := (List.pairwise_cons.mp hOrdered).1
      intro t ht
      rcases List.mem_cons.mp ht with rfl | ht
      · exact not_le.mp hNew
      · exact (not_le.mp hNew).trans_le (hRest t ht)
  have hGoneNone : gone.countP (fun t => decide (now - window < t ∧ t ≤ now)) = 0 := by
    refine List.countP_eq_zero.mpr fun t ht => ?_
    simpa using fun hIn => absurd hIn (not_lt.mpr (hGone t ht))
  have hLeftAll : left.countP (fun t => decide (now - window < t ∧ t ≤ now)) = left.length := by
    refine List.countP_eq_length.mpr fun t ht => decide_eq_true ⟨hInside t ht, h.past t ?_⟩
    rw [hSplit]
    exact List.mem_append_right _ ht
  rw [count, hSplit, List.countP_append, hGoneNone, hLeftAll, Nat.zero_add]

omit h

theorem bounded_snoc [IsOrderedAddMonoid τ] {limit : Nat} (hPast : ∀ t ∈ times, t ≤ now)
    (hRoom : count window now times < limit) (hBound : ∀ last, count window last times ≤ limit)
    (last : τ) : count window last (times ++ [now]) ≤ limit := by
  rw [count, List.countP_append, List.countP_singleton]
  rcases lt_or_ge last now with hBefore | hAfter
  · rw [if_neg (by simpa using fun _ => hBefore)]
    exact hBound last
  · have hFewer : count window last times ≤ count window now times := by
      refine List.countP_mono_left fun t ht hIn => ?_
      obtain ⟨hLow, -⟩ := of_decide_eq_true hIn
      exact decide_eq_true ⟨(sub_le_sub_right hAfter window).trans_lt hLow, hPast t ht⟩
    rw [count] at hFewer
    split
    · omega
    · omega

end RateWindow
