import Mathlib.Logic.Basic

/-!
# Lists that are read as sets

Two lists with the same members answer alike whatever is asked of their members: whether there are
any, whether a value is one of them, whether one of them has a property. Cleaning the members one by
one and dropping some of them keeps that.
-/

namespace Sniff4Hound

variable {α β : Type*}

def SameMembers (l l' : List α) : Prop := ∀ x, x ∈ l ↔ x ∈ l'

namespace SameMembers

variable {l l' l'' : List α}

theorem refl (l : List α) : SameMembers l l := fun _ => Iff.rfl

variable (h : SameMembers l l')

include h

theorem trans (h' : SameMembers l' l'') : SameMembers l l'' :=
  fun x => (h x).trans (h' x)

theorem map (f : α → β) : SameMembers (l.map f) (l'.map f) := by
  intro y
  simp only [List.mem_map, h _]

theorem filter (p : α → Bool) : SameMembers (l.filter p) (l'.filter p) := by
  intro x
  rw [List.mem_filter, List.mem_filter, h x]

theorem isEmpty : l.isEmpty = l'.isEmpty := by
  rw [Bool.eq_iff_iff, List.isEmpty_iff, List.isEmpty_iff, List.eq_nil_iff_forall_not_mem,
    List.eq_nil_iff_forall_not_mem]
  exact forall_congr' fun x => not_congr (h x)

theorem mem [DecidableEq α] (x : α) : decide (x ∈ l) = decide (x ∈ l') :=
  decide_eq_decide.mpr (h x)

theorem any (p : α → Bool) : l.any p = l'.any p := by
  rw [Bool.eq_iff_iff, List.any_eq_true, List.any_eq_true]
  exact exists_congr fun x => and_congr_left' (h x)

end SameMembers

end Sniff4Hound
