import Mathlib.Data.List.Pairwise
import Mathlib.Data.List.Sort

/-!
# Narrowing a scan

A scan goes through a list in order and keeps the elements that pass a test. A narrowed
scan tests only some candidates, ordered by their place in the list. It keeps a part of what
the full scan keeps unless a candidate comes twice (`filter_sublist`), and all of it when no
element that passes is left out (`filter_eq_iff`).
-/

namespace Narrowing

variable {α : Type*} {pos : α → Nat} {full candidates : List α} {p : α → Bool}

def ordered (pos : α → Nat) (candidates : List α) : List α :=
  candidates.insertionSort fun a b => pos a ≤ pos b

/-- `pos` gives every element of the list its place. -/
def Places (pos : α → Nat) (full : List α) : Prop :=
  full.Pairwise fun a b => pos a < pos b

theorem Places.inj (h : Places pos full) {a b : α} (ha : a ∈ full) (hb : b ∈ full)
    (hEq : pos a = pos b) : a = b := by
  by_contra hNe
  have hSym : Std.Symm fun a b : α => pos a ≠ pos b := ⟨fun _ _ h => h.symm⟩
  exact List.Pairwise.forall (h.imp fun hlt => Nat.ne_of_lt hlt) ha hb hNe hEq

theorem ordered_perm (candidates : List α) : (ordered pos candidates).Perm candidates :=
  List.perm_insertionSort _ _

theorem ordered_pairwise (candidates : List α) :
    (ordered pos candidates).Pairwise fun a b => pos a ≤ pos b := by
  have hTotal : Std.Total fun a b : α => pos a ≤ pos b := ⟨fun a b => Nat.le_total _ _⟩
  have hTrans : IsTrans α fun a b : α => pos a ≤ pos b := ⟨fun a b c => Nat.le_trans⟩
  exact List.pairwise_insertionSort _ _

theorem filter_nodup_iff :
    ((ordered pos candidates).filter p).Nodup ↔ (candidates.filter p).Nodup :=
  ((ordered_perm candidates).filter p).nodup_iff

/-- Distinct elements that are ordered by their places stand in the order of the list. -/
theorem sublist_of_ordered (hPlaces : Places pos full) {part : List α}
    (hOrder : part.Pairwise fun a b => pos a ≤ pos b) (hNodup : part.Nodup)
    (hSub : part ⊆ full) : part.Sublist full := by
  have hAnti : Std.Antisymm fun a b : α => pos a < pos b :=
    ⟨fun a b hab hba => absurd hba (Nat.lt_asymm hab)⟩
  have hStrict : part.Pairwise fun a b => pos a < pos b := by
    have hBoth := List.Pairwise.and hOrder hNodup
    refine List.Pairwise.imp_of_mem ?_ hBoth
    intro a b ha hb h
    exact lt_of_le_of_ne h.1 fun hEq => h.2 (hPlaces.inj (hSub ha) (hSub hb) hEq)
  exact List.sublist_of_subperm_of_pairwise (List.subperm_of_subset hNodup hSub) hStrict hPlaces

theorem filter_sublist (hPlaces : Places pos full) (hSub : candidates ⊆ full)
    (hNodup : (candidates.filter p).Nodup) :
    ((ordered pos candidates).filter p).Sublist (full.filter p) := by
  have hIn : (ordered pos candidates).filter p ⊆ full := by
    intro a ha
    exact hSub ((ordered_perm candidates).subset (List.mem_filter.mp ha).1)
  have hPart := sublist_of_ordered hPlaces ((ordered_pairwise candidates).filter p)
    (filter_nodup_iff.mpr hNodup) hIn
  have hTwice := hPart.filter p
  rwa [List.filter_filter, funext fun a => Bool.and_self (p a)] at hTwice

theorem filter_eq_iff (hPlaces : Places pos full) (hSub : candidates ⊆ full)
    (hNodup : (candidates.filter p).Nodup) :
    (ordered pos candidates).filter p = full.filter p ↔
      ∀ a ∈ full, p a = true → a ∈ candidates := by
  have hPart := filter_sublist hPlaces hSub hNodup
  constructor
  · intro hEq a ha hp
    have hMem : a ∈ (ordered pos candidates).filter p :=
      hEq ▸ List.mem_filter.mpr ⟨ha, hp⟩
    exact (ordered_perm candidates).subset (List.mem_filter.mp hMem).1
  · intro hAll
    have hFull : (full.filter p).Nodup :=
      (hPlaces.imp fun h => by rintro rfl; exact Nat.lt_irrefl _ h).filter p
    apply hPart.eq_of_length_le
    apply List.Subperm.length_le
    apply List.subperm_of_subset hFull
    intro a ha
    obtain ⟨hMem, hp⟩ := List.mem_filter.mp ha
    exact List.mem_filter.mpr ⟨(ordered_perm candidates).symm.subset (hAll a hMem hp), hp⟩

end Narrowing
