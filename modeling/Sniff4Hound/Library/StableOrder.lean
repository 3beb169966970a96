import Mathlib.Data.List.Sort

/-!
# The last element of a stable sort

`ORDER BY g ASC, id ASC` over rows in the order of their ids is the stable sort by `g`, which
`List.insertionSort` is. Selecting rows before or after the sort is the same
(`filter_orderBy`), and the last row of the sort is the one that every other row comes
before, by `g` or, on a tie, by its place (`getLast?_orderBy`).
-/

namespace StableOrder

variable {α τ : Type*} [LinearOrder τ] (g : α → τ)

/-- The rows in the order of `g`, and of their ids where `g` ties. -/
def orderBy (l : List α) : List α := l.insertionSort fun a b => g a ≤ g b

theorem orderBy_cons (a : α) (l : List α) :
    orderBy g (a :: l) = (orderBy g l).orderedInsert (fun a b => g a ≤ g b) a := rfl

theorem mem_orderBy {l : List α} {a : α} : a ∈ orderBy g l ↔ a ∈ l := List.mem_insertionSort _

theorem perm_orderBy (l : List α) : (orderBy g l).Perm l := List.perm_insertionSort _ l

theorem pairwise_orderBy (l : List α) : (orderBy g l).Pairwise fun a b => g a ≤ g b :=
  haveI : Std.Total fun a b : α => g a ≤ g b := ⟨fun a b => le_total (g a) (g b)⟩
  haveI : IsTrans α fun a b : α => g a ≤ g b := ⟨fun _ _ _ => le_trans⟩
  List.pairwise_insertionSort _ l

theorem filter_orderedInsert_of_neg {p : α → Bool} {a : α} (ha : p a = false) (l : List α) :
    (l.orderedInsert (fun a b => g a ≤ g b) a).filter p = l.filter p := by
  induction l with
  | nil => simp [ha]
  | cons b rest ih =>
    rw [List.orderedInsert]
    split
    · rw [List.filter_cons_of_neg (by simp [ha])]
    · rw [List.filter_cons, List.filter_cons, ih]

theorem filter_orderedInsert_of_pos {p : α → Bool} {a : α} (ha : p a = true) {l : List α}
    (hSorted : l.Pairwise fun a b => g a ≤ g b) :
    (l.orderedInsert (fun a b => g a ≤ g b) a).filter p =
      (l.filter p).orderedInsert (fun a b => g a ≤ g b) a := by
  induction l with
  | nil => simp [ha]
  | cons b rest ih =>
    obtain ⟨hHead, hRest⟩ := List.pairwise_cons.mp hSorted
    rw [List.orderedInsert]
    split
    · rename_i hLe
      rw [List.filter_cons_of_pos ha]
      have hFirst : ∀ c ∈ (b :: rest).filter p, g a ≤ g c := by
        intro c hc
        rcases List.mem_cons.mp (List.mem_filter.mp hc).1 with rfl | hIn
        · exact hLe
        · exact hLe.trans (hHead c hIn)
      cases hFilter : (b :: rest).filter p with
      | nil => rfl
      | cons c others =>
        rw [List.orderedInsert, if_pos (hFirst c (by rw [hFilter]; exact List.mem_cons_self))]
    · rename_i hLess
      rw [List.filter_cons, List.filter_cons, ih hRest]
      split
      · rw [List.orderedInsert, if_neg hLess]
      · rfl

theorem filter_orderBy (p : α → Bool) (l : List α) :
    (orderBy g l).filter p = orderBy g (l.filter p) := by
  induction l with
  | nil => rfl
  | cons a rest ih =>
    rw [orderBy_cons]
    cases ha : p a with
    | false =>
      rw [filter_orderedInsert_of_neg g ha, ih, List.filter_cons_of_neg (by simp [ha])]
    | true =>
      rw [filter_orderedInsert_of_pos g ha (pairwise_orderBy g rest), ih,
        List.filter_cons_of_pos ha, orderBy_cons]

/-- Every other row comes before `a`. -/
def IsLast (l : List α) (a : α) : Prop :=
  ∀ b ∈ l, b ≠ a → g b < g a ∨ g b = g a ∧ [b, a].Sublist l

theorem getLast?_orderBy {l : List α} (hNodup : l.Nodup) {a : α} (hMem : a ∈ l)
    (hLast : IsLast g l a) : (orderBy g l).getLast? = some a := by
  have hNodup' : (orderBy g l).Nodup := (perm_orderBy g l).nodup_iff.mpr hNodup
  have hMem' : a ∈ orderBy g l := (mem_orderBy g).mpr hMem
  have hSorted := pairwise_orderBy g l
  rcases List.eq_nil_or_concat (orderBy g l) with hNil | ⟨front, b, hConcat⟩
  · rw [hNil] at hMem'
    cases hMem'
  · rw [hConcat, List.concat_eq_append, List.getLast?_append, List.getLast?_singleton]
    rw [hConcat, List.concat_eq_append] at hNodup' hMem' hSorted
    by_cases hEq : b = a
    · rw [hEq]
      rfl
    · have hFront : a ∈ front := by
        rcases List.mem_append.mp hMem' with hIn | hIn
        · exact hIn
        · exact absurd (List.mem_singleton.mp hIn).symm hEq
      have hLe : g a ≤ g b :=
        (List.pairwise_append.mp hSorted).2.2 a hFront b (List.mem_singleton_self b)
      have hb : b ∈ l := by
        rw [← mem_orderBy g, hConcat, List.concat_eq_append]
        exact List.mem_append_right _ (List.mem_singleton_self b)
      rcases hLast b hb hEq with hLess | ⟨hTie, hBefore⟩
      · exact absurd hLe (not_le.mpr hLess)
      · -- on a tie the sort keeps `b` before `a`, but `b` is its last element
        have hKept : [b, a].Sublist (orderBy g l) :=
          List.pair_sublist_insertionSort hTie.le hBefore
        rw [hConcat, List.concat_eq_append] at hKept
        have hNotFront : b ∉ front := fun hIn =>
          List.disjoint_of_nodup_append hNodup' hIn (List.mem_singleton_self b)
        obtain ⟨l₁, l₂, hSplit, hLeft, hRight⟩ := List.sublist_append_iff.mp hKept
        cases l₁ with
        | nil =>
          have hLength := hRight.length_le
          rw [← List.nil_append l₂, ← hSplit] at hLength
          simp at hLength
        | cons c rest =>
          obtain ⟨rfl, -⟩ := List.cons.inj hSplit
          exact absurd (hLeft.subset List.mem_cons_self) hNotFront

end StableOrder
