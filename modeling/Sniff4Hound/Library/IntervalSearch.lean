import Mathlib.Order.Lattice
import Mathlib.Data.List.TakeWhile

/-!
# Intervals found by bisection

`bisectRight` narrows down, in a sorted list of keys, the place behind the keys that are at most a
value. Among intervals that stand apart in ascending order, the last one that begins at or before
the value is the only one that may hold it (`find?_eq_getLast?`).
-/

namespace IntervalSearch

variable {α β : Type*} [LinearOrder α] {keys : List α} {value : α}

/-- The place is at least `lo` and at most `hi`. -/
def bisectFrom (keys : List α) (value : α) (lo hi : Nat) : Nat :=
  if lo < hi then
    if keys[(lo + hi) / 2]?.any fun key => decide (value < key) then
      bisectFrom keys value lo ((lo + hi) / 2)
    else bisectFrom keys value ((lo + hi) / 2 + 1) hi
  else lo
termination_by hi - lo

def bisectRight (keys : List α) (value : α) : Nat := bisectFrom keys value 0 keys.length

def place (keys : List α) (value : α) : Nat :=
  (keys.takeWhile fun key => decide (key ≤ value)).length

theorem getElem?_any_lt_iff (hSorted : keys.Pairwise (· ≤ ·)) {i : Nat} (hi : i < keys.length) :
    (keys[i]?.any fun key => decide (value < key)) = true ↔ place keys value ≤ i := by
  induction keys generalizing i with
  | nil => exact absurd hi (Nat.not_lt_zero i)
  | cons key keys ih =>
    obtain ⟨hHead, hTail⟩ := List.pairwise_cons.mp hSorted
    by_cases hKey : key ≤ value
    · rw [place, List.takeWhile_cons, if_pos (decide_eq_true hKey)]
      cases i with
      | zero => simpa using hKey
      | succ i => simpa [place] using ih hTail (Nat.lt_of_succ_lt_succ hi)
    · have hGreater : ∀ other ∈ key :: keys, value < other := by
        intro other hOther
        rcases List.mem_cons.mp hOther with rfl | hOther
        · exact not_le.mp hKey
        · exact (not_le.mp hKey).trans_le (hHead other hOther)
      rw [place, List.takeWhile_cons, if_neg (by simpa using hKey), List.getElem?_eq_getElem hi]
      simpa using hGreater _ (List.getElem_mem hi)

theorem bisectFrom_eq (hSorted : keys.Pairwise (· ≤ ·)) {lo hi : Nat} (hLo : lo ≤ place keys value)
    (hHi : place keys value ≤ hi) (hLength : hi ≤ keys.length) :
    bisectFrom keys value lo hi = place keys value := by
  fun_induction bisectFrom keys value lo hi with
  | case1 lo hi hLess hAny ih =>
    exact ih hLo ((getElem?_any_lt_iff hSorted (by omega)).mp hAny) (by omega)
  | case2 lo hi hLess hAny ih =>
    have hNot := (getElem?_any_lt_iff hSorted (by omega)).not.mp hAny
    exact ih (by omega) hHi hLength
  | case3 lo hi hLess => omega

theorem bisectRight_eq (hSorted : keys.Pairwise (· ≤ ·)) :
    bisectRight keys value = place keys value :=
  bisectFrom_eq hSorted (Nat.zero_le _) (List.takeWhile_prefix _).length_le (Nat.le_refl _)

/-! ## Intervals -/

variable {first last : β → α} {rows : List β}

def Holds (first last : β → α) (value : α) (row : β) : Prop := first row ≤ value ∧ value ≤ last row

instance (row : β) : Decidable (Holds first last value row) := inferInstanceAs (Decidable (_ ∧ _))

theorem getElem?_place (rows : List β) (n : Nat) (h : place (rows.map first) value = n + 1) :
    rows[n]? = (rows.takeWhile fun row => decide (first row ≤ value)).getLast? := by
  have hLength : (rows.takeWhile fun row => decide (first row ≤ value)).length = n + 1 := by
    rw [← h, place, List.takeWhile_map, List.length_map]
    rfl
  rw [List.getLast?_eq_getElem?, hLength, Nat.add_sub_cancel]
  have hPrefix : (rows.takeWhile fun row => decide (first row ≤ value)) <+: rows :=
    List.takeWhile_prefix _
  rw [List.prefix_iff_getElem?.mp hPrefix n (by omega), List.getElem?_eq_getElem (by omega)]

theorem find?_eq_getLast? (hEach : ∀ row ∈ rows, first row ≤ last row)
    (hApart : rows.Pairwise fun a b => last a < first b) :
    (rows.find? fun row => decide (Holds first last value row)) =
      (rows.takeWhile fun row => decide (first row ≤ value)).getLast?.filter
        fun row => decide (value ≤ last row) := by
  induction rows with
  | nil => rfl
  | cons row rows ih =>
    obtain ⟨hHead, hTail⟩ := List.pairwise_cons.mp hApart
    have hRest := ih (fun other hOther => hEach other (List.mem_cons_of_mem _ hOther)) hTail
    by_cases hFirst : first row ≤ value
    · rw [List.takeWhile_cons, if_pos (decide_eq_true hFirst), List.getLast?_cons]
      cases hLater : (rows.takeWhile fun row => decide (first row ≤ value)).getLast? with
      | none =>
        rw [hLater] at hRest
        by_cases hLast : value ≤ last row
        · rw [List.find?_cons_of_pos (by simp [Holds, hFirst, hLast])]
          simp [Option.filter_some, hLast]
        · rw [List.find?_cons_of_neg (by simp [Holds, hLast]), hRest]
          simp [Option.filter_some, hLast]
      | some later =>
        have hMem := List.mem_of_getLast? hLater
        have hBegun : first later ≤ value := by simpa using List.mem_takeWhile_imp hMem
        have hLast : ¬ value ≤ last row := not_le.mpr
          ((hHead later ((List.takeWhile_prefix _).subset hMem)).trans_le hBegun)
        rw [List.find?_cons_of_neg (by simp [Holds, hLast]), hRest, hLater]
        rfl
    · rw [List.takeWhile_cons, if_neg (by simpa using hFirst), List.find?_eq_none.mpr]
      · rfl
      · intro other hOther
        rcases List.mem_cons.mp hOther with rfl | hOther
        · simp [Holds, hFirst]
        · have hBehind := (hEach row List.mem_cons_self).trans_lt (hHead other hOther)
          simp [Holds, not_le.mpr ((not_le.mp hFirst).trans hBehind)]

end IntervalSearch
