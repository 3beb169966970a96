import Mathlib.Data.List.MinMax
import Mathlib.Data.List.Pairwise

/-!
# Entries behind marks

A list in which some entries are marks and every other entry belongs to the last mark before
it. `groups` takes it apart, and a list made of marked blocks gives its blocks back
(`groups_flatMap`). Two other readers find the same groups: one walks along the list with a
cursor at the last mark (`collect_eq`), the other looks in a table with ascending ids between
the id of a mark and that of the next (`windows_eq_groups`).
-/

namespace MarkedRuns

variable {α β : Type*}

section Groups

variable {mark : α → Bool}

@[grind =] def groups (mark : α → Bool) : List α → List (α × List α)
  | [] => []
  | a :: l =>
    if mark a then (a, l.takeWhile fun b => !mark b) :: groups mark l else groups mark l

theorem groups_append_of_unmarked {l : List α} (h : ∀ a ∈ l, mark a = false) (l' : List α) :
    groups mark (l ++ l') = groups mark l' := by
  induction l with
  | nil => rfl
  | cons a l ih =>
    rw [List.cons_append, groups, h a List.mem_cons_self, if_neg Bool.false_ne_true]
    exact ih fun b hb => h b (List.mem_cons_of_mem _ hb)

theorem groups_filter {keep : α → Bool} (hMark : ∀ a, mark a = true → keep a = true)
    (l : List α) :
    groups mark (l.filter keep) = (groups mark l).map fun g => (g.1, g.2.filter keep) := by
  have hTake : ∀ l : List α, (l.filter keep).takeWhile (fun b => !mark b) =
      (l.takeWhile fun b => !mark b).filter keep := by
    intro l
    induction l with
    | nil => rfl
    | cons a l ih =>
      by_cases hMarked : mark a = true
      · rw [List.filter_cons_of_pos (hMark a hMarked),
          List.takeWhile_cons_of_neg (by simp [hMarked]), List.takeWhile_cons_of_neg
            (by simp [hMarked]), List.filter_nil]
      · rw [List.takeWhile_cons_of_pos (by simp [hMarked])]
        by_cases hKept : keep a = true
        · rw [List.filter_cons_of_pos hKept, List.filter_cons_of_pos hKept,
            List.takeWhile_cons_of_pos (by simp [hMarked]), ih]
        · rw [List.filter_cons_of_neg hKept, List.filter_cons_of_neg hKept, ih]
  induction l with
  | nil => rfl
  | cons a l ih =>
    by_cases hMarked : mark a = true
    · rw [List.filter_cons_of_pos (hMark a hMarked), groups, groups, if_pos hMarked,
        if_pos hMarked, List.map_cons, hTake, ih]
    · rw [groups, if_neg hMarked, ← ih]
      by_cases hKept : keep a = true
      · rw [List.filter_cons_of_pos hKept, groups, if_neg hMarked]
      · rw [List.filter_cons_of_neg hKept]

theorem groups_map (f : β → α) (l : List β) :
    groups mark (l.map f) = (groups (fun b => mark (f b)) l).map fun g => (f g.1, g.2.map f) := by
  induction l with
  | nil => rfl
  | cons b l ih =>
    rw [List.map_cons, groups, groups, List.takeWhile_map]
    split
    · rw [List.map_cons, ih]
      rfl
    · exact ih

theorem groups_flatMap {head : β → α} {rest : β → List α} {xs : List β}
    (hHead : ∀ x ∈ xs, mark (head x) = true)
    (hRest : ∀ x ∈ xs, ∀ a ∈ rest x, mark a = false) :
    groups mark (xs.flatMap fun x => head x :: rest x) = xs.map fun x => (head x, rest x) := by
  induction xs with
  | nil => rfl
  | cons x xs ih =>
    have hPlain := hRest x List.mem_cons_self
    have hStops : ((xs.flatMap fun y => head y :: rest y).takeWhile fun b => !mark b) = [] := by
      cases xs with
      | nil => rfl
      | cons y ys =>
        have hMarked := hHead y (List.mem_cons_of_mem _ List.mem_cons_self)
        rw [List.flatMap_cons, List.cons_append, List.takeWhile_cons_of_neg (by simp [hMarked])]
    have hTake : (rest x ++ xs.flatMap fun y => head y :: rest y).takeWhile
        (fun b => !mark b) = rest x := by
      rw [List.takeWhile_append_of_pos fun a ha => by simp [hPlain a ha], hStops,
        List.append_nil]
    rw [List.flatMap_cons, List.cons_append, groups, if_pos (hHead x List.mem_cons_self),
      hTake, groups_append_of_unmarked hPlain, List.map_cons,
      ih (fun y hy => hHead y (List.mem_cons_of_mem _ hy))
        fun y hy => hRest y (List.mem_cons_of_mem _ hy)]

end Groups

/-! ## A cursor -/

structure Cursor (β : Type*) where
  read : List β
  current : Option β

section Cursors

variable (mark : α → Bool) (start : α → Option β) (extend : β → α → β)

def Cursor.next (c : Cursor β) (a : α) : Cursor β :=
  if mark a then ⟨c.read ++ c.current.toList, start a⟩
  else { c with current := c.current.map fun b => extend b a }

def collect (l : List α) : List β :=
  let c := l.foldl (Cursor.next mark start extend) ⟨[], none⟩
  c.read ++ c.current.toList

theorem foldl_next (l : List α) (c : Cursor β) :
    let c' := l.foldl (Cursor.next mark start extend) c
    c'.read ++ c'.current.toList = c.read ++
      (c.current.map fun b => (l.takeWhile fun a => !mark a).foldl extend b).toList ++
        (groups mark l).filterMap fun g => (start g.1).map fun b => g.2.foldl extend b := by
  induction l generalizing c with
  | nil => cases c with | mk read current => cases current <;> simp [groups]
  | cons a l ih =>
    dsimp only at ih ⊢
    rw [List.foldl_cons, ih, groups]
    by_cases hMarked : mark a = true
    · rw [if_pos hMarked, List.takeWhile_cons_of_neg (by simp [hMarked]), Cursor.next,
        if_pos hMarked, List.filterMap_cons]
      cases hStart : start a with
      | none => cases c.current <;> simp
      | some b => cases c.current <;> simp
    · rw [if_neg hMarked, List.takeWhile_cons_of_pos (by simp [hMarked]), Cursor.next,
        if_neg hMarked]
      cases c.current <;> simp

theorem collect_eq (l : List α) : collect mark start extend l =
    (groups mark l).filterMap fun g => (start g.1).map fun b => g.2.foldl extend b := by
  have hAll := foldl_next mark start extend l ⟨[], none⟩
  simpa [collect] using hAll

end Cursors

/-! ## Windows of ids -/

def firstById (rows : List (Nat × α)) : Option (Nat × α) := rows.argmin Prod.fst

def window (mark : α → Bool) (rows : List (Nat × α)) (id : Nat) : List (Nat × α) :=
  let next := firstById (rows.filter fun row => mark row.2 && decide (id < row.1))
  rows.filter fun row => decide (id < row.1) && next.all fun mark => decide (row.1 < mark.1)

section Ordered

variable {mark : α → Bool} {rows : List (Nat × α)}

variable (h : rows.Pairwise fun row row' => row.1 < row'.1)

include h

theorem firstById_ordered : firstById rows = rows.head? := by
  induction h with
  | nil => rfl
  | cons hHead hTail ih =>
    rename_i row rows
    rw [firstById] at ih ⊢
    rw [List.argmin_cons, ih]
    cases rows with
    | nil => rfl
    | cons row' rows =>
      have hLess : ¬ row'.1 < row.1 := Nat.lt_asymm (hHead row' List.mem_cons_self)
      exact if_neg hLess

theorem firstById_window (id : Nat) (p : Nat × α → Bool) :
    firstById ((window mark rows id).filter p) = (window mark rows id).find? p := by
  have hWindow : (window mark rows id).Pairwise fun row row' => row.1 < row'.1 := h.filter _
  rw [firstById_ordered (hWindow.filter p), List.head?_filter]

theorem filter_below_mark :
    (rows.filter fun row => (rows.find? fun row => mark row.2).all fun m => decide (row.1 < m.1)) =
      rows.takeWhile fun row => !mark row.2 := by
  induction h with
  | nil => rfl
  | cons hLater hOrdered ih =>
    rename_i row rows
    by_cases hMarked : mark row.2 = true
    · rw [List.find?_cons_of_pos (p := fun row : Nat × α => mark row.2) hMarked,
        List.takeWhile_cons_of_neg (by simp [hMarked])]
      refine List.filter_eq_nil_iff.mpr fun row' hRow => ?_
      rcases List.mem_cons.mp hRow with rfl | hRow
      · simp
      · simp [Nat.not_lt_of_lt (hLater row' hRow)]
    · have hBelow : ((rows.find? fun row => mark row.2).all fun m => decide (row.1 < m.1)) =
          true := by
        cases hFind : rows.find? fun row => mark row.2 with
        | none => rfl
        | some m => exact decide_eq_true (hLater m (List.mem_of_find?_eq_some hFind))
      rw [List.find?_cons_of_neg (p := fun row : Nat × α => mark row.2) hMarked,
        List.takeWhile_cons_of_pos (by simp [hMarked]), List.filter_cons, if_pos hBelow, ih]

omit h in
theorem window_ordered {before after : List (Nat × α)} {row : Nat × α}
    (h : (before ++ row :: after).Pairwise fun row row' => row.1 < row'.1) :
    window mark (before ++ row :: after) row.1 = after.takeWhile fun row => !mark row.2 := by
  obtain ⟨-, hRest, hBefore⟩ := List.pairwise_append.mp h
  obtain ⟨hLater, hOrdered⟩ := List.pairwise_cons.mp hRest
  have hBehind : ∀ p : Nat × α → Bool, (before ++ row :: after).filter
      (fun r => p r && decide (row.1 < r.1)) = after.filter p := by
    intro p
    have hNone : before.filter (fun r => p r && decide (row.1 < r.1)) = [] := by
      refine List.filter_eq_nil_iff.mpr fun r hr => ?_
      have := hBefore r hr row List.mem_cons_self
      simp [Nat.not_lt_of_lt this]
    have hSome : after.filter (fun r => p r && decide (row.1 < r.1)) = after.filter p :=
      List.filter_congr fun r hr => by simp [hLater r hr]
    rw [List.filter_append, hNone, List.filter_cons_of_neg (by simp), hSome, List.nil_append]
  have hNext : firstById ((before ++ row :: after).filter
      fun r => mark r.2 && decide (row.1 < r.1)) = after.find? fun r => mark r.2 := by
    rw [hBehind, firstById_ordered (hOrdered.filter _), List.head?_filter]
  have hWindow : window mark (before ++ row :: after) row.1 = after.filter fun r =>
      (after.find? fun r => mark r.2).all fun m => decide (r.1 < m.1) := by
    rw [window, hNext, ← hBehind]
    exact List.filter_congr fun r _ => Bool.and_comm _ _
  rw [hWindow, filter_below_mark hOrdered]

theorem windows_eq_groups :
    ((rows.filter fun row => mark row.2).map fun row => (row, window mark rows row.1)) =
      groups (fun row => mark row.2) rows := by
  have hAll : ∀ before after : List (Nat × α),
      (before ++ after).Pairwise (fun row row' => row.1 < row'.1) →
      ((after.filter fun row => mark row.2).map fun row =>
        (row, window mark (before ++ after) row.1)) = groups (fun row => mark row.2) after := by
    intro before after
    induction after generalizing before with
    | nil => exact fun _ => rfl
    | cons row after ih =>
      intro hOrdered
      have hRest := ih (before ++ [row])
      rw [List.append_assoc, List.singleton_append] at hRest
      by_cases hMarked : mark row.2 = true
      · rw [List.filter_cons_of_pos (p := fun row : Nat × α => mark row.2) hMarked,
          List.map_cons, groups, if_pos hMarked, window_ordered hOrdered, hRest hOrdered]
      · rw [List.filter_cons_of_neg (p := fun row : Nat × α => mark row.2) hMarked, groups,
          if_neg hMarked, hRest hOrdered]
  exact hAll [] rows h

end Ordered

end MarkedRuns
