import Mathlib.Algebra.Ring.Parity
import Mathlib.Data.List.Forall2

/-!
# Trees of conditions

A condition has a test of its own and three lists of further conditions: all of the first must
hold, one of the second unless it is empty, and none of the third. The test may see whether the
first two lists are empty.

A change that can only make a condition fail makes the whole tree fail more often when it is made
under an even number of `none` lists, and less often under an odd number (`holds_editAt`).
-/

namespace Sniff4Hound

inductive ConditionTree (ν : Type*) where
  | node (own : ν) (all any noneOf : List (ConditionTree ν))

namespace ConditionTree

variable {ν : Type*}

section Holds

variable (test : ν → Bool → Bool → Bool)

mutual

def holds : ConditionTree ν → Bool
  | .node own all any noneOf =>
    test own all.isEmpty any.isEmpty && allHold all && (any.isEmpty || anyHolds any) &&
      !anyHolds noneOf

def allHold : List (ConditionTree ν) → Bool
  | [] => true
  | t :: ts => holds t && allHold ts

def anyHolds : List (ConditionTree ν) → Bool
  | [] => false
  | t :: ts => holds t || anyHolds ts

end

theorem anyHolds_eq (ts : List (ConditionTree ν)) : anyHolds test ts = ts.any (holds test) := by
  induction ts with
  | nil => rfl
  | cons t rest ih => rw [anyHolds, ih, List.any_cons]

def Below (t t' : ConditionTree ν) : Prop := holds test t = true → holds test t' = true

end Holds

/-! ## Places in a tree -/

inductive Branch where
  | all
  | any
  | none
deriving DecidableEq

/-- The tree with the condition at the end of a path changed; a path that leads nowhere changes
nothing. -/
def editAt (edit : ConditionTree ν → ConditionTree ν) :
    List (Branch × Nat) → ConditionTree ν → ConditionTree ν
  | [], t => edit t
  | (.all, i) :: path, .node own all any noneOf =>
    .node own (all.modify i (editAt edit path)) any noneOf
  | (.any, i) :: path, .node own all any noneOf =>
    .node own all (any.modify i (editAt edit path)) noneOf
  | (.none, i) :: path, .node own all any noneOf =>
    .node own all any (noneOf.modify i (editAt edit path))

/-- The number of `none` lists that a path goes through. -/
def noneLists (path : List (Branch × Nat)) : Nat := (path.map Prod.fst).count .none

theorem noneLists_none (i : Nat) (path : List (Branch × Nat)) :
    noneLists ((.none, i) :: path) = noneLists path + 1 := by
  rw [noneLists, List.map_cons, List.count_cons_self]
  rfl

theorem noneLists_other {branch : Branch} (h : branch ≠ .none) (i : Nat)
    (path : List (Branch × Nat)) : noneLists ((branch, i) :: path) = noneLists path := by
  rw [noneLists, List.map_cons, List.count_cons_of_ne h]
  rfl

/-! ## What a change in one place does -/

section Edits

variable {test : ν → Bool → Bool → Bool} {own : ν}
variable {all all' any any' noneOf noneOf' ts ts' : List (ConditionTree ν)}

theorem Below.refl (t : ConditionTree ν) : Below test t t := id

theorem below_lists (h : List.Forall₂ (Below test) ts ts') :
    (allHold test ts = true → allHold test ts' = true) ∧
      (anyHolds test ts = true → anyHolds test ts' = true) ∧ ts.isEmpty = ts'.isEmpty := by
  induction h with
  | nil => exact ⟨id, id, rfl⟩
  | cons hHead _ ih =>
    obtain ⟨hAll, hAny, -⟩ := ih
    simp only [allHold, anyHolds, Bool.and_eq_true, Bool.or_eq_true]
    exact ⟨And.imp hHead hAll, Or.imp hHead hAny, rfl⟩

/-- A condition holds more often when its parts do, and those in `none` hold less often. -/
theorem below_node (hAll : List.Forall₂ (Below test) all all')
    (hAny : List.Forall₂ (Below test) any any') (hNone : List.Forall₂ (Below test) noneOf' noneOf) :
    Below test (.node own all any noneOf) (.node own all' any' noneOf') := by
  obtain ⟨hAllHold, -, hAllEmpty⟩ := below_lists hAll
  obtain ⟨-, hAnyHolds, hAnyEmpty⟩ := below_lists hAny
  obtain ⟨-, hNoneHolds, -⟩ := below_lists hNone
  intro h
  simp only [holds, Bool.and_eq_true, Bool.or_eq_true, Bool.not_eq_true'] at h ⊢
  obtain ⟨⟨⟨hOwn, hInAll⟩, hInAny⟩, hInNone⟩ := h
  rw [← hAllEmpty, ← hAnyEmpty]
  refine ⟨⟨⟨hOwn, hAllHold hInAll⟩, hInAny.imp_right hAnyHolds⟩, ?_⟩
  rw [Bool.eq_false_iff]
  intro hFound
  rw [hNoneHolds hFound] at hInNone
  cases hInNone

variable {edit : ConditionTree ν → ConditionTree ν}

theorem forall₂_modify {R : ConditionTree ν → ConditionTree ν → Prop} (hRefl : ∀ t, R t t)
    (h : ∀ t, R (edit t) t) (ts : List (ConditionTree ν)) (i : Nat) :
    List.Forall₂ R (ts.modify i edit) ts := by
  induction ts generalizing i with
  | nil =>
    rw [List.modify_nil]
    exact .nil
  | cons t rest ih =>
    cases i with
    | zero => exact .cons (h t) (List.forall₂_same.mpr fun t _ => hRefl t)
    | succ i => exact .cons (hRefl t) (ih i)

theorem below_modify (h : ∀ t, Below test (edit t) t) (ts : List (ConditionTree ν)) (i : Nat) :
    List.Forall₂ (Below test) (ts.modify i edit) ts :=
  forall₂_modify Below.refl h ts i

theorem above_modify (h : ∀ t, Below test t (edit t)) (ts : List (ConditionTree ν)) (i : Nat) :
    List.Forall₂ (Below test) ts (ts.modify i edit) :=
  (forall₂_modify (R := fun t t' => Below test t' t) Below.refl h ts i).flip

theorem below_same (ts : List (ConditionTree ν)) : List.Forall₂ (Below test) ts ts :=
  List.forall₂_same.mpr fun t _ => Below.refl t

theorem holds_editAt (h : ∀ t, Below test (edit t) t) (path : List (Branch × Nat)) :
    (Even (noneLists path) → ∀ t, Below test (editAt edit path t) t) ∧
      (Odd (noneLists path) → ∀ t, Below test t (editAt edit path t)) := by
  induction path with
  | nil => exact ⟨fun _ => h, fun hOdd => absurd hOdd (by decide)⟩
  | cons place path ih =>
    obtain ⟨hShrinks, hGrows⟩ := ih
    obtain ⟨branch, i⟩ := place
    cases branch with
    | all =>
      rw [noneLists_other (by decide)]
      refine ⟨fun hEven t => ?_, fun hOdd t => ?_⟩
      · obtain ⟨own, all, any, noneOf⟩ := t
        exact below_node (below_modify (hShrinks hEven) all i) (below_same any)
          (below_same noneOf)
      · obtain ⟨own, all, any, noneOf⟩ := t
        exact below_node (above_modify (hGrows hOdd) all i) (below_same any) (below_same noneOf)
    | any =>
      rw [noneLists_other (by decide)]
      refine ⟨fun hEven t => ?_, fun hOdd t => ?_⟩
      · obtain ⟨own, all, any, noneOf⟩ := t
        exact below_node (below_same all) (below_modify (hShrinks hEven) any i)
          (below_same noneOf)
      · obtain ⟨own, all, any, noneOf⟩ := t
        exact below_node (below_same all) (above_modify (hGrows hOdd) any i) (below_same noneOf)
    | none =>
      -- one list further up, the change goes the other way
      rw [noneLists_none]
      refine ⟨fun hEven t => ?_, fun hOdd t => ?_⟩
      · obtain ⟨own, all, any, noneOf⟩ := t
        have hInner : Odd (noneLists path) :=
          Nat.not_even_iff_odd.mp (Nat.even_add_one.mp hEven)
        exact below_node (below_same all) (below_same any)
          (above_modify (hGrows hInner) noneOf i)
      · obtain ⟨own, all, any, noneOf⟩ := t
        have hInner : Even (noneLists path) :=
          Nat.not_odd_iff_even.mp (Nat.odd_add_one.mp hOdd)
        exact below_node (below_same all) (below_same any)
          (below_modify (hShrinks hInner) noneOf i)

end Edits

end ConditionTree

end Sniff4Hound
