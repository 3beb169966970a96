import Mathlib.Data.List.Infix

/-!
# The longest suffix in a prefix-closed set

A multi-pattern matcher remembers, of the text read so far, the longest suffix that is a
prefix of a pattern. `longestSuffix P w` is the longest suffix of `w` in a set `P` of
words; when `P` is closed under prefixes it can be computed one letter at a time
(`longestSuffix_snoc`), and from the links to the next shorter candidate alone
(`follow_eq`).
-/

namespace LongestSuffix

variable {α : Type*} (P : List α → Prop) [DecidablePred P]

/-- The longest suffix in `P`; the empty word when there is none. -/
def longestSuffix : List α → List α
  | [] => []
  | a :: w => if P (a :: w) then a :: w else longestSuffix w

theorem longestSuffix_suffix (w : List α) : longestSuffix P w <:+ w := by
  induction w with
  | nil => exact List.suffix_rfl
  | cons a w ih =>
    unfold longestSuffix
    split
    · exact List.suffix_rfl
    · exact ih.trans (List.suffix_cons a w)

variable {P}

theorem longestSuffix_mem (hNil : P []) (w : List α) : P (longestSuffix P w) := by
  induction w with
  | nil => exact hNil
  | cons a w ih =>
    unfold longestSuffix
    split
    · assumption
    · exact ih

theorem suffix_longestSuffix {v w : List α} (hSuffix : v <:+ w) (hv : P v) :
    v <:+ longestSuffix P w := by
  induction w with
  | nil => exact hSuffix
  | cons a w ih =>
    unfold longestSuffix
    split
    · exact hSuffix
    · rename_i hNot
      rcases List.suffix_cons_iff.mp hSuffix with rfl | hTail
      · exact absurd hv hNot
      · exact ih hTail

theorem longestSuffix_of_mem {w : List α} (hw : P w) : longestSuffix P w = w :=
  (longestSuffix_suffix P w).eq_of_length_le
    (suffix_longestSuffix (List.suffix_rfl) hw).length_le

/-- A suffix in `P` that has all others as suffixes is the longest one. -/
theorem longestSuffix_eq (hNil : P []) {u w : List α} (hSuffix : u <:+ w) (hu : P u)
    (hMax : ∀ v, v <:+ w → P v → v <:+ u) : longestSuffix P w = u :=
  (hMax _ (longestSuffix_suffix P w) (longestSuffix_mem hNil w)).eq_of_length_le
    (suffix_longestSuffix hSuffix hu).length_le

theorem longestSuffix_snoc (hNil : P []) (hClosed : ∀ u c, P (u ++ [c]) → P u) (w : List α)
    (c : α) : longestSuffix P (w ++ [c]) = longestSuffix P (longestSuffix P w ++ [c]) := by
  have hLeft : longestSuffix P w ++ [c] <:+ w ++ [c] :=
    (List.suffix_append_inj_of_length_eq rfl).mpr ⟨longestSuffix_suffix P w, rfl⟩
  refine longestSuffix_eq hNil ((longestSuffix_suffix P _).trans hLeft)
    (longestSuffix_mem hNil _) fun v hv hPv => ?_
  rcases List.suffix_concat_iff.mp hv with rfl | ⟨v', rfl, hv'⟩
  · exact List.nil_suffix
  · have hIn : v' <:+ longestSuffix P w := suffix_longestSuffix hv' (hClosed v' c hPv)
    exact suffix_longestSuffix (List.suffix_concat_iff.mpr (Or.inr ⟨v', rfl, hIn⟩)) hPv

theorem longestSuffix_cons_of_not {a : α} {w : List α} (hNot : ¬ P (a :: w)) :
    longestSuffix P (a :: w) = longestSuffix P w := by
  rw [longestSuffix, if_neg hNot]

/-! ## Following links -/

/-- The first of `v`, `fail v`, `fail (fail v)`, … that `c` extends within `P`, or `[]`. -/
def climb (P : List α → Prop) [DecidablePred P] (fail : List α → List α) :
    Nat → List α → α → List α
  | 0, v, _ => v
  | n + 1, v, c => if v ≠ [] ∧ ¬ P (v ++ [c]) then climb P fail n (fail v) c else v

/-- The extension by `c` of the word found by `climb`, or `[]` when there is none. -/
def follow (P : List α → Prop) [DecidablePred P] (fail : List α → List α) (n : Nat)
    (v : List α) (c : α) : List α :=
  if P (climb P fail n v c ++ [c]) then climb P fail n v c ++ [c] else []

/-- The links of the words up to the length of `v` lead to the longest suffix. -/
def Linked (P : List α → Prop) [DecidablePred P] (fail : List α → List α) (k : Nat) : Prop :=
  ∀ u, P u → u ≠ [] → u.length ≤ k → fail u = longestSuffix P u.tail

theorem Linked.mono {fail : List α → List α} {k m : Nat} (h : Linked P fail k) (hmk : m ≤ k) :
    Linked P fail m :=
  fun u hu hNe hLen => h u hu hNe (hLen.trans hmk)

theorem follow_eq (hNil : P []) (hClosed : ∀ u c, P (u ++ [c]) → P u)
    {fail : List α → List α} (c : α) {n : Nat} {v : List α} (hn : v.length ≤ n) (hv : P v)
    (hLink : Linked P fail v.length) : follow P fail n v c = longestSuffix P (v ++ [c]) := by
  induction n generalizing v with
  | zero =>
    have hvNil : v = [] := List.length_eq_zero_iff.mp (Nat.le_zero.mp hn)
    subst hvNil
    rfl
  | succ n ih =>
    cases v with
    | nil => simp [follow, climb, longestSuffix]
    | cons a w =>
      by_cases hChild : P (a :: w ++ [c])
      · have hStay : climb P fail (n + 1) (a :: w) c = a :: w := by
          rw [climb, if_neg (fun h => h.2 hChild)]
        rw [follow, hStay, if_pos hChild, longestSuffix_of_mem hChild]
      · have hFail : fail (a :: w) = longestSuffix P w :=
          hLink (a :: w) hv (List.cons_ne_nil a w) (Nat.le_refl _)
        have hShort : (longestSuffix P w).length ≤ w.length :=
          (longestSuffix_suffix P w).length_le
        have hMove : climb P fail (n + 1) (a :: w) c =
            climb P fail n (longestSuffix P w) c := by
          rw [climb, if_pos ⟨List.cons_ne_nil a w, hChild⟩, hFail]
        have hRest := ih (v := longestSuffix P w)
          (hShort.trans (Nat.le_of_succ_le_succ hn)) (longestSuffix_mem hNil w)
          (hLink.mono (hShort.trans (Nat.le_succ _)))
        calc follow P fail (n + 1) (a :: w) c
            = follow P fail n (longestSuffix P w) c := by rw [follow, hMove, follow]
          _ = longestSuffix P (longestSuffix P w ++ [c]) := hRest
          _ = longestSuffix P (w ++ [c]) := (longestSuffix_snoc hNil hClosed w c).symm
          _ = longestSuffix P (a :: w ++ [c]) := (longestSuffix_cons_of_not hChild).symm

end LongestSuffix
