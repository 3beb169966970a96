import Mathlib.Data.List.Sort
import Sniff4Hound.Library.IntervalSearch

/-!
# The registry of address ranges

`merge` of `build_ip_registry.py` sorts the delegated ranges and joins those that touch and agree;
`_search` of `ip_registry.py` finds an address among the rows of the file. Ranges that are disjoint
stand apart once they are sorted, and what is joined covers the same addresses with the same owner:
so each address is found with the country and registry it was delegated to (`search_merge`).
-/

namespace Sniff4Hound.AddressRegistry

open IntervalSearch

/-- A row `(start, end, country, registry)`. -/
structure Delegation where
  first : Nat
  last : Nat
  country : String
  registry : String
  first_le : first ≤ last

namespace Delegation

def owner (row : Delegation) : String × String := (row.country, row.registry)

def Contains (row : Delegation) (value : Nat) : Prop := row.first ≤ value ∧ value ≤ row.last

instance (row : Delegation) (value : Nat) : Decidable (row.Contains value) :=
  inferInstanceAs (Decidable (_ ∧ _))

def Disjoint (a b : Delegation) : Prop := ∀ value, a.Contains value → ¬ b.Contains value

def extend (row : Delegation) (last : Nat) (h : row.last ≤ last) : Delegation :=
  { row with last := last, first_le := row.first_le.trans h }

def before (a b : Delegation) : Bool :=
  decide (a.first < b.first ∨ a.first = b.first ∧ a.last ≤ b.last)

end Delegation

open Delegation

/-- A round of the loop of `merge`. -/
def mergeRow (merged : List Delegation) (row : Delegation) : List Delegation :=
  match merged.getLast? with
  | none => merged ++ [row]
  | some prev =>
    if prev.country = row.country ∧ prev.registry = row.registry ∧ row.first ≤ prev.last + 1 then
      if h : prev.last < row.last then merged.dropLast ++ [prev.extend row.last h.le] else merged
    else merged ++ [row]

def merge (rows : List Delegation) : List Delegation :=
  (rows.mergeSort before).foldl mergeRow []

/-- `_search`; a bisection of 0 gives the index -1. -/
def search (starts : List Nat) (rows : List Delegation) (value : Nat) : Option Delegation :=
  if starts = [] then none
  else
    match bisectRight starts value with
    | 0 => none
    | index + 1 => rows[index]?.filter fun row => decide (value ≤ row.last)

def holder (rows : List Delegation) (value : Nat) : Option Delegation :=
  rows.find? fun row => decide (row.Contains value)

def Apart (a b : Delegation) : Prop := a.last < b.first

variable {rows : List Delegation}

theorem search_eq (h : rows.Pairwise Apart) (value : Nat) :
    search (rows.map first) rows value = holder rows value := by
  have hHolder : holder rows value =
      (rows.takeWhile fun row => decide (row.first ≤ value)).getLast?.filter
        fun row => decide (value ≤ row.last) :=
    find?_eq_getLast? (fun row _ => row.first_le) h
  have hSorted : (rows.map first).Pairwise (· ≤ ·) :=
    List.pairwise_map.mpr (h.imp fun {a b} hLess => (a.first_le.trans_lt hLess).le)
  by_cases hNone : rows = []
  · rw [hNone]
    rfl
  · rw [search, if_neg (by simpa using hNone), bisectRight_eq hSorted, hHolder]
    cases hPlace : place (rows.map first) value with
    | zero =>
      rw [place, List.takeWhile_map, List.length_map, List.length_eq_zero_iff] at hPlace
      rw [show (rows.takeWhile fun row => decide (row.first ≤ value)) = [] from hPlace]
      rfl
    | succ index => rw [← getElem?_place rows index hPlace]

/-! ## Merging -/

/-- The rows merged so far stand apart, among them and from the rows to come, and give every address
the owner that the rows gave it which they were made of. -/
structure Covers (read merged rest : List Delegation) : Prop where
  apart : (merged ++ rest).Pairwise Apart
  owner : ∀ value, (holder merged value).map owner = (holder read value).map owner

theorem holder_append (front back : List Delegation) (value : Nat) :
    holder (front ++ back) value = (holder front value).or (holder back value) :=
  List.find?_append

variable {read merged rest : List Delegation} {row : Delegation}

theorem Covers.push (h : Covers read merged (row :: rest))
    : Covers (read ++ [row]) (merged ++ [row]) rest where
  apart := by
    rw [List.append_assoc]
    exact h.apart
  owner value := by
    rw [holder_append, holder_append, Option.map_or, Option.map_or, h.owner]

theorem Covers.join {front : List Delegation} {prev : Delegation}
    (h : Covers read (front ++ [prev]) (row :: rest)) (hOwner : prev.owner = row.owner)
    (hFirst : row.first ≤ prev.last + 1) (hLast : prev.last ≤ row.last) :
    Covers (read ++ [row]) (front ++ [prev.extend row.last hLast]) rest := by
  have hApart := h.apart
  rw [List.append_assoc, List.singleton_append, List.pairwise_append] at hApart
  obtain ⟨hFront, hBack, hAcross⟩ := hApart
  obtain ⟨hPrev, hRow, hRest⟩ := (List.pairwise_cons.mp hBack).imp_right List.pairwise_cons.mp
  have hNext : row.first = prev.last + 1 := Nat.le_antisymm hFirst (hPrev row List.mem_cons_self)
  constructor
  · rw [List.append_assoc, List.singleton_append, List.pairwise_append]
    refine ⟨hFront, List.pairwise_cons.mpr ⟨hRow, hRest⟩, fun a ha b hb => ?_⟩
    rcases List.mem_cons.mp hb with rfl | hb
    · exact hAcross a ha prev List.mem_cons_self
    · exact hAcross a ha b (List.mem_cons_of_mem _ (List.mem_cons_of_mem _ hb))
  · intro value
    have hContains : (prev.extend row.last hLast).Contains value ↔
        prev.Contains value ∨ row.Contains value := by
      have hPrevFirst := prev.first_le
      have hRowFirst := row.first_le
      simp only [Contains, extend]
      omega
    have hOld := h.owner value
    rw [holder_append, Option.map_or] at hOld
    rw [holder_append, holder_append, Option.map_or, Option.map_or, ← hOld, Option.or_assoc]
    have hExtend : (prev.extend row.last hLast).owner = prev.owner := rfl
    congr 1
    simp only [holder, List.find?_singleton, hContains, decide_eq_true_eq]
    by_cases hIn : prev.Contains value <;> by_cases hIn' : row.Contains value <;>
      simp [hIn, hIn', ← hOwner, hExtend]

theorem Covers.mergeRow (h : Covers read merged (row :: rest))
    : Covers (read ++ [row]) (mergeRow merged row) rest := by
  unfold AddressRegistry.mergeRow
  split
  · exact h.push
  · next prev hPrev =>
    split
    · next hTouch =>
      obtain ⟨front, rfl⟩ := List.getLast?_eq_some_iff.mp hPrev
      have hLess : prev.last < row.last := by
        have hApart := h.apart
        rw [List.append_assoc, List.pairwise_append] at hApart
        have hFirst := (List.pairwise_cons.mp hApart.2.1).1 row (by simp)
        exact lt_of_lt_of_le hFirst row.first_le
      rw [dif_pos hLess, List.dropLast_concat]
      exact h.join (by rw [Delegation.owner, Delegation.owner, hTouch.1, hTouch.2.1]) hTouch.2.2 hLess.le
    · exact h.push

theorem Covers.foldl (h : Covers read merged rest) :
    Covers (read ++ rest) (rest.foldl AddressRegistry.mergeRow merged) [] := by
  induction rest generalizing read merged with
  | nil => rwa [List.append_nil]
  | cons row rest ih =>
    have hNext := ih h.mergeRow
    rwa [List.append_assoc] at hNext

/-! ## Disjoint ranges -/

theorem disjoint_symm {a b : Delegation} (h : a.Disjoint b) : b.Disjoint a :=
  fun value hb ha => h value ha hb

theorem holder_of_mem (h : rows.Pairwise Delegation.Disjoint) (hMem : row ∈ rows) {value : Nat}
    (hValue : row.Contains value) : holder rows value = some row := by
  induction rows with
  | nil => cases hMem
  | cons other rows ih =>
    obtain ⟨hHead, hTail⟩ := List.pairwise_cons.mp h
    rcases List.mem_cons.mp hMem with rfl | hMem
    · exact List.find?_cons_of_pos (decide_eq_true hValue)
    · rw [holder, List.find?_cons_of_neg]
      · exact ih hTail hMem
      · simpa using fun hOther => hHead row hMem value hOther hValue

theorem sorted_apart (h : rows.Pairwise Delegation.Disjoint) :
    (rows.mergeSort before).Pairwise Apart := by
  have hSorted : (rows.mergeSort before).Pairwise fun a b => before a b = true :=
    List.pairwise_mergeSort (fun a b c => by simp only [before, decide_eq_true_eq]; omega)
      (fun a b => by simp only [before, Bool.or_eq_true, decide_eq_true_eq]; omega) rows
  have hDisjoint := (List.mergeSort_perm rows before).symm.pairwise h disjoint_symm
  refine (hSorted.and hDisjoint).imp fun {a b} ⟨hBefore, hApart⟩ => Nat.lt_of_not_le fun hIn => ?_
  have hFirst : a.first ≤ b.first := by
    rcases of_decide_eq_true hBefore with hLess | ⟨hEq, -⟩
    · exact hLess.le
    · exact hEq.le
  exact hApart b.first ⟨hFirst, hIn⟩ ⟨Nat.le_refl _, b.first_le⟩

/-- Merging loses no lookup: among disjoint ranges in any order, an address is found with the
country and the registry of the range that contains it, and otherwise it is not found. -/
theorem search_merge (rows : List Delegation) (h : rows.Pairwise Delegation.Disjoint)
    (value : Nat) :
    (∀ row ∈ rows, row.Contains value →
      (search ((merge rows).map first) (merge rows) value).map owner = some row.owner) ∧
      ((∀ row ∈ rows, ¬ row.Contains value) →
        search ((merge rows).map first) (merge rows) value = none) := by
  have hPerm := List.mergeSort_perm rows before
  have hCovers : Covers (rows.mergeSort before) (merge rows) [] :=
    @Covers.foldl [] _ _ ⟨sorted_apart h, fun _ => rfl⟩
  have hApart := hCovers.apart
  rw [List.append_nil] at hApart
  rw [search_eq hApart]
  constructor
  · intro row hRow hValue
    rw [hCovers.owner, holder_of_mem (hPerm.symm.pairwise h disjoint_symm)
      (hPerm.mem_iff.mpr hRow) hValue]
    rfl
  · intro hNone
    have hSorted : holder (rows.mergeSort before) value = none :=
      List.find?_eq_none.mpr fun row hRow => by simpa using hNone row (hPerm.mem_iff.mp hRow)
    have hMerged := hCovers.owner value
    rw [hSorted, Option.map_none, Option.map_eq_none_iff] at hMerged
    exact hMerged

def delegated : List Delegation :=
  [⟨20, 29, "DE", "ripencc", by decide⟩, ⟨10, 19, "DE", "ripencc", by decide⟩,
    ⟨31, 31, "FR", "ripencc", by decide⟩]

theorem search_merge_delegated :
    delegated.Pairwise Delegation.Disjoint ∧
      (search ((merge delegated).map first) (merge delegated) 29).map owner =
        some ("DE", "ripencc") := by
  have hDisjoint : delegated.Pairwise Delegation.Disjoint := by
    simp only [delegated, Delegation.Disjoint, Contains, List.pairwise_cons, List.forall_mem_cons]
    refine ⟨⟨fun _ => ?_, fun _ => ?_, nofun⟩, ⟨fun _ => ?_, nofun⟩, nofun, .nil⟩ <;> omega
  exact ⟨hDisjoint, (search_merge delegated hDisjoint 29).1 ⟨20, 29, "DE", "ripencc", by decide⟩
    List.mem_cons_self ⟨by decide, by decide⟩⟩

end Sniff4Hound.AddressRegistry
