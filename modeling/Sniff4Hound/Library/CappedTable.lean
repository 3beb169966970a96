import Mathlib.Data.List.MinMax
import Sniff4Hound.Library.Dict

/-!
# Tables of bounded size

A dictionary that makes room for a new key when it is full: first it drops the entries that are
stale, and if that is not enough those of the lowest rank, one by one. As long as its size never
exceeds the capacity one entry is enough, and it goes only when nothing is stale
(`lookup_makeRoom`).
-/

namespace CappedTable

variable {κ ν τ : Type*} [LinearOrder τ]

/-- `min(d, key=rank)`: the first key of the lowest rank. -/
def lowest (rank : ν → τ) (d : Dict κ ν) : Option κ :=
  (d.argmin fun entry => rank entry.2).map Prod.fst

def dropStale (stale : ν → Bool) (d : Dict κ ν) : Dict κ ν := d.filter fun entry => !stale entry.2

variable {rank : ν → τ} {stale : ν → Bool} {d : Dict κ ν}

theorem lowest_isSome (h : d ≠ []) : ∃ k ∈ d.keys, lowest rank d = some k := by
  cases hMin : d.argmin fun entry => rank entry.2 with
  | none => exact absurd (List.argmin_eq_none.mp hMin) h
  | some entry =>
    refine ⟨entry.1, List.mem_map_of_mem (List.argmin_mem hMin), ?_⟩
    rw [lowest, hMin]
    rfl

theorem keys_dropStale (stale : ν → Bool) (d : Dict κ ν) :
    (dropStale stale d).keys.Sublist d.keys :=
  List.Sublist.map Prod.fst List.filter_sublist

theorem length_dropStale_eq_iff :
    (dropStale stale d).length = d.length ↔ ∀ entry ∈ d, stale entry.2 = false := by
  rw [dropStale, List.length_filter_eq_length_iff]
  simp

variable [DecidableEq κ]

/-- `while len(d) >= capacity: d.pop(min(d, key=rank))`; every round drops an entry. -/
def shrink (rank : ν → τ) (capacity : Nat) : Nat → Dict κ ν → Dict κ ν
  | 0, d => d
  | fuel + 1, d =>
    if d.length < capacity then d
    else match lowest rank d with
      | none => d
      | some k => shrink rank capacity fuel (d.erase k)

def makeRoom (rank : ν → τ) (stale : ν → Bool) (capacity : Nat) (d : Dict κ ν) : Dict κ ν :=
  if d.length < capacity then d
  else shrink rank capacity d.length (dropStale stale d)

/-- The table is full, nothing in it is stale, and `k` has the lowest rank. -/
def Victim (rank : ν → τ) (stale : ν → Bool) (capacity : Nat) (d : Dict κ ν) (k : κ) : Prop :=
  capacity ≤ d.length ∧ (∀ entry ∈ d, stale entry.2 = false) ∧ lowest rank d = some k

instance (rank : ν → τ) (stale : ν → Bool) (capacity : Nat) (d : Dict κ ν) (k : κ) :
    Decidable (Victim rank stale capacity d k) :=
  inferInstanceAs (Decidable (_ ∧ _ ∧ _))

variable {capacity : Nat} {k : κ} {v : ν}

theorem length_erase (hNodup : d.keys.Nodup) (hMem : k ∈ d.keys) :
    (d.erase k).length + 1 = d.length := by
  induction d with
  | nil => cases hMem
  | cons entry rest ih =>
    obtain ⟨k₀, v₀⟩ := entry
    rw [Dict.keys, List.map_cons, List.nodup_cons] at hNodup
    rw [Dict.keys, List.map_cons, List.mem_cons] at hMem
    rw [Dict.erase, List.filter_cons]
    by_cases h₀ : k₀ = k
    · -- the key stands nowhere else
      have hRest : rest.filter (fun entry => entry.1 ≠ k) = rest := by
        rw [List.filter_eq_self]
        intro entry hEntry
        simp only [decide_eq_true_eq]
        rintro rfl
        exact hNodup.1 (List.mem_map.mpr ⟨entry, hEntry, h₀.symm⟩)
      rw [if_neg (by simp [h₀]), hRest, List.length_cons]
    · have hIn : k ∈ Dict.keys rest := hMem.resolve_left (Ne.symm h₀)
      rw [if_pos (by simp [h₀]), List.length_cons, List.length_cons]
      exact congrArg (· + 1) (ih hNodup.2 hIn)

theorem lookup_dropStale (hNodup : d.keys.Nodup) (h : d.lookup k = some v)
    (hStale : stale v = false) : (dropStale stale d).lookup k = some v := by
  apply Dict.lookup_of_mem (hNodup.sublist (keys_dropStale stale d))
  refine List.mem_filter.mpr ⟨Dict.mem_of_lookup h, ?_⟩
  rw [hStale]
  rfl

theorem shrink_of_lt {fuel : Nat} (h : d.length < capacity) :
    shrink rank capacity fuel d = d := by
  cases fuel with
  | zero => rfl
  | succ fuel => rw [shrink, if_pos h]

theorem nodup_keys_shrink (fuel : Nat) (hNodup : d.keys.Nodup) :
    (shrink rank capacity fuel d).keys.Nodup := by
  induction fuel generalizing d with
  | zero => exact hNodup
  | succ fuel ih =>
    rw [shrink]
    split
    · exact hNodup
    split
    · exact hNodup
    · exact ih (Dict.nodup_keys_erase hNodup _)

theorem nodup_keys_makeRoom (hNodup : d.keys.Nodup) :
    (makeRoom rank stale capacity d).keys.Nodup := by
  rw [makeRoom]
  split
  · exact hNodup
  · exact nodup_keys_shrink _ (hNodup.sublist (keys_dropStale stale d))

theorem length_shrink_lt {fuel : Nat} (hNodup : d.keys.Nodup) (hCapacity : 0 < capacity)
    (hFuel : d.length ≤ fuel) : (shrink rank capacity fuel d).length < capacity := by
  induction fuel generalizing d with
  | zero =>
    rw [shrink, Nat.le_zero.mp hFuel]
    exact hCapacity
  | succ fuel ih =>
    rw [shrink]
    split
    · assumption
    · rename_i hFull
      have hNe : d ≠ [] := by
        rintro rfl
        exact hFull hCapacity
      obtain ⟨k, hMem, hLowest⟩ : ∃ k ∈ d.keys, lowest rank d = some k := lowest_isSome hNe
      have hLength := length_erase hNodup hMem
      simp only [hLowest]
      exact ih (Dict.nodup_keys_erase hNodup k) (by omega)

theorem length_makeRoom_lt (hNodup : d.keys.Nodup) (hCapacity : 0 < capacity) :
    (makeRoom rank stale capacity d).length < capacity := by
  rw [makeRoom]
  split
  · assumption
  · have hLength : (dropStale stale d).length ≤ d.length := List.length_filter_le _ _
    exact length_shrink_lt (hNodup.sublist (keys_dropStale stale d)) hCapacity hLength

/-- In a table within its capacity an entry that is not stale survives, unless it is the one
that has to go. -/
theorem lookup_makeRoom (hNodup : d.keys.Nodup) (hLength : d.length ≤ capacity)
    (h : d.lookup k = some v) (hStale : stale v = false) :
    (makeRoom rank stale capacity d).lookup k =
      if Victim rank stale capacity d k then none else some v := by
  have hFresh := lookup_dropStale hNodup h hStale
  rw [makeRoom]
  split
  · rename_i hRoom
    rw [if_neg fun hVictim => Nat.not_le.mpr hRoom hVictim.1, h]
  · rename_i hFull
    have hKept : (dropStale stale d).length ≤ d.length := List.length_filter_le _ _
    rcases Nat.lt_or_ge (dropStale stale d).length capacity with hRoom | hNoRoom
    · have hNot : ¬ Victim rank stale capacity d k := by
        intro hVictim
        have hSame := length_dropStale_eq_iff.mpr hVictim.2.1
        omega
      rw [shrink_of_lt hRoom, if_neg hNot, hFresh]
    · -- nothing is stale, and one round is enough
      have hNone := length_dropStale_eq_iff.mp (show (dropStale stale d).length = d.length by omega)
      have hSame : dropStale stale d = d := by
        rw [dropStale, List.filter_eq_self]
        intro entry hEntry
        rw [hNone entry hEntry]
        rfl
      have hNe : d ≠ [] := by
        rintro rfl
        cases h
      obtain ⟨low, hMem, hLowest⟩ : ∃ k ∈ d.keys, lowest rank d = some k := lowest_isSome hNe
      have hErase := length_erase hNodup hMem
      obtain ⟨n, hn⟩ : ∃ n, d.length = n + 1 := ⟨_, hErase.symm⟩
      rw [hSame, hn, shrink, if_neg (by omega), hLowest]
      simp only []
      rw [shrink_of_lt (by omega), Dict.lookup_erase, h]
      have hVictim : Victim rank stale capacity d k ↔ k = low := by
        rw [Victim, hLowest, Option.some.injEq]
        constructor
        · rintro ⟨-, -, rfl⟩
          rfl
        · rintro rfl
          exact ⟨by omega, hNone, rfl⟩
      by_cases hLow : k = low
      · rw [if_pos hLow, if_pos (hVictim.mpr hLow)]
      · rw [if_neg hLow, if_neg fun hGone => hLow (hVictim.mp hGone)]

end CappedTable
