import Mathlib.Data.List.Induction

/-!
# Dictionaries as association lists

`Dict.set` is the assignment `d[k] = v`, which keeps the place of a key that is there, and
`Dict.append` is `d.setdefault(k, []).append(v)`. A dictionary is read by `List.lookup`.
-/

abbrev Dict (κ ν : Type*) := List (κ × ν)

namespace Dict

variable {κ ν : Type*} [DecidableEq κ]

@[grind =] def set : Dict κ ν → κ → ν → Dict κ ν
  | [], k, v => [(k, v)]
  | (k', v') :: rest, k, v => if k' = k then (k', v) :: rest else (k', v') :: set rest k v

def keys (d : Dict κ ν) : List κ := d.map Prod.fst

def getList (d : Dict κ (List ν)) (k : κ) : List ν := (d.lookup k).getD []

def append (d : Dict κ (List ν)) (k : κ) (v : ν) : Dict κ (List ν) :=
  set d k (d.getList k ++ [v])

theorem lookup_set (d : Dict κ ν) (k k' : κ) (v : ν) :
    (set d k v).lookup k' = if k' = k then some v else d.lookup k' := by
  induction d with
  | nil =>
    by_cases h : k' = k
    · simp [set, h]
    · simp [set, h, List.lookup_cons, beq_false_of_ne h]
  | cons entry rest ih =>
    obtain ⟨k₀, v₀⟩ := entry
    rw [set]
    by_cases h₀ : k₀ = k
    · subst h₀
      by_cases h : k' = k₀
      · simp [h]
      · simp [h, List.lookup_cons, beq_false_of_ne h]
    · by_cases h : k' = k₀
      · subst h
        simp [h₀]
      · simp [h₀, List.lookup_cons, beq_false_of_ne h, ih]

variable {d : Dict κ ν} {k : κ}

theorem set_of_notMem (h : k ∉ d.keys) (v : ν) : d.set k v = d ++ [(k, v)] := by
  induction d with
  | nil => rfl
  | cons entry rest ih =>
    obtain ⟨k₀, v₀⟩ := entry
    rw [keys, List.map_cons, List.mem_cons, not_or] at h
    rw [set, if_neg (Ne.symm h.1), ih h.2, List.cons_append]

variable {v : ν}

theorem set_of_lookup (h : d.lookup k = some v) : d.set k v = d := by
  induction d with
  | nil => cases h
  | cons entry rest ih =>
    obtain ⟨k₀, v₀⟩ := entry
    rw [set]
    by_cases hKey : k₀ = k
    · subst hKey
      rw [List.lookup_cons_self] at h
      rw [if_pos rfl, Option.some.inj h]
    · rw [List.lookup_cons, beq_false_of_ne (Ne.symm hKey)] at h
      rw [if_neg hKey, ih h]

theorem set_eq_map (h : d.keys.Nodup) (hKey : k ∈ d.keys) (v : ν) :
    d.set k v = d.map fun entry => if entry.1 = k then (k, v) else entry := by
  induction d with
  | nil => cases hKey
  | cons entry rest ih =>
    obtain ⟨k₀, v₀⟩ := entry
    rw [keys, List.map_cons, List.nodup_cons] at h
    rw [set, List.map_cons]
    by_cases hHere : k₀ = k
    · subst hHere
      have hRest : rest.map (fun entry => if entry.1 = k₀ then (k₀, v) else entry) = rest := by
        refine (List.map_congr_left fun entry hEntry => if_neg ?_).trans (List.map_id rest)
        intro hSame
        have hMem : entry.1 ∈ rest.map Prod.fst := List.mem_map_of_mem hEntry
        rw [hSame] at hMem
        exact h.1 hMem
      rw [if_pos rfl, if_pos rfl, hRest]
    · have hLater : k ∈ keys rest := by
        rcases List.mem_cons.mp hKey with hEq | hMem
        · exact absurd hEq.symm hHere
        · exact hMem
      rw [if_neg hHere, if_neg hHere, ih h.2 hLater]

theorem getList_set (d : Dict κ (List ν)) (k k' : κ) (v : List ν) :
    getList (set d k v) k' = if k' = k then v else getList d k' := by
  rw [getList, lookup_set]
  split
  · rfl
  · rfl

theorem mem_keys_set (d : Dict κ ν) (k k' : κ) (v : ν) :
    k' ∈ keys (set d k v) ↔ k' ∈ keys d ∨ k' = k := by
  induction d with
  | nil => simp [set, keys]
  | cons entry rest ih =>
    obtain ⟨k₀, v₀⟩ := entry
    simp only [keys] at ih
    rw [set]
    split
    · rename_i h
      subst h
      simp only [keys, List.map_cons, List.mem_cons]
      tauto
    · simp only [keys, List.map_cons, List.mem_cons, ih]
      tauto

theorem length_set (d : Dict κ ν) (k : κ) (v : ν) :
    (set d k v).length = if (d.lookup k).isSome then d.length else d.length + 1 := by
  induction d with
  | nil => rfl
  | cons entry rest ih =>
    obtain ⟨k₀, v₀⟩ := entry
    rw [set]
    by_cases h₀ : k₀ = k
    · simp [h₀]
    · rw [if_neg h₀, List.length_cons, ih, List.lookup_cons, beq_false_of_ne (Ne.symm h₀)]
      dsimp only
      split
      · rfl
      · rfl

theorem mem_keys_of_lookup (h : d.lookup k = some v) : k ∈ d.keys := by
  induction d with
  | nil => cases h
  | cons entry rest ih =>
    obtain ⟨k₀, v₀⟩ := entry
    rw [keys, List.map_cons, List.mem_cons]
    by_cases hk : k = k₀
    · exact Or.inl hk
    · rw [List.lookup_cons, beq_false_of_ne hk] at h
      exact Or.inr (ih h)

theorem mem_getList_append (d : Dict κ (List ν)) (k k' : κ) (v v' : ν) :
    v' ∈ (d.append k v).getList k' ↔ v' ∈ d.getList k' ∨ k' = k ∧ v' = v := by
  rw [getList, append, lookup_set]
  by_cases h : k' = k
  · subst h
    simp [getList]
  · simp [h, getList]

/-- `d.pop(k, None)` -/
def erase (d : Dict κ ν) (k : κ) : Dict κ ν := d.filter fun entry => entry.1 ≠ k

theorem lookup_erase (d : Dict κ ν) (k k' : κ) :
    (d.erase k).lookup k' = if k' = k then none else d.lookup k' := by
  induction d with
  | nil => simp [erase]
  | cons entry rest ih =>
    obtain ⟨k₀, v₀⟩ := entry
    rw [erase] at ih
    rw [erase, List.filter_cons]
    by_cases h₀ : k₀ = k
    · rw [if_neg (by simp [h₀]), ih]
      by_cases h : k' = k
      · rw [if_pos h, if_pos h]
      · rw [if_neg h, if_neg h, List.lookup_cons, beq_false_of_ne (h₀ ▸ h)]
    · rw [if_pos (by simp [h₀])]
      by_cases h : k' = k₀
      · rw [h, List.lookup_cons_self, List.lookup_cons_self, if_neg h₀]
      · rw [List.lookup_cons, List.lookup_cons, beq_false_of_ne h, ih]

theorem mem_of_lookup (h : d.lookup k = some v) : (k, v) ∈ d := by
  obtain ⟨front, rest, rfl, -⟩ := List.lookup_eq_some_iff.mp h
  exact List.mem_append_right _ List.mem_cons_self

theorem lookup_isSome (h : k ∈ d.keys) : ∃ v, d.lookup k = some v := by
  obtain ⟨entry, hEntry, rfl⟩ := List.mem_map.mp h
  cases hLookup : d.lookup entry.1 with
  | some v => exact ⟨v, rfl⟩
  | none =>
    have hNe := List.lookup_eq_none_iff.mp hLookup entry hEntry
    simp at hNe

theorem isSome_lookup : (d.lookup k).isSome = true ↔ k ∈ d.keys := by
  constructor
  · intro h
    obtain ⟨v, hv⟩ := Option.isSome_iff_exists.mp h
    exact mem_keys_of_lookup hv
  · intro h
    obtain ⟨v, hv⟩ := lookup_isSome h
    rw [hv, Option.isSome_some]

theorem getList_of_notMem {d : Dict κ (List ν)} (h : k ∉ d.keys) : d.getList k = [] := by
  rw [← isSome_lookup, Bool.not_eq_true, Option.isSome_eq_false_iff, Option.isNone_iff_eq_none] at h
  rw [getList, h, Option.getD_none]

theorem lookup_of_mem (hNodup : d.keys.Nodup) (h : (k, v) ∈ d) : d.lookup k = some v := by
  induction d with
  | nil => cases h
  | cons entry rest ih =>
    obtain ⟨k₀, v₀⟩ := entry
    rw [keys, List.map_cons, List.nodup_cons] at hNodup
    rcases List.mem_cons.mp h with hHead | hTail
    · obtain ⟨rfl, rfl⟩ := Prod.mk.inj hHead
      exact List.lookup_cons_self
    · have hNe : k ≠ k₀ := by
        rintro rfl
        exact hNodup.1 (List.mem_map.mpr ⟨_, hTail, rfl⟩)
      rw [List.lookup_cons, beq_false_of_ne hNe]
      exact ih hNodup.2 hTail

theorem nodup_keys_set (h : d.keys.Nodup) (k : κ) (v : ν) : (d.set k v).keys.Nodup := by
  induction d with
  | nil => exact List.nodup_cons.mpr ⟨List.not_mem_nil, List.nodup_nil⟩
  | cons entry rest ih =>
    obtain ⟨k₀, v₀⟩ := entry
    rw [keys, List.map_cons, List.nodup_cons] at h
    rw [set]
    split
    · exact List.nodup_cons.mpr h
    · rename_i hNe
      refine List.nodup_cons.mpr ⟨?_, ih h.2⟩
      intro hMem
      rcases (mem_keys_set rest k k₀ v).mp hMem with hRest | hEq
      · exact h.1 hRest
      · exact hNe hEq

omit [DecidableEq κ] in
theorem nodup_keys_filter (h : d.keys.Nodup) (f : κ × ν → Bool) : (keys (d.filter f)).Nodup :=
  h.sublist (List.Sublist.map Prod.fst List.filter_sublist)

theorem nodup_keys_erase (h : d.keys.Nodup) (k : κ) : (d.erase k).keys.Nodup :=
  nodup_keys_filter h _

theorem mem_keys_erase (d : Dict κ ν) (k k' : κ) :
    k' ∈ (d.erase k).keys ↔ k' ∈ d.keys ∧ k' ≠ k := by
  rw [erase, keys, keys, List.mem_map, List.mem_map]
  constructor
  · rintro ⟨entry, hEntry, rfl⟩
    obtain ⟨hMem, hNe⟩ := List.mem_filter.mp hEntry
    exact ⟨⟨entry, hMem, rfl⟩, of_decide_eq_true hNe⟩
  · rintro ⟨⟨entry, hMem, rfl⟩, hNe⟩
    exact ⟨entry, List.mem_filter.mpr ⟨hMem, decide_eq_true hNe⟩, rfl⟩

theorem lookup_of_lookup_filter (h : d.keys.Nodup) {f : κ × ν → Bool}
    (hFound : (d.filter f).lookup k = some v) : d.lookup k = some v :=
  lookup_of_mem h (List.mem_filter.mp (mem_of_lookup hFound)).1

/-- With distinct keys, an entry is found among some of the entries when it is one of them. -/
theorem lookup_filter (h : d.keys.Nodup) (f : κ × ν → Bool) (k : κ) :
    (d.filter f).lookup k = (d.lookup k).filter fun v => f (k, v) := by
  apply Option.ext
  intro v
  rw [Option.filter_eq_some_iff]
  constructor
  · intro hFound
    exact ⟨lookup_of_lookup_filter h hFound, (List.mem_filter.mp (mem_of_lookup hFound)).2⟩
  · rintro ⟨hFound, hKept⟩
    exact lookup_of_mem (nodup_keys_filter h f) (List.mem_filter.mpr ⟨mem_of_lookup hFound, hKept⟩)

theorem lookup_map (d : Dict κ ν) (f : κ → ν → ν) (k : κ) :
    (d.map fun entry => (entry.1, f entry.1 entry.2)).lookup k = (d.lookup k).map (f k) := by
  induction d with
  | nil => rfl
  | cons entry rest ih =>
    obtain ⟨k₀, v₀⟩ := entry
    rw [List.map_cons]
    by_cases hKey : k = k₀
    · subst hKey
      rw [List.lookup_cons_self, List.lookup_cons_self]
      rfl
    · rw [List.lookup_cons, List.lookup_cons, beq_false_of_ne hKey]
      exact ih

theorem mem_getList_foldl_append (d : Dict κ (List ν)) (ks : List κ) (v v' : ν) (k' : κ) :
    v' ∈ getList (ks.foldl (fun d k => d.append k v) d) k' ↔
      v' ∈ d.getList k' ∨ k' ∈ ks ∧ v' = v := by
  induction ks using List.reverseRecOn with
  | nil => simp
  | append_singleton ks k ih =>
    rw [List.foldl_append]
    simp only [List.foldl_cons, List.foldl_nil, mem_getList_append, ih, List.mem_append,
      List.mem_singleton]
    tauto

/-- `d.update(other)`. -/
def update (d other : Dict κ ν) : Dict κ ν := other.foldl (fun d entry => d.set entry.1 entry.2) d

theorem lookup_update (d : Dict κ ν) {other : Dict κ ν} (h : other.keys.Nodup) (k : κ) :
    (d.update other).lookup k = (other.lookup k).or (d.lookup k) := by
  induction other generalizing d with
  | nil => rfl
  | cons entry rest ih =>
    obtain ⟨k₀, v₀⟩ := entry
    rw [keys, List.map_cons, List.nodup_cons] at h
    rw [update, List.foldl_cons]
    refine (ih (d.set k₀ v₀) h.2).trans ?_
    rw [lookup_set]
    by_cases hKey : k = k₀
    · have hNone : rest.lookup k = none := by
        refine Option.eq_none_iff_forall_ne_some.mpr fun v hv => h.1 ?_
        rw [← hKey]
        exact mem_keys_of_lookup hv
      rw [hNone, List.lookup_cons, if_pos hKey, hKey, beq_self_eq_true]
      rfl
    · rw [if_neg hKey, List.lookup_cons, beq_false_of_ne hKey]

end Dict
