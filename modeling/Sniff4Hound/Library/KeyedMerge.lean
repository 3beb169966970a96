import Sniff4Hound.Library.Dict

/-!
# Aggregates kept by key

A table holds one value per key and `mergeAt` merges a value into it, in place when the key is
there and at the end when it is new. Values that are merged in a table of their own first, and
then as a batch, leave the same table as when each is merged at once: this needs associativity
of the merge and nothing else (`collect_mergeAt`). The keys keep the order of their first entry.
-/

namespace Dict

variable {κ ν μ : Type*} [DecidableEq κ] {op : ν → ν → ν}

/-- `v` merged into the value of `k`, or put at the end for a new key. -/
def mergeAt (op : ν → ν → ν) : Dict κ ν → κ → ν → Dict κ ν
  | [], k, v => [(k, v)]
  | (k', v') :: rest, k, v =>
    if k' = k then (k', op v' v) :: rest else (k', v') :: mergeAt op rest k v

def collect (op : ν → ν → ν) (d : Dict κ ν) (entries : List (κ × ν)) : Dict κ ν :=
  entries.foldl (fun d entry => mergeAt op d entry.1 entry.2) d

/-! ## Merging and looking up -/

variable {d : Dict κ ν} {k : κ}

theorem mergeAt_of_lookup {old : ν} (h : d.lookup k = some old) (v : ν) :
    mergeAt op d k v = d.set k (op old v) := by
  induction d with
  | nil => cases h
  | cons entry rest ih =>
    obtain ⟨k₀, v₀⟩ := entry
    rw [mergeAt, set]
    by_cases h₀ : k₀ = k
    · subst h₀
      rw [List.lookup_cons_self] at h
      cases h
      rw [if_pos rfl, if_pos rfl]
    · rw [List.lookup_cons, beq_false_of_ne (Ne.symm h₀)] at h
      rw [if_neg h₀, if_neg h₀, ih h]

theorem mergeAt_of_absent (h : d.lookup k = none) (v : ν) : mergeAt op d k v = d.set k v := by
  induction d with
  | nil => rfl
  | cons entry rest ih =>
    obtain ⟨k₀, v₀⟩ := entry
    rw [mergeAt, set]
    by_cases h₀ : k₀ = k
    · subst h₀
      rw [List.lookup_cons_self] at h
      cases h
    · rw [List.lookup_cons, beq_false_of_ne (Ne.symm h₀)] at h
      rw [if_neg h₀, if_neg h₀, ih h]

theorem mem_keys_mergeAt (d : Dict κ ν) (k k' : κ) (v : ν) :
    k' ∈ keys (mergeAt op d k v) ↔ k' ∈ keys d ∨ k' = k := by
  cases h : d.lookup k with
  | none => rw [mergeAt_of_absent h, mem_keys_set]
  | some old => rw [mergeAt_of_lookup h, mem_keys_set]

theorem nodup_keys_mergeAt (hNodup : d.keys.Nodup) (k : κ) (v : ν) :
    (mergeAt op d k v).keys.Nodup := by
  cases h : d.lookup k with
  | none =>
    rw [mergeAt_of_absent h]
    exact nodup_keys_set hNodup k v
  | some old =>
    rw [mergeAt_of_lookup h]
    exact nodup_keys_set hNodup k _

/-! ## Merging in two stages -/

@[simp] theorem collect_nil (d : Dict κ ν) : collect op d [] = d := rfl

theorem collect_cons (d : Dict κ ν) (entry : κ × ν) (rest : List (κ × ν)) :
    collect op d (entry :: rest) = collect op (mergeAt op d entry.1 entry.2) rest := rfl

theorem collect_append (d : Dict κ ν) (front rest : List (κ × ν)) :
    collect op d (front ++ rest) = collect op (collect op d front) rest := List.foldl_append

theorem mergeAt_mergeAt (hAssoc : ∀ a b c, op (op a b) c = op a (op b c)) (d : Dict κ ν) (k : κ)
    (v w : ν) : mergeAt op (mergeAt op d k v) k w = mergeAt op d k (op v w) := by
  induction d with
  | nil => simp [mergeAt]
  | cons entry rest ih =>
    obtain ⟨k₀, v₀⟩ := entry
    by_cases h₀ : k₀ = k
    · simp [mergeAt, h₀, hAssoc]
    · simp [mergeAt, h₀, ih]

theorem mergeAt_comm {k' : κ} (hKey : k ∈ d.keys) (hNe : k ≠ k') (v v' : ν) :
    mergeAt op (mergeAt op d k v) k' v' = mergeAt op (mergeAt op d k' v') k v := by
  induction d with
  | nil => cases hKey
  | cons entry rest ih =>
    obtain ⟨k₀, v₀⟩ := entry
    by_cases h₀ : k₀ = k
    · subst h₀
      simp [mergeAt, hNe]
    · have hRest : k ∈ keys rest := by
        rw [keys, List.map_cons, List.mem_cons] at hKey
        rcases hKey with hEq | hRest
        · exact absurd hEq.symm h₀
        · exact hRest
      by_cases h₁ : k₀ = k'
      · simp [mergeAt, h₁, Ne.symm hNe]
      · simp [mergeAt, h₀, h₁, ih hRest]

theorem collect_mergeAt_comm (hKey : k ∈ d.keys) (v : ν) {entries : List (κ × ν)}
    (hNotIn : k ∉ entries.map Prod.fst) :
    collect op (mergeAt op d k v) entries = mergeAt op (collect op d entries) k v := by
  induction entries generalizing d with
  | nil => rfl
  | cons entry rest ih =>
    rw [List.map_cons, List.mem_cons, not_or] at hNotIn
    rw [collect_cons, collect_cons, mergeAt_comm hKey hNotIn.1]
    exact ih ((mem_keys_mergeAt ..).mpr (Or.inl hKey)) hNotIn.2

/-- A value merged into a batch before the batch is merged counts as if it came right after. -/
theorem collect_mergeAt (hAssoc : ∀ a b c, op (op a b) c = op a (op b c)) (d : Dict κ ν)
    {batch : Dict κ ν} (hNodup : batch.keys.Nodup) (k : κ) (v : ν) :
    collect op d (mergeAt op batch k v) = mergeAt op (collect op d batch) k v := by
  induction batch generalizing d with
  | nil => rfl
  | cons entry rest ih =>
    obtain ⟨k₀, v₀⟩ := entry
    rw [keys, List.map_cons, List.nodup_cons] at hNodup
    rw [mergeAt]
    split
    · rename_i h₀
      subst h₀
      have hKey : k₀ ∈ (mergeAt op d k₀ v₀).keys := (mem_keys_mergeAt ..).mpr (Or.inr rfl)
      calc collect op d ((k₀, op v₀ v) :: rest)
          = collect op (mergeAt op (mergeAt op d k₀ v₀) k₀ v) rest := by
            rw [collect_cons, mergeAt_mergeAt hAssoc]
        _ = mergeAt op (collect op (mergeAt op d k₀ v₀) rest) k₀ v :=
            collect_mergeAt_comm hKey v hNodup.1
    · rw [collect_cons, collect_cons]
      exact ih _ hNodup.2

/-! ## Forgetting part of a value -/

def mapValues (f : ν → μ) (d : Dict κ ν) : Dict κ μ := d.map fun entry => (entry.1, f entry.2)

omit [DecidableEq κ] in
@[simp] theorem mapValues_nil (f : ν → μ) : mapValues f ([] : Dict κ ν) = [] := rfl

omit [DecidableEq κ] in
theorem mapValues_append (f : ν → μ) (d e : Dict κ ν) :
    mapValues f (d ++ e) = mapValues f d ++ mapValues f e := List.map_append

omit [DecidableEq κ] in
theorem keys_mapValues (f : ν → μ) (d : Dict κ ν) : (mapValues f d).keys = d.keys := by
  simp [mapValues, keys]

theorem lookup_mapValues (f : ν → μ) (d : Dict κ ν) (k : κ) :
    (mapValues f d).lookup k = (d.lookup k).map f := by
  induction d with
  | nil => rfl
  | cons entry rest ih =>
    obtain ⟨k₀, v₀⟩ := entry
    rw [mapValues] at ih
    rw [mapValues, List.map_cons, List.lookup_cons, List.lookup_cons]
    cases k == k₀
    · exact ih
    · rfl

theorem mapValues_set (f : ν → μ) (d : Dict κ ν) (k : κ) (v : ν) :
    mapValues f (d.set k v) = (mapValues f d).set k (f v) := by
  induction d with
  | nil => rfl
  | cons entry rest ih =>
    obtain ⟨k₀, v₀⟩ := entry
    simp only [mapValues] at ih
    by_cases h₀ : k₀ = k
    · simp [set, mapValues, h₀]
    · simp [set, mapValues, h₀, ih]

end Dict

structure Keyed (κ ν : Type*) where
  rows : Dict κ ν
  unique : rows.keys.Nodup

namespace Keyed

variable {κ ν : Type*} [DecidableEq κ]

def empty : Keyed κ ν := ⟨[], List.nodup_nil⟩

def set (d : Keyed κ ν) (k : κ) (v : ν) : Keyed κ ν :=
  ⟨d.rows.set k v, Dict.nodup_keys_set d.unique k v⟩

omit [DecidableEq κ] in
@[ext] theorem ext {d e : Keyed κ ν} (h : d.rows = e.rows) : d = e := by
  cases d
  cases e
  cases h
  rfl

end Keyed
