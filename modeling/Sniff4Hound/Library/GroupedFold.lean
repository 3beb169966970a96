import Mathlib.Algebra.GroupWithZero.Nat
import Mathlib.Algebra.BigOperators.Group.List.Lemmas
import Sniff4Hound.Library.Dict

/-!
# Events folded into groups

A table keeps one value per key and folds every event into the value of its key, which the first
event starts. The value of a key is the fold of its own events, in their order (`lookup_groupInto`),
the keys are those of the events (`mem_keys_groupInto`), and the sizes of the groups add up
(`sum_filter_length`).
-/

namespace Dict

variable {α κ ν : Type*} [DecidableEq κ] (key : α → κ) (start : α → ν) (add : ν → α → ν)

def groupStep (d : Dict κ ν) (a : α) : Dict κ ν :=
  d.set (key a) (add ((d.lookup (key a)).getD (start a)) a)

def groupInto (events : List α) : Dict κ ν := events.foldl (groupStep key start add) []

def foldGroup : List α → Option ν
  | [] => none
  | a :: rest => some ((a :: rest).foldl add (start a))

variable (events : List α)

theorem groupInto_snoc (a : α) : groupInto key start add (events ++ [a]) =
    groupStep key start add (groupInto key start add events) a := by
  rw [groupInto, List.foldl_append]
  rfl

theorem foldGroup_snoc (a : α) : foldGroup start add (events ++ [a]) =
    some (add ((foldGroup start add events).getD (start a)) a) := by
  cases events with
  | nil => rfl
  | cons first rest =>
    rw [foldGroup, List.cons_append, foldGroup, ← List.cons_append, List.foldl_append]
    rfl

theorem lookup_groupInto (k : κ) : (groupInto key start add events).lookup k =
    foldGroup start add (events.filter fun a => key a = k) := by
  induction events using List.reverseRecOn with
  | nil => rfl
  | append_singleton events a ih =>
    rw [groupInto_snoc, groupStep, lookup_set, List.filter_append]
    by_cases hKey : k = key a
    · subst hKey
      have hOwn : [a].filter (fun b => decide (key b = key a)) = [a] :=
        List.filter_cons_of_pos (decide_eq_true rfl)
      rw [if_pos rfl, hOwn, foldGroup_snoc, ih]
    · have hOther : [a].filter (fun b => decide (key b = k)) = [] :=
        List.filter_cons_of_neg (by simpa using Ne.symm hKey)
      rw [if_neg hKey, hOther, List.append_nil, ih]

theorem nodup_keys_groupInto : (groupInto key start add events).keys.Nodup := by
  induction events using List.reverseRecOn with
  | nil => exact List.nodup_nil
  | append_singleton events a ih =>
    rw [groupInto_snoc]
    exact nodup_keys_set ih _ _

theorem mem_keys_groupInto (k : κ) :
    k ∈ (groupInto key start add events).keys ↔ ∃ a ∈ events, key a = k := by
  induction events using List.reverseRecOn with
  | nil => exact iff_of_false List.not_mem_nil (by simp)
  | append_singleton events a ih =>
    rw [groupInto_snoc, groupStep, mem_keys_set, ih]
    constructor
    · rintro (⟨b, hb, hKey⟩ | hKey)
      · exact ⟨b, List.mem_append_left _ hb, hKey⟩
      · exact ⟨a, List.mem_append_right _ (List.mem_singleton.mpr rfl), hKey.symm⟩
    · rintro ⟨b, hb, hKey⟩
      rcases List.mem_append.mp hb with hb | hb
      · exact Or.inl ⟨b, hb, hKey⟩
      · exact Or.inr (List.mem_singleton.mp hb ▸ hKey.symm)

theorem sum_filter_length {keys : List κ} {events : List α} (hNodup : keys.Nodup)
    (hKeys : ∀ k, k ∈ keys ↔ ∃ a ∈ events, key a = k) :
    (keys.map fun k => (events.filter fun a => key a = k).length).sum = events.length := by
  have hPerm : keys.Perm (events.map key).dedup := by
    refine (List.perm_ext_iff_of_nodup hNodup (List.nodup_dedup _)).mpr fun k => ?_
    rw [List.mem_dedup, List.mem_map, hKeys]
  have hCount : ∀ k, (events.filter fun a => key a = k).length = (events.map key).count k := by
    intro k
    rw [List.count, List.countP_map, List.countP_eq_length_filter]
    rfl
  simp only [hCount]
  rw [(hPerm.map _).sum_eq, List.sum_map_count_dedup_eq_length, List.length_map]

end Dict
