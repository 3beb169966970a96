import Sniff4Hound.Store.BlacklistMirror

/-!
# Merging list entries

`_migrate_list_entry_duplicates` of `store.py` for both lists. The rows of the unique index are
made distinct, but the row that stays of a group is the oldest one, enabled or not: an enabled
entry is lost to a disabled older one (`entry_lost`). `migration_keeps_iff` says when the migration
runs through, loses no enabled entry and leaves nothing for a second run.
-/

namespace Sniff4Hound.Store

abbrev ListRows := Dict String BlacklistEntry

abbrev ListKey := String × String × String

def rowsOf (rows : ListRows) (key : ListKey) : ListRows :=
  rows.filter fun row => listKey row.2 = key

/-- `_migrate_list_entry_duplicates` of both tables, in one transaction. -/
def migrate_both (env : CatalogEnv) (whitelist_created blacklist_created : Dict String Nat)
    (lists : ListRows × ListRows) : Except String (ListRows × ListRows) := do
  let whitelist ← migrate_list_entry_duplicates env whitelist_created lists.1
  let blacklist ← migrate_list_entry_duplicates env blacklist_created lists.2
  pure (whitelist, blacklist)

/-- What the migration is to make of a table: the keys are distinct, and every enabled row is
covered by an enabled row with its canonical key. -/
structure Migrated (env : CatalogEnv) (before after : ListRows) : Prop where
  unique : (after.map fun row => listKey row.2).Nodup
  covered : ∀ row ∈ before, row.2.enabled = true → ∀ row', canonicalRow env row = .ok row' →
    ∃ kept ∈ after, kept.2.enabled = true ∧ listKey kept.2 = listKey row'.2

/-- `row` and `row'` have the same canonical key. -/
def Duplicates (env : CatalogEnv) (row row' : String × BlacklistEntry) : Prop :=
  ∃ canonical canonical', canonicalRow env row = .ok canonical ∧
    canonicalRow env row' = .ok canonical' ∧ listKey canonical.2 = listKey canonical'.2

/-- Every value has a canonical form, which is its own canonical form, and the oldest duplicate of
an enabled row is enabled. -/
structure Mergeable (env : CatalogEnv) (entry_created : Dict String Nat) (rows : ListRows) :
    Prop where
  canonical : ∀ row ∈ rows, ∃ row', canonicalRow env row = .ok row' ∧
    canonicalRow env row' = .ok row'
  oldest : ∀ row ∈ rows, row.2.enabled = true → ∀ oldest ∈ rows, Duplicates env row oldest →
    (∀ other ∈ rows, Duplicates env row other → rowBefore entry_created oldest other) →
    oldest.2.enabled = true

/-! ## Rewriting -/

section Rewriting

variable {env : CatalogEnv}

theorem mapM_ok {α β ε : Type} {f : α → Except ε β} {items : List α} {out : List β} :
    items.mapM f = .ok out ↔ List.Forall₂ (fun a b => f a = .ok b) items out := by
  induction items generalizing out with
  | nil =>
    rw [List.mapM_nil, List.forall₂_nil_left_iff]
    constructor
    · intro h
      cases h
      rfl
    · rintro rfl
      rfl
  | cons a items ih =>
    rw [List.mapM_cons, List.forall₂_cons_left_iff]
    constructor
    · intro h
      cases hHead : f a with
      | error e =>
        rw [hHead] at h
        cases h
      | ok b =>
        cases hTail : items.mapM f with
        | error e =>
          rw [hHead, hTail] at h
          cases h
        | ok rest =>
          rw [hHead, hTail] at h
          cases h
          exact ⟨b, rest, rfl, ih.mp hTail, rfl⟩
    · rintro ⟨b, rest, hHead, hTail, rfl⟩
      rw [hHead, ih.mpr hTail]
      rfl

theorem canonical_congr {row row' : String × BlacklistEntry} (h : listKey row.2 = listKey row'.2) :
    canonicalRow env row = .ok row ↔ canonicalRow env row' = .ok row' := by
  obtain ⟨id, category, match_type, value, label, enabled⟩ := row
  obtain ⟨id', category', match_type', value', label', enabled'⟩ := row'
  obtain ⟨rfl, hRest⟩ := Prod.mk.inj h
  obtain ⟨rfl, rfl⟩ := Prod.mk.inj hRest
  unfold canonicalRow
  dsimp only at *
  split
  · cases normalize_list_value env category (strip value) with
    | error e => simp [bind, Except.bind]
    | ok text => simp [bind, Except.bind, pure, Except.pure]
  · simp [pure, Except.pure]

theorem rewritten_self {rows : ListRows} :
    rows.mapM (canonicalRow env) = .ok rows ↔ ∀ row ∈ rows, canonicalRow env row = .ok row := by
  rw [mapM_ok, List.forall₂_same]

theorem keys_rewritten {rows rows' : ListRows}
    (h : List.Forall₂ (fun row row' => canonicalRow env row = .ok row') rows rows') :
    rows'.keys = rows.keys := by
  induction h with
  | nil => rfl
  | cons hRow _ ih => exact congrArg₂ List.cons (canonicalRow_ok hRow).1 ih

end Rewriting

/-! ## Merging -/

section Merging

variable {entry_created : Dict String Nat}

/-- `rowBefore` is a linear order of rows with distinct ids. -/
instance (entry_created : Dict String Nat) : Std.Total (rowBefore entry_created) where
  total a b := by
    unfold rowBefore
    dsimp only
    have hIds := String.le_total a.1 b.1
    rcases lt_trichotomy ((entry_created.lookup a.1).getD 0)
      ((entry_created.lookup b.1).getD 0) with hLt | hEq | hGt
    · exact Or.inl (Or.inl hLt)
    · rcases hIds with hLe | hGe
      · exact Or.inl (Or.inr ⟨hEq, hLe⟩)
      · exact Or.inr (Or.inr ⟨hEq.symm, hGe⟩)
    · exact Or.inr (Or.inl hGt)

instance (entry_created : Dict String Nat) : IsTrans (String × BlacklistEntry)
    (rowBefore entry_created) where
  trans a b c hab hbc := by
    unfold rowBefore at *
    dsimp only at *
    rcases hab with hLt | ⟨hEq, hLe⟩
    · rcases hbc with hLt' | ⟨hEq', -⟩
      · exact Or.inl (hLt.trans hLt')
      · exact Or.inl (hEq' ▸ hLt)
    · rcases hbc with hLt' | ⟨hEq', hLe'⟩
      · exact Or.inl (hEq ▸ hLt')
      · exact Or.inr ⟨hEq.trans hEq', String.le_trans hLe hLe'⟩

variable (entry_created) in
theorem groupRows_perm (rows : ListRows) (key : ListKey) :
    (groupRows entry_created rows key).Perm (rowsOf rows key) :=
  List.perm_insertionSort _ _

theorem groupRows_congr {rows rows' : ListRows} {key : ListKey}
    (h : rowsOf rows key = rowsOf rows' key) :
    groupRows entry_created rows key = groupRows entry_created rows' key := by
  unfold groupRows
  exact congrArg _ h

def relabelled (rows : List (String × BlacklistEntry)) (keeper : String × BlacklistEntry) :
    String × BlacklistEntry :=
  (keeper.1, { keeper.2 with
    label := join "; " (unique_ordered (fun a b => a == b)
      ((rows.map fun row => strip row.2.label).filter (· ≠ ""))) })

variable (rows : List (String × BlacklistEntry)) (keeper : String × BlacklistEntry)

@[simp] theorem relabelled_id : (relabelled rows keeper).1 = keeper.1 := rfl

@[simp] theorem relabelled_enabled : (relabelled rows keeper).2.enabled = keeper.2.enabled := by
  dsimp only [relabelled]

@[simp] theorem listKey_relabelled : listKey (relabelled rows keeper).2 = listKey keeper.2 := by
  dsimp only [relabelled, listKey]

def rewriteKeeper (rows : List (String × BlacklistEntry)) (keeper row : String × BlacklistEntry) :
    String × BlacklistEntry :=
  if row.1 = keeper.1 then relabelled rows keeper else row

variable {rows : ListRows} {key : ListKey} {keeper loser : String × BlacklistEntry}
  {more : List (String × BlacklistEntry)}

theorem map_rewriteKeeper {members labels : List (String × BlacklistEntry)}
    (h : ∀ row ∈ members, row.1 ≠ keeper.1) :
    members.map (rewriteKeeper labels keeper) = members :=
  (List.map_congr_left fun row hRow => if_neg (h row hRow)).trans (List.map_id members)

variable (hKeys : rows.keys.Nodup)

include hKeys

theorem merge_group_rows (hRows : groupRows entry_created rows key = keeper :: loser :: more) :
    merge_group entry_created rows key =
      (rows.map (rewriteKeeper (keeper :: loser :: more) keeper)).filter fun row =>
        row.1 ∉ (loser :: more).map Prod.fst := by
  have hKeeper : keeper ∈ rows := mem_of_mem_groupRows (hRows ▸ List.mem_cons_self)
  unfold merge_group
  rw [hRows]
  dsimp only
  rw [Dict.set_eq_map hKeys (List.mem_map_of_mem hKeeper)]
  rfl

theorem row_of_id {row row' : String × BlacklistEntry} (h : row ∈ rows)
    (h' : row' ∈ rows) (hId : row.1 = row'.1) : row = row' :=
  List.inj_on_of_nodup_map hKeys h h' hId

omit hKeys in
theorem listKey_group {row : String × BlacklistEntry}
    (h : row ∈ groupRows entry_created rows key) : listKey row.2 = key := by
  have hMem := (groupRows_perm entry_created rows key).mem_iff.mp h
  exact of_decide_eq_true (List.mem_filter.mp hMem).2

omit hKeys in
theorem rowsOf_filter (rows : ListRows) (f : String × BlacklistEntry → Bool) (key : ListKey) :
    rowsOf (rows.filter f) key = (rowsOf rows key).filter f :=
  List.filter_comm _ _ _

theorem rowsOf_rewrite (hKeeper : keeper ∈ rows)
    (labels : List (String × BlacklistEntry)) (key : ListKey) :
    rowsOf (rows.map (rewriteKeeper labels keeper)) key =
      (rowsOf rows key).map (rewriteKeeper labels keeper) := by
  unfold rowsOf
  rw [List.filter_map]
  congr 1
  refine List.filter_congr ?_
  intro row hRow
  dsimp only [Function.comp]
  unfold rewriteKeeper
  split
  · rename_i hId
    rw [row_of_id hKeys hRow hKeeper hId, listKey_relabelled]
  · rfl

theorem rowsOf_merge_other
    (hRows : groupRows entry_created rows key = keeper :: loser :: more) {other : ListKey}
    (hOther : other ≠ key) :
    rowsOf (merge_group entry_created rows key) other = rowsOf rows other := by
  have hKeeper : keeper ∈ rows := mem_of_mem_groupRows (hRows ▸ List.mem_cons_self)
  -- a row of the other key has no id of the group
  have hOut : ∀ row ∈ rowsOf rows other, row.1 ∉ (keeper :: loser :: more).map Prod.fst := by
    intro row hRow hId
    obtain ⟨hMem, hKey⟩ := List.mem_filter.mp hRow
    obtain ⟨member, hMember, hSame⟩ := List.mem_map.mp hId
    rw [← hRows] at hMember
    have hEq := row_of_id hKeys hMem (mem_of_mem_groupRows hMember) hSame.symm
    rw [hEq, listKey_group hMember] at hKey
    exact hOther (of_decide_eq_true hKey).symm
  rw [merge_group_rows hKeys hRows, rowsOf_filter]
  rw [rowsOf_rewrite hKeys hKeeper, map_rewriteKeeper
    fun row hRow hId => hOut row hRow (hId ▸ List.mem_cons_self)]
  refine List.filter_eq_self.mpr ?_
  intro row hRow
  exact decide_eq_true fun hId => hOut row hRow (List.mem_cons_of_mem _ hId)

theorem rowsOf_merge_self (hRows : groupRows entry_created rows key = keeper :: loser :: more) :
    rowsOf (merge_group entry_created rows key) key =
      [relabelled (keeper :: loser :: more) keeper] := by
  have hKeeper : keeper ∈ rows := mem_of_mem_groupRows (hRows ▸ List.mem_cons_self)
  have hPerm := groupRows_perm entry_created rows key
  rw [hRows] at hPerm
  have hIds : ((keeper :: loser :: more).map Prod.fst).Nodup := by
    refine (hPerm.map Prod.fst).nodup_iff.mpr ?_
    exact hKeys.sublist (List.filter_sublist.map Prod.fst)
  rw [List.map_cons, List.nodup_cons] at hIds
  have hLosers : ∀ row ∈ loser :: more, row.1 ≠ keeper.1 := by
    intro row hRow hId
    exact hIds.1 (hId ▸ List.mem_map_of_mem hRow)
  rw [merge_group_rows hKeys hRows, rowsOf_filter, rowsOf_rewrite hKeys hKeeper]
  apply List.perm_singleton.mp
  refine ((hPerm.symm.map _).filter _).trans ?_
  rw [List.map_cons (f := rewriteKeeper (keeper :: loser :: more) keeper),
    map_rewriteKeeper hLosers]
  have hSelf : rewriteKeeper (keeper :: loser :: more) keeper keeper =
      relabelled (keeper :: loser :: more) keeper := if_pos rfl
  have hNone : (loser :: more).filter
      (fun row => decide (row.1 ∉ (loser :: more).map Prod.fst)) = [] := by
    refine List.filter_eq_nil_iff.mpr ?_
    intro row hRow hKept
    exact of_decide_eq_true hKept (List.mem_map_of_mem hRow)
  have hKept : decide ((relabelled (keeper :: loser :: more) keeper).1 ∉
      (loser :: more).map Prod.fst) = true := by
    rw [relabelled_id]
    exact decide_eq_true hIds.1
  rw [hSelf, List.filter_cons, hNone, if_pos hKept]

theorem nodup_merge_group : (merge_group entry_created rows key).keys.Nodup := by
  unfold merge_group
  split
  · exact Dict.nodup_keys_filter (Dict.nodup_keys_set hKeys _ _) _
  · exact hKeys

omit hKeys

def survivors : List (String × BlacklistEntry) → ListRows
  | keeper :: loser :: more => [relabelled (keeper :: loser :: more) keeper]
  | few => few

theorem length_survivors (group : List (String × BlacklistEntry)) :
    (survivors group).length ≤ 1 := by
  unfold survivors
  split
  · exact Nat.le_refl 1
  · next hFew =>
    match group, hFew with
    | [], _ => exact Nat.zero_le 1
    | [_], _ => exact Nat.le_refl 1
    | keeper :: loser :: more, hFew => exact absurd rfl (hFew keeper loser more)

theorem survivors_head {group : List (String × BlacklistEntry)} (h : group.head? = some keeper) :
    ∃ kept, survivors group = [kept] ∧ kept.2.enabled = keeper.2.enabled ∧
      listKey kept.2 = listKey keeper.2 := by
  match group, h with
  | [_], rfl => exact ⟨keeper, rfl, rfl, rfl⟩
  | _ :: loser :: more, rfl =>
    exact ⟨_, rfl, relabelled_enabled _ keeper, listKey_relabelled _ keeper⟩

theorem survivors_few (h : (groupRows entry_created rows key).length ≤ 1) :
    survivors (groupRows entry_created rows key) = rowsOf rows key := by
  have hPerm := groupRows_perm entry_created rows key
  match hRows : groupRows entry_created rows key with
  | [] =>
    rw [hRows] at hPerm
    exact (List.nil_perm.mp hPerm).symm
  | [row] =>
    rw [hRows] at hPerm
    exact List.singleton_perm.mp hPerm
  | keeper :: loser :: more =>
    rw [hRows, List.length_cons, List.length_cons] at h
    omega

variable (entry_created) in
theorem rowsOf_merge (hKeys : rows.keys.Nodup) (key other : ListKey) :
    rowsOf (merge_group entry_created rows key) other =
      if other = key then survivors (groupRows entry_created rows key) else rowsOf rows other := by
  by_cases hFew : (groupRows entry_created rows key).length ≤ 1
  · have hCount := hFew
    rw [length_groupRows] at hCount
    rw [merge_group_single hCount, survivors_few hFew]
    split
    · next hKey => rw [hKey]
    · rfl
  · match hRows : groupRows entry_created rows key with
    | [] => exact absurd (hRows ▸ Nat.zero_le 1) hFew
    | [row] => exact absurd (hRows ▸ Nat.le_refl 1) hFew
    | keeper :: loser :: more =>
      split
      · next hKey =>
        rw [hKey]
        exact rowsOf_merge_self hKeys hRows
      · next hKey => exact rowsOf_merge_other hKeys hRows hKey

theorem rowsOf_merge_groups {groups : List ListKey} (hGroups : groups.Nodup)
    (hKeys : rows.keys.Nodup) (other : ListKey) :
    rowsOf (groups.foldl (merge_group entry_created) rows) other =
      if other ∈ groups then survivors (groupRows entry_created rows other)
      else rowsOf rows other := by
  induction groups generalizing rows with
  | nil => rw [List.foldl_nil, if_neg List.not_mem_nil]
  | cons key groups ih =>
    obtain ⟨hFresh, hRest⟩ := List.nodup_cons.mp hGroups
    have hStep := rowsOf_merge entry_created hKeys key other
    rw [List.foldl_cons, ih hRest (nodup_merge_group hKeys)]
    by_cases hKey : other = key
    · rw [if_pos hKey] at hStep
      subst hKey
      rw [if_neg hFresh, if_pos List.mem_cons_self, hStep]
    · rw [if_neg hKey] at hStep
      rw [groupRows_congr hStep, hStep]
      exact if_congr (List.mem_cons.trans (or_iff_right hKey)).symm rfl rfl

def duplicateKeys (rows : ListRows) : List ListKey :=
  let keys := rows.map fun row => listKey row.2
  keys.dedup.filter fun key => 1 < keys.count key

/-- `_migrate_list_entry_duplicates` once the rows are rewritten. -/
def merge_duplicates (entry_created : Dict String Nat) (rows : ListRows) : ListRows :=
  (duplicateKeys rows).foldl (merge_group entry_created) rows

variable (entry_created) in
theorem rowsOf_merged (hKeys : rows.keys.Nodup) (key : ListKey) :
    rowsOf (merge_duplicates entry_created rows) key =
      survivors (groupRows entry_created rows key) := by
  have hGroups : (duplicateKeys rows).Nodup := (List.nodup_dedup _).filter _
  unfold merge_duplicates
  rw [rowsOf_merge_groups hGroups hKeys]
  split
  · rfl
  · next hAlone =>
    refine (survivors_few ?_).symm
    rw [length_groupRows]
    by_contra hMany
    apply hAlone
    have hIn := List.count_pos_iff.mp (Nat.lt_trans Nat.zero_lt_one (Nat.lt_of_not_le hMany))
    refine List.mem_filter.mpr ⟨List.mem_dedup.mpr hIn, ?_⟩
    exact decide_eq_true (Nat.lt_of_not_le hMany)

variable (entry_created) in
theorem unique_merged (hKeys : rows.keys.Nodup) :
    ((merge_duplicates entry_created rows).map fun row => listKey row.2).Nodup := by
  rw [List.nodup_iff_count_le_one]
  intro key
  rw [← length_groupRows entry_created, (groupRows_perm entry_created _ _).length_eq,
    rowsOf_merged entry_created hKeys]
  exact length_survivors _

variable (entry_created) in
theorem merged_of_row (hKeys : rows.keys.Nodup) {row : String × BlacklistEntry}
    (hRow : row ∈ rows) :
    ∃ keeper ∈ rows, listKey keeper.2 = listKey row.2 ∧
      (∀ other ∈ rows, listKey other.2 = listKey row.2 → rowBefore entry_created keeper other) ∧
      ∃ kept ∈ merge_duplicates entry_created rows, listKey kept.2 = listKey row.2 ∧
        ∀ kept' ∈ merge_duplicates entry_created rows, listKey kept'.2 = listKey row.2 →
          kept'.2.enabled = keeper.2.enabled := by
  have hPerm := groupRows_perm entry_created rows (listKey row.2)
  have hMember : ∀ other ∈ rows, listKey other.2 = listKey row.2 →
      other ∈ groupRows entry_created rows (listKey row.2) := by
    intro other hOther hKey
    exact hPerm.mem_iff.mpr (List.mem_filter.mpr ⟨hOther, decide_eq_true hKey⟩)
  have hSorted : (groupRows entry_created rows (listKey row.2)).Pairwise
      (rowBefore entry_created) := List.pairwise_insertionSort _ _
  have hMerged := rowsOf_merged entry_created hKeys (listKey row.2)
  match hGroup : groupRows entry_created rows (listKey row.2) with
  | [] => exact absurd (hGroup ▸ hMember row hRow rfl) List.not_mem_nil
  | keeper :: more =>
    have hKeeper : keeper ∈ groupRows entry_created rows (listKey row.2) :=
      hGroup ▸ List.mem_cons_self
    obtain ⟨kept, hKept, hEnabled, hKey⟩ :=
      survivors_head (congrArg List.head? hGroup)
    rw [hKept] at hMerged
    refine ⟨keeper, mem_of_mem_groupRows hKeeper, listKey_group hKeeper, ?_, kept, ?_, ?_, ?_⟩
    · intro other hOther hSame
      have hIn := hMember other hOther hSame
      rw [hGroup] at hIn hSorted
      rcases List.mem_cons.mp hIn with rfl | hLater
      · exact (Std.Total.total other other).elim id id
      · exact List.rel_of_pairwise_cons hSorted hLater
    · exact (List.mem_filter.mp (hMerged ▸ List.mem_cons_self)).1
    · exact hKey.trans (listKey_group hKeeper)
    · intro kept' hKept' hSame
      have hIn : kept' ∈ rowsOf (merge_duplicates entry_created rows) (listKey row.2) :=
        List.mem_filter.mpr ⟨hKept', decide_eq_true hSame⟩
      rw [hMerged] at hIn
      rw [List.mem_singleton.mp hIn, hEnabled]

theorem row_of_merged (hKeys : rows.keys.Nodup) {kept : String × BlacklistEntry}
    (hKept : kept ∈ merge_duplicates entry_created rows) :
    ∃ row ∈ rows, listKey row.2 = listKey kept.2 := by
  have hIn : kept ∈ rowsOf (merge_duplicates entry_created rows) (listKey kept.2) :=
    List.mem_filter.mpr ⟨hKept, decide_eq_true rfl⟩
  rw [rowsOf_merged entry_created hKeys] at hIn
  match hGroup : groupRows entry_created rows (listKey kept.2) with
  | [] =>
    rw [hGroup] at hIn
    exact absurd hIn List.not_mem_nil
  | keeper :: more =>
    have hKeeper : keeper ∈ groupRows entry_created rows (listKey kept.2) :=
      hGroup ▸ List.mem_cons_self
    exact ⟨keeper, mem_of_mem_groupRows hKeeper, listKey_group hKeeper⟩

end Merging

/-! ## The contract -/

section Contract

variable {env : CatalogEnv} {entry_created : Dict String Nat} {rows : ListRows}

theorem exists_of_forall₂ {α β : Type} {R : α → β → Prop} {as : List α} {bs : List β}
    (h : List.Forall₂ R as bs) : (∀ a ∈ as, ∃ b ∈ bs, R a b) ∧ ∀ b ∈ bs, ∃ a ∈ as, R a b := by
  induction h with
  | nil => exact ⟨fun _ h => absurd h List.not_mem_nil, fun _ h => absurd h List.not_mem_nil⟩
  | cons hHead _ ih =>
    refine ⟨List.forall_mem_cons.mpr ⟨⟨_, List.mem_cons_self, hHead⟩, ?_⟩,
      List.forall_mem_cons.mpr ⟨⟨_, List.mem_cons_self, hHead⟩, ?_⟩⟩
    · intro a hA
      obtain ⟨b, hB, hRel⟩ := ih.1 a hA
      exact ⟨b, List.mem_cons_of_mem _ hB, hRel⟩
    · intro b hB
      obtain ⟨a, hA, hRel⟩ := ih.2 b hB
      exact ⟨a, List.mem_cons_of_mem _ hA, hRel⟩

theorem exists_mapM {α β ε : Type} {f : α → Except ε β} {items : List α}
    (h : ∀ a ∈ items, ∃ b, f a = .ok b) : ∃ out, items.mapM f = .ok out := by
  induction items with
  | nil => exact ⟨[], rfl⟩
  | cons a items ih =>
    obtain ⟨⟨b, hHead⟩, hTail⟩ := List.forall_mem_cons.mp h
    obtain ⟨out, hOut⟩ := ih hTail
    refine ⟨b :: out, ?_⟩
    rw [List.mapM_cons, hHead, hOut]
    rfl

theorem migrate_eq : migrate_list_entry_duplicates env entry_created rows =
    (rows.mapM (canonicalRow env)).map (merge_duplicates entry_created) := by
  unfold migrate_list_entry_duplicates
  cases rows.mapM (canonicalRow env) with
  | error e => rfl
  | ok rewritten => rfl

theorem merge_duplicates_self (h : (rows.map fun row => listKey row.2).Nodup) :
    merge_duplicates entry_created rows = rows := by
  have hNone : duplicateKeys rows = [] := by
    refine List.filter_eq_nil_iff.mpr ?_
    intro key _ hMany
    have hOne := List.nodup_iff_count_le_one.mp h key
    exact absurd (of_decide_eq_true hMany) (Nat.not_lt_of_le hOne)
  unfold merge_duplicates
  rw [hNone, List.foldl_nil]

theorem canonical_of_self (h : migrate_list_entry_duplicates env entry_created rows = .ok rows) :
    ∀ row ∈ rows, canonicalRow env row = .ok row := by
  obtain ⟨rewritten, hRewritten, hSame, hLost⟩ := migrate_ok h
  have hIds := keys_rewritten (mapM_ok.mp hRewritten)
  by_cases hNodup : (rewritten.map fun row => listKey row.2).Nodup
  · rw [← hSame hNodup] at hRewritten
    exact rewritten_self.mp hRewritten
  · obtain ⟨id, hIn, hOut⟩ := hLost hNodup
    exact absurd (hIds ▸ hIn) hOut

theorem rowBefore_congr {a a' b b' : String × BlacklistEntry} (hA : a.1 = a'.1) (hB : b.1 = b'.1) :
    rowBefore entry_created a b ↔ rowBefore entry_created a' b' := by
  unfold rowBefore
  dsimp only
  rw [hA, hB]

theorem rowBefore_antisymm {a b : String × BlacklistEntry} (hab : rowBefore entry_created a b)
    (hba : rowBefore entry_created b a) : a.1 = b.1 := by
  unfold rowBefore at hab hba
  dsimp only at hab hba
  rcases hab with hLt | ⟨hEq, hLe⟩
  · rcases hba with hLt' | ⟨hEq', -⟩
    · exact absurd hLt' (Nat.lt_asymm hLt)
    · exact absurd hLt (hEq' ▸ Nat.lt_irrefl _)
  · rcases hba with hLt' | ⟨-, hLe'⟩
    · exact absurd hLt' (hEq ▸ Nat.lt_irrefl _)
    · exact String.le_antisymm hLe hLe'

theorem migrate_merged {after : ListRows}
    (h : migrate_list_entry_duplicates env entry_created rows = .ok after) :
    ∃ rewritten, rows.mapM (canonicalRow env) = .ok rewritten ∧
      merge_duplicates entry_created rewritten = after := by
  rw [migrate_eq] at h
  cases hRewritten : rows.mapM (canonicalRow env) with
  | error e =>
    rw [hRewritten] at h
    cases h
  | ok rewritten =>
    rw [hRewritten] at h
    exact ⟨rewritten, rfl, Except.ok.inj h⟩

theorem mem_rewritten {rewritten : ListRows} {row row' : String × BlacklistEntry}
    (hPairs : List.Forall₂ (fun row row' => canonicalRow env row = .ok row') rows rewritten)
    (hRow : row ∈ rows) (h : canonicalRow env row = .ok row') : row' ∈ rewritten := by
  obtain ⟨_, hIn, hEq⟩ := (exists_of_forall₂ hPairs).1 row hRow
  exact Except.ok.inj (h.symm.trans hEq) ▸ hIn

theorem mergeable_of_migrated {after : ListRows} (hKeys : rows.keys.Nodup)
    (hMigrate : migrate_list_entry_duplicates env entry_created rows = .ok after)
    (hMigrated : Migrated env rows after)
    (hAgain : migrate_list_entry_duplicates env entry_created after = .ok after) :
    Mergeable env entry_created rows := by
  obtain ⟨rewritten, hRewritten, rfl⟩ := migrate_merged hMigrate
  have hPairs := mapM_ok.mp hRewritten
  obtain ⟨hInto, hFrom⟩ := exists_of_forall₂ hPairs
  have hIds : (Dict.keys rewritten).Nodup := keys_rewritten hPairs ▸ hKeys
  refine ⟨?_, ?_⟩
  · intro row hRow
    obtain ⟨row', hRow', hCanonical⟩ := hInto row hRow
    obtain ⟨-, -, -, -, kept, hKept, hKey, -⟩ :=
      merged_of_row entry_created hIds hRow'
    have hSelf := canonical_of_self hAgain kept hKept
    exact ⟨row', hCanonical, (canonical_congr hKey).mp hSelf⟩
  · rintro row hRow hEnabled oldest hOldest ⟨row', oldest', hRow', hOldest', hSame⟩ hFirst
    have hIn := mem_rewritten hPairs hRow hRow'
    have hInOldest := mem_rewritten hPairs hOldest hOldest'
    obtain ⟨kept, hKept, hOn, hKey⟩ := hMigrated.covered row hRow hEnabled row' hRow'
    obtain ⟨keeper, hKeeper, hKeeperKey, hBefore, -, -, -, hFlags⟩ :=
      merged_of_row entry_created hIds hIn
    obtain ⟨source, hSource, hSourceRow⟩ := hFrom keeper hKeeper
    -- the keeper and the oldest row come before each other
    have hTo := hFirst source hSource ⟨row', keeper, hRow', hSourceRow, hKeeperKey.symm⟩
    have hBack := (rowBefore_congr (canonicalRow_ok hSourceRow).1
      (canonicalRow_ok hOldest').1).mp (hBefore oldest' hInOldest hSame.symm)
    have hIsOldest := row_of_id hKeys hOldest hSource (rowBefore_antisymm hTo hBack)
    rw [hIsOldest, ← (canonicalRow_ok hSourceRow).2, ← hFlags kept hKept hKey]
    exact hOn

theorem migrated_of_mergeable (hKeys : rows.keys.Nodup)
    (hMergeable : Mergeable env entry_created rows) :
    ∃ after, migrate_list_entry_duplicates env entry_created rows = .ok after ∧
      Migrated env rows after ∧
      migrate_list_entry_duplicates env entry_created after = .ok after := by
  obtain ⟨rewritten, hRewritten⟩ := exists_mapM (f := canonicalRow env) fun row hRow =>
    (hMergeable.canonical row hRow).imp fun _ h => h.1
  have hPairs := mapM_ok.mp hRewritten
  obtain ⟨-, hFrom⟩ := exists_of_forall₂ hPairs
  have hIds : (Dict.keys rewritten).Nodup := keys_rewritten hPairs ▸ hKeys
  have hUnique := unique_merged entry_created hIds
  refine ⟨merge_duplicates entry_created rewritten, ?_, ⟨hUnique, ?_⟩, ?_⟩
  · rw [migrate_eq, hRewritten]
    rfl
  · intro row hRow hEnabled row' hRow'
    obtain ⟨keeper, hKeeper, hKeeperKey, hBefore, kept, hKept, hKey, hFlags⟩ :=
      merged_of_row entry_created hIds (mem_rewritten hPairs hRow hRow')
    obtain ⟨source, hSource, hSourceRow⟩ := hFrom keeper hKeeper
    refine ⟨kept, hKept, ?_, hKey⟩
    rw [hFlags kept hKept hKey, (canonicalRow_ok hSourceRow).2]
    refine hMergeable.oldest row hRow hEnabled source hSource
      ⟨row', keeper, hRow', hSourceRow, hKeeperKey.symm⟩ ?_
    rintro other hOther ⟨_, other', hSelf, hOther', hSame⟩
    obtain rfl := Except.ok.inj (hRow'.symm.trans hSelf)
    exact (rowBefore_congr (canonicalRow_ok hSourceRow).1 (canonicalRow_ok hOther').1).mp
      (hBefore other' (mem_rewritten hPairs hOther hOther') hSame.symm)
  · have hSelf : ∀ kept ∈ merge_duplicates entry_created rewritten,
        canonicalRow env kept = .ok kept := by
      intro kept hKept
      obtain ⟨row', hRow', hKey⟩ := row_of_merged hIds hKept
      obtain ⟨row, hRow, hCanonical⟩ := hFrom row' hRow'
      obtain ⟨_, hEq, hAgain⟩ := hMergeable.canonical row hRow
      obtain rfl := Except.ok.inj (hCanonical.symm.trans hEq)
      exact (canonical_congr hKey).mp hAgain
    rw [migrate_eq, rewritten_self.mpr hSelf]
    exact congrArg Except.ok (merge_duplicates_self hUnique)

theorem migrate_both_ok {whitelist_created blacklist_created : Dict String Nat}
    {lists lists' : ListRows × ListRows} :
    migrate_both env whitelist_created blacklist_created lists = .ok lists' ↔
      migrate_list_entry_duplicates env whitelist_created lists.1 = .ok lists'.1 ∧
      migrate_list_entry_duplicates env blacklist_created lists.2 = .ok lists'.2 := by
  unfold migrate_both
  cases migrate_list_entry_duplicates env whitelist_created lists.1 with
  | error e => simp [bind, Except.bind]
  | ok whitelist =>
    cases migrate_list_entry_duplicates env blacklist_created lists.2 with
    | error e => simp [bind, Except.bind]
    | ok blacklist => simp [bind, Except.bind, pure, Except.pure, Prod.ext_iff]

end Contract

/-- The migration makes the keys of both tables unique, covers every enabled row by an enabled row
and has nothing left to do just when both tables are mergeable. -/
theorem migration_keeps_iff (env : CatalogEnv)
    (whitelist_created blacklist_created : Dict String Nat) (whitelist blacklist : ListRows)
    (hWhitelist : whitelist.keys.Nodup) (hBlacklist : blacklist.keys.Nodup) :
    (∃ whitelist' blacklist',
      migrate_both env whitelist_created blacklist_created (whitelist, blacklist) =
        .ok (whitelist', blacklist') ∧
      Migrated env whitelist whitelist' ∧ Migrated env blacklist blacklist' ∧
      migrate_both env whitelist_created blacklist_created (whitelist', blacklist') =
        .ok (whitelist', blacklist')) ↔
    Mergeable env whitelist_created whitelist ∧ Mergeable env blacklist_created blacklist := by
  constructor
  · rintro ⟨whitelist', blacklist', hRun, hWhite, hBlack, hAgain⟩
    obtain ⟨hRunWhite, hRunBlack⟩ := migrate_both_ok.mp hRun
    obtain ⟨hAgainWhite, hAgainBlack⟩ := migrate_both_ok.mp hAgain
    exact ⟨mergeable_of_migrated hWhitelist hRunWhite hWhite hAgainWhite,
      mergeable_of_migrated hBlacklist hRunBlack hBlack hAgainBlack⟩
  · rintro ⟨hWhite, hBlack⟩
    obtain ⟨whitelist', hRunWhite, hWhite', hAgainWhite⟩ := migrated_of_mergeable hWhitelist hWhite
    obtain ⟨blacklist', hRunBlack, hBlack', hAgainBlack⟩ := migrated_of_mergeable hBlacklist hBlack
    exact ⟨whitelist', blacklist', migrate_both_ok.mpr ⟨hRunWhite, hRunBlack⟩, hWhite', hBlack',
      migrate_both_ok.mpr ⟨hAgainWhite, hAgainBlack⟩⟩

/-! ## An entry that is lost -/

def legacyCreated : Dict String Nat := [("ip-a", 0), ("ip-b", 300)]

def legacyRows (older newer : Bool) : ListRows :=
  [("ip-a", ⟨"ip", "exact", "10.0.0.5", "", older⟩),
    ("ip-b", ⟨"ip", "exact", "10.0.0.5", "", newer⟩)]

theorem migration_keeps_legacyRows :
    ∃ whitelist' blacklist',
      migrate_both .ascii legacyCreated [] (legacyRows true false, []) =
        .ok (whitelist', blacklist') ∧
      Migrated .ascii (legacyRows true false) whitelist' ∧ Migrated .ascii [] blacklist' ∧
      migrate_both .ascii legacyCreated [] (whitelist', blacklist') =
        .ok (whitelist', blacklist') := by
  have hKeys : (legacyRows true false).keys.Nodup := by decide
  refine (migration_keeps_iff .ascii legacyCreated [] (legacyRows true false) [] hKeys
    List.nodup_nil).mpr ⟨⟨?_, ?_⟩, ⟨nofun, nofun⟩⟩
  · intro row hRow
    rcases List.mem_pair.mp hRow with rfl | rfl
    · exact ⟨_, rfl, rfl⟩
    · exact ⟨_, rfl, rfl⟩
  · intro row hRow hEnabled oldest hOldest hSame hFirst
    have hBefore := hFirst ("ip-a", ⟨"ip", "exact", "10.0.0.5", "", true⟩) List.mem_cons_self
    rcases List.mem_pair.mp hRow with rfl | rfl
    · rcases List.mem_pair.mp hOldest with rfl | rfl
      · rfl
      · exact absurd (hBefore ⟨_, _, rfl, rfl, rfl⟩) (by decide)
    · cases hEnabled

/-- The disabled entry is the older one: the enabled one goes. -/
theorem entry_lost : ¬ ∀ (env : CatalogEnv) (whitelist_created blacklist_created : Dict String Nat)
    (whitelist blacklist : ListRows), whitelist.keys.Nodup → blacklist.keys.Nodup →
      ∃ whitelist' blacklist',
        migrate_both env whitelist_created blacklist_created (whitelist, blacklist) =
          .ok (whitelist', blacklist') ∧
        Migrated env whitelist whitelist' ∧ Migrated env blacklist blacklist' ∧
        migrate_both env whitelist_created blacklist_created (whitelist', blacklist') =
          .ok (whitelist', blacklist') := by
  intro hAll
  obtain ⟨whitelist', blacklist', hRun, hMigrated, -, -⟩ :=
    hAll .ascii legacyCreated [] (legacyRows false true) [] (by decide) List.nodup_nil
  have hLeft : migrate_list_entry_duplicates .ascii legacyCreated (legacyRows false true) =
      .ok [("ip-a", ⟨"ip", "exact", "10.0.0.5", "", false⟩)] := by
    decide +kernel
  obtain rfl := Except.ok.inj (hLeft.symm.trans (migrate_both_ok.mp hRun).1)
  obtain ⟨kept, hKept, hOn, -⟩ := hMigrated.covered
    ("ip-b", ⟨"ip", "exact", "10.0.0.5", "", true⟩) (List.mem_cons_of_mem _ List.mem_cons_self) rfl
    _ rfl
  rw [List.mem_singleton.mp hKept] at hOn
  cases hOn

end Sniff4Hound.Store
