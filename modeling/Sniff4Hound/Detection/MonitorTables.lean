import Sniff4Hound.Detection.MonitorIndex

/-!
# What the tables hold

Every monitor of an indexed list is reached by exactly one kind of table: by its literals, by
its ports, or as one that is always checked. `scanned_nodup_iff` and `scanned_eq_iff` say
what follows for the scan over the candidates, whatever ids the literals and ports lead to.
-/

namespace Sniff4Hound

variable {rt : Runtime} {env : Env} {monitors : List Monitor}

/-! ## Kinds of monitors -/

def Monitor.literals (rt : Runtime) (m : Monitor) : List String :=
  m.rule.criteria.payload_contains.map rt.lower

def Monitor.byPort (m : Monitor) : Bool :=
  m.rule.criteria.payload_contains.isEmpty && port_indexable m.rule

/-- In `_always_check`. -/
def Monitor.always (m : Monitor) : Bool :=
  m.rule.criteria.payload_contains.isEmpty && !port_indexable m.rule

theorem indexMonitors_snoc (monitors : List Monitor) (m : Monitor) :
    indexMonitors rt (monitors ++ [m]) =
      (indexMonitors rt monitors).add rt monitors.length m := by
  simp [indexMonitors, List.zipIdx_append]

section Add

variable (t : Indexed) (position : Nat) (m : Monitor)

theorem Indexed.add_monitors_by_id :
    (t.add rt position m).monitors_by_id = t.monitors_by_id.set m.id m := by
  simp only [Indexed.add]
  split_ifs <;> rfl

theorem Indexed.add_monitor_positions :
    (t.add rt position m).monitor_positions = t.monitor_positions.set m.id position := by
  simp only [Indexed.add]
  split_ifs <;> rfl

theorem Indexed.add_always_check :
    (t.add rt position m).always_check =
      t.always_check ++ if m.always then [m] else [] := by
  simp only [Indexed.add, Monitor.always]
  split_ifs <;> simp_all

theorem Indexed.add_port_indexed_ids :
    (t.add rt position m).port_indexed_ids =
      t.port_indexed_ids ++ if m.byPort then [m.id] else [] := by
  simp only [Indexed.add, Monitor.byPort]
  split_ifs <;> simp_all

theorem Indexed.mem_add_port_to_ids (port : Int) (id : String) :
    id ∈ (t.add rt position m).port_to_ids.getList port ↔ id ∈ t.port_to_ids.getList port ∨
      m.byPort = true ∧ m.id = id ∧ port ∈ monitor_port_numbers m.rule := by
  simp only [Indexed.add, Monitor.byPort]
  split_ifs with hLiterals hPorts
  · rw [Dict.mem_getList_foldl_append]
    simp only [hLiterals, hPorts, List.isEmpty_nil, Bool.and_self, true_and]
    tauto
  · simp [hPorts]
  · simp [hLiterals]

theorem Indexed.add_content_to_ids :
    (t.add rt position m).content_to_ids = (m.literals rt).foldl
      (fun d content => Dict.append d content m.id) t.content_to_ids := by
  simp only [Indexed.add, Monitor.literals]
  split_ifs with hLiterals
  · simp [hLiterals]
  · simp [hLiterals]
  · rfl

end Add

/-! ## Tables of a whole list -/

theorem indexMonitors_always_check :
    (indexMonitors rt monitors).always_check = monitors.filter Monitor.always := by
  induction monitors using List.reverseRecOn with
  | nil => rfl
  | append_singleton monitors m ih =>
    rw [indexMonitors_snoc, Indexed.add_always_check, ih, List.filter_append]
    simp [List.filter_cons]

theorem indexMonitors_port_indexed_ids :
    (indexMonitors rt monitors).port_indexed_ids =
      (monitors.filter Monitor.byPort).map Monitor.id := by
  induction monitors using List.reverseRecOn with
  | nil => rfl
  | append_singleton monitors m ih =>
    rw [indexMonitors_snoc, Indexed.add_port_indexed_ids, ih, List.filter_append,
      List.map_append]
    by_cases h : m.byPort <;> simp [h]

variable {id : String}

theorem mem_port_to_ids {port : Int} :
    id ∈ (indexMonitors rt monitors).port_to_ids.getList port ↔
      ∃ m ∈ monitors, m.byPort = true ∧ m.id = id ∧ port ∈ monitor_port_numbers m.rule := by
  induction monitors using List.reverseRecOn with
  | nil => simp [indexMonitors, Dict.getList]
  | append_singleton monitors m ih =>
    rw [indexMonitors_snoc, Indexed.mem_add_port_to_ids, ih]
    simp [or_and_right, exists_or]

theorem mem_content_to_ids {content : String} :
    id ∈ (indexMonitors rt monitors).content_to_ids.getList content ↔
      ∃ m ∈ monitors, m.id = id ∧ content ∈ m.literals rt := by
  induction monitors using List.reverseRecOn with
  | nil => simp [indexMonitors, Dict.getList]
  | append_singleton monitors m ih =>
    rw [indexMonitors_snoc, Indexed.add_content_to_ids, Dict.mem_getList_foldl_append, ih]
    simp [or_and_right, exists_or]
    grind

variable {m : Monitor}

variable (hDistinct : (monitors.map Monitor.id).Nodup)

include hDistinct

theorem lookup_monitors_by_id :
    (indexMonitors rt monitors).monitors_by_id.lookup id = some m ↔
      m ∈ monitors ∧ m.id = id := by
  induction monitors using List.reverseRecOn with
  | nil => simp [indexMonitors]
  | append_singleton monitors m₀ ih =>
    rw [List.map_append, List.nodup_append] at hDistinct
    rw [indexMonitors_snoc, Indexed.add_monitors_by_id, Dict.lookup_set]
    have hNew : ∀ m' ∈ monitors, m'.id ≠ m₀.id := fun m' hm' =>
      hDistinct.2.2 _ (List.mem_map_of_mem hm') _ (by simp)
    split
    · rename_i hId
      subst hId
      simp only [Option.some.injEq, List.mem_append, List.mem_singleton]
      constructor
      · rintro rfl
        exact ⟨Or.inr rfl, rfl⟩
      · rintro ⟨hOld | rfl, hId⟩
        · exact absurd hId (hNew m hOld)
        · rfl
    · rename_i hId
      rw [ih hDistinct.1]
      simp only [List.mem_append, List.mem_singleton]
      constructor
      · rintro ⟨hOld, hId'⟩
        exact ⟨Or.inl hOld, hId'⟩
      · rintro ⟨hOld | rfl, hId'⟩
        · exact ⟨hOld, hId'⟩
        · exact absurd hId'.symm hId

theorem lookup_monitor_positions {i : Nat} (hi : i < monitors.length) :
    (indexMonitors rt monitors).monitor_positions.lookup monitors[i].id = some i := by
  induction monitors using List.reverseRecOn with
  | nil => exact absurd hi (Nat.not_lt_zero i)
  | append_singleton monitors m₀ ih =>
    rw [List.map_append, List.nodup_append] at hDistinct
    rw [indexMonitors_snoc, Indexed.add_monitor_positions, Dict.lookup_set]
    by_cases hOld : i < monitors.length
    · have hNew : monitors[i].id ≠ m₀.id :=
        hDistinct.2.2 _ (List.mem_map_of_mem (List.getElem_mem hOld)) _ (by simp)
      rw [List.getElem_append_left hOld, if_neg hNew]
      exact ih hDistinct.1 hOld
    · have hLast : i = monitors.length := by
        simp at hi
        omega
      subst hLast
      simp

theorem position_places : Narrowing.Places (indexMonitors rt monitors).position monitors := by
  refine List.pairwise_iff_getElem.mpr fun i j hi hj hij => ?_
  simp only [Tables.position, lookup_monitor_positions hDistinct hi,
    lookup_monitor_positions hDistinct hj, Option.getD_some]
  exact hij

/-! ## Candidates -/

variable {ids : List String}

theorem mem_candidatesOf :
    m ∈ candidatesOf (indexMonitors rt monitors).toTables ids ↔
      m ∈ monitors ∧ (m.always = true ∨ m.id ∈ ids) := by
  simp only [candidatesOf, indexMonitors_always_check, List.mem_append, List.mem_filter,
    List.mem_filterMap, List.mem_dedup, lookup_monitors_by_id hDistinct]
  constructor
  · rintro (⟨hm, hAlways⟩ | ⟨id, hId, hm, rfl⟩)
    · exact ⟨hm, Or.inl hAlways⟩
    · exact ⟨hm, Or.inr hId⟩
  · rintro ⟨hm, hAlways | hId⟩
    · exact Or.inl ⟨hm, hAlways⟩
    · exact Or.inr ⟨m.id, hId, hm, rfl⟩

variable (rt) in
theorem filter_candidatesOf_nodup_iff {p : Monitor → Bool} :
    ((candidatesOf (indexMonitors rt monitors).toTables ids).filter p).Nodup ↔
      ∀ m ∈ monitors, m.always = true → p m = true → m.id ∉ ids := by
  have hAlways : ((monitors.filter Monitor.always).filter p).Nodup :=
    ((List.Nodup.of_map _ hDistinct).filter _).filter _
  have hLookup : ((ids.dedup.filterMap fun id =>
      (indexMonitors rt monitors).monitors_by_id.lookup id).filter p).Nodup := by
    refine List.Nodup.filter _ (List.Nodup.filterMap ?_ (List.nodup_dedup ids))
    intro id id' m hm hm'
    rw [← (lookup_monitors_by_id hDistinct).mp hm |>.2,
      ← (lookup_monitors_by_id hDistinct).mp hm' |>.2]
  rw [candidatesOf, indexMonitors_always_check, List.filter_append, List.nodup_append]
  simp only [hAlways, hLookup, true_and]
  constructor
  · intro hApart m hm hAlways hp hId
    refine hApart m ?_ m ?_ rfl
    · exact List.mem_filter.mpr ⟨List.mem_filter.mpr ⟨hm, hAlways⟩, hp⟩
    · refine List.mem_filter.mpr ⟨List.mem_filterMap.mpr ⟨m.id, ?_, ?_⟩, hp⟩
      · exact List.mem_dedup.mpr hId
      · exact (lookup_monitors_by_id hDistinct).mpr ⟨hm, rfl⟩
  · rintro hOnce m hm m' hm' rfl
    obtain ⟨hMem, hp⟩ := List.mem_filter.mp hm
    obtain ⟨hIn, hAlways⟩ := List.mem_filter.mp hMem
    obtain ⟨hFound, -⟩ := List.mem_filter.mp hm'
    obtain ⟨id, hId, hLook⟩ := List.mem_filterMap.mp hFound
    have hSame := ((lookup_monitors_by_id hDistinct).mp hLook).2
    exact hOnce m hIn hAlways hp (hSame ▸ List.mem_dedup.mp hId)

/-! ## The scan over the candidates -/

/-- The scan of `evaluate_packet` over the ordered candidates of the ids. -/
def scanned (env : Env) (packet : Packet) (t : Tables) (ids : List String) : List Hit :=
  scan env packet (Narrowing.ordered t.position (candidatesOf t ids))

theorem map_hit_nodup_iff {part : List Monitor} (hSub : part ⊆ monitors) :
    (part.map Monitor.hit).Nodup ↔ part.Nodup := by
  refine ⟨List.Nodup.of_map _, fun h => h.map_on fun m hm m' hm' hEq => ?_⟩
  exact List.inj_on_of_nodup_map hDistinct (hSub hm) (hSub hm') (congrArg Hit.monitor_id hEq)

variable {packet : Packet}

/-- The scan over the candidates reports each monitor once, in the order of the list and only
such as the full scan reports, unless a monitor that is always checked is also looked up. -/
theorem scanned_nodup_iff :
    ((scanned env packet (indexMonitors rt monitors).toTables ids).Nodup ∧
      (scanned env packet (indexMonitors rt monitors).toTables ids).Sublist
        (scan env packet monitors)) ↔
      ∀ m ∈ monitors, m.always = true → reported env packet m = true → m.id ∉ ids := by
  have hIn : candidatesOf (indexMonitors rt monitors).toTables ids ⊆ monitors :=
    fun m hm => ((mem_candidatesOf hDistinct).mp hm).1
  have hOrdered : (Narrowing.ordered (indexMonitors rt monitors).position
      (candidatesOf (indexMonitors rt monitors).toTables ids)).filter (reported env packet) ⊆
        monitors := fun m hm =>
    hIn ((Narrowing.ordered_perm _).subset (List.mem_filter.mp hm).1)
  rw [← filter_candidatesOf_nodup_iff rt hDistinct, ← Narrowing.filter_nodup_iff,
    ← map_hit_nodup_iff hDistinct hOrdered]
  constructor
  · intro h
    exact h.1
  · intro hNodup
    refine ⟨hNodup, List.Sublist.map _ ?_⟩
    exact Narrowing.filter_sublist (position_places hDistinct) hIn
      (Narrowing.filter_nodup_iff.mp ((map_hit_nodup_iff hDistinct hOrdered).mp hNodup))

/-- It reports the same as the full scan when no monitor that the full scan reports is
missing among the candidates. -/
theorem scanned_eq_iff
    (hOnce : ∀ m ∈ monitors, m.always = true → reported env packet m = true → m.id ∉ ids) :
    scanned env packet (indexMonitors rt monitors).toTables ids = scan env packet monitors ↔
      ∀ m ∈ monitors, reported env packet m = true → m.always = true ∨ m.id ∈ ids := by
  have hIn : candidatesOf (indexMonitors rt monitors).toTables ids ⊆ monitors :=
    fun m hm => ((mem_candidatesOf hDistinct).mp hm).1
  have hNodup := (filter_candidatesOf_nodup_iff rt hDistinct).mpr hOnce
  have hPlaces : Narrowing.Places (indexMonitors rt monitors).position monitors :=
    position_places hDistinct
  have hPart := Narrowing.filter_sublist hPlaces hIn hNodup
  have hMap : scanned env packet (indexMonitors rt monitors).toTables ids =
      scan env packet monitors ↔
        (Narrowing.ordered (indexMonitors rt monitors).position
          (candidatesOf (indexMonitors rt monitors).toTables ids)).filter (reported env packet) =
          monitors.filter (reported env packet) := by
    constructor
    · intro hEq
      apply hPart.eq_of_length
      have hLen := congrArg List.length hEq
      simpa [scanned, scan] using hLen
    · intro hEq
      rw [scanned, scan, hEq, scan]
  rw [hMap, Narrowing.filter_eq_iff hPlaces hIn hNodup]
  constructor
  · intro hAll m hm hReported
    exact ((mem_candidatesOf hDistinct).mp (hAll m hm hReported)).2
  · intro hAll m hm hReported
    exact (mem_candidatesOf hDistinct).mpr ⟨hm, hAll m hm hReported⟩

omit hDistinct

/-! ## Lists with one signature -/

variable {m' : Monitor}

theorem reported_congr (h : m.signature = m'.signature) :
    reported env packet m = reported env packet m' := by
  simp only [Monitor.signature, SignatureEntry.mk.injEq] at h
  simp only [reported, h]

theorem id_congr (h : m.signature = m'.signature) : m.id = m'.id :=
  congrArg SignatureEntry.id h

theorem hit_congr (h : m.signature = m'.signature) : m.hit = m'.hit := by
  simp only [Monitor.signature, SignatureEntry.mk.injEq] at h
  simp only [Monitor.hit, h]

theorem literals_congr (h : m.signature = m'.signature) : m.literals rt = m'.literals rt := by
  simp only [Monitor.signature, SignatureEntry.mk.injEq] at h
  simp only [Monitor.literals, h]

theorem kind_congr (h : m.signature = m'.signature) :
    m.always = m'.always ∧ m.byPort = m'.byPort := by
  simp only [Monitor.signature, SignatureEntry.mk.injEq] at h
  simp only [Monitor.always, Monitor.byPort, h, and_self]

variable {monitors' : List Monitor}

variable (h : monitor_index_signature monitors = monitor_index_signature monitors')

include h

theorem exists_of_signature (hm : m ∈ monitors) :
    ∃ m' ∈ monitors', m'.signature = m.signature := by
  have hMem : m.signature ∈ monitor_index_signature monitors' :=
    h ▸ List.mem_map_of_mem hm
  exact List.mem_map.mp hMem

theorem scan_congr : scan env packet monitors = scan env packet monitors' := by
  induction monitors generalizing monitors' with
  | nil =>
    cases monitors' with
    | nil => rfl
    | cons m' rest' => cases h
  | cons m rest ih =>
    cases monitors' with
    | nil => cases h
    | cons m' rest' =>
      obtain ⟨hHead, hTail⟩ := List.cons.inj h
      have hRest := ih hTail
      simp only [scan] at hRest ⊢
      rw [List.filter_cons, List.filter_cons, reported_congr hHead]
      split
      · rw [List.map_cons, List.map_cons, hit_congr hHead, hRest]
      · exact hRest

theorem content_to_ids_congr :
    (indexMonitors rt monitors).content_to_ids =
      (indexMonitors rt monitors').content_to_ids := by
  induction monitors using List.reverseRecOn generalizing monitors' with
  | nil =>
    cases monitors' with
    | nil => rfl
    | cons m' rest' => cases h
  | append_singleton rest m ih =>
    rcases List.eq_nil_or_concat monitors' with rfl | ⟨rest', m', rfl⟩
    · simp [monitor_index_signature] at h
    · simp only [monitor_index_signature, List.concat_eq_append, List.map_append] at h
      obtain ⟨hRest, hLast⟩ := List.append_inj' h rfl
      have hSame : m.signature = m'.signature := List.cons.inj hLast |>.1
      rw [List.concat_eq_append, indexMonitors_snoc, indexMonitors_snoc,
        Indexed.add_content_to_ids, Indexed.add_content_to_ids, ih hRest, literals_congr hSame,
        id_congr hSame]

end Sniff4Hound
