import Mathlib.Data.Fintype.Basic
import Sniff4Hound.History.RecorderContract

/-!
# Restarting the recorder

A recorder that starts reads the table of bindings in the order of `last_seen` and row id and
lets every row tell it what it would have learned from it. That gives back what the recorder
before it remembered if every observation left its binding the last one of its address and of
its MAC in that order, and if the query does not cut rows off (`knows_run`).

* `restart_tells`: from there on it raises what the recorder before it would have raised.
-/

namespace Sniff4Hound.History

open Dict (mergeAt collect)

variable {T : Type} [LinearOrder T]

/-! ## What a table of bindings tells -/

namespace ArpMemory

structure Same (m m' : ArpMemory) : Prop where
  ip_mac : ∀ ip, m.ip_mac.lookup ip = m'.ip_mac.lookup ip
  mac_ips : ∀ mac, m.mac_ips.lookup mac = m'.mac_ips.lookup mac
  mac_last_ip : ∀ mac, m.mac_last_ip.lookup mac = m'.mac_last_ip.lookup mac

theorem Same.refl (m : ArpMemory) : Same m m := ⟨fun _ => rfl, fun _ => rfl, fun _ => rfl⟩

variable {m m' : ArpMemory}

theorem Same.symm (h : Same m m') : Same m' m :=
  ⟨fun ip => (h.ip_mac ip).symm, fun mac => (h.mac_ips mac).symm,
    fun mac => (h.mac_last_ip mac).symm⟩

theorem Same.trans {m'' : ArpMemory} (h : Same m m') (h' : Same m' m'') : Same m m'' :=
  ⟨fun ip => (h.ip_mac ip).trans (h'.ip_mac ip), fun mac => (h.mac_ips mac).trans (h'.mac_ips mac),
    fun mac => (h.mac_last_ip mac).trans (h'.mac_last_ip mac)⟩

theorem Same.learn (h : Same m m') (key : ArpKey) : Same (m.learn key) (m'.learn key) := by
  refine ⟨fun ip => ?_, fun mac => ?_, fun mac => ?_⟩
  · simp only [ArpMemory.learn, Dict.lookup_set, h.ip_mac]
  · simp only [ArpMemory.learn, Dict.lookup_set, h.mac_ips]
  · simp only [ArpMemory.learn, Dict.lookup_set, h.mac_last_ip]

omit [LinearOrder T] in
theorem Same.changes (h : Same m m') (obs : ArpObservation) (observed_at : T) :
    m.changes obs observed_at = m'.changes obs observed_at := by
  simp only [ArpMemory.changes, h.ip_mac, h.mac_ips, h.mac_last_ip]

def ofPairs (pairs : List ArpKey) : ArpMemory := pairs.foldl learn empty

theorem ofPairs_snoc (pairs : List ArpKey) (key : ArpKey) :
    ofPairs (pairs ++ [key]) = (ofPairs pairs).learn key := by
  rw [ofPairs, List.foldl_append]
  rfl

theorem lookup_last {m : List ArpKey → Dict String String} {f g : ArpKey → String} (hNil : m [] = [])
    (hSnoc : ∀ pairs key, m (pairs ++ [key]) = (m pairs).set (f key) (g key))
    (pairs : List ArpKey) (a : String) :
    (m pairs).lookup a = ((pairs.filter fun key => f key = a).getLast?).map g := by
  induction pairs using List.reverseRecOn with
  | nil =>
    rw [hNil]
    rfl
  | append_singleton pairs key ih =>
    rw [hSnoc, Dict.lookup_set, List.filter_append]
    split
    · rename_i h
      rw [List.filter_cons_of_pos (by simp [h])]
      simp
    · rename_i h
      rw [List.filter_cons_of_neg (by simpa using Ne.symm h), List.filter_nil, List.append_nil, ih]

theorem ip_mac_ofPairs (pairs : List ArpKey) (ip : String) :
    (ofPairs pairs).ip_mac.lookup ip =
      ((pairs.filter fun key => key.ip = ip).getLast?).map ArpKey.mac :=
  @lookup_last (fun pairs => (ofPairs pairs).ip_mac) ArpKey.ip ArpKey.mac rfl
    (fun pairs key => by rw [ofPairs_snoc, learn]) pairs ip

theorem mac_last_ip_ofPairs (pairs : List ArpKey) (mac : String) :
    (ofPairs pairs).mac_last_ip.lookup mac =
      ((pairs.filter fun key => key.mac = mac).getLast?).map ArpKey.ip :=
  @lookup_last (fun pairs => (ofPairs pairs).mac_last_ip) ArpKey.mac ArpKey.ip rfl
    (fun pairs key => by rw [ofPairs_snoc, learn]) pairs mac

theorem mac_ips_ofPairs (pairs : List ArpKey) (mac : String) :
    (ofPairs pairs).mac_ips.lookup mac =
      if (pairs.filter fun key => key.mac = mac) = [] then none
      else some ((pairs.filter fun key => key.mac = mac).map ArpKey.ip).toFinset := by
  induction pairs using List.reverseRecOn with
  | nil => rfl
  | append_singleton pairs key ih =>
    rw [ofPairs_snoc, learn, Dict.lookup_set, List.filter_append]
    split
    · rename_i h
      rw [List.filter_cons_of_pos (by simp [h]), List.filter_nil, ← h, ih,
        if_neg (List.append_ne_nil_of_right_ne_nil _ (List.cons_ne_nil _ _))]
      split
      · rename_i hNil
        rw [hNil]
        rfl
      · rw [List.map_append, List.toFinset_append]
        ext ip
        simp
    · rename_i h
      rw [List.filter_cons_of_neg (by simpa using Ne.symm h), List.filter_nil, List.append_nil, ih]

end ArpMemory

def known (rows : Dict ArpKey (ArpRow T)) : List ArpKey :=
  (StableOrder.orderBy (fun entry => entry.2.last_seen) rows).map Prod.fst

variable {store : HistoryStore T}

theorem arp_known_pairs_of_le {limit : Nat} (h : store.arp_bindings.rows.length ≤ limit) :
    store.arp_known_pairs limit = known store.arp_bindings.rows := by
  rw [HistoryStore.arp_known_pairs, List.take_of_length_le, known]
  rw [(StableOrder.perm_orderBy _ _).length_eq]
  exact h

theorem filter_known (p : ArpKey → Bool) (rows : Dict ArpKey (ArpRow T)) :
    (known rows).filter p = known (rows.filter fun entry => p entry.1) := by
  rw [known, List.filter_map, known, ← StableOrder.filter_orderBy]
  rfl

variable {rows : Dict ArpKey (ArpRow T)} {key : ArpKey}

theorem mem_known : key ∈ known rows ↔ key ∈ rows.keys :=
  ((StableOrder.perm_orderBy (fun entry => entry.2.last_seen) rows).map Prod.fst).mem_iff

def remembered (rows : Dict ArpKey (ArpRow T)) : ArpMemory := .ofPairs (known rows)

/-! ## One more observation -/

/-- No other binding of the address or of the MAC comes after this one in the order of
`last_seen` and row id. -/
def Latest (rows : Dict ArpKey (ArpRow T)) (key : ArpKey) : Prop :=
  ∀ e ∈ rows, e.1 = key → ∀ f ∈ rows, f ≠ e → f.1.ip = key.ip ∨ f.1.mac = key.mac →
    f.2.last_seen < e.2.last_seen ∨ f.2.last_seen = e.2.last_seen ∧ [f, e].Sublist rows

instance (rows : Dict ArpKey (ArpRow T)) (key : ArpKey) : Decidable (Latest rows key) := by
  unfold Latest
  infer_instance

theorem getLast?_known (hNodup : rows.keys.Nodup) (hKey : key ∈ rows.keys)
    (hLatest : Latest rows key) {p : ArpKey → Bool} (hp : p key = true)
    (hShare : ∀ k, p k = true → k.ip = key.ip ∨ k.mac = key.mac) :
    ((known rows).filter p).getLast? = some key := by
  obtain ⟨e, he, hEq⟩ := List.mem_map.mp hKey
  have hRows : (rows.filter fun entry => p entry.1).Nodup :=
    (List.Nodup.of_map _ hNodup).filter _
  have hMem : e ∈ rows.filter fun entry => p entry.1 :=
    List.mem_filter.mpr ⟨he, by rw [hEq]; exact hp⟩
  have hIsLast : StableOrder.IsLast (fun entry : ArpKey × ArpRow T => entry.2.last_seen)
      (rows.filter fun entry => p entry.1) e := by
    intro f hf hNe
    obtain ⟨hIn, hpf⟩ := List.mem_filter.mp hf
    rcases hLatest e he hEq f hIn hNe (hShare f.1 hpf) with hLess | ⟨hTie, hBefore⟩
    · exact Or.inl hLess
    · refine Or.inr ⟨hTie, ?_⟩
      have hFilter := hBefore.filter fun entry => p entry.1
      simpa [hpf, hEq, hp] using hFilter
  rw [filter_known, known, List.getLast?_map, StableOrder.getLast?_orderBy _ hRows hMem hIsLast,
    Option.map_some, hEq]

theorem filter_mergeAt {row : ArpRow T} {p : ArpKey → Bool} (hp : p key = false) :
    (mergeAt ArpRow.update rows key row).filter (fun entry => p entry.1) =
      rows.filter fun entry => p entry.1 := by
  induction rows with
  | nil => simp [mergeAt, hp]
  | cons entry rest ih =>
    obtain ⟨k, v⟩ := entry
    rw [mergeAt]
    split
    · rename_i h
      rw [List.filter_cons_of_neg (by simp [h, hp]), List.filter_cons_of_neg (by simp [h, hp])]
    · rw [List.filter_cons, List.filter_cons, ih]

theorem remembered_mergeAt (hNodup : rows.keys.Nodup) {row : ArpRow T}
    (hLatest : Latest (mergeAt ArpRow.update rows key row) key) :
    ArpMemory.Same (remembered (mergeAt ArpRow.update rows key row))
      ((remembered rows).learn key) := by
  have hNodup' : (mergeAt ArpRow.update rows key row).keys.Nodup :=
    Dict.nodup_keys_mergeAt hNodup key row
  have hKey : key ∈ (mergeAt ArpRow.update rows key row).keys :=
    (Dict.mem_keys_mergeAt ..).mpr (Or.inr rfl)
  have hOther {p : ArpKey → Bool} (hp : p key = false) :
      (known (mergeAt ArpRow.update rows key row)).filter p = (known rows).filter p := by
    rw [filter_known, filter_mergeAt hp, filter_known]
  refine ⟨fun ip => ?_, fun mac => ?_, fun mac => ?_⟩
  · rw [remembered, ArpMemory.ip_mac_ofPairs, ArpMemory.learn, Dict.lookup_set]
    split
    · rename_i h
      rw [getLast?_known hNodup' hKey hLatest (by simp [h])
        fun k hk => Or.inl (h ▸ of_decide_eq_true hk)]
      rfl
    · rename_i h
      rw [hOther (by simpa using Ne.symm h), remembered, ArpMemory.ip_mac_ofPairs]
  · rw [remembered, ArpMemory.mac_ips_ofPairs, ArpMemory.learn, Dict.lookup_set]
    by_cases h : mac = key.mac
    · subst h
      rw [if_pos rfl]
      have hSome : (known (mergeAt ArpRow.update rows key row)).filter
          (fun k => k.mac = key.mac) ≠ [] := by
        refine List.ne_nil_of_mem (List.mem_filter.mpr ⟨mem_known.mpr hKey, ?_⟩)
        exact decide_eq_true rfl
      rw [if_neg hSome, remembered, ArpMemory.mac_ips_ofPairs]
      congr 1
      ext ip
      have hMem (pairs : List ArpKey) : ip ∈ ((pairs.filter fun k => k.mac = key.mac).map
          ArpKey.ip).toFinset ↔ (⟨ip, key.mac⟩ : ArpKey) ∈ pairs := by
        simp only [List.mem_toFinset, List.mem_map, List.mem_filter, decide_eq_true_eq]
        constructor
        · rintro ⟨k, ⟨hIn, hMac⟩, rfl⟩
          rw [← hMac]
          exact hIn
        · intro hIn
          exact ⟨_, ⟨hIn, rfl⟩, rfl⟩
      have hOld : ip ∈ (if (known rows).filter (fun k => k.mac = key.mac) = [] then none
          else some (((known rows).filter fun k => k.mac = key.mac).map ArpKey.ip).toFinset).getD
            ∅ ↔ (⟨ip, key.mac⟩ : ArpKey) ∈ known rows := by
        rw [← hMem]
        split
        · rename_i hNil
          rw [hNil]
          simp
        · rfl
      rw [hMem, mem_known, Dict.mem_keys_mergeAt, Finset.mem_insert, hOld, mem_known, or_comm]
      refine or_congr ?_ Iff.rfl
      constructor
      · intro hEq
        exact congrArg ArpKey.ip hEq
      · rintro rfl
        rfl
    · rw [if_neg h, hOther (by simpa using Ne.symm h), remembered, ArpMemory.mac_ips_ofPairs]
  · rw [remembered, ArpMemory.mac_last_ip_ofPairs, ArpMemory.learn, Dict.lookup_set]
    split
    · rename_i h
      rw [getLast?_known hNodup' hKey hLatest (by simp [h])
        fun k hk => Or.inr (h ▸ of_decide_eq_true hk)]
      rfl
    · rename_i h
      rw [hOther (by simpa using Ne.symm h), remembered, ArpMemory.mac_last_ip_ofPairs]

/-! ## The condition -/

instance {T : Type} (s : Recorder T) (obs : ArpObservation) : Decidable (s.RoomFor obs) := by
  unfold Recorder.RoomFor
  infer_instance

/-- The bindings with one more observation, in the order of their row ids once they are all
stored. -/
def Recorder.bindingsWith (s : Recorder T) (obs : ArpObservation) (observed_at : T) :
    Dict ArpKey (ArpRow T) :=
  mergeAt ArpRow.update s.content.arp obs.key (.single obs observed_at)

/-- An ARP observation leaves its binding the last one of its address and of its MAC, with no
more bindings than the query reads; the query does not fail; and no failed batch is too long to
be kept. -/
def KeepsOrder (s : Recorder T) : Label T → Prop
  | .observe config packet _ answers =>
    match if config.arp_enabled then packet.arp else none with
    | none => True
    | some obs =>
      (s.arp_ready = false → answers = true) ∧
      (s.RoomFor obs →
        (s.bindingsWith obs packet.observed_at).length ≤ ARP_STATE_LIMIT ∧
        Latest (s.bindingsWith obs packet.observed_at) obs.key)
  | .write false =>
    match s.writing with
    | some b => b.arp.length ≤ s.max_pending * 4
    | none => True
  | _ => True

theorem keepsOrder_observe (s : Recorder T) (config : HistoryConfig) (packet : Observed T)
    (now : ℚ) (answers : Bool) :
    KeepsOrder s (.observe config packet now answers) ↔
      ∀ obs ∈ if config.arp_enabled then packet.arp else none,
        (s.arp_ready = false → answers = true) ∧
        (s.RoomFor obs →
          (s.bindingsWith obs packet.observed_at).length ≤ ARP_STATE_LIMIT ∧
          Latest (s.bindingsWith obs packet.observed_at) obs.key) := by
  rw [KeepsOrder]
  cases (if config.arp_enabled then packet.arp else none) with
  | none => exact iff_of_true trivial fun _ h => by cases h
  | some obs => exact ⟨fun h _ hObs => Option.some.inj hObs ▸ h, fun h => h obs rfl⟩

theorem keepsOrder_write (s : Recorder T) :
    KeepsOrder s (.write false) ↔ ∀ b ∈ s.writing, b.arp.length ≤ s.max_pending * 4 := by
  rw [KeepsOrder]
  cases s.writing with
  | none => exact iff_of_true trivial fun _ h => by cases h
  | some b => exact ⟨fun h _ hb => Option.some.inj hb ▸ h, fun h => h b rfl⟩

instance (s : Recorder T) : (l : Label T) → Decidable (KeepsOrder s l)
  | .observe config packet now answers =>
    decidable_of_iff' _ (keepsOrder_observe s config packet now answers)
  | .write false => decidable_of_iff' _ (keepsOrder_write s)
  | .write true | .take => isTrue trivial

/-! ## What the recorder remembers -/

structure Knows (s : Recorder T) : Prop where
  unique : s.content.arp.keys.Nodup
  limit : s.content.arp.length ≤ ARP_STATE_LIMIT
  alone : s.writing.isSome → s.retry.arp = []
  unread : s.arp_ready = false → s.memory = .empty ∧ s.outstanding.arp = []
  ready : s.arp_ready = true → ArpMemory.Same s.memory (remembered s.content.arp)

namespace Recorder

theorem content_arp (s : Recorder T) :
    s.content.arp = collect ArpRow.update s.store.arp_bindings.rows s.outstanding.arp := rfl

theorem accept_frame (s : Recorder T) (obs : ArpObservation) (observed_at : T) (now : ℚ) :
    ∃ events counters log, s.accept obs observed_at now =
      { s.counted obs observed_at with
        events := events
        counters := counters
        log := log
        mismatch_at := s.noted obs now
        memory := s.memory.learn obs.key } := by
  obtain ⟨events, counters, log, hFold⟩ :=
    foldl_event_frame (s.counted obs observed_at) (s.raised obs observed_at now)
  exact ⟨events, counters, log, by rw [accept, hFold]⟩

theorem accept_content_arp (s : Recorder T) (obs : ArpObservation) (observed_at : T) (now : ℚ) :
    (s.accept obs observed_at now).content.arp = s.bindingsWith obs observed_at := by
  obtain ⟨events, counters, log, hAccept⟩ := s.accept_frame obs observed_at now
  have hRow : (s.counted obs observed_at).arp.rows =
      mergeAt ArpRow.update s.arp.rows obs.key (.single obs observed_at) := by
    cases hLookup : s.arp.rows.lookup obs.key with
    | some row =>
      rw [counted, hLookup]
      exact s.accept_arp_content obs observed_at (Or.inl hLookup)
    | none =>
      rw [counted, hLookup]
      exact s.accept_arp_content obs observed_at (Or.inr ⟨hLookup, rfl⟩)
  rw [hAccept, bindingsWith, content_eq, content_eq]
  change collect ArpRow.update s.settled.arp (s.counted obs observed_at).arp.rows =
    mergeAt ArpRow.update (collect ArpRow.update s.settled.arp s.arp.rows) obs.key _
  rw [hRow, Dict.collect_mergeAt ArpRow.update_assoc _ s.arp.unique]

theorem write_arp (s : Recorder T) (b : Batch T) (ok : Bool) (hRetry : s.retry.arp = []) :
    ∃ store counters retry,
      s.write b ok =
        { s with store := store, counters := counters, retry := retry, writing := none } ∧
      store.arp_bindings = (if ok then b.arp.foldl merge_arp_row s.store.arp_bindings
        else s.store.arp_bindings) ∧
      retry.arp = if ok then [] else Batch.lastRows (s.max_pending * 4) b.arp := by
  unfold write
  split
  · rename_i hEmpty
    have hArp : b.arp = [] := by
      simp only [Batch.isEmpty, Bool.and_eq_true, List.isEmpty_iff] at hEmpty
      exact hEmpty.1.2
    refine ⟨s.store, s.counters, s.retry, rfl, ?_, ?_⟩
    · rw [hArp]
      exact (ite_self _).symm
    · rw [hRetry, hArp, lastRows_of_le (Nat.zero_le _)]
      exact (ite_self _).symm
  · cases ok
    · exact ⟨_, _, _, rfl, rfl, rfl⟩
    · exact ⟨_, _, _, rfl, rfl, hRetry⟩

end Recorder

theorem knows_new (max_pending : Nat) (hLimit : store.arp_bindings.rows.length ≤ ARP_STATE_LIMIT) :
    Knows (.new store max_pending) where
  unique := store.arp_bindings.unique
  limit := hLimit
  alone hSome := by cases hSome
  unread _ := ⟨rfl, rfl⟩
  ready hReady := by cases hReady

variable {s s' : Recorder T}

theorem Knows.of_same (h : Knows s) (hContent : s'.content.arp = s.content.arp)
    (hAlone : s'.writing.isSome → s'.retry.arp = []) (hReady : s'.arp_ready = s.arp_ready)
    (hMemory : s'.memory = s.memory)
    (hOutstanding : s.outstanding.arp = [] → s'.outstanding.arp = []) : Knows s' where
  unique := by rw [hContent]; exact h.unique
  limit := by rw [hContent]; exact h.limit
  alone := hAlone
  unread hUnread := by
    rw [hReady] at hUnread
    exact ⟨hMemory.trans (h.unread hUnread).1, hOutstanding (h.unread hUnread).2⟩
  ready hIsReady := by
    rw [hContent, hMemory]
    exact h.ready (hReady ▸ hIsReady)

theorem Knows.add_dns (h : Knows s) (obs : DnsObservation) (observed_at : T) :
    Knows (s.add_dns obs observed_at) := by
  rcases s.add_dns_cases obs observed_at with ⟨hDrop, -, -⟩ | ⟨-, row, hAccept⟩
  · rw [hDrop]
    exact h.of_same rfl h.alone rfl rfl id
  · rw [hAccept]
    exact h.of_same rfl h.alone rfl rfl id

theorem Knows.load (h : Knows s) {answers : Bool}
    (hAnswers : s.arp_ready = false → answers = true) :
    Knows (s.load_arp_state answers) ∧ (s.load_arp_state answers).arp_ready = true := by
  unfold Recorder.load_arp_state
  split
  · rename_i hReady
    exact ⟨h, hReady⟩
  · rename_i hReady
    have hUnread := h.unread (Bool.eq_false_iff.mpr hReady)
    have hStored : s.content.arp = s.store.arp_bindings.rows := by
      rw [Recorder.content_arp, hUnread.2]
      rfl
    have hLimit := h.limit
    rw [hStored] at hLimit
    rw [if_pos (hAnswers (Bool.eq_false_iff.mpr hReady))]
    refine ⟨⟨h.unique, h.limit, h.alone, fun hFalse => (by cases hFalse), fun _ => ?_⟩, rfl⟩
    change ArpMemory.Same ((s.store.arp_known_pairs ARP_STATE_LIMIT).foldl ArpMemory.learn s.memory)
      (remembered s.content.arp)
    rw [hUnread.1, arp_known_pairs_of_le hLimit, hStored]
    exact .refl _

theorem Knows.accept (h : Knows s) (hReady : s.arp_ready = true) {obs : ArpObservation}
    {observed_at : T} (now : ℚ) (hLimit : (s.bindingsWith obs observed_at).length ≤ ARP_STATE_LIMIT)
    (hLatest : Latest (s.bindingsWith obs observed_at) obs.key) :
    Knows (s.accept obs observed_at now) := by
  have hContent := s.accept_content_arp obs observed_at now
  obtain ⟨events, counters, log, hAccept⟩ := s.accept_frame obs observed_at now
  refine ⟨?_, ?_, ?_, fun hUnread => ?_, fun _ => ?_⟩
  · rw [hContent]
    exact Dict.nodup_keys_mergeAt h.unique ..
  · rw [hContent]
    exact hLimit
  · rw [hAccept]
    exact h.alone
  · rw [hAccept] at hUnread
    cases hReady.symm.trans hUnread
  · rw [hContent, hAccept]
    exact ((h.ready hReady).learn obs.key).trans (remembered_mergeAt h.unique hLatest).symm

theorem load_bindings (s : Recorder T) (answers : Bool) (obs : ArpObservation) (observed_at : T) :
    (s.load_arp_state answers).bindingsWith obs observed_at = s.bindingsWith obs observed_at ∧
      ((s.load_arp_state answers).RoomFor obs ↔ s.RoomFor obs) := by
  rw [s.load_frame answers]
  exact ⟨rfl, Iff.rfl⟩

theorem Knows.add_arp (h : Knows s) {obs : ArpObservation} {observed_at : T} (now : ℚ)
    {answers : Bool} (hAnswers : s.arp_ready = false → answers = true)
    (hOrder : s.RoomFor obs → (s.bindingsWith obs observed_at).length ≤ ARP_STATE_LIMIT ∧
      Latest (s.bindingsWith obs observed_at) obs.key) :
    Knows (s.add_arp obs observed_at now answers) := by
  obtain ⟨hLoad, hReady⟩ := h.load hAnswers
  obtain ⟨hBindings, hRoomIff⟩ := load_bindings s answers obs observed_at
  by_cases hRoom : (s.load_arp_state answers).RoomFor obs
  · obtain ⟨hLimit, hLatest⟩ := hOrder (hRoomIff.mp hRoom)
    rw [Recorder.add_arp_of_roomFor _ _ _ hRoom]
    refine hLoad.accept hReady now ?_ ?_
    · rw [hBindings]
      exact hLimit
    · rw [hBindings]
      exact hLatest
  · rw [Recorder.add_arp_of_full _ _ _ hRoom]
    exact hLoad.of_same rfl hLoad.alone rfl rfl id

def claimEvents {T : Type} (log : List (Entry T)) : List (ArpEvent T) :=
  log.filterMap fun
    | .event _ e => if e.kind = .mac_mismatch then none else some e
    | _ => none

theorem claimEvents_append {T : Type} (log rest : List (Entry T)) :
    claimEvents (log ++ rest) = claimEvents log ++ claimEvents rest := List.filterMap_append

theorem add_dns_all_arp (s : Recorder T) (observations : List DnsObservation) (observed_at : T) :
    ∃ dns counters log, observations.foldl (fun s obs => s.add_dns obs observed_at) s =
      { s with dns := dns, counters := counters, log := log } ∧
        claimEvents log = claimEvents s.log := by
  induction observations generalizing s with
  | nil => exact ⟨_, _, _, rfl, rfl⟩
  | cons obs rest ih =>
    obtain ⟨dns, counters, log, hRest, hLog⟩ := ih (s.add_dns obs observed_at)
    rw [List.foldl_cons, hRest]
    rcases s.add_dns_cases obs observed_at with ⟨hDrop, -, -⟩ | ⟨-, row, hAccept⟩
    · rw [hDrop] at hLog ⊢
      refine ⟨dns, counters, log, rfl, hLog.trans ?_⟩
      exact (claimEvents_append ..).trans (List.append_nil _)
    · rw [hAccept] at hLog ⊢
      refine ⟨dns, counters, log, rfl, hLog.trans ?_⟩
      exact (claimEvents_append ..).trans (List.append_nil _)

theorem Knows.add_dns_all (h : Knows s) (observations : List DnsObservation) (observed_at : T) :
    Knows (observations.foldl (fun s obs => s.add_dns obs observed_at) s) := by
  induction observations generalizing s with
  | nil => exact h
  | cons obs rest ih => exact ih (h.add_dns obs observed_at)

theorem step_knows (h : Knows s) {l : Label T} (hOrder : KeepsOrder s l)
    (hStep : step s l = some s') : Knows s' := by
  cases l with
  | observe config packet now answers =>
    cases hStep
    unfold Recorder.observe
    dsimp only
    have hDns := h.add_dns_all (if config.dns_enabled then packet.dns else []) packet.observed_at
    obtain ⟨dns, counters, log, hEq, -⟩ := add_dns_all_arp s
      (if config.dns_enabled then packet.dns else []) packet.observed_at
    rw [KeepsOrder] at hOrder
    cases hArp : (if config.arp_enabled then packet.arp else none) with
    | none => exact hDns
    | some obs =>
      rw [hArp] at hOrder
      refine hDns.add_arp now ?_ ?_
      · rw [hEq]
        exact hOrder.1
      · rw [hEq]
        exact hOrder.2
  | take =>
    rw [step] at hStep
    split at hStep
    · rename_i hNone
      cases hStep
      have hWriting := Option.isNone_iff_eq_none.mp hNone
      have hOutstanding : s.take.outstanding.arp = s.outstanding.arp := by
        simp [Recorder.outstanding, Recorder.take, hWriting, Batch.append, Batch.empty,
          Keyed.empty, Recorder.pending]
      refine h.of_same ?_ (fun _ => rfl) rfl rfl fun hNil => hOutstanding.trans hNil
      rw [Recorder.content_arp, Recorder.content_arp, hOutstanding]
      rfl
    · cases hStep
  | write ok =>
    rw [step] at hStep
    obtain ⟨b, hWriting, rfl⟩ := Option.map_eq_some_iff.mp hStep
    have hRetry : s.retry.arp = [] := h.alone (by rw [hWriting]; rfl)
    have hBefore : s.outstanding.arp = b.arp ++ s.arp.rows := by
      simp [Recorder.outstanding, hWriting, hRetry, Batch.append, Recorder.pending]
    obtain ⟨store, counters, retry, hEq, hStore, hKept⟩ := s.write_arp b ok hRetry
    have hAfter : (s.write b ok).outstanding.arp = retry.arp ++ s.arp.rows := by
      rw [hEq]
      rfl
    have hFits : ok = false → retry.arp = b.arp := by
      rintro rfl
      rw [hKept]
      simp only [KeepsOrder, hWriting] at hOrder
      exact lastRows_of_le hOrder
    refine h.of_same ?_ ?_ (by rw [hEq]) (by rw [hEq]) fun hNil => ?_
    · rw [Recorder.content_arp, Recorder.content_arp, hAfter, hBefore, hEq]
      change collect ArpRow.update store.arp_bindings.rows _ = _
      rw [hStore, Dict.collect_append, Dict.collect_append]
      cases ok with
      | true =>
        rw [if_pos rfl, hKept, if_pos rfl, foldl_merge_arp_row]
        rfl
      | false => rw [if_neg (by simp), hFits rfl]
    · rw [hEq]
      intro hSome
      cases hSome
    · rw [hBefore, List.append_eq_nil_iff] at hNil
      rw [hAfter, hNil.2, List.append_nil]
      cases ok with
      | true => rw [hKept, if_pos rfl]
      | false => rw [hFits rfl, hNil.1]

theorem knows_run {max_pending : Nat} {ls : List (Label T)}
    (hLimit : store.arp_bindings.rows.length ≤ ARP_STATE_LIMIT)
    (hRun : StepRun.run (StepRun.guarded KeepsOrder step) (.new store max_pending) ls = some s) :
    Knows s := by
  have hInv : StepRun.Invariant (StepRun.guarded KeepsOrder step) (Knows (T := T)) := by
    intro s l s' hs hStep
    obtain ⟨hOrder, hStep⟩ := StepRun.guarded_eq_some.mp hStep
    exact step_knows hs hOrder hStep
  exact hInv.run (knows_new max_pending hLimit) hRun

/-! ## The restarted recorder -/

structure Resumed (s r : Recorder T) : Prop where
  arp : s.arp = r.arp
  retry : s.retry.arp = r.retry.arp
  writing : s.writing.map Batch.arp = r.writing.map Batch.arp
  store : s.store.arp_bindings = r.store.arp_bindings
  max_pending : s.max_pending = r.max_pending
  alone : s.writing.isSome → s.retry.arp = []
  unread : s.arp_ready = false ∨ r.arp_ready = false → s.outstanding.arp = []
  recalls : ArpMemory.Same (s.load_arp_state true).memory (r.load_arp_state true).memory

theorem resumed_new (h : Knows s) (hFlushed : s.Flushed) :
    Resumed s (.new s.store s.max_pending) := by
  obtain ⟨hWriting, hRetry, hPending⟩ := hFlushed
  have hRows : s.arp.rows = [] := (Recorder.Idle.rows hPending).2.1
  have hOutstanding : s.outstanding.arp = [] := by
    simp [Recorder.outstanding, hWriting, hRetry, hPending, Batch.append, Batch.empty]
  have hStored : s.content.arp = s.store.arp_bindings.rows := by
    rw [Recorder.content_arp, hOutstanding]
    rfl
  have hLimit := h.limit
  rw [hStored] at hLimit
  refine ⟨Keyed.ext hRows, by rw [hRetry]; rfl, by rw [hWriting]; rfl, rfl, rfl, ?_,
    fun _ => hOutstanding, ?_⟩
  · rw [hWriting]
    intro hSome
    cases hSome
  · have hLoaded : ((Recorder.new s.store s.max_pending).load_arp_state true).memory =
        remembered s.store.arp_bindings.rows := by
      change (s.store.arp_known_pairs ARP_STATE_LIMIT).foldl ArpMemory.learn .empty = _
      rw [arp_known_pairs_of_le hLimit]
      rfl
    rw [hLoaded, ← hStored]
    unfold Recorder.load_arp_state
    split
    · rename_i hReady
      exact h.ready hReady
    · rename_i hReady
      have hMemory := (h.unread (Bool.eq_false_iff.mpr hReady)).1
      change ArpMemory.Same ((s.store.arp_known_pairs ARP_STATE_LIMIT).foldl ArpMemory.learn
        s.memory) _
      rw [hMemory, arp_known_pairs_of_le hLimit, hStored]
      exact .refl _

/-- The query of `arp_known_pairs` succeeds whenever the step makes it. -/
def Label.Answers {T : Type} : Label T → Prop
  | .observe _ _ _ answers => answers = true
  | .take | .write _ => True

instance {T : Type} : (l : Label T) → Decidable l.Answers
  | .observe _ _ _ answers => inferInstanceAs (Decidable (answers = true))
  | .take | .write _ => isTrue trivial

theorem claimEvents_foldl_event {T : Type} (s : Recorder T) (es : List (ArpEvent T)) :
    claimEvents (es.foldl Recorder.event s).log =
      claimEvents s.log ++ es.filter fun e => e.kind ≠ .mac_mismatch := by
  induction es generalizing s with
  | nil => exact (List.append_nil _).symm
  | cons e rest ih =>
    have hOne (accepted : Bool) : claimEvents [Entry.event accepted e] =
        [e].filter fun e => e.kind ≠ .mac_mismatch := by
      by_cases h : e.kind = .mac_mismatch
      · simp [claimEvents, h]
      · simp [claimEvents, h]
    have hEvent : claimEvents (s.event e).log =
        claimEvents s.log ++ [e].filter fun e => e.kind ≠ .mac_mismatch := by
      rw [Recorder.event]
      split
      · exact (claimEvents_append ..).trans (by rw [hOne])
      · exact (claimEvents_append ..).trans (by rw [hOne])
    rw [List.foldl_cons, ih, hEvent, List.append_assoc, ← List.filter_append, List.singleton_append]

theorem load_ready (s : Recorder T) (answers : Bool) :
    (s.load_arp_state answers).arp_ready = true := by
  rw [s.load_frame answers]

theorem load_memory_congr {t t' : Recorder T} (hReady : t'.arp_ready = t.arp_ready)
    (hMemory : t'.memory = t.memory)
    (hStore : t.arp_ready = false → t'.store.arp_bindings = t.store.arp_bindings) :
    (t'.load_arp_state true).memory = (t.load_arp_state true).memory := by
  unfold Recorder.load_arp_state
  rw [hReady]
  split
  · exact hMemory
  · rename_i hUnread
    change (t'.store.arp_known_pairs ARP_STATE_LIMIT).foldl ArpMemory.learn t'.memory =
      (t.store.arp_known_pairs ARP_STATE_LIMIT).foldl ArpMemory.learn t.memory
    rw [HistoryStore.arp_known_pairs, HistoryStore.arp_known_pairs,
      hStore (Bool.eq_false_iff.mpr hUnread), hMemory]

variable {r : Recorder T} (h : Resumed s r)

include h

theorem Resumed.recalls_of {r' : Recorder T} (hReady : s'.arp_ready = s.arp_ready)
    (hMemory : s'.memory = s.memory)
    (hStore : s.arp_ready = false → s'.store.arp_bindings = s.store.arp_bindings)
    (hReady' : r'.arp_ready = r.arp_ready) (hMemory' : r'.memory = r.memory)
    (hStore' : r.arp_ready = false → r'.store.arp_bindings = r.store.arp_bindings) :
    ArpMemory.Same (s'.load_arp_state true).memory (r'.load_arp_state true).memory := by
  rw [load_memory_congr hReady hMemory hStore, load_memory_congr hReady' hMemory' hStore']
  exact h.recalls

theorem Resumed.add_arp (obs : ArpObservation) (observed_at : T) (now : ℚ) :
    Resumed (s.add_arp obs observed_at now true) (r.add_arp obs observed_at now true) ∧
      ∃ es, claimEvents (s.add_arp obs observed_at now true).log = claimEvents s.log ++ es ∧
        claimEvents (r.add_arp obs observed_at now true).log = claimEvents r.log ++ es := by
  have hFrame := s.load_frame true
  have hFrame' := r.load_frame true
  have hRoomIff : (s.load_arp_state true).RoomFor obs ↔ (r.load_arp_state true).RoomFor obs := by
    rw [(load_bindings s true obs observed_at).2, (load_bindings r true obs observed_at).2,
      Recorder.RoomFor, Recorder.RoomFor, h.arp, h.max_pending]
  by_cases hRoom : (s.load_arp_state true).RoomFor obs
  · rw [Recorder.add_arp_of_roomFor _ _ _ hRoom, Recorder.add_arp_of_roomFor _ _ _
    (hRoomIff.mp hRoom)]
    have hLog (t : Recorder T) : claimEvents ((t.load_arp_state true).accept obs observed_at now).log
        = claimEvents t.log ++ ((t.load_arp_state true).memory.changes obs observed_at).filter
          fun e => e.kind ≠ .mac_mismatch := by
      have hCounted : claimEvents ((t.load_arp_state true).counted obs observed_at).log =
          claimEvents t.log := by
        rw [t.load_frame true]
        exact (claimEvents_append ..).trans (List.append_nil _)
      have hAccept : ((t.load_arp_state true).accept obs observed_at now).log =
          (((t.load_arp_state true).raised obs observed_at now).foldl Recorder.event
            ((t.load_arp_state true).counted obs observed_at)).log := rfl
      rw [hAccept, claimEvents_foldl_event, hCounted, Recorder.raised, List.filter_append]
      congr 1
      split <;> simp [ArpObservation.event]
    refine ⟨?_, _, hLog s, ?_⟩
    · obtain ⟨events, counters, log, hAccept⟩ :=
        (s.load_arp_state true).accept_frame obs observed_at now
      obtain ⟨events', counters', log', hAccept'⟩ :=
        (r.load_arp_state true).accept_frame obs observed_at now
      have hReady := load_ready s true
      have hReady' := load_ready r true
      have hMemory : ((s.load_arp_state true).accept obs observed_at now).load_arp_state true =
          (s.load_arp_state true).accept obs observed_at now := by
        rw [Recorder.load_arp_state, if_pos]
        rw [hAccept]
        exact hReady
      have hMemory' : ((r.load_arp_state true).accept obs observed_at now).load_arp_state true =
          (r.load_arp_state true).accept obs observed_at now := by
        rw [Recorder.load_arp_state, if_pos]
        rw [hAccept']
        exact hReady'
      refine ⟨?_, ?_, ?_, ?_, ?_, ?_, ?_, ?_⟩
      · rw [hAccept, hAccept', Recorder.counted, Recorder.counted, hFrame, hFrame']
        change s.arp.set _ (((s.arp.rows.lookup obs.key).getD _).add _ _) = _
        rw [h.arp]
      · rw [hAccept, hAccept', hFrame, hFrame']
        exact h.retry
      · rw [hAccept, hAccept', hFrame, hFrame']
        exact h.writing
      · rw [hAccept, hAccept', hFrame, hFrame']
        exact h.store
      · rw [hAccept, hAccept', hFrame, hFrame']
        exact h.max_pending
      · rw [hAccept, hFrame]
        exact h.alone
      · rw [hAccept, hAccept']
        rintro (hFalse | hFalse)
        · cases hReady.symm.trans hFalse
        · cases hReady'.symm.trans hFalse
      · rw [hMemory, hMemory', hAccept, hAccept']
        exact h.recalls.learn obs.key
    · rw [hLog r, h.recalls.changes]
  · rw [Recorder.add_arp_of_full _ _ _ hRoom,
      Recorder.add_arp_of_full _ _ _ (fun hIn => hRoom (hRoomIff.mpr hIn))]
    have hLog (t : Recorder T) :
        claimEvents ((t.load_arp_state true).drop (.arp false obs observed_at)).log =
          claimEvents t.log ++ [] := by
      rw [t.load_frame true]
      exact claimEvents_append ..
    refine ⟨⟨?_, ?_, ?_, ?_, ?_, ?_, ?_, ?_⟩, [], hLog s, hLog r⟩
    · rw [hFrame, hFrame']
      exact h.arp
    · rw [hFrame, hFrame']
      exact h.retry
    · rw [hFrame, hFrame']
      exact h.writing
    · rw [hFrame, hFrame']
      exact h.store
    · rw [hFrame, hFrame']
      exact h.max_pending
    · rw [hFrame]
      exact h.alone
    · rintro (hFalse | hFalse)
      · cases (load_ready s true).symm.trans hFalse
      · cases (load_ready r true).symm.trans hFalse
    · have hMemory (t : Recorder T) :
          (((t.load_arp_state true).drop (.arp false obs observed_at)).load_arp_state true).memory =
            (t.load_arp_state true).memory := by
        rw [Recorder.load_arp_state, if_pos (by exact load_ready t true)]
        rfl
      rw [hMemory, hMemory]
      exact h.recalls

theorem Resumed.observe (config : HistoryConfig) (packet : Observed T) (now : ℚ) :
    Resumed (s.observe config packet now true) (r.observe config packet now true) ∧
      ∃ es, claimEvents (s.observe config packet now true).log = claimEvents s.log ++ es ∧
        claimEvents (r.observe config packet now true).log = claimEvents r.log ++ es := by
  unfold Recorder.observe
  dsimp only
  obtain ⟨dns, counters, log, hEq, hLog⟩ := add_dns_all_arp s
    (if config.dns_enabled then packet.dns else []) packet.observed_at
  obtain ⟨dns', counters', log', hEq', hLog'⟩ := add_dns_all_arp r
    (if config.dns_enabled then packet.dns else []) packet.observed_at
  have hDns : Resumed { s with dns := dns, counters := counters, log := log }
      { r with dns := dns', counters := counters', log := log' } := by
    refine ⟨h.arp, h.retry, h.writing, h.store, h.max_pending, h.alone, h.unread, ?_⟩
    exact h.recalls_of rfl rfl (fun _ => rfl) rfl rfl fun _ => rfl
  rw [hEq, hEq']
  split
  · exact ⟨hDns, [], by rw [List.append_nil]; exact hLog, by rw [List.append_nil]; exact hLog'⟩
  · rename_i obs _
    obtain ⟨hArp, es, hEvents, hEvents'⟩ := hDns.add_arp obs packet.observed_at now
    exact ⟨hArp, es, hEvents.trans (by rw [hLog]), hEvents'.trans (by rw [hLog'])⟩

theorem Resumed.take (hNone : s.writing = none) : Resumed s.take r.take := by
  refine ⟨rfl, rfl, ?_, h.store, h.max_pending, fun _ => rfl, fun hUnread => ?_, ?_⟩
  · change some (s.retry.arp ++ s.arp.rows) = some (r.retry.arp ++ r.arp.rows)
    rw [h.retry, h.arp]
  · have hNil := h.unread hUnread
    simp only [Recorder.outstanding, hNone, Option.getD, Batch.append, Batch.empty,
      Recorder.pending, List.nil_append, List.append_eq_nil_iff] at hNil
    simp [Recorder.outstanding, Recorder.take, Batch.append, Batch.empty, Keyed.empty,
      Recorder.pending, hNil]
  · exact h.recalls_of rfl rfl (fun _ => rfl) rfl rfl fun _ => rfl

theorem Resumed.write {b b' : Batch T} (hWriting : s.writing = some b)
    (hWriting' : r.writing = some b') (ok : Bool) : Resumed (s.write b ok) (r.write b' ok) := by
  have hRetry : s.retry.arp = [] := h.alone (by rw [hWriting]; rfl)
  have hArp : b.arp = b'.arp := by
    have hBoth := h.writing
    rw [hWriting, hWriting'] at hBoth
    exact Option.some.inj hBoth
  obtain ⟨store, counters, retry, hEq, hStore, hKept⟩ := s.write_arp b ok hRetry
  obtain ⟨store', counters', retry', hEq', hStore', hKept'⟩ :=
    r.write_arp b' ok (h.retry.symm.trans hRetry)
  have hTables : store.arp_bindings = store'.arp_bindings := by
    rw [hStore, hStore', hArp, h.store]
  have hEmpty (hUnread : s.arp_ready = false ∨ r.arp_ready = false) :
      b.arp = [] ∧ s.arp.rows = [] := by
    have hNil := h.unread hUnread
    simp only [Recorder.outstanding, hWriting, Option.getD, Batch.append, Recorder.pending,
      List.append_eq_nil_iff] at hNil
    exact ⟨hNil.1.1, hNil.2⟩
  have hUnchanged (hUnread : s.arp_ready = false ∨ r.arp_ready = false) :
      store.arp_bindings = s.store.arp_bindings := by
    rw [hStore, (hEmpty hUnread).1]
    exact ite_self _
  rw [hEq, hEq']
  refine ⟨h.arp, ?_, rfl, hTables, h.max_pending, ?_, fun hUnread => ?_, ?_⟩
  · change retry.arp = retry'.arp
    rw [hKept, hKept', hArp, h.max_pending]
  · intro hSome
    cases hSome
  · obtain ⟨hBatch, hPending⟩ := hEmpty hUnread
    change retry.arp ++ s.arp.rows = []
    rw [hKept, hBatch, hPending, lastRows_of_le (Nat.zero_le _), ite_self]
    rfl
  · -- the table is read only while nothing of it has been written
    exact h.recalls_of rfl rfl (fun hReady => hUnchanged (Or.inl hReady)) rfl rfl fun hReady =>
      hTables.symm.trans ((hUnchanged (Or.inr hReady)).trans h.store)

theorem step_resumed {l : Label T} (hAnswers : l.Answers) (hStep : step s l = some s') :
    ∃ r', step r l = some r' ∧ Resumed s' r' ∧
      ∃ es, claimEvents s'.log = claimEvents s.log ++ es ∧
        claimEvents r'.log = claimEvents r.log ++ es := by
  cases l with
  | observe config packet now answers =>
    cases hStep
    obtain rfl : answers = true := hAnswers
    exact ⟨_, rfl, h.observe config packet now⟩
  | take =>
    rw [step] at hStep
    split at hStep
    · rename_i hNone
      cases hStep
      have hWriting := Option.isNone_iff_eq_none.mp hNone
      refine ⟨r.take, ?_, h.take hWriting, [], (List.append_nil _).symm, (List.append_nil _).symm⟩
      have hBoth := h.writing
      rw [hWriting] at hBoth
      rw [step, Option.map_eq_none_iff.mp hBoth.symm]
      rfl
    · cases hStep
  | write ok =>
    rw [step] at hStep
    obtain ⟨b, hWriting, rfl⟩ := Option.map_eq_some_iff.mp hStep
    have hBoth := h.writing
    rw [hWriting] at hBoth
    obtain ⟨b', hWriting', -⟩ := Option.map_eq_some_iff.mp hBoth.symm
    refine ⟨r.write b' ok, by rw [step, hWriting']; rfl, h.write hWriting hWriting' ok, [], ?_, ?_⟩
    · obtain ⟨_, _, _, hEq, -⟩ := write_eq s b ok
      rw [hEq]
      exact (List.append_nil _).symm
    · obtain ⟨_, _, _, hEq, -⟩ := write_eq r b' ok
      rw [hEq]
      exact (List.append_nil _).symm

theorem run_resumed {ms : List (Label T)} (hAnswers : ∀ l ∈ ms, l.Answers)
    (hRun : StepRun.run step s ms = some s') :
    ∃ r', StepRun.run step r ms = some r' ∧
      ∃ es, claimEvents s'.log = claimEvents s.log ++ es ∧
        claimEvents r'.log = claimEvents r.log ++ es := by
  induction ms generalizing s r with
  | nil =>
    cases hRun
    exact ⟨r, rfl, [], (List.append_nil _).symm, (List.append_nil _).symm⟩
  | cons l rest ih =>
    rw [StepRun.run_cons] at hRun
    obtain ⟨s₁, hStep, hRest⟩ := Option.bind_eq_some_iff.mp hRun
    obtain ⟨r₁, hStep', hResumed, es, hEvents, hEvents'⟩ :=
      step_resumed h (hAnswers l List.mem_cons_self) hStep
    obtain ⟨r', hRun', more, hMore, hMore'⟩ :=
      ih hResumed (fun m hm => hAnswers m (List.mem_cons_of_mem _ hm)) hRest
    refine ⟨r', ?_, es ++ more, ?_, ?_⟩
    · rw [StepRun.run_cons, hStep']
      exact hRun'
    · rw [hMore, hEvents, List.append_assoc]
    · rw [hMore', hEvents', List.append_assoc]

omit h

/-- A recorder restarted when everything is flushed raises, for every continuation, the events
that the one before it would have raised. -/
theorem restart_tells {store : HistoryStore T} {max_pending : Nat} {ls ms : List (Label T)}
    {s s' : Recorder T} (hLimit : store.arp_bindings.rows.length ≤ ARP_STATE_LIMIT)
    (hRun : StepRun.run (StepRun.guarded KeepsOrder step) (.new store max_pending) ls = some s)
    (hFlushed : s.Flushed) (hAnswers : ∀ l ∈ ms, l.Answers)
    (hLater : StepRun.run step s ms = some s') :
    ∃ r', run s.store s.max_pending ms = some r' ∧
      claimEvents s'.log = claimEvents s.log ++ claimEvents r'.log := by
  have hResumed := resumed_new (knows_run hLimit hRun) hFlushed
  obtain ⟨r', hRun', es, hEvents, hEvents'⟩ := run_resumed hResumed hAnswers hLater
  refine ⟨r', hRun', ?_⟩
  rw [hEvents, hEvents']
  rfl

def movingRun : List (Label Nat) :=
  [observeAt 10 [] (some (claim "10.0.0.2" "02:00:00:00:00:01")),
    observeAt 11 [] (some (claim "10.0.0.2" "02:00:00:00:00:02")),
    observeAt 12 [] (some (claim "10.0.0.2" "02:00:00:00:00:01"))] ++ flushNow

def afterMovingRun : List (Label Nat) :=
  [observeAt 13 [] (some (claim "10.0.0.2" "02:00:00:00:00:01")),
    observeAt 14 [] (some (claim "10.0.0.2" "02:00:00:00:00:03"))]

theorem restart_tells_movingRun : ∃ s s' r' : Recorder Nat,
    run emptyStore 8 movingRun = some s ∧ StepRun.run step s afterMovingRun = some s' ∧
    run s.store s.max_pending afterMovingRun = some r' ∧
    claimEvents s'.log = claimEvents s.log ++ claimEvents r'.log ∧
    (claimEvents r'.log).length = 2 := by
  have hFacts : ((StepRun.run (StepRun.guarded KeepsOrder step) (.new emptyStore 8)
      movingRun).bind fun s => (StepRun.run step s afterMovingRun).bind fun s' =>
        (run s.store s.max_pending afterMovingRun).map fun r' =>
          (claimEvents r'.log).length) = some 2 := by decide
  obtain ⟨s, hRun, hRest⟩ := Option.bind_eq_some_iff.mp hFacts
  obtain ⟨s', hLater, hRestarted⟩ := Option.bind_eq_some_iff.mp hRest
  obtain ⟨r, hRunR, hLength⟩ := Option.map_eq_some_iff.mp hRestarted
  have hFlushed : s.Flushed := by
    obtain ⟨t, -, hFlush⟩ := StepRun.run_append_eq_some.mp hRun
    exact flushed_of_flushNow hFlush
  obtain ⟨r', hRun', hTells⟩ := restart_tells (Nat.zero_le _) hRun hFlushed (by decide) hLater
  rw [hRunR] at hRun'
  cases hRun'
  exact ⟨s, s', r, StepRun.run_of_guarded hRun, hLater, hRunR, hTells, hLength⟩

/-- The same within one second: the rows tie, and the one with the larger id is the MAC that no
longer has the address. -/
def tiedRun : List (Label Nat) :=
  [observeAt 10 [] (some (claim "10.0.0.2" "02:00:00:00:00:01")),
    observeAt 10 [] (some (claim "10.0.0.2" "02:00:00:00:00:02")),
    observeAt 10 [] (some (claim "10.0.0.2" "02:00:00:00:00:01"))] ++ flushNow

/-- The recorder that goes on raises nothing, the restarted one reports that the address moved. -/
theorem restart_invents : ∃ s s' r' : Recorder Nat,
    run emptyStore 8 tiedRun = some s ∧ s.Flushed ∧
    StepRun.run step s (afterMovingRun.take 1) = some s' ∧
    run s.store s.max_pending (afterMovingRun.take 1) = some r' ∧
    claimEvents s'.log = claimEvents s.log ∧
    (claimEvents r'.log).map ArpEvent.kind = [.ip_mac_changed] := by
  have hFacts : ((StepRun.run step (.new emptyStore 8) tiedRun).bind fun s =>
      (StepRun.run step s (afterMovingRun.take 1)).bind fun s' =>
        (run s.store s.max_pending (afterMovingRun.take 1)).map fun r' =>
          (decide (claimEvents s'.log = claimEvents s.log),
            (claimEvents r'.log).map ArpEvent.kind)) = some (true, [.ip_mac_changed]) := by decide
  obtain ⟨s, hRun, hRest⟩ := Option.bind_eq_some_iff.mp hFacts
  obtain ⟨s', hLater, hRestarted⟩ := Option.bind_eq_some_iff.mp hRest
  obtain ⟨r, hRunR, hSame⟩ := Option.map_eq_some_iff.mp hRestarted
  obtain ⟨hEvents, hKinds⟩ := Prod.mk.inj hSame
  refine ⟨s, s', r, hRun, ?_, hLater, hRunR, of_decide_eq_true hEvents, hKinds⟩
  obtain ⟨t, -, hFlush⟩ := StepRun.run_append_eq_some.mp hRun
  exact flushed_of_flushNow hFlush

end Sniff4Hound.History
