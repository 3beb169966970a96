import Sniff4Hound.Detection.MonitorTables

/-!
# What the monitor index promises

Refreshes replace the tables at once and builders install the literals later, in any order.
Over every run the literals of the current list are installed when no builder is left
(`index_settles`). While they lag behind, the scan over the candidates reports a part of the
full scan, each monitor once, exactly when no monitor that is always checked is still found
by a literal (`indexed_hits_part_iff`). Once they are installed it reports the same as the
full scan, but for monitors whose port lists hold nothing but zeros (`indexed_hits_eq_iff`).
-/

namespace Sniff4Hound

variable {rt : Runtime} {env : Env} {s t : IndexState} {events : List IndexEvent}

/-! ## The invariant -/

def Installed (rt : Runtime) (s : IndexState) (monitors : List Monitor) : Prop :=
  s.content_automaton = some (automatonOf (indexMonitors rt monitors).content_to_ids) ∧
    s.content_to_ids = (indexMonitors rt monitors).content_to_ids

structure Coherent (rt : Runtime) (s : IndexState) : Prop where
  building : ∀ S, s.building_signature = some S → ∃ b ∈ s.builders, b.signature = S
  builder : ∀ b ∈ s.builders, ∃ monitors, b.signature = monitor_index_signature monitors ∧
    b.content_to_ids = (indexMonitors rt monitors).content_to_ids
  installed : ∀ monitors, s.index_signature = some (monitor_index_signature monitors) →
    (∃ b ∈ s.builders, b.signature = monitor_index_signature monitors) ∨
      Installed rt s monitors
  tables : ∀ S, s.index_signature = some S → ∃ c : Catalog,
    monitor_index_signature c.monitors = S ∧ s.toTables = (indexMonitors rt c.monitors).toTables
  ref : ∀ c, s.indexed_monitors_ref = some c →
    s.index_signature = some (monitor_index_signature c.monitors)
  automaton : ∀ a, s.content_automaton = some a → a = automatonOf s.content_to_ids
  unbuilt : s.content_automaton = none → s.content_to_ids = []

theorem coherent_init (rt : Runtime) : Coherent rt {} where
  building := nofun
  builder := nofun
  installed := nofun
  tables := nofun
  ref := nofun
  automaton := nofun
  unbuilt := fun _ => rfl

variable {monitors : List Monitor}

theorem Installed.congr {monitors' : List Monitor} (h : Installed rt s monitors)
    (hSame : monitor_index_signature monitors = monitor_index_signature monitors') :
    Installed rt s monitors' := by
  rw [Installed, ← content_to_ids_congr hSame]
  exact h

theorem Coherent.refresh (h : Coherent rt s) (c : Catalog) :
    Coherent rt (ensure_monitor_index rt s c) := by
  rw [ensure_monitor_index]
  simp only
  split
  · rename_i hSame
    exact ⟨h.building, h.builder, h.installed, h.tables,
      fun c' hc' => by cases hc'; exact hSame, h.automaton, h.unbuilt⟩
  · -- the builders still cover the signature under construction
    have hCovered : ∃ b ∈ (if s.building_signature = some (monitor_index_signature c.monitors)
        then s.builders else s.builders ++
          [⟨monitor_index_signature c.monitors, (indexMonitors rt c.monitors).content_to_ids⟩]),
        b.signature = monitor_index_signature c.monitors := by
      split
      · rename_i hBuilding
        exact h.building _ hBuilding
      · exact ⟨_, List.mem_append_right _ (List.mem_singleton_self _), rfl⟩
    refine ⟨?_, ?_, ?_, ?_, ?_, h.automaton, h.unbuilt⟩
    · rintro S hS
      cases hS
      exact hCovered
    · intro b hb
      dsimp only at hb
      split at hb
      · exact h.builder b hb
      · rcases List.mem_append.mp hb with hOld | hNew
        · exact h.builder b hOld
        · rw [List.mem_singleton.mp hNew]
          exact ⟨c.monitors, rfl, rfl⟩
    · intro monitors hMonitors
      rw [← Option.some.inj hMonitors]
      exact Or.inl hCovered
    · intro S hS
      exact ⟨c, Option.some.inj hS, rfl⟩
    · intro c' hc'
      cases hc'
      rfl

variable {i : Nat}

theorem mem_eraseIdx_of_ne {l : List Builder} {b b' : Builder} (hb : b ∈ l) (hi : l[i]? = some b')
    (hNe : b.signature ≠ b'.signature) : b ∈ l.eraseIdx i := by
  obtain ⟨j, hj, rfl⟩ := List.mem_iff_getElem.mp hb
  refine List.mem_eraseIdx_iff_getElem.mpr ⟨j, hj, ?_, rfl⟩
  rintro rfl
  rw [List.getElem?_eq_getElem hj] at hi
  cases hi
  exact hNe rfl

theorem Coherent.finish (h : Coherent rt s) (hStep : build_automaton s i = some t) :
    Coherent rt t := by
  rw [build_automaton] at hStep
  split at hStep
  · cases hStep
  · rename_i builder hBuilder
    cases hStep
    obtain ⟨monitors, hSignature, hContent⟩ := h.builder builder (List.mem_of_getElem? hBuilder)
    refine ⟨?_, ?_, ?_, h.tables, h.ref, ?_, ?_⟩
    · intro S hS
      dsimp only at hS
      split at hS
      · cases hS
      · rename_i hOther
        obtain ⟨b, hb, rfl⟩ := h.building S hS
        exact ⟨b, mem_eraseIdx_of_ne hb hBuilder fun hEq => hOther (hEq ▸ hS), rfl⟩
    · intro b hb
      exact h.builder b (List.mem_of_mem_eraseIdx hb)
    · intro monitors' hIndex
      by_cases hMine : s.index_signature = some builder.signature
      · right
        have hSame : monitor_index_signature monitors = monitor_index_signature monitors' := by
          rw [← hSignature]
          exact Option.some.inj (hMine.symm.trans hIndex)
        rw [Installed, if_pos hMine, if_pos hMine, hContent, content_to_ids_congr hSame]
        exact ⟨rfl, rfl⟩
      · rcases h.installed monitors' hIndex with ⟨b, hb, hEq⟩ | hDone
        · refine Or.inl ⟨b, mem_eraseIdx_of_ne hb hBuilder fun hSame => ?_, hEq⟩
          exact hMine (hIndex.trans (congrArg some (hEq.symm.trans hSame)))
        · right
          rw [Installed, if_neg hMine, if_neg hMine]
          exact hDone
    · intro a ha
      dsimp only at ha ⊢
      split at ha
      · rename_i hMine
        rw [if_pos hMine]
        exact (Option.some.inj ha).symm
      · rename_i hOther
        rw [if_neg hOther]
        exact h.automaton a ha
    · intro hNone
      dsimp only at hNone ⊢
      split at hNone
      · cases hNone
      · rename_i hOther
        rw [if_neg hOther]
        exact h.unbuilt hNone

theorem coherent_invariant (rt : Runtime) :
    StepRun.Invariant (indexStep rt) (Coherent rt) := by
  intro s event t hs hStep
  cases event with
  | refresh c =>
    cases hStep
    exact hs.refresh c
  | finish i => exact hs.finish hStep

theorem coherent_run (hRun : StepRun.run (indexStep rt) {} events = some s) : Coherent rt s :=
  (coherent_invariant rt).run (coherent_init rt) hRun

/-! ## Refreshes are not lost -/

theorem refresh_signature (rt : Runtime) (s : IndexState) (c : Catalog) :
    (ensure_monitor_index rt s c).index_signature =
      some (monitor_index_signature c.monitors) := by
  rw [ensure_monitor_index]
  simp only
  split
  · assumption
  · rfl

theorem finish_signature (hStep : build_automaton s i = some t) :
    t.index_signature = s.index_signature := by
  rw [build_automaton] at hStep
  split at hStep
  · cases hStep
  · cases hStep
    rfl

theorem finishes_signature {after : List IndexEvent} (hAfter : ∀ e ∈ after, ∃ i, e = .finish i)
    (hRun : StepRun.run (indexStep rt) s after = some t) :
    t.index_signature = s.index_signature := by
  induction after using List.reverseRecOn generalizing t with
  | nil =>
    cases hRun
    rfl
  | append_singleton after e ih =>
    obtain ⟨u, hu, hStep⟩ := StepRun.run_snoc_eq_some.mp hRun
    obtain ⟨i, rfl⟩ := hAfter e (by simp)
    rw [finish_signature hStep]
    exact ih (fun e he => hAfter e (List.mem_append_left _ he)) hu

theorem Coherent.installed_of_idle (h : Coherent rt s) (hIdle : s.builders = [])
    (hIndex : s.index_signature = some (monitor_index_signature monitors)) :
    Installed rt s monitors := by
  rcases h.installed monitors hIndex with ⟨b, hb, -⟩ | hDone
  · rw [hIdle] at hb
    cases hb
  · exact hDone

/-- When no builder is outstanding, the installed literals are those of the indexed list,
which is the list of the last refresh. -/
theorem index_settles (hRun : StepRun.run (indexStep rt) {} events = some s)
    (hIdle : s.builders = []) :
    (∀ monitors, s.index_signature = some (monitor_index_signature monitors) →
      Installed rt s monitors) ∧
    ∀ before c after, events = before ++ .refresh c :: after →
      (∀ e ∈ after, ∃ i, e = .finish i) → Installed rt s c.monitors := by
  have hs := coherent_run hRun
  refine ⟨fun monitors hIndex => hs.installed_of_idle hIdle hIndex, ?_⟩
  rintro before c after rfl hAfter
  obtain ⟨u, -, hRest⟩ := StepRun.run_append_eq_some.mp hRun
  rw [StepRun.run_cons] at hRest
  apply hs.installed_of_idle hIdle
  rw [finishes_signature hAfter hRest]
  exact refresh_signature rt u c

def tcpMonitor (literals : List String) (ports : List Int) : Monitor where
  id := "sample"
  name := "sample"
  description := ""
  enabled := true
  priority := 100
  mode := "rule"
  rule := .node { protocols := ["tcp"], ports := ports, payload_contains := literals } [] [] []
  action := ⟨"", "", "info"⟩

def tcpCatalog (ref : Nat) (literals : List String) (ports : List Int) : Catalog :=
  ⟨ref, [tcpMonitor literals ports], List.nodup_singleton _⟩

/-- A segment to port 80 whose summary holds the literal `select`. -/
def selectPacket : Packet := fun key =>
  if key = "proto" then .str "tcp"
  else if key = "src_port" then .int 50000
  else if key = "dst_port" then .int 80
  else if key = "summary" then .str "select"
  else .null

/-- The list is refreshed to another one and back before any builder finishes. -/
theorem index_settles_back : ∃ s, StepRun.run (indexStep Runtime.ascii) {}
      [.refresh (tcpCatalog 1 ["select"] []), .refresh (tcpCatalog 2 ["union"] []),
        .refresh (tcpCatalog 3 ["select"] []), .finish 2, .finish 0, .finish 0] = some s ∧
    Installed Runtime.ascii s (tcpCatalog 3 ["select"] []).monitors := by
  refine StepRun.exists_end rfl fun s hRun => ?_
  have hIdle : s.builders = [] := by
    cases hRun
    rfl
  refine (index_settles hRun hIdle).2 [.refresh (tcpCatalog 1 ["select"] []),
    .refresh (tcpCatalog 2 ["union"] [])] _ [.finish 2, .finish 0, .finish 0] rfl ?_
  simp

/-! ## The scan through the index -/

/-- The automaton leads to the monitor by a text that the packet contains. -/
def FoundByLiteral (s : IndexState) (packet_text : String) (m : Monitor) : Prop :=
  ∃ content, content ≠ "" ∧ contains packet_text content = true ∧
    m.id ∈ s.content_to_ids.getList content

variable {packet_text : String} {m m' : Monitor}

theorem foundByLiteral_congr (h : m.signature = m'.signature) :
    FoundByLiteral s packet_text m ↔ FoundByLiteral s packet_text m' := by
  rw [FoundByLiteral, id_congr h, FoundByLiteral]

variable {a : AhoCorasick Char}

theorem mem_contentIds (ha : a = automatonOf s.content_to_ids) :
    m.id ∈ contentIds s a packet_text ↔ FoundByLiteral s packet_text m := by
  have hKeys : ∀ content, m.id ∈ s.content_to_ids.getList content →
      content ∈ s.content_to_ids.keys := by
    intro content hMem
    rw [Dict.getList] at hMem
    cases hLook : s.content_to_ids.lookup content with
    | none => simp [hLook] at hMem
    | some ids => exact Dict.mem_keys_of_lookup hLook
  subst ha
  simp only [contentIds, List.mem_flatMap, automatonOf, AhoCorasick.mem_search, List.mem_map]
  constructor
  · rintro ⟨w, ⟨⟨content, -, rfl⟩, hNe, hIn⟩, hId⟩
    rw [String.ofList_toList] at hId
    exact ⟨content, fun h => hNe (by rw [h]; rfl), decide_eq_true hIn, hId⟩
  · rintro ⟨content, hNe, hIn, hId⟩
    refine ⟨content.toList, ⟨⟨content, hKeys content hId, rfl⟩, ?_, of_decide_eq_true hIn⟩, ?_⟩
    · intro h
      exact hNe (String.toList_eq_nil_iff.mp h)
    · rwa [String.ofList_toList]

theorem exists_byPort_of_mem_portIds {src_port dst_port : Int} {id : String}
    (h : id ∈ portIds (indexMonitors rt monitors).toTables src_port dst_port) :
    ∃ m ∈ monitors, m.byPort = true ∧ m.id = id := by
  rw [portIds] at h
  split at h
  · rcases List.mem_append.mp h with h | h
    · obtain ⟨m, hm, hPort, hId, -⟩ := mem_port_to_ids.mp h
      exact ⟨m, hm, hPort, hId⟩
    · obtain ⟨m, hm, hPort, hId, -⟩ := mem_port_to_ids.mp h
      exact ⟨m, hm, hPort, hId⟩
  · rw [indexMonitors_port_indexed_ids] at h
    obtain ⟨m, hm, hId⟩ := List.mem_map.mp h
    exact ⟨m, (List.mem_filter.mp hm).1, (List.mem_filter.mp hm).2, hId⟩

theorem Catalog.inj (c : Catalog) (hm : m ∈ c.monitors) (hm' : m' ∈ c.monitors)
    (hId : m.id = m'.id) : m = m' :=
  List.inj_on_of_nodup_map c.distinct hm hm' hId

theorem not_mem_portIds_of_always (c : Catalog) (hm : m ∈ c.monitors) (hAlways : m.always = true)
    (src_port dst_port : Int) :
    m.id ∉ portIds (indexMonitors rt c.monitors).toTables src_port dst_port := by
  intro hId
  obtain ⟨m', hm', hPort, hEq⟩ := exists_byPort_of_mem_portIds hId
  rw [c.inj hm' hm hEq, Monitor.byPort, Bool.and_eq_true] at hPort
  rw [Monitor.always, hPort.2, Bool.not_true, Bool.and_false] at hAlways
  cases hAlways

def hitIds (env : Env) (s : IndexState) (a : AhoCorasick Char) (packet : Packet) :
    List String :=
  contentIds s a (build_packet_text env packet) ++
    portIds s.toTables (packet.number env.toRuntime "src_port")
      (packet.number env.toRuntime "dst_port")

variable {c : Catalog}

theorem evaluate_unbuilt (hNone : s.content_automaton = none) (packet : Packet) :
    evaluate_packet env s packet c = scan env packet c.monitors := by
  rw [evaluate_packet, indexed_candidates, hNone]
  split <;> rfl

theorem evaluate_built (hIndexed : s.indexed_monitors_ref = some c)
    (ha : s.content_automaton = some a) (packet : Packet) :
    evaluate_packet env s packet c =
      scanned env packet s.toTables (hitIds env s a packet) := by
  rw [evaluate_packet, indexed_candidates, hIndexed, ha, if_neg (by simp)]
  rfl

theorem plainScan_eq (packet : Packet) (c : Catalog) :
    plainScan env packet c = scan env packet c.monitors := evaluate_unbuilt rfl packet

theorem scan_nodup (packet : Packet) (c : Catalog) : (scan env packet c.monitors).Nodup := by
  rw [scan, map_hit_nodup_iff c.distinct List.filter_sublist.subset]
  exact (List.Nodup.of_map _ c.distinct).filter _

/-- The hits for the indexed list are distinct and part of the full scan's, in its order,
exactly when no reported monitor that is always checked is still found by a literal. -/
theorem indexed_hits_part_iff
    (hRun : StepRun.run (indexStep env.toRuntime) {} events = some s) {c : Catalog}
    (hIndexed : s.indexed_monitors_ref = some c) (packet : Packet) :
    ((evaluate_packet env s packet c).Nodup ∧
      (evaluate_packet env s packet c).Sublist (plainScan env packet c)) ↔
      ∀ m ∈ c.monitors, m.always = true → reported env packet m = true →
        ¬ FoundByLiteral s (build_packet_text env packet) m := by
  have hs := coherent_run hRun
  cases ha : s.content_automaton with
  | none =>
    rw [evaluate_unbuilt ha, plainScan_eq]
    refine iff_of_true ⟨scan_nodup packet c, List.Sublist.refl _⟩ ?_
    rintro m - - - ⟨content, -, -, hId⟩
    rw [hs.unbuilt ha] at hId
    cases hId
  | some a =>
    obtain ⟨c', hSame, hTables⟩ := hs.tables _ (hs.ref c hIndexed)
    rw [evaluate_built hIndexed ha, plainScan_eq, ← scan_congr hSame, hTables,
      scanned_nodup_iff c'.distinct]
    have hIds : ∀ m ∈ c'.monitors, m.always = true →
        (m.id ∈ hitIds env s a packet ↔
          FoundByLiteral s (build_packet_text env packet) m) := by
      intro m hm hAlways
      rw [hitIds, List.mem_append, mem_contentIds (hs.automaton a ha), hTables]
      exact or_iff_left (not_mem_portIds_of_always c' hm hAlways _ _)
    constructor
    · intro hOnce m hm hAlways hReported hFound
      obtain ⟨m', hm', hEq⟩ := exists_of_signature hSame.symm hm
      have hAlways' : m'.always = true := (kind_congr hEq).1 ▸ hAlways
      refine hOnce m' hm' hAlways' ((reported_congr hEq).trans hReported) ?_
      exact (hIds m' hm' hAlways').mpr ((foundByLiteral_congr hEq).mpr hFound)
    · intro hOnce m hm hAlways hReported hId
      obtain ⟨m', hm', hEq⟩ := exists_of_signature hSame hm
      have hAlways' : m'.always = true := (kind_congr hEq).1 ▸ hAlways
      refine hOnce m' hm' hAlways' ((reported_congr hEq).trans hReported) ?_
      exact (foundByLiteral_congr hEq).mpr ((hIds m hm hAlways).mp hId)

/-- With the literals of the indexed list installed, the hits are part of the full scan's. -/
theorem indexed_hits_part_current : ∃ s, StepRun.run (indexStep Runtime.ascii) {}
      [.refresh (tcpCatalog 1 ["select"] []), .finish 0] = some s ∧
    (evaluate_packet Env.ascii s selectPacket (tcpCatalog 1 ["select"] [])).Nodup ∧
      (evaluate_packet Env.ascii s selectPacket (tcpCatalog 1 ["select"] [])).Sublist
        (plainScan Env.ascii selectPacket (tcpCatalog 1 ["select"] [])) := by
  refine StepRun.exists_end rfl fun s hRun => ?_
  have hIndexed : s.indexed_monitors_ref = some (tcpCatalog 1 ["select"] []) := by
    cases hRun
    rfl
  refine (@indexed_hits_part_iff Env.ascii s _ hRun _ hIndexed selectPacket).mpr ?_
  intro m hm hAlways
  rw [List.mem_singleton.mp hm] at hAlways
  cases hAlways

/-- The monitor lost its literal; until the builder of the new list is done, the old literal
still leads to it, beside the list of those that are always checked. -/
theorem indexed_hits_twice : ∃ s, StepRun.run (indexStep Runtime.ascii) {}
      [.refresh (tcpCatalog 1 ["select"] []), .finish 0, .refresh (tcpCatalog 2 [] [])] =
        some s ∧
    s.indexed_monitors_ref = some (tcpCatalog 2 [] []) ∧
    evaluate_packet Env.ascii s selectPacket (tcpCatalog 2 [] []) =
      [(tcpMonitor [] []).hit, (tcpMonitor [] []).hit] ∧
    ¬ (evaluate_packet Env.ascii s selectPacket (tcpCatalog 2 [] [])).Nodup := by
  refine StepRun.exists_end rfl fun s hRun => ?_
  have hHits : evaluate_packet Env.ascii s selectPacket (tcpCatalog 2 [] []) =
      [(tcpMonitor [] []).hit, (tcpMonitor [] []).hit] := by
    cases hRun
    decide
  refine ⟨?_, hHits, ?_⟩
  · cases hRun
    rfl
  · rw [hHits]
    decide

/-! ## The index once it is built -/

/-- A monitor that goes by ports and names none but zero. -/
def Monitor.zeroPorts (m : Monitor) : Prop :=
  m.byPort = true ∧ monitor_port_numbers m.rule = []

theorem zeroPorts_congr (h : m.signature = m'.signature) : m.zeroPorts ↔ m'.zeroPorts := by
  have hRule : m.rule = m'.rule := congrArg SignatureEntry.rule h
  rw [Monitor.zeroPorts, (kind_congr h).2, hRule, Monitor.zeroPorts]

/-- The literals of the list are not blank, as `normalize_monitor` leaves them. -/
def LiteralsNonblank (monitors : List Monitor) : Prop :=
  ∀ m ∈ monitors, ∀ content ∈ m.rule.criteria.payload_contains, strip content ≠ ""

theorem needles_eq_literals (h : LiteralsNonblank monitors) (hm : m ∈ monitors) :
    needles rt m.rule.criteria.payload_contains = m.literals rt := by
  rw [needles, nonblank, List.filter_eq_self.mpr]
  · rfl
  · intro content hContent
    exact decide_eq_true (h m hm content hContent)

theorem literal_ne_empty (h : LiteralsNonblank monitors) (hm : m ∈ monitors) {content : String}
    (hContent : content ∈ m.literals rt) : content ≠ "" := by
  obtain ⟨raw, hRaw, rfl⟩ := List.mem_map.mp hContent
  exact lower_ne_empty_of_strip (h m hm raw hRaw)

theorem foundByLiteral_iff (hInstalled : Installed rt s c.monitors)
    (hLiterals : LiteralsNonblank c.monitors) (hm : m ∈ c.monitors) :
    FoundByLiteral s packet_text m ↔
      ∃ content ∈ m.literals rt, contains packet_text content = true := by
  simp only [FoundByLiteral, hInstalled.2, mem_content_to_ids]
  constructor
  · rintro ⟨content, -, hIn, m', hm', hId, hContent⟩
    rw [c.inj hm' hm hId] at hContent
    exact ⟨content, hContent, hIn⟩
  · rintro ⟨content, hContent, hIn⟩
    exact ⟨content, literal_ne_empty hLiterals hm hContent, hIn, m, hm, rfl, hContent⟩

theorem literals_eq_nil_of_always (h : m.always = true) : m.literals rt = [] := by
  rw [Monitor.always, Bool.and_eq_true, List.isEmpty_iff] at h
  rw [Monitor.literals, h.1, List.map_nil]

theorem port_mem_of_portListsOk {c : Criteria} {all any noneOf : List Match} {h : Header}
    (hOk : portListsOk c h = true)
    (hNumbers : monitor_port_numbers (.node c all any noneOf) ≠ []) :
    h.src_port ∈ monitor_port_numbers (.node c all any noneOf) ∨
      h.dst_port ∈ monitor_port_numbers (.node c all any noneOf) := by
  have hMem : ∀ port, port ∈ monitor_port_numbers (.node c all any noneOf) ↔
      port ∈ nonzero c.ports ∨ port ∈ nonzero c.src_ports ∨ port ∈ nonzero c.dst_ports := by
    intro port
    simp only [monitor_port_numbers, Match.criteria, nonzero, List.mem_dedup, List.mem_filter,
      List.mem_append]
    tauto
  simp only [portListsOk, wants, Bool.and_eq_true, Bool.or_eq_true, List.isEmpty_iff,
    decide_eq_true_eq] at hOk
  obtain ⟨⟨hPorts, hSrc⟩, hDst⟩ := hOk
  obtain ⟨port, hPort⟩ := List.exists_mem_of_ne_nil _ hNumbers
  rw [hMem, hMem]
  rw [hMem] at hPort
  rcases hPort with hPort | hPort | hPort
  · rcases hPorts with (hNil | hIn) | hIn
    · rw [hNil] at hPort
      cases hPort
    · exact Or.inl (Or.inl hIn)
    · exact Or.inr (Or.inl hIn)
  · rcases hSrc with hNil | hIn
    · rw [hNil] at hPort
      cases hPort
    · exact Or.inl (Or.inr (Or.inl hIn))
  · rcases hDst with hNil | hIn
    · rw [hNil] at hPort
      cases hPort
    · exact Or.inr (Or.inr (Or.inr hIn))

theorem mem_portIds_iff (c : Catalog) (hm : m ∈ c.monitors) (hPort : m.byPort = true)
    (src_port dst_port : Int) :
    m.id ∈ portIds (indexMonitors rt c.monitors).toTables src_port dst_port ↔
      (src_port = 0 ∧ dst_port = 0) ∨ src_port ∈ monitor_port_numbers m.rule ∨
        dst_port ∈ monitor_port_numbers m.rule := by
  have hBucket : ∀ port, m.id ∈ (indexMonitors rt c.monitors).port_to_ids.getList port ↔
      port ∈ monitor_port_numbers m.rule := by
    intro port
    rw [mem_port_to_ids]
    constructor
    · rintro ⟨m', hm', -, hId, hIn⟩
      rwa [c.inj hm' hm hId] at hIn
    · intro hIn
      exact ⟨m, hm, hPort, rfl, hIn⟩
  rw [portIds]
  split
  · rename_i hPorts
    rw [List.mem_append, hBucket, hBucket]
    constructor
    · exact Or.inr
    · rintro (⟨hSrc, hDst⟩ | hIn)
      · exact absurd hDst (hPorts.resolve_left fun h => h hSrc)
      · exact hIn
  · rename_i hNone
    rw [indexMonitors_port_indexed_ids]
    refine iff_of_true (List.mem_map_of_mem (List.mem_filter.mpr ⟨hm, hPort⟩)) (Or.inl ?_)
    constructor
    · by_contra h
      exact hNone (Or.inl h)
    · by_contra h
      exact hNone (Or.inr h)

theorem reported_byPort_iff (c : Catalog) (hm : m ∈ c.monitors) (hPort : m.byPort = true)
    {packet : Packet} (hReported : reported env packet m = true) :
    m.id ∈ portIds (indexMonitors env.toRuntime c.monitors).toTables
        (packet.number env.toRuntime "src_port") (packet.number env.toRuntime "dst_port") ↔
      (packet.number env.toRuntime "src_port" = 0 ∧
        packet.number env.toRuntime "dst_port" = 0) ∨ ¬ m.zeroPorts := by
  rw [mem_portIds_iff c hm hPort]
  refine or_congr_right ?_
  constructor
  · rintro (hIn | hIn) ⟨-, hNil⟩
    · rw [hNil] at hIn
      cases hIn
    · rw [hNil] at hIn
      cases hIn
  · intro hNumbers
    have hNe : monitor_port_numbers m.rule ≠ [] := fun hNil => hNumbers ⟨hPort, hNil⟩
    have hOk := match_accepts_ports (reported_accepts hReported)
    cases hRule : m.rule with
    | node criteria all any noneOf =>
      rw [hRule] at hOk hNe
      exact port_mem_of_portListsOk hOk hNe

theorem Installed.automaton_eq (h : Installed rt s monitors) :
    ∃ a, s.content_automaton = some a := ⟨_, h.1⟩

theorem reported_reached_iff (hInstalled : Installed env.toRuntime s c.monitors)
    (hTables : s.toTables = (indexMonitors env.toRuntime c.monitors).toTables)
    (hLiterals : LiteralsNonblank c.monitors) (ha : a = automatonOf s.content_to_ids)
    (hm : m ∈ c.monitors) {packet : Packet} (hReported : reported env packet m = true) :
    (m.always = true ∨ m.id ∈ hitIds env s a packet) ↔
      (packet.number env.toRuntime "src_port" = 0 ∧
        packet.number env.toRuntime "dst_port" = 0) ∨ ¬ m.zeroPorts := by
  rw [hitIds, List.mem_append, mem_contentIds ha, hTables]
  by_cases hContains : m.rule.criteria.payload_contains = []
  · have hNotFound : ¬ FoundByLiteral s (build_packet_text env packet) m := by
      rw [foundByLiteral_iff hInstalled hLiterals hm]
      simp [Monitor.literals, hContains]
    cases hPort : port_indexable m.rule with
    | true =>
      have hByPort : m.byPort = true := by simp [Monitor.byPort, hContains, hPort]
      have hAlways : m.always = false := by simp [Monitor.always, hPort]
      rw [hAlways, reported_byPort_iff c hm hByPort hReported]
      simp [hNotFound]
    | false =>
      have hAlways : m.always = true := by simp [Monitor.always, hContains, hPort]
      have hByPort : ¬ m.zeroPorts := by simp [Monitor.zeroPorts, Monitor.byPort, hPort]
      exact iff_of_true (Or.inl hAlways) (Or.inr hByPort)
  · -- a literal of the monitor occurs in the text, or it would not be reported
    have hNeedles : needles env.toRuntime m.rule.criteria.payload_contains =
        m.literals env.toRuntime := needles_eq_literals hLiterals hm
    have hNe : needles env.toRuntime m.rule.criteria.payload_contains ≠ [] := by
      rw [hNeedles]
      simpa [Monitor.literals] using hContains
    obtain ⟨content, hContent, hIn⟩ := match_accepts_needle (reported_accepts hReported) hNe
    rw [hNeedles] at hContent
    have hFound := (foundByLiteral_iff hInstalled hLiterals hm).mpr ⟨content, hContent, hIn⟩
    have hByPort : ¬ m.zeroPorts := by simp [Monitor.zeroPorts, Monitor.byPort, hContains]
    exact iff_of_true (Or.inr (Or.inl hFound)) (Or.inr hByPort)

/-- The hits through the index are those of the full scan exactly when the packet has no
port, or no monitor whose port lists are all zero is reported on it. -/
theorem indexed_hits_eq_iff
    (hRun : StepRun.run (indexStep env.toRuntime) {} events = some s) {c : Catalog}
    (hIndexed : s.indexed_monitors_ref = some c)
    (hInstalled : Installed env.toRuntime s c.monitors)
    (hNormalized : ∀ m ∈ c.monitors, Normalized env m) (packet : Packet) :
    evaluate_packet env s packet c = plainScan env packet c ↔
      (packet.number env.toRuntime "src_port" = 0 ∧
        packet.number env.toRuntime "dst_port" = 0) ∨
      ∀ m ∈ c.monitors, m.zeroPorts → reported env packet m = false := by
  have hs := coherent_run hRun
  obtain ⟨a, ha⟩ := hInstalled.automaton_eq
  obtain ⟨c', hSame, hTables⟩ := hs.tables _ (hs.ref c hIndexed)
  have hInstalled' := hInstalled.congr hSame.symm
  have hLiterals : LiteralsNonblank c'.monitors := by
    intro m hm content hContent
    obtain ⟨m', hm', hEq⟩ := exists_of_signature hSame hm
    have hRule : m'.rule = m.rule := congrArg SignatureEntry.rule hEq
    exact (hNormalized m' hm').literal_nonblank content (hRule ▸ hContent)
  have hOnce : ∀ m ∈ c'.monitors, m.always = true → reported env packet m = true →
      m.id ∉ hitIds env s a packet := by
    intro m hm hAlways _ hId
    rw [hitIds, List.mem_append, mem_contentIds (hs.automaton a ha), hTables] at hId
    rcases hId with hFound | hPort
    · rw [foundByLiteral_iff hInstalled' hLiterals hm,
        literals_eq_nil_of_always hAlways] at hFound
      obtain ⟨content, hContent, -⟩ := hFound
      cases hContent
    · exact not_mem_portIds_of_always c' hm hAlways _ _ hPort
  rw [evaluate_built hIndexed ha, plainScan_eq, ← scan_congr hSame, hTables,
    scanned_eq_iff c'.distinct hOnce]
  have hReach : (∀ m ∈ c'.monitors, reported env packet m = true →
      m.always = true ∨ m.id ∈ hitIds env s a packet) ↔
      ∀ m ∈ c'.monitors, reported env packet m = true →
        (packet.number env.toRuntime "src_port" = 0 ∧
          packet.number env.toRuntime "dst_port" = 0) ∨ ¬ m.zeroPorts :=
    forall₂_congr fun m hm => imp_congr_right fun hReported =>
      reported_reached_iff hInstalled' hTables hLiterals (hs.automaton a ha) hm hReported
  rw [hReach]
  constructor
  · intro hAll
    by_cases hZero : packet.number env.toRuntime "src_port" = 0 ∧
        packet.number env.toRuntime "dst_port" = 0
    · exact Or.inl hZero
    · refine Or.inr fun m hm hPorts => ?_
      obtain ⟨m', hm', hEq⟩ := exists_of_signature hSame.symm hm
      rw [← reported_congr hEq]
      by_contra hReported
      rcases hAll m' hm' (Bool.eq_true_of_not_eq_false hReported) with hBoth | hOther
      · exact hZero hBoth
      · exact hOther ((zeroPorts_congr hEq).mpr hPorts)
  · rintro (hZero | hNone) m hm hReported
    · exact Or.inl hZero
    · right
      intro hPorts
      obtain ⟨m', hm', hEq⟩ := exists_of_signature hSame hm
      have hSilent := hNone m' hm' ((zeroPorts_congr hEq).mpr hPorts)
      rw [reported_congr hEq, hReported] at hSilent
      cases hSilent

/-- `tcpMonitor` is what `normalize_monitor` makes of this. -/
def tcpData (ports : List Int) : List (String × Value) :=
  [("id", .str "sample"), ("match", .dict [("protocols", .list [.str "tcp"]),
    ("ports", .list (ports.map Value.int))])]

/-- A monitor for port 80 is found through the index. -/
theorem indexed_hits_eq_port : ∃ s, StepRun.run (indexStep Runtime.ascii) {}
      [.refresh (tcpCatalog 1 [] [80]), .finish 0] = some s ∧
    evaluate_packet Env.ascii s selectPacket (tcpCatalog 1 [] [80]) =
      plainScan Env.ascii selectPacket (tcpCatalog 1 [] [80]) := by
  refine StepRun.exists_end rfl fun s hRun => ?_
  have hIndexed : s.indexed_monitors_ref = some (tcpCatalog 1 [] [80]) := by
    cases hRun
    rfl
  have hInstalled : Installed Runtime.ascii s (tcpCatalog 1 [] [80]).monitors := by
    apply (coherent_run hRun).installed_of_idle
    · cases hRun
      rfl
    · cases hRun
      rfl
  refine (@indexed_hits_eq_iff Env.ascii s _ hRun _ hIndexed hInstalled ?_ selectPacket).mpr
    (Or.inr ?_)
  · intro m hm
    rw [List.mem_singleton.mp hm]
    exact ⟨tcpData [80], false, true, rfl⟩
  · rintro m hm ⟨-, hNone⟩
    rw [List.mem_singleton.mp hm] at hNone
    exact absurd hNone (by decide)

/-- A monitor whose only port is zero is found by the full scan and missed by the index. -/
theorem indexed_hits_missed : ∃ s, StepRun.run (indexStep Runtime.ascii) {}
      [.refresh (tcpCatalog 1 [] [0]), .finish 0] = some s ∧
    s.builders = [] ∧ s.indexed_monitors_ref = some (tcpCatalog 1 [] [0]) ∧
    (∀ m ∈ (tcpCatalog 1 [] [0]).monitors, Normalized Env.ascii m) ∧
    evaluate_packet Env.ascii s selectPacket (tcpCatalog 1 [] [0]) = [] ∧
    plainScan Env.ascii selectPacket (tcpCatalog 1 [] [0]) = [(tcpMonitor [] [0]).hit] := by
  refine StepRun.exists_end rfl fun s hRun => ⟨?_, ?_, ?_, ?_, by decide⟩
  · cases hRun
    rfl
  · cases hRun
    rfl
  · intro m hm
    rw [List.mem_singleton.mp hm]
    exact ⟨tcpData [0], false, true, rfl⟩
  · cases hRun
    decide

end Sniff4Hound
