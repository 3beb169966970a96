import Sniff4Hound.Detection.Anomaly
import Sniff4Hound.Capture.Segments
import Mathlib.Data.List.TakeWhile

/-!
# Runs of the anomaly engine

Frames are parsed and handed to the engine one after the other. This file holds the run and
what one step does to a detector: a flood detector that stays silent keeps every event of
the window, and a detector that counts nothing raises nothing.
-/

namespace Sniff4Hound

/-! ## The run -/

/-- A frame, when it came and the monitors then. -/
structure Observation where
  time : Ticks
  frame : Sniffer.Captured
  map : MonitorMap

/-- What the packets before leave behind. -/
structure Station where
  tls_flows : List String := []
  engine : AnomalyEngine := {}

/-- The sniffer and its settings. -/
structure Site where
  sn : Sniffer
  env : Env
  cfg : Thresholds

def Site.ascii : Site where
  sn := Sniffer.ascii
  env := Env.ascii
  cfg := {}

def observe (site : Site) (s : Station) (o : Observation) : Station × List AnomalyHit :=
  match site.sn.parse_packet s.tls_flows o.frame with
  | none => (s, [])
  | some c =>
    let (engine, hits) := s.engine.evaluate site.env site.cfg o.time c.packet o.map
    (⟨c.tls_flows, engine⟩, hits)

def observeAll (site : Site) : Station → List Observation → Station × List AnomalyHit
  | s, [] => (s, [])
  | s, o :: rest =>
    let (s, hits) := observe site s o
    let (s, more) := observeAll site s rest
    (s, hits ++ more)

theorem observeAll_cons (site : Site) (s : Station) (o : Observation) (rest : List Observation) :
    observeAll site s (o :: rest) =
      ((observeAll site (observe site s o).1 rest).1,
        (observe site s o).2 ++ (observeAll site (observe site s o).1 rest).2) := rfl

def Enabled (rt : Runtime) (id : String) (o : Observation) : Prop :=
  ∃ monitor, o.map.monitors.lookup id = some monitor ∧ monitor.enabled = true ∧
    monitor.stateful rt = true

/-- A hit of the monitor among those of a block of the run that starts at `s`. -/
def Raised (site : Site) (id : String) (s : Station) (block : List Observation) : Prop :=
  ∃ hit ∈ (observeAll site s block).2, hit.monitor_id = id

def stationAfter (site : Site) (front : List Observation) : Station :=
  (observeAll site {} front).1

def Within (window : Nat) (block : List Observation) : Prop :=
  ∃ low, ∀ o ∈ block, low ≤ o.time ∧ o.time ≤ low + seconds window

/-- A part of a run, within one window, that holds as many observations of one key as the
threshold says. -/
structure Flood {κ : Type} (rt : Runtime) (id : String) (window threshold : Nat)
    (sent : κ → Observation → Prop) (run front block : List Observation) : Prop where
  part : ∃ back, run = front ++ block ++ back
  within : Within window block
  enabled : ∀ o ∈ block, Enabled rt id o
  counted : ∃ key, ∃ group : List Observation, group.Sublist block ∧ (∀ o ∈ group, sent key o) ∧
    threshold ≤ group.length

/-- Every flood of the run is reported before its block is over. -/
def FloodsReported {κ : Type} (site : Site) (id : String) (window threshold : Nat)
    (sent : κ → Observation → Prop) (run : List Observation) : Prop :=
  ∀ front block, Flood site.env.toRuntime id window threshold sent run front block →
    Raised site id (stationAfter site front) block

theorem observeAll_append (site : Site) (front block : List Observation) :
    ∀ s, observeAll site s (front ++ block) =
      ((observeAll site (observeAll site s front).1 block).1,
        (observeAll site s front).2 ++ (observeAll site (observeAll site s front).1 block).2) := by
  induction front with
  | nil =>
    intro s
    rfl
  | cons o rest ih =>
    intro s
    rw [List.cons_append, observeAll_cons, ih, observeAll_cons, List.append_assoc]

theorem raised_cons (site : Site) (id : String) (s : Station) (o : Observation)
    (rest : List Observation) :
    Raised site id s (o :: rest) ↔ (∃ hit ∈ (observe site s o).2, hit.monitor_id = id) ∨
      Raised site id (observe site s o).1 rest := by
  rw [Raised, Raised, observeAll_cons]
  simp only [List.mem_append, or_and_right, exists_or]

theorem raised_front {site : Site} {id : String} {front block : List Observation}
    (h : Raised site id (stationAfter site front) block) : Raised site id {} (front ++ block) := by
  obtain ⟨hit, hHit, hId⟩ := h
  refine ⟨hit, ?_, hId⟩
  rw [observeAll_append]
  exact List.mem_append_right _ hHit

/-! ## Hits of one round -/

def CleanEngine (engine : AnomalyEngine) : Prop :=
  ∀ id ∈ engine.generic_candidate_ids, id ∉ FIXED_IDS

theorem genericCandidates_clean (rt : Runtime) (map : MonitorMap) :
    ∀ id ∈ genericCandidates rt map, id ∉ FIXED_IDS := by
  intro id hId
  obtain ⟨entry, hEntry, rfl⟩ := List.mem_map.mp hId
  have hKept := (List.mem_filter.mp hEntry).2
  simp only [Bool.and_eq_true, decide_eq_true_eq] at hKept
  exact hKept.1.1

theorem runFixed_id {σ : Type} {rt : Runtime} {map : MonitorMap} {id : String}
    {detector : σ → σ × Option String} {state : σ} :
    ∀ hit ∈ (runFixed rt map id detector state).2, hit.monitor_id = id := by
  intro hit hHit
  rw [runFixed] at hHit
  split at hHit
  · cases hHit
  · split at hHit
    · cases hHit
    · rw [Option.mem_toList, Option.map_eq_some_iff] at hHit
      obtain ⟨detail, -, rfl⟩ := hHit
      rfl

theorem runFixed_silent {σ : Type} (rt : Runtime) (map : MonitorMap) (id : String)
    {detector : σ → σ × Option String} {state : σ} (h : detector state = (state, none)) :
    runFixed rt map id detector state = (state, []) := by
  rw [runFixed]
  split
  · rfl
  · split
    · rfl
    · rw [h]
      rfl

theorem runGenerics_id (env : Env) (map : MonitorMap) (now : Ticks) (packet : Packet)
    (packet_text : String) (ids : List String) :
    ∀ detectors, ∀ hit ∈ (runGenerics env map now packet packet_text ids detectors).2,
      hit.monitor_id ∈ ids := by
  induction ids with
  | nil =>
    intro detectors hit hHit
    cases hHit
  | cons id rest ih =>
    intro detectors hit hHit
    rw [runGenerics] at hHit
    rcases List.mem_append.mp hHit with hHere | hLater
    · rw [runGeneric] at hHere
      split at hHere
      · cases hHere
      · split at hHere
        · cases hHere
        · rw [Option.mem_toList, Option.map_eq_some_iff] at hHere
          obtain ⟨detail, -, rfl⟩ := hHere
          exact List.mem_cons_self
    · exact List.mem_cons_of_mem _ (ih _ hit hLater)

section Evaluate

variable {env : Env} {cfg : Thresholds} {engine : AnomalyEngine} {now : Ticks}
  {packet : Packet} {map : MonitorMap}

theorem evaluate_clean (h : CleanEngine engine) :
    CleanEngine (engine.evaluate env cfg now packet map).1 := by
  have hRefreshed : ∀ e : AnomalyEngine, CleanEngine e →
      CleanEngine (e.refreshCandidates env.toRuntime map) := by
    intro e he
    rw [AnomalyEngine.refreshCandidates]
    split
    · exact he
    · exact genericCandidates_clean env.toRuntime map
  exact hRefreshed _ h

theorem evaluate_fixed (h : CleanEngine engine) {hit : AnomalyHit}
    (hHit : hit ∈ (engine.evaluate env cfg now packet map).2)
    (hId : hit.monitor_id ∈ FIXED_IDS) :
    hit ∈ (engine.evaluateFixed env.toRuntime cfg now packet map).2 := by
  rw [AnomalyEngine.evaluate] at hHit
  rcases List.mem_append.mp hHit with hFixed | hGeneric
  · exact hFixed
  · have hMem := runGenerics_id env map now packet _ _ _ hit hGeneric
    have hClean : CleanEngine ((engine.evaluateFixed env.toRuntime cfg now packet map).1.refreshCandidates
        env.toRuntime map) := by
      rw [AnomalyEngine.refreshCandidates]
      split
      · exact h
      · exact genericCandidates_clean env.toRuntime map
    exact absurd hId (hClean _ hMem)

end Evaluate

theorem observe_clean (site : Site) {s : Station} (h : CleanEngine s.engine) (o : Observation) :
    CleanEngine (observe site s o).1.engine := by
  rw [observe]
  split
  · exact h
  · exact evaluate_clean h

theorem not_raised_of_steps {site : Site} {id : String} (block : List Observation)
    (hSteps : ∀ s o, CleanEngine s.engine → o ∈ block →
      ∀ hit ∈ (observe site s o).2, hit.monitor_id ≠ id) :
    ∀ s : Station, CleanEngine s.engine → ¬ Raised site id s block := by
  induction block with
  | nil =>
    rintro s - ⟨hit, hHit, -⟩
    cases hHit
  | cons o rest ih =>
    intro s hClean hRaised
    rcases (raised_cons site id s o rest).mp hRaised with ⟨hit, hHit, hId⟩ | hLater
    · exact hSteps s o hClean List.mem_cons_self hit hHit hId
    · exact ih (fun s o hClean ho => hSteps s o hClean (List.mem_cons_of_mem _ ho)) _
        (observe_clean site hClean o) hLater

/-! ## Values that detectors compare -/

theorem eqv_str (v : Value) (name : String) : v.eqv (.str name) = true ↔ v = .str name := by
  cases v <;> simp [Value.eqv, Value.number?]
  split <;> simp_all

theorem eqv_int (i j : Int) : (Value.int i).eqv (.int j) = true ↔ i = j := by
  simp [Value.eqv, Value.number?]

theorem Packet.is_iff (packet : Packet) (key name : String) :
    packet.is key name = true ↔ packet key = .str name := eqv_str (packet key) name

theorem bareSyn_flags (flags_byte : Nat) :
    (contains (tcpFlagsText flags_byte) "SYN" && !contains (tcpFlagsText flags_byte) "ACK") =
      decide (flags_byte / 0x02 % 2 = 1 ∧ flags_byte / 0x10 % 2 = 0) := by
  have hNames : ∀ needle : String, ',' ∉ needle.toList → needle ≠ "" →
      contains "NONE" needle = false → contains (tcpFlagsText flags_byte) needle =
        TCP_FLAG_NAMES.any fun flag =>
          decide (flags_byte / flag.1 % 2 = 1) && contains flag.2 needle := by
    intro needle hComma hNeedle hNone
    have hAny : (tcpFlags flags_byte).any (fun part => contains part needle) =
        TCP_FLAG_NAMES.any fun flag =>
          decide (flags_byte / flag.1 % 2 = 1) && contains flag.2 needle := by
      rw [tcpFlags, List.any_map, List.any_filter]
      rfl
    rw [← hAny, tcpFlagsText]
    split
    · rename_i hEmpty
      rw [hEmpty, hNone]
      rfl
    · exact contains_join hComma hNeedle _
  have hSyn : (TCP_FLAG_NAMES.map fun flag => contains flag.2 "SYN") =
      [false, true, false, false, false, false, false, false] := by decide
  have hAck : (TCP_FLAG_NAMES.map fun flag => contains flag.2 "ACK") =
      [false, false, false, false, true, false, false, false] := by decide
  rw [hNames "SYN" (by decide) (by decide) (by decide),
    hNames "ACK" (by decide) (by decide) (by decide)]
  simp only [TCP_FLAG_NAMES, List.map_cons, List.map_nil, List.cons.injEq] at hSyn hAck
  rcases Nat.mod_two_eq_zero_or_one (flags_byte / 0x10) with hBit | hBit
  · simp [TCP_FLAG_NAMES, hSyn, hAck, hBit]
  · simp [TCP_FLAG_NAMES, hSyn, hAck, hBit]

/-! ## Addresses are not blank -/

theorem strip_ne_empty {s : String} {c : Char} (hMem : c ∈ s.toList) (hSpace : isSpace c = false) :
    strip s ≠ "" := by
  intro hEmpty
  have hList := congrArg String.toList hEmpty
  rw [strip, String.toList_ofList, String.toList_empty, List.reverse_eq_nil_iff,
    List.dropWhile_eq_nil_iff] at hList
  have hKept : c ∈ s.toList.dropWhile isSpace := by
    rcases List.mem_append.mp ((List.takeWhile_append_dropWhile (p := isSpace) (l := s.toList)).symm ▸ hMem)
      with hDropped | hKept
    · rw [List.mem_takeWhile_imp hDropped] at hSpace
      cases hSpace
    · exact hKept
  rw [hList c (List.mem_reverse.mpr hKept)] at hSpace
  cases hSpace

theorem mem_join (separator : String) (first second : String) (rest : List String) {c : Char}
    (h : c ∈ separator.toList) : c ∈ (join separator (first :: second :: rest)).toList := by
  rw [show join separator (first :: second :: rest) =
    first ++ separator ++ join separator (second :: rest) from rfl, String.toList_append,
    String.toList_append]
  exact List.mem_append_left _ (List.mem_append_right _ h)

theorem strip_ipv4Text {data : Bytes} (h : 2 ≤ data.length) : strip (ipv4Text data) ≠ "" := by
  match data, h with
  | a :: b :: rest, _ => exact strip_ne_empty (mem_join "." _ _ _ List.mem_cons_self) (by decide)

theorem strip_ipv6Text {data : Bytes} (h : 4 ≤ data.length) : strip (ipv6Text data) ≠ "" := by
  have hColon : (':' : Char) ∈ (ipv6Text data).toList := by
    rw [ipv6Text]
    dsimp only
    split
    · rw [String.toList_append, String.toList_append]
      exact List.mem_append_left _ (List.mem_append_right _ List.mem_cons_self)
    · match data, h with
      | a :: b :: c :: d :: rest, _ => exact mem_join ":" _ _ _ List.mem_cons_self
  exact strip_ne_empty hColon (by decide)

theorem strip_source {kind : EtherKind} {packet body : Bytes} {proto : Nat}
    (h : transport kind packet = some (proto, body)) :
    strip (kind.addresses packet).1 ≠ "" := by
  cases kind with
  | arp => cases h
  | ipv4 =>
    rw [transport] at h
    split at h
    · apply strip_ipv4Text
      rw [Bytes.slice, List.length_take, List.length_drop]
      omega
    · cases h
  | ipv6 =>
    rw [transport] at h
    split at h
    · apply strip_ipv6Text
      rw [Bytes.slice, List.length_take, List.length_drop]
      omega
    · cases h

end Sniff4Hound
