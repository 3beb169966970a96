import Sniff4Hound.Detection.AnomalyRuns

/-!
# Detectors against the parser

The built-in detectors compare `proto` with the name of a transport, while the parser puts
the name of the application there. A flood of SYN segments is raised when the parser leaves
enough of them unnamed; the login ports are all named, datagrams to port 53 are called
`dns`, and the DHCP message type is written as a text, so that the other three detectors
count nothing of the traffic they are made for.

* `floods_reported`, `query_floods_reported_iff`, `rogue_servers_reported_iff`: what is raised
  of each kind.
-/

namespace Sniff4Hound

/-! ## One step of a flood detector -/

section Flood

variable {rt : Runtime} {what : String} {window threshold : Nat} {now : Ticks}
  {packet : Packet} {events : Events}

theorem floodEvaluate_rejected :
    floodEvaluate rt false what window threshold now packet events = (events, none) := by
  simp [floodEvaluate]

theorem floodEvaluate_keeps {admitted : Bool} {low : Ticks} (hWindow : now - seconds window ≤ low)
    (hNow : low ≤ now)
    (hSilent : (floodEvaluate rt admitted what window threshold now packet events).2 = none)
    (key : String) :
    SlidingWindow.recent low (events.getList key) ≤ SlidingWindow.recent low
      ((floodEvaluate rt admitted what window threshold now packet events).1.getList key) := by
  rw [floodEvaluate] at hSilent ⊢
  dsimp only at hSilent ⊢
  split
  · exact le_rfl
  · rename_i hCounted
    rw [if_neg hCounted] at hSilent
    have hQuiet : (SlidingWindow.record (seconds window) threshold
        (events.getList (packet.stripped rt "src_ip")) now).2 = false := by
      rw [Events.record] at hSilent
      simpa using hSilent
    have hRecent := SlidingWindow.recent_record hWindow hNow _ hQuiet
    rw [Events.record, Dict.getList_set]
    split
    · rename_i hKey
      rw [hKey, hRecent.1]
      exact Nat.le_succ _
    · exact le_rfl

theorem floodEvaluate_counts {low : Ticks} (hWindow : now - seconds window ≤ low)
    (hNow : low ≤ now) {key : String} (hKey : packet.stripped rt "src_ip" = key)
    (hBlank : key ≠ "")
    (hSilent : (floodEvaluate rt true what window threshold now packet events).2 = none) :
    SlidingWindow.recent low (events.getList key) + 1 = SlidingWindow.recent low
        ((floodEvaluate rt true what window threshold now packet events).1.getList key) ∧
      ((floodEvaluate rt true what window threshold now packet events).1.getList key).length <
        threshold := by
  rw [floodEvaluate] at hSilent ⊢
  rw [hKey] at hSilent ⊢
  have hCounted : ¬ ((!true || decide (key = "")) = true) := by simpa using hBlank
  dsimp only at hSilent ⊢
  rw [if_neg hCounted] at hSilent ⊢
  have hQuiet : (SlidingWindow.record (seconds window) threshold (events.getList key) now).2 =
      false := by
    rw [Events.record] at hSilent
    simpa using hSilent
  have hRecent := SlidingWindow.recent_record hWindow hNow _ hQuiet
  rw [Events.record, Dict.getList_set, if_pos rfl]
  exact ⟨hRecent.1.symm, hRecent.2⟩

theorem floodEvaluate_length (rt : Runtime) (admitted : Bool) (what : String)
    (window threshold : Nat) (now : Ticks) (packet : Packet) {n : Nat}
    (h : ∀ key, (events.getList key).length ≤ n) :
    (∀ key, ((floodEvaluate rt admitted what window threshold now packet events).1.getList
        key).length ≤ n + 1) ∧
      ((floodEvaluate rt admitted what window threshold now packet events).2 ≠ none →
        threshold ≤ n + 1) := by
  rw [floodEvaluate]
  dsimp only
  split
  · exact ⟨fun key => (h key).trans (Nat.le_succ n), fun hNone => absurd rfl hNone⟩
  · have hLength := SlidingWindow.length_record_le (seconds window) threshold
      (events.getList (packet.stripped rt "src_ip")) now
    have hOld := h (packet.stripped rt "src_ip")
    rw [Events.record]
    constructor
    · intro key
      rw [Dict.getList_set]
      split
      · exact hLength.1.trans (Nat.succ_le_succ hOld)
      · exact (h key).trans (Nat.le_succ n)
    · intro hFired
      have hRecorded : (SlidingWindow.record (seconds window) threshold
          (events.getList (packet.stripped rt "src_ip")) now).2 = true := by
        by_contra hQuiet
        simp [hQuiet] at hFired
      exact (hLength.2 hRecorded).trans (Nat.succ_le_succ hOld)

end Flood

/-! ## One round of the engine -/

section Round

variable {env : Env} {cfg : Thresholds} {engine : AnomalyEngine} {now : Ticks}
  {packet : Packet} {map : MonitorMap}

theorem evaluate_syn_flood : (engine.evaluate env cfg now packet map).1.syn_flood =
    (runFixed env.toRuntime map "builtin-syn-flood" (synFloodEvaluate env.toRuntime cfg now packet)
      engine.syn_flood).1 := by
  rw [AnomalyEngine.evaluate]
  dsimp only
  rw [AnomalyEngine.refreshCandidates]
  split <;> rfl

theorem evaluate_dns_query_flood : (engine.evaluate env cfg now packet map).1.dns_query_flood =
    (runFixed env.toRuntime map "builtin-dns-query-flood"
      (dnsQueryFloodEvaluate env.toRuntime cfg now packet) engine.dns_query_flood).1 := by
  rw [AnomalyEngine.evaluate]
  dsimp only
  rw [AnomalyEngine.refreshCandidates]
  split <;> rfl

theorem syn_hits_subset : (runFixed env.toRuntime map "builtin-syn-flood"
      (synFloodEvaluate env.toRuntime cfg now packet) engine.syn_flood).2 ⊆
    (engine.evaluate env cfg now packet map).2 := by
  intro hit hHit
  rw [AnomalyEngine.evaluate]
  apply List.mem_append_left
  simp only [AnomalyEngine.evaluateFixed, List.mem_append]
  tauto

variable {rt : Runtime}

/-- A hit of one of these three monitors comes from its detector. -/
theorem evaluateFixed_hit {hit : AnomalyHit}
    (h : hit ∈ (engine.evaluateFixed rt cfg now packet map).2) :
    (hit.monitor_id = "builtin-brute-force-login" → hit ∈ (runFixed rt map
      "builtin-brute-force-login" (bruteForceEvaluate rt cfg now packet) engine.brute_force).2) ∧
    (hit.monitor_id = "builtin-dns-query-flood" → hit ∈ (runFixed rt map "builtin-dns-query-flood"
      (dnsQueryFloodEvaluate rt cfg now packet) engine.dns_query_flood).2) ∧
    (hit.monitor_id = "builtin-dhcp-rogue-server" → hit ∈ (runFixed rt map
      "builtin-dhcp-rogue-server" (DhcpRogueServerDetector.evaluate rt cfg now packet)
        engine.dhcp_rogue).2) := by
  simp only [AnomalyEngine.evaluateFixed, List.mem_append] at h
  rcases h with (((((h | h) | h) | h) | h) | h) | h
  all_goals
    rw [runFixed_id hit h]
    refine ⟨fun hId => ?_, fun hId => ?_, fun hId => ?_⟩ <;>
      first
      | exact h
      | exact absurd hId (by decide)

theorem runFixed_fires {σ : Type} {o : Observation} {id : String} {detector : σ → σ × Option String}
    {state : σ} (hEnabled : Enabled rt id o) (hFired : (detector state).2 ≠ none) :
    ∃ hit ∈ (runFixed rt o.map id detector state).2, hit.monitor_id = id := by
  obtain ⟨monitor, hLookup, hOn, hMode⟩ := hEnabled
  obtain ⟨detail, hDetail⟩ := Option.ne_none_iff_exists'.mp hFired
  refine ⟨anomalyHit id monitor detail, ?_, rfl⟩
  rw [runFixed, hLookup]
  simp [hOn, hMode, hDetail]

theorem runFixed_state {σ : Type} {o : Observation} {id : String} {detector : σ → σ × Option String}
    {state : σ} (hEnabled : Enabled rt id o) :
    (runFixed rt o.map id detector state).1 = (detector state).1 := by
  obtain ⟨monitor, hLookup, hOn, hMode⟩ := hEnabled
  rw [runFixed, hLookup]
  simp [hOn, hMode]

end Round

/-! ## Sample traffic -/

/-- An IPv4 packet of the host `10.0.0.host` with a header of 20 bytes. -/
def hostFrame (host protocol : UInt8) (body : Bytes) : EthernetFrame where
  dst := [2, 0, 0, 0, 0, 2]
  src := [2, 0, 0, 0, 0, 1]
  tags := []
  kind := .ipv4
  body := [0x45, 0, UInt8.ofNat ((body.length + 20) / 0x100), UInt8.ofNat (body.length + 20), 0, 0,
    0, 0, 64, protocol, 0, 0, 10, 0, 0, host, 10, 0, 0, 254] ++ body
  length_dst := EthernetFrame.length_receiver
  length_src := EthernetFrame.length_sender
  tags_valid := EthernetFrame.untagged
  length_body := by
    rw [List.length_append]
    exact Nat.le_add_right 20 _

def statefulMonitor (id : String) : Monitor where
  id := id
  name := id
  description := ""
  enabled := true
  priority := 100
  mode := "stateful"
  rule := .node {} [] [] []
  action := ⟨"", "", "info"⟩

def builtinMap (id : String) : MonitorMap := ⟨0, [(id, statefulMonitor id)]⟩

def observationOf (id : String) (frame : Frame) : Observation :=
  ⟨0, ⟨"", "", frame.bytes⟩, builtinMap id⟩

theorem enabled_observationOf (id : String) (frame : Frame) :
    Enabled Site.ascii.env.toRuntime id (observationOf id frame) :=
  ⟨statefulMonitor id, List.lookup_cons_self, rfl,
    decide_eq_true (by decide : Site.ascii.env.lower (strip "stateful") = "stateful")⟩

theorem flood_replicate {κ : Type} {sent : κ → Observation → Prop} {key : κ} {id : String}
    {frame : Frame} (window n : Nat) (hSent : sent key (observationOf id frame)) :
    Flood Site.ascii.env.toRuntime id window n sent
      (List.replicate n (observationOf id frame)) [] (List.replicate n (observationOf id frame))
        where
  part := ⟨[], by simp⟩
  within := by
    refine ⟨0, ?_⟩
    intro o ho
    rw [List.eq_of_mem_replicate ho]
    exact ⟨le_rfl, Int.natCast_nonneg _⟩
  enabled := by
    intro o ho
    rw [List.eq_of_mem_replicate ho]
    exact enabled_observationOf id frame
  counted := by
    refine ⟨key, _, List.Sublist.refl _, ?_, ?_⟩
    · intro o ho
      rw [List.eq_of_mem_replicate ho]
      exact hSent
    · rw [List.length_replicate]

/-! ## SYN floods -/

def Opens (segment : Bytes) : Prop :=
  segment.byte 13 / 0x02 % 2 = 1 ∧ segment.byte 13 / 0x10 % 2 = 0

structure SynSegment (o : Observation) (frame : Frame) (segment : Bytes) : Prop where
  bytes : frame.bytes = o.frame.data
  tcp : frame.tcp = some segment
  opening : Opens segment

def Unnamed (rt : Runtime) (segment : Bytes) : Prop :=
  let src_port := segment.num 0 2
  let dst_port := segment.num 2 4
  tcpClaim rt src_port dst_port (tcpPayload segment) = none ∧
    classify_tcp src_port dst_port (tcpPayload segment) = ""

def SynSent (source : String) (o : Observation) : Prop :=
  ∃ frame segment, SynSegment o frame segment ∧ frame.addresses.1 = source

/-- The segment is read as it is and no service claims it, so that it stays `tcp`. -/
def PlainSynSent (rt : Runtime) (source : String) (o : Observation) : Prop :=
  ∃ frame segment, SynSegment o frame segment ∧ frame.addresses.1 = source ∧ ¬ frame.Misread ∧
    Unnamed rt segment

def LoginSent (key : String × String × Nat) (o : Observation) : Prop :=
  ∃ frame segment, SynSegment o frame segment ∧ frame.addresses = (key.1, key.2.1) ∧
    segment.num 2 4 = key.2.2 ∧ key.2.2 ∈ LOGIN_TCP_PORTS

variable {site : Site} {o : Observation}

theorem plainSyn_packet {source : String} (h : PlainSynSent site.sn.toRuntime source o)
    (flows : List String) :
    ∃ c, site.sn.parse_packet flows o.frame = some c ∧ strip source ≠ "" ∧
      (c.packet.is "proto" "tcp" && c.packet.bareSyn site.env.toRuntime) = true ∧
      c.packet.stripped site.env.toRuntime "src_ip" = strip source := by
  obtain ⟨frame, segment, hSyn, rfl, hRead, hClaim, hName⟩ := h
  obtain ⟨c, hParsed, hProto, hFlags, hSrc⟩ := parse_packet_tcp site.sn flows o.frame.now
    o.frame.interface hRead hSyn.tcp
  rw [hSyn.bytes] at hParsed
  have hTcp : tcp_proto site.sn.toRuntime (segment.num 0 2) (segment.num 2 4)
      (tcpPayload segment) = "tcp" := by
    rw [tcp_proto, hClaim]
    dsimp only
    rw [if_pos hName]
  refine ⟨c, hParsed, strip_source (Frame.tcp_eq_some hSyn.tcp).1, ?_, ?_⟩
  · rw [Bool.and_eq_true, Packet.is_iff, hProto, hTcp]
    refine ⟨rfl, ?_⟩
    rw [Packet.bareSyn, hFlags, text_str]
    rw [bareSyn_flags, decide_eq_true_eq]
    exact hSyn.opening
  · rw [Packet.stripped, hSrc, text_str]

section Syn

variable {site : Site} {s : Station} {o : Observation} {low : Ticks}

def synRecent (low : Ticks) (s : Station) (key : String) : Nat :=
  SlidingWindow.recent low (s.engine.syn_flood.getList key)

theorem window_low (hTime : o.time ≤ low + seconds site.cfg.SYN_FLOOD_WINDOW_SECONDS) :
    o.time - seconds site.cfg.SYN_FLOOD_WINDOW_SECONDS ≤ low :=
  sub_le_iff_le_add.mpr hTime

variable (hTime : low ≤ o.time ∧ o.time ≤ low + seconds site.cfg.SYN_FLOOD_WINDOW_SECONDS)
  (hEnabled : Enabled site.env.toRuntime "builtin-syn-flood" o)
  (hQuiet : ¬ ∃ hit ∈ (observe site s o).2, hit.monitor_id = "builtin-syn-flood")
include hEnabled hQuiet

theorem syn_silent {c : Capture}
    (hParsed : site.sn.parse_packet s.tls_flows o.frame = some c) :
    (synFloodEvaluate site.env.toRuntime site.cfg o.time c.packet s.engine.syn_flood).2 = none := by
  by_contra hFired
  obtain ⟨hit, hHit, hId⟩ := runFixed_fires hEnabled hFired
  rw [observe, hParsed] at hQuiet
  exact hQuiet ⟨hit, syn_hits_subset hHit, hId⟩

include hTime

theorem syn_step_keeps (key : String) :
    synRecent low s key ≤ synRecent low (observe site s o).1 key := by
  have hSilent := fun c => syn_silent (c := c) hEnabled hQuiet
  rw [observe]
  split
  · exact le_rfl
  · rename_i c hParsed
    simp only [synRecent]
    rw [evaluate_syn_flood, runFixed_state hEnabled]
    exact floodEvaluate_keeps (window_low hTime.2) hTime.1 (hSilent c hParsed) key

theorem syn_step_counts {source : String} (hSent : PlainSynSent site.sn.toRuntime source o) :
    synRecent low s (strip source) + 1 = synRecent low (observe site s o).1 (strip source) ∧
      synRecent low s (strip source) + 1 < site.cfg.SYN_FLOOD_THRESHOLD := by
  obtain ⟨c, hParsed, hBlank, hCounted, hSrc⟩ := plainSyn_packet hSent s.tls_flows
  have hSilent := syn_silent hEnabled hQuiet hParsed
  rw [observe, hParsed]
  simp only [synRecent]
  rw [evaluate_syn_flood, runFixed_state hEnabled]
  rw [synFloodEvaluate, hCounted] at hSilent ⊢
  obtain ⟨hRecent, hLength⟩ :=
    floodEvaluate_counts (window_low hTime.2) hTime.1 hSrc hBlank hSilent
  refine ⟨hRecent, ?_⟩
  rw [hRecent]
  exact (SlidingWindow.recent_le_length low _).trans_lt hLength

end Syn

/-- While the monitor is not raised, the recent events and those to come stay below the
threshold together. -/
theorem syn_quiet_run {low : Ticks} {source : String} {group block : List Observation}
    (hGroup : group.Sublist block) :
    (∀ o ∈ block, low ≤ o.time ∧ o.time ≤ low + seconds site.cfg.SYN_FLOOD_WINDOW_SECONDS) →
    (∀ o ∈ block, Enabled site.env.toRuntime "builtin-syn-flood" o) →
    (∀ o ∈ group, PlainSynSent site.sn.toRuntime source o) →
    ∀ s, ¬ Raised site "builtin-syn-flood" s block → group ≠ [] →
      synRecent low s (strip source) + group.length < site.cfg.SYN_FLOOD_THRESHOLD := by
  induction hGroup with
  | slnil =>
    intro _ _ _ s _ hNonempty
    exact absurd rfl hNonempty
  | @cons group block o _ ih =>
    intro hTimes hEnabled hSent s hQuiet hNonempty
    obtain ⟨hStep, hRest⟩ := not_or.mp ((raised_cons _ _ _ _ _).not.mp hQuiet)
    have hKeeps := syn_step_keeps (hTimes o List.mem_cons_self)
      (hEnabled o List.mem_cons_self) hStep (strip source)
    have hLater := ih (fun o ho => hTimes o (List.mem_cons_of_mem _ ho))
      (fun o ho => hEnabled o (List.mem_cons_of_mem _ ho)) hSent _ hRest hNonempty
    omega
  | @cons_cons group block o _ ih =>
    intro hTimes hEnabled hSent s hQuiet _
    obtain ⟨hStep, hRest⟩ := not_or.mp ((raised_cons _ _ _ _ _).not.mp hQuiet)
    obtain ⟨hCounts, hBelow⟩ := syn_step_counts (hTimes o List.mem_cons_self)
      (hEnabled o List.mem_cons_self) hStep (hSent o List.mem_cons_self)
    rw [List.length_cons]
    by_cases hLast : group = []
    · rw [hLast, List.length_nil]
      omega
    · have hLater := ih (fun o ho => hTimes o (List.mem_cons_of_mem _ ho))
        (fun o ho => hEnabled o (List.mem_cons_of_mem _ ho))
        (fun o ho => hSent o (List.mem_cons_of_mem _ ho)) _ hRest hLast
      omega

theorem syn_floods_raised (site : Site) (run : List Observation) :
    FloodsReported site "builtin-syn-flood" site.cfg.SYN_FLOOD_WINDOW_SECONDS
      site.cfg.SYN_FLOOD_THRESHOLD (PlainSynSent site.sn.toRuntime) run := by
  intro front block hFlood
  obtain ⟨low, hTimes⟩ := hFlood.within
  obtain ⟨source, group, hGroup, hSent, hThreshold⟩ := hFlood.counted
  by_contra hQuiet
  have hPositive : 1 ≤ site.cfg.SYN_FLOOD_THRESHOLD := site.cfg.at_least_one _ (by simp)
  have hNonempty : group ≠ [] := by
    rintro rfl
    rw [List.length_nil] at hThreshold
    omega
  have hBelow := syn_quiet_run hGroup hTimes hFlood.enabled hSent _ hQuiet hNonempty
  omega

/-! ## Login floods -/

variable {c : Capture}

theorem not_countsAsLogin (rt : Runtime) (h : Outline c) : countsAsLogin rt c.packet = false := by
  by_contra hCounts
  rw [Bool.not_eq_false, countsAsLogin, Bool.and_eq_true, Bool.and_eq_true, List.any_eq_true]
    at hCounts
  obtain ⟨⟨hTcp, -⟩, login, hLogin, hPort⟩ := hCounts
  obtain ⟨port, hDst, hOther⟩ := h.unnamed ((Packet.is_iff _ _ _).mp hTcp)
  rw [hDst, eqv_int] at hPort
  have hPorts : LOGIN_PORTS = LOGIN_TCP_PORTS.map Int.ofNat := by decide
  rw [hPorts, ← hPort] at hLogin
  obtain ⟨port', hMem, hEq⟩ := List.mem_map.mp hLogin
  rw [Int.ofNat.inj hEq] at hMem
  exact hOther hMem

theorem bruteForce_silent (rt : Runtime) (cfg : Thresholds) (now : Ticks) {packet : Packet}
    (h : countsAsLogin rt packet = false) (d : CooledEvents) :
    bruteForceEvaluate rt cfg now packet d = (d, none) := by
  simp [bruteForceEvaluate, h]

theorem login_never_raised (site : Site) (run : List Observation) :
    ¬ Raised site "builtin-brute-force-login" {} run := by
  refine not_raised_of_steps run ?_ _ fun id hId => by cases hId
  intro s o hClean _ hit hHit hId
  rw [observe] at hHit
  split at hHit
  · cases hHit
  · rename_i c hParsed
    have hSilent := bruteForce_silent site.env.toRuntime site.cfg o.time
      (not_countsAsLogin site.env.toRuntime (outline_of_parse_packet site.sn hParsed))
        s.engine.brute_force
    have hFixed := evaluate_fixed hClean hHit (by rw [hId]; decide)
    have hMem := (evaluateFixed_hit hFixed).1 hId
    rw [runFixed_silent _ _ _ hSilent] at hMem
    cases hMem

theorem floodsReported_iff_of_never {κ : Type} {id : String} {window threshold : Nat}
    {sent : κ → Observation → Prop} {run : List Observation}
    (hNever : ∀ front block, (∃ back, run = front ++ block ++ back) → ¬ Raised site id {}
    (front ++ block)) :
    FloodsReported site id window threshold sent run ↔
      ∀ front block, ¬ Flood site.env.toRuntime id window threshold sent run front block := by
  constructor
  · intro hReported front block hFlood
    exact hNever front block hFlood.part (raised_front (hReported front block hFlood))
  · intro hNone front block hFlood
    exact absurd hFlood (hNone front block)

/-- A flood of SYN segments is raised when enough of them are read as they are and stay
unnamed; a login flood is never raised. -/
theorem floods_reported (site : Site) (run : List Observation) :
    FloodsReported site "builtin-syn-flood" site.cfg.SYN_FLOOD_WINDOW_SECONDS
        site.cfg.SYN_FLOOD_THRESHOLD (PlainSynSent site.sn.toRuntime) run ∧
      (FloodsReported site "builtin-brute-force-login" site.cfg.BRUTE_FORCE_WINDOW_SECONDS
          site.cfg.BRUTE_FORCE_THRESHOLD LoginSent run ↔
        ∀ front block, ¬ Flood site.env.toRuntime "builtin-brute-force-login"
          site.cfg.BRUTE_FORCE_WINDOW_SECONDS site.cfg.BRUTE_FORCE_THRESHOLD LoginSent run front
            block) := by
  constructor
  · exact syn_floods_raised site run
  · apply floodsReported_iff_of_never
    intro front block _
    exact login_never_raised site (front ++ block)

def loginFrame : Frame :=
  .ethernet (hostFrame 1 6 [0xC3, 0x50, 0, 22, 0, 0, 0, 0, 0, 0, 0, 0, 0x50, 0x02, 0, 0, 0, 0, 0,
    0])

theorem loginFrame_sent (id : String) :
    LoginSent ("10.0.0.1", "10.0.0.254", 22) (observationOf id loginFrame) :=
  ⟨loginFrame, _, ⟨rfl, rfl, by rw [Opens]; decide⟩, by decide, by decide, by decide⟩

theorem login_flood_lost : ¬ ∀ (site : Site) (run : List Observation),
    FloodsReported site "builtin-syn-flood" site.cfg.SYN_FLOOD_WINDOW_SECONDS
        site.cfg.SYN_FLOOD_THRESHOLD SynSent run ∧
      FloodsReported site "builtin-brute-force-login" site.cfg.BRUTE_FORCE_WINDOW_SECONDS
        site.cfg.BRUTE_FORCE_THRESHOLD LoginSent run := by
  intro hAll
  obtain ⟨-, hLogin⟩ := hAll Site.ascii (List.replicate 8 (observationOf
    "builtin-brute-force-login" loginFrame))
  exact login_never_raised Site.ascii _ (raised_front (hLogin _ _
    (flood_replicate _ 8 (loginFrame_sent "builtin-brute-force-login"))))

/-! ## DNS query floods -/

def UdpObservation (o : Observation) : Prop :=
  ∃ (frame : Frame) (datagram : Bytes), frame.bytes = o.frame.data ∧ frame.udp = some datagram

def QuerySent (source : String) (o : Observation) : Prop :=
  ∃ (frame : Frame) (datagram : Bytes), frame.bytes = o.frame.data ∧ frame.udp = some datagram ∧
    frame.addresses.1 = source ∧ datagram.num 2 4 = 53

def MisreadObservation (o : Observation) : Prop :=
  ∃ frame : Frame, frame.bytes = o.frame.data ∧ frame.Misread

theorem not_countsAsQuery (hUdp : UdpObservation o) (hRead : ¬ MisreadObservation o)
    {flows : List String} (hParsed : site.sn.parse_packet flows o.frame = some c) :
    countsAsQuery c.packet = false := by
  obtain ⟨frame, datagram, hBytes, hDatagram⟩ := hUdp
  obtain ⟨c', hFrame, hProto, hPort⟩ := parse_packet_udp site.sn flows o.frame.now
    o.frame.interface (fun hMisread => hRead ⟨frame, hBytes, hMisread⟩) hDatagram
  rw [hBytes] at hFrame
  obtain rfl := Option.some.inj (hParsed.symm.trans hFrame)
  by_contra hCounts
  rw [Bool.not_eq_false, countsAsQuery, hPort, Bool.and_eq_true, Bool.or_eq_true, eqv_int,
    Packet.is_iff, Packet.is_iff, hProto] at hCounts
  obtain ⟨hName, hFiftyThree⟩ := hCounts
  rw [show datagram.num 2 4 = 53 by exact_mod_cast hFiftyThree, udp_proto_dns] at hName
  rcases hName with hName | hName
  · injection hName with hName
    exact absurd hName (by decide)
  · injection hName with hName
    exact absurd hName (by decide)

/-- One step of the queues: a frame that is read as it is changes none of them, and any other
frame makes them longer by one at most. -/
theorem dns_step (site : Site) {s : Station} {n : Nat} (hClean : CleanEngine s.engine)
    (hQueues : ∀ key, (s.engine.dns_query_flood.getList key).length ≤ n) (hUdp : UdpObservation o) :
    let m := n + 1
    (¬ MisreadObservation o →
      (∀ key, ((observe site s o).1.engine.dns_query_flood.getList key).length ≤ n) ∧
        ∀ hit ∈ (observe site s o).2, hit.monitor_id ≠ "builtin-dns-query-flood") ∧
      (∀ key, ((observe site s o).1.engine.dns_query_flood.getList key).length ≤ m) ∧
        ∀ hit ∈ (observe site s o).2, hit.monitor_id = "builtin-dns-query-flood" →
          site.cfg.DNS_QUERY_FLOOD_THRESHOLD ≤ m := by
  intro m
  rw [observe]
  split
  · exact ⟨fun _ => ⟨hQueues, fun _ hHit => absurd hHit List.not_mem_nil⟩,
      fun key => (hQueues key).trans (Nat.le_succ n), fun _ hHit => absurd hHit List.not_mem_nil⟩
  rename_i c hParsed
  dsimp only
  rw [evaluate_dns_query_flood]
  have hOrigin : ∀ hit ∈ (s.engine.evaluate site.env site.cfg o.time c.packet o.map).2,
      hit.monitor_id = "builtin-dns-query-flood" → hit ∈ (runFixed site.env.toRuntime o.map
        "builtin-dns-query-flood" (dnsQueryFloodEvaluate site.env.toRuntime site.cfg o.time
          c.packet) s.engine.dns_query_flood).2 := by
    intro hit hHit hId
    have hFixed := evaluate_fixed hClean hHit (by rw [hId]; decide)
    exact (evaluateFixed_hit hFixed).2.1 hId
  constructor
  · intro hRead
    have hSilent : dnsQueryFloodEvaluate site.env.toRuntime site.cfg o.time c.packet
        s.engine.dns_query_flood = (s.engine.dns_query_flood, none) := by
      rw [dnsQueryFloodEvaluate, not_countsAsQuery hUdp hRead hParsed]
      exact floodEvaluate_rejected
    rw [runFixed_silent _ _ _ hSilent] at hOrigin ⊢
    refine ⟨hQueues, ?_⟩
    intro hit hHit hId
    cases hOrigin hit hHit hId
  · obtain ⟨hLonger, hFires⟩ := floodEvaluate_length site.env.toRuntime (countsAsQuery c.packet)
      "DNS queries" site.cfg.DNS_QUERY_FLOOD_WINDOW_SECONDS site.cfg.DNS_QUERY_FLOOD_THRESHOLD
      o.time c.packet hQueues
    constructor
    · intro key
      rw [runFixed]
      split
      · exact (hQueues key).trans (Nat.le_succ n)
      · split
        · exact (hQueues key).trans (Nat.le_succ n)
        · exact hLonger key
    · intro hit hHit hId
      apply hFires
      intro hNone
      have hMem := hOrigin hit hHit hId
      rw [runFixed] at hMem
      split at hMem
      · cases hMem
      · split at hMem
        · cases hMem
        · simp [dnsQueryFloodEvaluate, hNone] at hMem

theorem dns_raised_misread (os : List Observation) :
    ∀ (s : Station) (n : Nat), CleanEngine s.engine →
      (∀ key, (s.engine.dns_query_flood.getList key).length ≤ n) →
      (∀ o ∈ os, UdpObservation o) → Raised site "builtin-dns-query-flood" s os →
      ∃ group : List Observation, group.Sublist os ∧ (∀ o ∈ group, MisreadObservation o) ∧
        site.cfg.DNS_QUERY_FLOOD_THRESHOLD ≤ n + group.length := by
  induction os with
  | nil =>
    rintro s n - - - ⟨hit, hHit, -⟩
    cases hHit
  | cons o rest ih =>
    intro s n hClean hQueues hUdp hRaised
    obtain ⟨hAsIs, hLonger, hFires⟩ :=
      dns_step site hClean hQueues (hUdp o List.mem_cons_self)
    have hClean' := observe_clean site hClean o
    have hUdp' := fun o ho => hUdp o (List.mem_cons_of_mem _ ho)
    by_cases hMisread : MisreadObservation o
    · rcases (raised_cons _ _ _ _ _).mp hRaised with ⟨hit, hHit, hId⟩ | hLater
      · refine ⟨[o], List.singleton_sublist.mpr List.mem_cons_self, ?_, hFires hit hHit hId⟩
        intro o' ho'
        rw [List.mem_singleton.mp ho']
        exact hMisread
      · obtain ⟨group, hGroup, hAll, hLength⟩ := ih _ (n + 1) hClean' hLonger hUdp' hLater
        refine ⟨o :: group, hGroup.cons_cons o, ?_, ?_⟩
        · intro o' ho'
          rcases List.mem_cons.mp ho' with rfl | hLaterO
          · exact hMisread
          · exact hAll o' hLaterO
        · rw [List.length_cons]
          omega
    · obtain ⟨hSame, hNoHit⟩ := hAsIs hMisread
      rcases (raised_cons _ _ _ _ _).mp hRaised with ⟨hit, hHit, hId⟩ | hLater
      · exact absurd hId (hNoHit hit hHit)
      · obtain ⟨group, hGroup, hAll, hLength⟩ := ih _ n hClean' hSame hUdp' hLater
        exact ⟨group, hGroup.cons o, hAll, hLength⟩

theorem dns_never_raised {os : List Observation} (hUdp : ∀ o ∈ os, UdpObservation o)
    (hFew : ∀ group : List Observation, group.Sublist os → (∀ o ∈ group, MisreadObservation o) →
    group.length < site.cfg.DNS_QUERY_FLOOD_THRESHOLD) :
    ¬ Raised site "builtin-dns-query-flood" {} os := by
  intro hRaised
  obtain ⟨group, hGroup, hAll, hLength⟩ := dns_raised_misread os {} 0
    (fun id hId => by cases hId) (fun key => Nat.le_refl 0) hUdp hRaised
  have hShort := hFew group hGroup hAll
  omega

/-- Over UDP frames of which fewer than the threshold are misread, the requirement on the
DNS detector is met only where there is no flood. -/
theorem query_floods_reported_iff (site : Site) (run : List Observation)
    (hUdp : ∀ o ∈ run, UdpObservation o)
    (hFew : ∀ group : List Observation, group.Sublist run →
      (∀ o ∈ group, MisreadObservation o) →
        group.length < site.cfg.DNS_QUERY_FLOOD_THRESHOLD) :
    FloodsReported site "builtin-dns-query-flood" site.cfg.DNS_QUERY_FLOOD_WINDOW_SECONDS
        site.cfg.DNS_QUERY_FLOOD_THRESHOLD QuerySent run ↔
      ∀ front block, ¬ Flood site.env.toRuntime "builtin-dns-query-flood"
        site.cfg.DNS_QUERY_FLOOD_WINDOW_SECONDS site.cfg.DNS_QUERY_FLOOD_THRESHOLD QuerySent run
          front block := by
  apply floodsReported_iff_of_never
  rintro front block ⟨back, rfl⟩
  apply dns_never_raised
  · intro o ho
    exact hUdp o (List.mem_append_left _ ho)
  · intro group hGroup hAll
    exact hFew group (hGroup.trans (List.sublist_append_left _ _)) hAll

def queryFrame : Frame := .ethernet (hostFrame 1 17 [0xC3, 0x50, 0, 53, 0, 9, 0, 0, 0])

theorem queryFrame_sent (id : String) : QuerySent "10.0.0.1" (observationOf id queryFrame) :=
  ⟨queryFrame, _, rfl, rfl, by decide, by decide⟩

theorem misread_guessed (h : MisreadObservation o) : GuessedRaw o.frame.data := by
  obtain ⟨frame, hBytes, hMisread⟩ := h
  cases frame with
  | ethernet frame =>
    rw [← hBytes]
    exact hMisread
  | bare4 packet guessed => exact hMisread.elim
  | bare6 packet guessed => exact hMisread.elim

def queryRun : List Observation :=
  List.replicate 60 (observationOf "builtin-dns-query-flood" queryFrame)

theorem queryRun_udp : ∀ o ∈ queryRun, UdpObservation o := by
  intro o ho
  rw [List.eq_of_mem_replicate ho]
  exact ⟨queryFrame, _, rfl, rfl⟩

theorem queryRun_read : ∀ group : List Observation, group.Sublist queryRun →
    (∀ o ∈ group, MisreadObservation o) → group.length < 60 := by
  intro group hGroup hAll
  cases group with
  | nil => decide
  | cons o rest =>
    have hGuess := misread_guessed (hAll o List.mem_cons_self)
    rw [List.eq_of_mem_replicate (hGroup.subset List.mem_cons_self)] at hGuess
    exact absurd hGuess (by unfold GuessedRaw; decide)

theorem queryRun_flood : Flood Site.ascii.env.toRuntime "builtin-dns-query-flood"
    Site.ascii.cfg.DNS_QUERY_FLOOD_WINDOW_SECONDS Site.ascii.cfg.DNS_QUERY_FLOOD_THRESHOLD
      QuerySent queryRun [] queryRun :=
  flood_replicate _ 60 (queryFrame_sent "builtin-dns-query-flood")

theorem query_flood_lost : ¬ ∀ (site : Site) (run : List Observation),
    (∀ o ∈ run, UdpObservation o) →
      FloodsReported site "builtin-dns-query-flood" site.cfg.DNS_QUERY_FLOOD_WINDOW_SECONDS
        site.cfg.DNS_QUERY_FLOOD_THRESHOLD QuerySent run := by
  intro hAll
  have hRaised := raised_front (hAll Site.ascii queryRun queryRun_udp [] queryRun queryRun_flood)
  exact dns_never_raised queryRun_udp queryRun_read hRaised

theorem query_floods_reported_queryRun :
    ¬ FloodsReported Site.ascii "builtin-dns-query-flood"
      Site.ascii.cfg.DNS_QUERY_FLOOD_WINDOW_SECONDS Site.ascii.cfg.DNS_QUERY_FLOOD_THRESHOLD
        QuerySent queryRun := by
  intro hReported
  exact (query_floods_reported_iff Site.ascii queryRun queryRun_udp queryRun_read).mp hReported
    [] queryRun queryRun_flood

/-! ## Rogue DHCP servers -/

def LeaseSent (source : String) (o : Observation) : Prop :=
  ∃ (frame : Frame) (datagram : Bytes) (found : DhcpOptions), frame.bytes = o.frame.data ∧
    frame.udp = some datagram ∧ frame.addresses.1 = source ∧
    (datagram.num 0 2 ∈ [67, 68] ∨ datagram.num 2 4 ∈ [67, 68]) ∧
    dhcp_options (udpPayload datagram) = some found ∧
    (found.msg_type = some 2 ∨ found.msg_type = some 5)

/-- Two hosts have handed out leases while the monitor was on. -/
structure TwoServers (site : Site) (run seen : List Observation) : Prop where
  part : seen <+: run
  enabled : ∀ o ∈ seen, Enabled site.env.toRuntime "builtin-dhcp-rogue-server" o
  servers : ∃ source₁ source₂, source₁ ≠ source₂ ∧ (∃ o ∈ seen, LeaseSent source₁ o) ∧
    ∃ o ∈ seen, LeaseSent source₂ o

def RogueServersReported (site : Site) (run : List Observation) : Prop :=
  ∀ seen, TwoServers site run seen → Raised site "builtin-dhcp-rogue-server" {} seen

theorem not_handsOutLease (h : Outline c) : handsOutLease c.packet = false := by
  rw [handsOutLease]
  rcases h.lease with hNone | ⟨name, hName⟩
  · simp [hNone, Value.eqv, Value.number?]
  · simp [hName, Value.eqv, Value.number?]

theorem rogue_never_raised (site : Site) (run : List Observation) :
    ¬ Raised site "builtin-dhcp-rogue-server" {} run := by
  refine not_raised_of_steps run ?_ _ fun id hId => by cases hId
  intro s o hClean _ hit hHit hId
  rw [observe] at hHit
  split at hHit
  · cases hHit
  · rename_i c hParsed
    have hLease := not_handsOutLease (outline_of_parse_packet site.sn hParsed)
    have hSilent : DhcpRogueServerDetector.evaluate site.env.toRuntime site.cfg o.time c.packet
        s.engine.dhcp_rogue = (s.engine.dhcp_rogue, none) := by
      simp [DhcpRogueServerDetector.evaluate, hLease]
    have hFixed := evaluate_fixed hClean hHit (by rw [hId]; decide)
    have hMem := (evaluateFixed_hit hFixed).2.2 hId
    rw [runFixed_silent _ _ _ hSilent] at hMem
    cases hMem

/-- The requirement on the DHCP detector is met only where no two servers are seen. -/
theorem rogue_servers_reported_iff (site : Site) (run : List Observation) :
    RogueServersReported site run ↔ ∀ seen, ¬ TwoServers site run seen := by
  constructor
  · intro hReported seen hTwo
    exact rogue_never_raised site seen (hReported seen hTwo)
  · intro hNone seen hTwo
    exact absurd hTwo (hNone seen)

def offer : Bytes :=
  [0, 67, 0, 68, 0, 252, 0, 0] ++ List.replicate 236 0 ++ DHCP_COOKIE ++ [53, 1, 2, 255]

def offerFrame (host : UInt8) : Frame := .ethernet (hostFrame host 17 offer)

theorem offerFrame_sent (id : String) {host : UInt8} (hHost : host = 1 ∨ host = 2) :
    LeaseSent (ipv4Text [10, 0, 0, host]) (observationOf id (offerFrame host)) := by
  have hOffer : (dhcp_options (udpPayload offer)).map DhcpOptions.msg_type = some (some 2) := by
    decide +kernel
  obtain ⟨found, hFound, hType⟩ := Option.map_eq_some_iff.mp hOffer
  rcases hHost with rfl | rfl
  · exact ⟨offerFrame 1, offer, found, rfl, by decide +kernel, by decide, by decide, hFound,
      Or.inl hType⟩
  · exact ⟨offerFrame 2, offer, found, rfl, by decide +kernel, by decide, by decide, hFound,
      Or.inl hType⟩

theorem rogue_servers_lost : ¬ ∀ (site : Site) (run : List Observation),
    RogueServersReported site run := by
  intro hAll
  have hServers : TwoServers Site.ascii
      [observationOf "builtin-dhcp-rogue-server" (offerFrame 1),
        observationOf "builtin-dhcp-rogue-server" (offerFrame 2)]
      [observationOf "builtin-dhcp-rogue-server" (offerFrame 1),
        observationOf "builtin-dhcp-rogue-server" (offerFrame 2)] := by
    refine ⟨List.prefix_rfl, ?_, ipv4Text [10, 0, 0, 1], ipv4Text [10, 0, 0, 2], by decide,
      ⟨_, List.mem_cons_self, offerFrame_sent _ (Or.inl rfl)⟩,
      ⟨_, List.mem_cons_of_mem _ List.mem_cons_self, offerFrame_sent _ (Or.inr rfl)⟩⟩
    intro o ho
    rcases List.mem_pair.mp ho with rfl | rfl
    · exact enabled_observationOf _ _
    · exact enabled_observationOf _ _
  exact rogue_never_raised Site.ascii _ (hAll Site.ascii _ _ hServers)

end Sniff4Hound
